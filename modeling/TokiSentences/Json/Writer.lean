import TokiSentences.Json.Basic

namespace TokiSentences.Json

def hexDigit (n : Nat) : Char := (Nat.digitChar n)

def escape (c : Char) : List Char :=
  match c with
  | '"' => ['\\', '"']
  | '\\' => ['\\', '\\']
  | '\x08' => ['\\', 'b']
  | '\x0c' => ['\\', 'f']
  | '\n' => ['\\', 'n']
  | '\r' => ['\\', 'r']
  | '\t' => ['\\', 't']
  | _ =>
    if c.toNat < 0x20 then ['\\', 'u', '0', '0', hexDigit (c.toNat / 16), hexDigit (c.toNat % 16)]
    else [c]

def quote (cs : List Char) : List Char := '"' :: cs.flatMap escape ++ ['"']

def writeText : Option String → List Char
  | some s => quote s.toList
  | none => "\"\\ud800\"".toList

/-- The level a text is spread out at; `none` keeps it on one line. -/
abbrev Level := Option Nat

namespace Level

def inner (l : Level) : Level := l.map (· + 1)

def gap : Level → List Char
  | none => []
  | some n => '\n' :: List.replicate (2 * n) ' '

def colon : Level → List Char
  | none => [':']
  | some _ => [':', ' ']

end Level

mutual

def write (l : Level) : Json → List Char
  | null => "null".toList
  | bool b => (if b then "true" else "false").toList
  | number written => written.toList
  | text s => writeText s
  | list [] => ['[', ']']
  | list (j :: js) =>
    '[' :: l.inner.gap ++ write l.inner j ++ writeItems l.inner js ++ l.gap ++ [']']
  | object [] => ['\x7b', '\x7d']
  | object ((k, j) :: ms) =>
    '\x7b' :: l.inner.gap ++ writeText k ++ l.colon ++ write l.inner j ++ writeMembers l.inner ms ++
      l.gap ++ ['\x7d']

def writeItems (l : Level) : List Json → List Char
  | [] => []
  | j :: js => ',' :: l.gap ++ write l j ++ writeItems l js

def writeMembers (l : Level) : List (Option String × Json) → List Char
  | [] => []
  | (k, j) :: ms => ',' :: l.gap ++ writeText k ++ l.colon ++ write l j ++ writeMembers l ms

end

def compact (j : Json) : String := String.ofList (write none j)

def pretty (j : Json) : String := String.ofList (write (some 0) j)

end TokiSentences.Json
