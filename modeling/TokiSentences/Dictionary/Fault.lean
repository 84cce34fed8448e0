namespace TokiSentences.Dictionary

inductive Cause
  | endOfInput
  | tooDeep
  | openComment
  | strayByte (b : UInt8)
  | identifier
  | rawIdentifier (name : String)
  | string
  | openString
  | character
  | escape
  | hexDigit
  | escapeBrace
  | escapeDigits
  | openEscape
  | notScalar
  | attributeForm
  | extension (name : String)
  | openAttribute
  | comma
  | colon
  | mapping
  | trailing
  | entry
  | entryName (name : String)
  | repeatedField (name : String)
  | list
  | option
  | openOption
  | float
  | underscore
  deriving DecidableEq, Repr

def isLetter (b : UInt8) : Bool := (65 ≤ b && b ≤ 90) || (97 ≤ b && b ≤ 122) || b == 95

def isDigit (b : UInt8) : Bool := 48 ≤ b && b ≤ 57

def isNameByte (b : UInt8) : Bool := isLetter b || isDigit b

/-- A name between backticks, marked when it is none of letters, digits and underscores alone. -/
def ticked (name : String) : String :=
  let plain := match name.toList with
    | [] => false
    | c :: cs => c.val < 128 && isLetter c.toUInt8 &&
      cs.all fun d => d.val < 128 && isNameByte d.toUInt8
  if plain then s!"`{name}`" else s!"`r#{name}`"

def hexText (n : Nat) : String := String.ofList (Nat.toDigits 16 n)

def shownByte (b : UInt8) : String :=
  let text := match b with
    | 0 => "\\0"
    | 9 => "\\t"
    | 10 => "\\n"
    | 13 => "\\r"
    | 39 => "\\'"
    | 92 => "\\\\"
    | _ =>
      if (32 ≤ b && b < 127) || (160 < b && b != 173) then String.singleton (Char.ofNat b.toNat)
      else "\\u\x7b" ++ hexText b.toNat ++ "\x7d"
  "'" ++ text ++ "'"

def Cause.message : Cause → String
  | endOfInput => "Unexpected end of RON"
  | tooDeep =>
    "Exceeded recursion limit, try increasing the limit and using `serde_stacker` to protect " ++
      "against a stack overflow"
  | openComment => "Unclosed block comment"
  | strayByte b => "Unexpected byte " ++ shownByte b
  | identifier => "Expected identifier"
  | rawIdentifier name =>
    s!"Found invalid std identifier `{name}`, try the raw identifier `r#{name}` instead"
  | string => "Expected string"
  | openString => "Expected end of string"
  | character => "Expected char"
  | escape => "Unknown escape character"
  | hexDigit => "Non-hex digit found"
  | escapeBrace => "Missing \x7b in Unicode escape"
  | escapeDigits => "Expected 1-6 digits, got 0 digits in Unicode escape"
  | openEscape => "No \x7d at the end of Unicode escape"
  | notScalar => "Not a valid char"
  | attributeForm => "Expected an `#![enable(...)]` attribute"
  | extension name => "No RON extension named " ++ ticked name
  | openAttribute => "Expected closing `)]` after the enable attribute"
  | comma => "Expected comma"
  | colon => "Expected colon"
  | mapping => "Expected opening `\x7b`"
  | trailing => "Non-whitespace trailing characters"
  | entry => "Expected opening `(` for struct `Entry`"
  | entryName name => "Expected struct `Entry` but found " ++ ticked name
  | repeatedField name => s!"Unexpected duplicate field `{name}` in `Entry`"
  | list => "Expected opening `[`"
  | option => "Expected option"
  | openOption => "Expected closing `)`"
  | float => "Expected float"
  | underscore => "Unexpected underscore in float"

/-- A cause at a place; columns count bytes, and both counts start at one. -/
structure Fault where
  cause : Cause
  line : Nat
  column : Nat
  deriving DecidableEq, Repr

def Fault.message (f : Fault) : String := s!"{f.line}:{f.column}: {f.cause.message}"

end TokiSentences.Dictionary
