import TokiSentences.Dictionary.Fault
import TokiSentences.Text.Order

namespace TokiSentences.Dictionary

structure Cursor where
  rest : List UInt8
  line : Nat
  column : Nat

namespace Cursor

def start (text : List UInt8) : Cursor := ⟨text, 1, 1⟩

def advance : Nat → Cursor → Cursor
  | 0, c => c
  | n + 1, ⟨b :: rest, line, column⟩ =>
    advance n (if b = 10 then ⟨rest, line + 1, 1⟩ else ⟨rest, line, column + 1⟩)
  | _ + 1, c => c

end Cursor

abbrev Scan := EStateM Cause Cursor

def byte (c : Char) : UInt8 := c.toUInt8

def ofBytes (bs : List UInt8) : String := (String.fromUTF8? ⟨bs.toArray⟩).getD ""

namespace Scan

def rest : Scan (List UInt8) := return (← get).rest

def peek (k : Nat) : Scan (Option UInt8) := return (← rest)[k]?

def advance (n : Nat) : Scan Unit := modify (·.advance n)

def current : Scan UInt8 := do
  match ← rest with
  | b :: _ => return b
  | [] => throw .endOfInput

def eat : Scan UInt8 := do
  let b ← current
  advance 1
  return b

def take (literal : String) : Scan Bool := do
  let bs := Text.bytes literal
  if bs.isPrefixOf (← rest) then
    advance bs.length
    return true
  else return false

def nameAt (k : Nat) : Scan Bool := return (← peek k).any isNameByte

def standsWord (word : String) : Scan Bool := do
  let bs := Text.bytes word
  return bs.isPrefixOf (← rest) && !(← nameAt bs.length)

def takeWord (word : String) : Scan Bool := do
  if ← standsWord word then
    advance (Text.bytes word).length
    return true
  else return false

def takeWordOf (words : List String) : Scan Bool := words.anyM takeWord

def span (p : UInt8 → Bool) (k : Nat) : Scan Nat :=
  return (((← rest).drop k).takeWhile p).length

def cut (n : Nat) : Scan (List UInt8) := do
  let bs := (← rest).take n
  advance n
  return bs

/-- Reads ahead without moving, also when that fails. -/
def ahead (s : Scan α) : Scan α := fun c =>
  match s c with
  | .ok a _ => .ok a c
  | .error e _ => .error e c

/-- One level further in, unless no level is left. -/
def nested (depth : Nat) (body : (d : Nat) → d < depth → Scan α) : Scan α :=
  match depth with
  | 0 => throw .tooDeep
  | d + 1 => body d (Nat.lt_succ_self d)

end Scan

end TokiSentences.Dictionary
