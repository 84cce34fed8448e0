import TokiSentences.Dictionary.Cursor

/-!
The tokens of a dictionary text: blanks and comments, names, strings, characters and numbers.
A loop turns at most once for each byte that is left, so the bytes left bound it.
-/

namespace TokiSentences.Dictionary.Scan

def isSpace (b : UInt8) : Bool := b == 32 || b == 9 || b == 10 || b == 13

def closeComment : List UInt8 → Nat → Scan Unit
  | _, 0 => return
  | [], _ => throw .openComment
  | _ :: bound, level + 1 => do
    let plain ← span (fun b => b != byte '/' && b != byte '*') 0
    advance plain
    if ← take "/*" then closeComment bound (level + 2)
    else if ← take "*/" then closeComment bound level
    else if (← rest).isEmpty then throw .openComment
    else
      advance 1
      closeComment bound (level + 1)

def skipBlanksWithin : List UInt8 → Scan Unit
  | [] => return
  | _ :: bound => do
    advance (← span isSpace 0)
    if ← take "/" then
      let b ← eat
      if b == byte '/' then
        advance (← span (· != 10) 0)
        skipBlanksWithin bound
      else if b == byte '*' then
        closeComment (0 :: (← rest)) 1
        skipBlanksWithin bound
      else throw (.strayByte b)

def skipBlanks : Scan Unit := do skipBlanksWithin (← rest)

def comma : Scan Bool := do
  skipBlanks
  if ← take "," then
    skipBlanks
    return true
  else return false

def isRawByte (b : UInt8) : Bool :=
  isNameByte b || b == byte '.' || b == byte '+' || b == byte '-'

def nameOf? (text : List UInt8) : Except Cause (String × Nat) :=
  let raw := text.takeWhile isRawByte
  match text with
  | [] => .error .endOfInput
  | b :: more =>
    if !isLetter b then
      .error (if isRawByte b then .rawIdentifier (ofBytes raw) else .identifier)
    else
      let plain :=
        let word := text.takeWhile isNameByte
        if raw.length > word.length then .error (.rawIdentifier (ofBytes raw))
        else .ok (ofBytes word, word.length)
      if b == byte 'r' then
        match more with
        | [] => .error .endOfInput
        | d :: marked =>
          if d == byte '"' then .error .identifier
          else if d == byte '#' then
            match marked.takeWhile isRawByte with
            | [] => .error .identifier
            | word => .ok (ofBytes word, word.length + 2)
          else plain
      else plain

def name : Scan String := do
  match nameOf? (← rest) with
  | .ok (s, n) =>
    advance n
    return s
  | .error e => throw e

def hexValue? (b : UInt8) : Option Nat :=
  if isDigit b then some (b.toNat - 48)
  else if 97 ≤ b && b ≤ 102 then some (b.toNat - 87)
  else if 65 ≤ b && b ≤ 70 then some (b.toNat - 55)
  else none

def hexDigit (b : UInt8) : Scan Nat :=
  match hexValue? b with
  | some n => return n
  | none => throw .hexDigit

/-- At most `k` digits before the closing brace; gives the value and how many there were. -/
def scalarDigits : Nat → Nat → Nat → Scan (Nat × Nat)
  | 0, value, count => return (value, count)
  | k + 1, value, count => do
    let b ← current
    if b == byte '\x7d' then return (value, count)
    advance 1
    scalarDigits k (16 * value + (← hexDigit b)) (count + 1)

def scalarEscape : Scan Char := do
  if (← eat) != byte '\x7b' then throw .escapeBrace
  let (value, count) ← scalarDigits 6 0 0
  if count = 0 then throw .escapeDigits
  if (← eat) != byte '\x7d' then throw .openEscape
  if h : value.isValidChar then return Char.ofNatAux value h
  else throw .notScalar

def escaped : Scan Char := do
  let b ← eat
  match Char.ofNat b.toNat with
  | '\'' => return '\''
  | '"' => return '"'
  | '\\' => return '\\'
  | 'n' => return '\n'
  | 'r' => return '\r'
  | 't' => return '\t'
  | '0' => return '\x00'
  | 'x' =>
    let high ← hexDigit (← eat)
    let low ← hexDigit (← eat)
    return Char.ofNat (16 * high + low)
  | 'u' => scalarEscape
  | _ => throw .escape

def closeQuoted : List UInt8 → List UInt8 → Scan String
  | [], _ => throw .openString
  | _ :: bound, read => do
    let n ← span (fun b => b != byte '"' && b != byte '\\') 0
    match ← peek n with
    | none => throw .openString
    | some stop =>
      let read := read ++ (← cut n)
      advance 1
      if stop == byte '"' then return ofBytes read
      else
        let c ← escaped
        closeQuoted bound (read ++ Text.bytes (String.singleton c))

def before? (mark : List UInt8) : List UInt8 → Option (List UInt8)
  | [] => if mark.isEmpty then some [] else none
  | b :: bs => if mark.isPrefixOf (b :: bs) then some [] else (before? mark bs).map (b :: ·)

def string : Scan String := do
  if ← take "\"" then closeQuoted (0 :: (← rest)) []
  else if ← take "r" then
    let hashes ← cut (← span (· == byte '#') 0)
    let mark := byte '"' :: hashes
    unless ← take "\"" do throw .string
    match before? mark (← rest) with
    | none => throw .openString
    | some bs =>
      advance (bs.length + mark.length)
      return ofBytes bs
  else throw .string

def character : Scan Unit := do
  unless ← take "'" do throw .character
  if (← current) == byte '\\' then
    advance 1
    let _ ← escaped
  else
    let near := (← rest).take 5
    let bs := near.takeWhile (· != byte '\'')
    if bs.length = near.length || (ofBytes bs).length != 1 then throw .character
    advance bs.length
  unless ← take "'" do throw .character

def isWholeByte (b : UInt8) : Bool := (hexValue? b).isSome || b == byte '_'

def isFloatByte (b : UInt8) : Bool :=
  isDigit b || b == byte '.' || b == byte 'E' || b == byte 'e' || b == byte '+' ||
    b == byte '-' || b == byte '_'

def isSign (b : UInt8) : Bool := b == byte '+' || b == byte '-'

def radix (text : List UInt8) : Nat :=
  match text with
  | 48 :: b :: _ =>
    if b == byte 'x' then 16 else if b == byte 'b' then 2 else if b == byte 'o' then 8 else 10
  | _ => 10

def wholeValue? (base : Nat) (bs : List UInt8) : Option Nat :=
  bs.foldlM (fun n b => ((hexValue? b).filter (· < base)).map (base * n + ·)) 0

/-- The bound on what a whole number's digits say: 64 bits, one of them for a written sign. -/
def wholeBound : Option UInt8 → Nat
  | none => UInt64.size - 1
  | some s => if s == byte '-' then UInt64.size / 2 else UInt64.size / 2 - 1

def whole (sign : Option UInt8) : Scan Bool := do
  let base := radix (← rest)
  if base != 10 then advance 2
  let n ← span isWholeByte 0
  if n = 0 || (← peek 0) == some (byte '_') then return false
  let ds := (← cut n).filter (· != byte '_')
  return ((wholeValue? base ds).filter (· ≤ wholeBound sign)).isSome

def dropSign : List UInt8 → List UInt8
  | [] => []
  | b :: bs => if isSign b then bs else b :: bs

def isExponent : List UInt8 → Bool
  | [] => true
  | b :: bs =>
    let ds := dropSign bs
    (b == byte 'e' || b == byte 'E') && !ds.isEmpty && ds.all isDigit

def isFloat (text : List UInt8) : Bool :=
  let bs := dropSign text
  let ds := bs.takeWhile isDigit
  match bs.dropWhile isDigit with
  | 46 :: more =>
    (!ds.isEmpty || more.head?.any isDigit) && isExponent (more.dropWhile isDigit)
  | more => !ds.isEmpty && isExponent more

def float : Scan Unit := do
  if ← takeWordOf ["inf", "+inf", "-inf", "NaN", "+NaN", "-NaN"] then return
  let text := (← rest).takeWhile isFloatByte
  if text.contains (byte '_') then
    advance (text.takeWhile (· != byte '_')).length
    throw .underscore
  advance text.length
  unless isFloat text do throw .float

/-- A number that fails as a whole one is read again as a float; the place counts on. -/
def number : Scan Unit := do
  let start ← rest
  let sign := start.head?.filter isSign
  let skipped := if sign.isSome then 1 else 0
  if (← span isFloatByte skipped) > (← span isWholeByte skipped) then float
  else
    advance skipped
    unless ← whole sign do
      modify ({ · with rest := start })
      float

end TokiSentences.Dictionary.Scan
