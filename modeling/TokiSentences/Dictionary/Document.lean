import TokiSentences.Dictionary.Token

namespace TokiSentences.Dictionary

structure Entry where
  definitions : List String := []
  usage : Option String := none
  deriving DecidableEq, Repr

def maxDepth : Nat := 128

namespace Scan

def itemsWithin (close : UInt8) (item : α → Scan α) : List UInt8 → Bool → α → Scan α
  | [], _, _ => throw .endOfInput
  | _ :: bound, separated, a => do
    skipBlanks
    if (← current) == close then return a
    unless separated do throw .comma
    let a ← item a
    itemsWithin close item bound (← comma) a

def items (close : UInt8) (item : α → Scan α) (a : α) : Scan α := do
  itemsWithin close item (0 :: (← rest)) true a

def closing (s : Scan α) : Scan α := do
  let a ← s
  skipBlanks
  advance 1
  return a

def colon : Scan Unit := do
  skipBlanks
  unless ← take ":" do throw .colon
  skipBlanks

def option (implicit : Bool) (depth : Nat) (inner : (d : Nat) → d < depth → Scan α) :
    Scan (Option α) := do
  if ← take "None" then return none
  if ← take "Some" then
    skipBlanks
    if ← take "(" then
      skipBlanks
      let a ← nested depth inner
      let _ ← comma
      unless ← take ")" do throw .openOption
      return some a
  if implicit then return some (← nested depth inner)
  throw .option

/-- Between round brackets stand named fields when a name and a colon come first. -/
def startsFields : Scan Bool := ahead do
  advance 1
  skipBlanks
  match nameOf? (← rest) with
  | .error _ => return false
  | .ok (_, n) =>
    advance n
    skipBlanks
    return (← eat) == byte ':'

def anyValue (implicit : Bool) (depth : Nat) : Scan Unit := do
  if ← takeWordOf ["true", "false"] then return
  if ← standsWord "Some" then
    let _ ← option implicit depth fun d _ => anyValue implicit d
    return
  if ← takeWord "None" then return
  if ← take "()" then return
  if ← takeWordOf ["inf", "-inf", "NaN"] then return
  let sequence (close : UInt8) : Scan Unit :=
    closing <| nested depth fun d _ =>
      items close (fun _ => nested d fun e _ => anyValue implicit e) ()
  let bracketed : Scan Unit := do
    if (← peek 0) == some (byte '(') then
      let fields ← startsFields
      advance 1
      if fields then
        closing <| nested depth fun d _ => items (byte ')') (fun _ => do
          let _ ← nested d fun _ _ => name
          colon
          nested d fun e _ => anyValue implicit e) ()
      else sequence (byte ')')
  match nameOf? (← rest) with
  | .ok (_, n) =>
    advance n
    skipBlanks
    bracketed
  | .error _ =>
    let b ← current
    match Char.ofNat b.toNat with
    | '(' => bracketed
    | '[' =>
      advance 1
      sequence (byte ']')
    | '\x7b' =>
      advance 1
      closing <| nested depth fun d _ => items (byte '\x7d') (fun _ => do
        nested d fun e _ => anyValue implicit e
        colon
        nested d fun e _ => anyValue implicit e) ()
    | '.' => float
    | '"' | 'r' => let _ ← string
    | '\'' => character
    | _ => if isDigit b || isSign b then number else throw (.strayByte b)
termination_by depth

def definitions (depth : Nat) : Scan (List String) := do
  unless ← take "[" do throw .list
  closing <| nested depth fun d _ =>
    items (byte ']') (fun read => do return read ++ [← nested d fun _ _ => string]) []

structure Fields where
  definitions : Option (List String) := none
  usage : Option (Option String) := none

def Fields.has (f : Fields) (field : String) : Bool :=
  (field == "definitions" && f.definitions.isSome) || (field == "usage" && f.usage.isSome)

def Fields.entry (f : Fields) : Entry := ⟨f.definitions.getD [], f.usage.getD none⟩

def field (implicit : Bool) (depth : Nat) (f : Fields) : Scan Fields := do
  let key ← nested depth fun _ _ => name
  if f.has key then throw (.repeatedField key)
  colon
  nested depth fun d _ => do
    match key with
    | "definitions" => return { f with definitions := some (← definitions d) }
    | "usage" => return { f with usage := some (← option implicit d fun _ _ => string) }
    | _ =>
      anyValue implicit d
      return f

def entry (implicit : Bool) (depth : Nat) : Scan Entry := do
  if ← nameAt 0 then
    match nameOf? (← rest) with
    | .error _ => throw .entry
    | .ok (s, n) =>
      advance n
      if s != "Entry" then throw (.entryName s)
  skipBlanks
  unless ← take "(" do throw .entry
  let fields ← closing <| nested depth fun d _ => items (byte ')') (field implicit d) {}
  return fields.entry

/-- Every literal in turn, each with the blanks after it; a missing one does not stop the rest. -/
def takeAll : List String → Bool → Option Cause → Scan Bool
  | [], found, none => return found
  | [], _, some e => throw e
  | s :: more, found, failed => do
    if ← take s then
      let failure ← try
          skipBlanks
          pure none
        catch e => pure (some e)
      takeAll more found (failed <|> failure)
    else takeAll more false failed

def extensions : List String := ["unwrap_newtypes", "implicit_some", "unwrap_variant_newtypes"]

def enabled : List UInt8 → Bool → Scan Bool
  | [], implicit => return implicit
  | _ :: bound, implicit => do
    let extension ← name
    unless extension ∈ extensions do throw (.extension extension)
    let implicit := implicit || extension == "implicit_some"
    let separated ← comma
    let more ← nameAt 0
    if more && !separated then throw .comma
    if more then enabled bound implicit else return implicit

def attributesWithin : List UInt8 → Bool → Scan Bool
  | [], implicit => return implicit
  | _ :: bound, implicit => do
    if (← peek 0) == some (byte '#') then
      unless ← takeAll ["#", "!", "[", "enable", "("] true none do throw .attributeForm
      let implicit ← enabled (0 :: (← rest)) implicit
      unless ← takeAll [")", "]"] true none do throw .openAttribute
      skipBlanks
      attributesWithin bound implicit
    else return implicit

def attributes : Scan Bool := do
  skipBlanks
  attributesWithin (← rest) false

def document : Scan (List (String × Entry)) := do
  let implicit ← attributes
  unless ← take "\x7b" do throw .mapping
  let entries ← closing <| nested maxDepth fun d _ =>
    items (byte '\x7d') (fun read => do
      let key ← nested d fun _ _ => string
      colon
      let value ← nested d fun e _ => entry implicit e
      return read ++ [(key, value)]) []
  skipBlanks
  unless (← rest).isEmpty do throw .trailing
  return entries

end Scan

def read (text : String) : Except Fault (List (String × Entry)) :=
  match Scan.document (.start (Text.bytes text)) with
  | .ok entries _ => .ok entries
  | .error cause c => .error ⟨cause, c.line, c.column⟩

end TokiSentences.Dictionary
