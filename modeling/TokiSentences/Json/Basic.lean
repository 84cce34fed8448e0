/-!
JSON values as a text holds them: numbers as they are written, the members of an object in written
order with repeated names kept, and strings that spell no text (one half of a surrogate pair alone)
told apart from the others.
-/

namespace TokiSentences

inductive Json
  | null
  | bool (b : Bool)
  | number (written : String)
  | text (s : Option String)
  | list (items : List Json)
  | object (members : List (Option String × Json))
  deriving Repr

namespace Json

def ofText (s : String) : Json := text (some s)

def ofTexts (ss : List String) : Json := list (ss.map ofText)

def ofOption : Option String → Json
  | none => null
  | some s => ofText s

def ofFields (fields : List (String × Json)) : Json := object (fields.map fun f => (some f.1, f.2))

def text? : Json → Option String
  | text s => s
  | _ => none

def texts? : Json → Option (List String)
  | list items => items.mapM text?
  | _ => none

/-- How a field of a record may stay away: never, as if it were null, or with a value of its own. -/
inductive Presence
  | needed
  | nullable
  | defaulted
  deriving DecidableEq, Repr

def Presence.absent? : Presence → Option (Option Json)
  | needed => none
  | nullable => some (some null)
  | defaulted => some none

def member? (members : List (String × Json)) (p : String × Presence) : Option (Option Json) :=
  match members.filter (·.1 == p.1) with
  | [] => p.2.absent?
  | [m] => some (some m.2)
  | _ => none

def names? (members : List (Option String × Json)) : Option (List (String × Json)) :=
  members.mapM fun m => m.1.map (·, m.2)

/-- In a list only fields with a value of their own may stay away, and only at its end. -/
def inOrder? : List (String × Presence) → List Json → Option (List (Option Json))
  | [], [] => some []
  | [], _ :: _ => none
  | _ :: ps, j :: js => (some j :: ·) <$> inOrder? ps js
  | (_, .defaulted) :: ps, [] => (none :: ·) <$> inOrder? ps []
  | _ :: _, [] => none

/-- The values of the fields of a record, written as an object or as a list in field order. Members
of other names are passed over. -/
def record? (fields : List (String × Presence)) : Json → Option (List (Option Json))
  | object members => do
    let named ← names? members
    fields.mapM (member? named)
  | list items => inOrder? fields items
  | _ => none

end Json

end TokiSentences
