import TokiSentences.Json.Basic
import TokiSentences.Word

namespace TokiSentences

namespace Role

def toJson (r : Role) : Json := .ofText r.title

def ofJson? : Json → Option Role
  | .text (some s) => ofTitle? s
  | .object [(some s, .null)] => ofTitle? s
  | _ => none

end Role

namespace Word

def toJson (text : String) (roles : List Role) : Json :=
  .ofFields [("text", .ofText text), ("roles", .list (roles.map Role.toJson))]

def rolesOfJson? : Json → Option (List Role)
  | .list items => items.mapM Role.ofJson?
  | _ => none

def ofJson? (j : Json) : Option Word := do
  match ← j.record? [("text", .needed), ("roles", .needed)] with
  | [some text, some roles] => return .ofRoles (← text.text?) (← rolesOfJson? roles)
  | _ => none

end Word

end TokiSentences
