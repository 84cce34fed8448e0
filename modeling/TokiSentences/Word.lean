import TokiSentences.Role

namespace TokiSentences

structure Word where
  text : String
  roles : RoleSet
  deriving DecidableEq

namespace Word

def ofRoles (text : String) (roles : List Role) : Word := ⟨text, .ofList roles⟩

def has (w : Word) (r : Role) : Bool := w.roles.contains r

end Word

end TokiSentences
