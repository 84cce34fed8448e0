import TokiSentences.Role
import TokiSentences.Text.Blank

namespace TokiSentences.Dictionary

def pronouns : List String := ["mi", "sina", "ona", "ni"]

def forcedParticles : List String := ["seme"]

def tags : List (String × Role) := [
  ("(particle)", .particle),
  ("(interjection)", .particle),
  ("(preverb)", .preverb),
  ("(preposition)", .preposition)]

def opensWith (cs : List Char) (tag : String) : Bool := tag.toList.isPrefixOf cs

def roleOf (definition : String) : Role :=
  let cs := Text.dropBlanks definition.toList
  ((tags.find? fun t => opensWith cs t.1).map (·.2)).getD .content

def rolesOf (word : String) (definitions : List String) : List Role :=
  if word ∈ pronouns then [.pronoun]
  else if word ∈ forcedParticles then [.particle]
  else Role.sorted (definitions.map roleOf)

end TokiSentences.Dictionary
