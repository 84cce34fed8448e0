namespace TokiSentences

def predicateMarker : String := "li"

def objectMarker : String := "e"

def unmarkedSubjects : List String := ["mi", "sina"]

structure Sentence where
  text : String
  subject : String
  verb : String
  object : Option String
  prepositionalPhrases : List String
  components : List String
  deriving DecidableEq, Repr

namespace Sentence

def predicate (subject verb : String) : String :=
  if subject ∈ unmarkedSubjects then subject ++ " " ++ verb
  else subject ++ " " ++ predicateMarker ++ " " ++ verb

def objectText : Option String → String
  | none => ""
  | some o => " " ++ objectMarker ++ " " ++ o

def ofParts (subject verb : String) (object : Option String) (phrases : List String) :
    Sentence where
  text := predicate subject verb ++ objectText object ++ String.join (phrases.map (" " ++ ·))
  subject
  verb
  object
  prepositionalPhrases := phrases
  components := subject :: verb :: object.toList ++ phrases

def hasObject (s : Sentence) : Bool := s.object.isSome

end Sentence

structure Parts where
  subject : String
  verb : String
  object : Option String
  prepositions : List String
  deriving DecidableEq, Repr

structure Breakdown where
  sentence : String
  components : List String
  roles : Parts
  deriving DecidableEq, Repr

def Sentence.breakdown (s : Sentence) : Breakdown :=
  ⟨s.text, s.components, ⟨s.subject, s.verb, s.object, s.prepositionalPhrases⟩⟩

end TokiSentences
