import TokiSentences.Json.Basic
import TokiSentences.Sentence.Basic

namespace TokiSentences

def objectOfJson? : Json → Option (Option String)
  | .null => some none
  | j => some <$> j.text?

namespace Sentence

def toJson (s : Sentence) : Json := .ofFields [
  ("text", .ofText s.text),
  ("subject", .ofText s.subject),
  ("verb", .ofText s.verb),
  ("object", .ofOption s.object),
  ("prepositional_phrases", .ofTexts s.prepositionalPhrases),
  ("components", .ofTexts s.components)]

def ofJson? (j : Json) : Option Sentence := do
  match ← j.record? [("text", .needed), ("subject", .needed), ("verb", .needed),
      ("object", .nullable), ("prepositional_phrases", .needed), ("components", .needed)] with
  | [some text, some subject, some verb, some object, some phrases, some components] =>
    return ⟨← text.text?, ← subject.text?, ← verb.text?, ← objectOfJson? object,
      ← phrases.texts?, ← components.texts?⟩
  | _ => none

end Sentence

namespace Parts

def toJson (p : Parts) : Json := .ofFields <|
  [("subject", .ofText p.subject), ("verb", .ofText p.verb), ("object", .ofOption p.object)] ++
    if p.prepositions.isEmpty then [] else [("prepositions", .ofTexts p.prepositions)]

def ofJson? (j : Json) : Option Parts := do
  match ← j.record? [("subject", .needed), ("verb", .needed), ("object", .nullable),
      ("prepositions", .defaulted)] with
  | [some subject, some verb, some object, prepositions] =>
    return ⟨← subject.text?, ← verb.text?, ← objectOfJson? object,
      ← match prepositions with
        | some ps => ps.texts?
        | none => some []⟩
  | _ => none

end Parts

namespace Breakdown

def toJson (b : Breakdown) : Json := .ofFields [
  ("sentence", .ofText b.sentence),
  ("components", .ofTexts b.components),
  ("roles", b.roles.toJson)]

def ofJson? (j : Json) : Option Breakdown := do
  match ← j.record? [("sentence", .needed), ("components", .needed), ("roles", .needed)] with
  | [some sentence, some components, some roles] =>
    return ⟨← sentence.text?, ← components.texts?, ← Parts.ofJson? roles⟩
  | _ => none

def prettyList (bs : List Breakdown) : Json := .list (bs.map toJson)

def listOfJson? : Json → Option (List Breakdown)
  | .list items => items.mapM ofJson?
  | _ => none

end Breakdown

end TokiSentences
