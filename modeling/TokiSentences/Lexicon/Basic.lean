import TokiSentences.Word

namespace TokiSentences

def locative : String := "lon"

structure Shelves where
  particle : List String := []
  content : List String := []
  preverb : List String := []
  preposition : List String := []
  pronoun : List String := []
  deriving DecidableEq, Repr

namespace Shelves

def get (s : Shelves) : Role → List String
  | .particle => s.particle
  | .content => s.content
  | .preverb => s.preverb
  | .preposition => s.preposition
  | .pronoun => s.pronoun

def put (s : Shelves) (text : String) : Role → Shelves
  | .particle => { s with particle := s.particle ++ [text] }
  | .content => { s with content := s.content ++ [text] }
  | .preverb => { s with preverb := s.preverb ++ [text] }
  | .preposition => { s with preposition := s.preposition ++ [text] }
  | .pronoun => { s with pronoun := s.pronoun ++ [text] }

@[simp] theorem get_put (s : Shelves) (text : String) (q r : Role) :
    (s.put text q).get r = if q = r then s.get r ++ [text] else s.get r := by
  cases q <;> cases r <;> rfl

@[simp] theorem get_empty (r : Role) : ({} : Shelves).get r = [] := by cases r <;> rfl

def putAll (s : Shelves) (text : String) (roles : List Role) : Shelves :=
  roles.foldl (·.put text) s

def ofListing (listing : List (String × List Role)) : Shelves :=
  listing.foldl (fun s p => s.putAll p.1 p.2) {}

end Shelves

inductive LexiconError
  | missingRole (r : Role)
  | locativeOnly
  deriving DecidableEq, Repr

def LexiconError.message : LexiconError → String
  | missingRole r => s!"configuration error: no words hold the required role '{r.name}'"
  | locativeOnly => s!"configuration error: '{locative}' is the only preposition in the lexicon"

structure Lexicon where
  shelves : Shelves
  plainPrepositions : List String
  /-- How many words there are, those without a role included. -/
  size : Nat
  drawn_ne_nil : ∀ r ∈ Role.drawn, shelves.get r ≠ []
  plain_eq : plainPrepositions = shelves.preposition.filter (· != locative)
  plain_ne_nil : plainPrepositions ≠ []
  deriving DecidableEq, Repr

namespace Lexicon

def texts (lx : Lexicon) (r : Role) : List String := lx.shelves.get r

def ofListing (listing : List (String × List Role)) : Except LexiconError Lexicon :=
  let shelves := Shelves.ofListing listing
  match h : Role.drawn.find? fun r => (shelves.get r).isEmpty with
  | some r => .error (.missingRole r)
  | none =>
    let plain := shelves.preposition.filter (· != locative)
    if hp : plain.isEmpty then .error .locativeOnly
    else .ok ⟨shelves, plain, listing.length, by simpa using h, rfl, by simpa using hp⟩

def ofWords (words : List Word) : Except LexiconError Lexicon :=
  ofListing (words.map fun w => (w.text, w.roles.toList))

end Lexicon

end TokiSentences
