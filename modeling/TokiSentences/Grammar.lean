import TokiSentences.Lexicon.Basic
import TokiSentences.Sentence.Basic
import TokiSentences.Source.Basic

namespace TokiSentences

def negationParticle : String := "ala"

inductive Noun (α : Type)
  | pronoun (w : α)
  | single (w : α)
  | compound (head tail : α)
  deriving DecidableEq, Repr

inductive Negation
  | none
  | preverb
  | trailing
  deriving DecidableEq, Repr

structure Verb (α : Type) where
  root : α
  preverb : Option α
  negation : Negation
  deriving DecidableEq, Repr

inductive Preposition (α : Type)
  | locative
  | plain (w : α)
  deriving DecidableEq, Repr

def Preposition.isLocative : Preposition α → Bool
  | locative => true
  | plain _ => false

structure Clause (α : Type) where
  subject : Noun α
  verb : Verb α
  object : Option (Noun α)
  phrases : List (Preposition α × Noun α)
  deriving DecidableEq, Repr

def Noun.text : Noun String → String
  | pronoun w => w
  | single w => w
  | compound head tail => head ++ " " ++ tail

def Verb.modal (v : Verb String) : Option String :=
  v.preverb.map fun p => if v.negation = .preverb then p ++ " " ++ negationParticle else p

def Verb.text (v : Verb String) : String :=
  let stem := match v.modal with
    | some m => m ++ " " ++ v.root
    | none => v.root
  if v.negation = .trailing then stem ++ " " ++ negationParticle else stem

def Preposition.text : Preposition String → String
  | locative => TokiSentences.locative
  | plain w => w

def Clause.sentence (c : Clause String) : Sentence :=
  .ofParts c.subject.text c.verb.text (c.object.map Noun.text)
    (c.phrases.map fun p => p.1.text ++ " " ++ p.2.text)

namespace Odds

def pronoun : Odds := ⟨1, 3⟩

def compound : Odds := ⟨1, 2⟩

def preverb : Odds := ⟨1, 3⟩

def preverbNegation : Odds := ⟨1, 4⟩

def trailingNegation : Odds := ⟨1, 4⟩

def object : Odds := ⟨2, 3⟩

def prepositions : Odds := ⟨1, 3⟩

def locative : Odds := ⟨1, 2⟩

end Odds

def maxPhrases : Nat := 2

structure Stock (α : Type) where
  content : List α
  preverb : List α
  /-- Prepositions that a sentence may use more than once. -/
  plain : List α
  pronoun : List α

namespace Stock

open Choice

variable (st : Stock α)

def noun : Choice (Noun α) := do
  if ← chance Odds.pronoun then
    return .pronoun (← among st.pronoun)
  else
    let head ← among st.content
    if ← chance Odds.compound then
      return .compound head (← among st.content)
    else
      return .single head

def verb : Choice (Verb α) := do
  let root ← among st.content
  if ← chance Odds.preverb then
    let preverb ← among st.preverb
    if ← chance Odds.preverbNegation then
      return ⟨root, some preverb, .preverb⟩
    else
      let negated ← chance Odds.trailingNegation
      return ⟨root, some preverb, if negated then .trailing else .none⟩
  else
    let negated ← chance Odds.trailingNegation
    return ⟨root, none, if negated then .trailing else .none⟩

/-- A preposition; the locative comes into question while it is `fresh`. -/
def preposition (fresh : Bool) : Choice (Preposition α) := do
  if ← (if fresh then chance Odds.locative else pure false) then
    return .locative
  else
    return .plain (← among st.plain)

def phrases (fresh : Bool) : Nat → Choice (List (Preposition α × Noun α))
  | 0 => return []
  | n + 1 => do
    let p ← st.preposition fresh
    let noun ← st.noun
    let more ← phrases (fresh && !p.isLocative) n
    return (p, noun) :: more

def somePhrases : Choice (List (Preposition α × Noun α)) := do
  if ← chance Odds.prepositions then
    let extra ← uniform maxPhrases
    st.phrases true (extra + 1)
  else
    return []

def clause : Choice (Clause α) := do
  let subject ← st.noun
  let verb ← st.verb
  let object ← (do
    if ← chance Odds.object then
      return some (← st.noun)
    else
      return none)
  let phrases ← st.somePhrases
  return ⟨subject, verb, object, phrases⟩

end Stock

namespace Lexicon

variable (lx : Lexicon)

def stock : Stock String where
  content := lx.texts .content
  preverb := lx.texts .preverb
  plain := lx.plainPrepositions
  pronoun := lx.texts .pronoun

def noun : Choice String := Noun.text <$> lx.stock.noun

def verb : Choice (Verb String) := lx.stock.verb

def sentence : Choice Sentence := Clause.sentence <$> lx.stock.clause

def sentenceFrom [Source σ] (s : σ) : Except Stop Sentence := (lx.sentence.run s).1

end Lexicon

end TokiSentences
