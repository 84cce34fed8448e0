import TokiSentences.Proofs.Stock

namespace TokiSentences

namespace Choice

def Every (p : α → Prop) : Choice α → Prop
  | done a => p a
  | stop _ => True
  | draw _ next => ∀ i, (next i).Every p

variable {p : α → Prop} {q : β → Prop}

theorem every_true (c : Choice α) : c.Every fun _ => True := by
  induction c with
  | done a => trivial
  | stop e => trivial
  | draw n next ih => exact ih

theorem Every.bind {c : Choice α} {f : α → Choice β} (hc : c.Every p)
    (hf : ∀ a, p a → (f a).Every q) : (c >>= f).Every q := by
  induction c with
  | done a => exact hf a hc
  | stop e => trivial
  | draw n next ih => exact fun i => ih i (hc i)

theorem every_bind {c : Choice α} {f : α → Choice β} (hf : ∀ a, (f a).Every q) :
    (c >>= f).Every q :=
  (every_true c).bind fun a _ => hf a

theorem every_among (items : List α) : (among items).Every (· ∈ items) := by
  unfold among
  split
  · trivial
  · intro i
    cases h : items[i]? with
    | none => simp only [h]; trivial
    | some a =>
      simp only [h]
      exact List.mem_of_getElem? h

theorem Every.of_run [Source σ] {c : Choice α} (hc : c.Every p) {s : σ} {a : α}
    (h : (c.run s).1 = .ok a) : p a := by
  induction c generalizing s with
  | done b =>
    obtain rfl : b = a := by simpa using h
    exact hc
  | stop e => simp at h
  | draw n next ih =>
    simp only [run] at h
    split at h
    · exact ih _ (hc _) h
    · cases h

end Choice

structure Clause.WordsFrom (st : Stock α) (c : Clause α) : Prop where
  subject : c.subject.From st
  verb : c.verb.From st
  object : ∀ o ∈ c.object, o.From st
  phrases : PhrasesFrom st c.phrases

namespace Stock

open Choice

variable (st : Stock α)

theorem every_noun : st.noun.Every (Noun.From st) := by
  apply every_bind
  intro b
  cases b with
  | true => exact (every_among st.pronoun).bind fun _ hw => hw
  | false =>
    apply (every_among st.content).bind
    intro head hhead
    apply every_bind
    intro b
    cases b with
    | true => exact (every_among st.content).bind fun _ htail => ⟨hhead, htail⟩
    | false => exact hhead

theorem every_verb : st.verb.Every (Verb.From st) := by
  apply (every_among st.content).bind
  intro root hroot
  apply every_bind
  intro b
  cases b with
  | true =>
    apply (every_among st.preverb).bind
    intro preverb hpreverb
    apply every_bind
    intro b
    cases b with
    | true => exact Verb.from_modal hpreverb hroot _
    | false => exact every_bind fun _ => Verb.from_modal hpreverb hroot _
  | false =>
    apply every_bind
    intro b
    apply Verb.from_bare hroot
    cases b <;> simp

theorem every_preposition (fresh : Bool) :
    (st.preposition fresh).Every (Preposition.From st) := by
  apply every_bind
  intro b
  cases b with
  | true => trivial
  | false => exact (every_among st.plain).bind fun _ hw => hw

theorem every_phrases (fresh : Bool) (n : Nat) : (st.phrases fresh n).Every (PhrasesFrom st) := by
  induction n generalizing fresh with
  | zero => exact phrasesFrom_nil st
  | succ n ih =>
    apply (st.every_preposition fresh).bind
    intro p hp
    apply st.every_noun.bind
    intro noun hnoun
    apply (ih _).bind
    intro more hmore
    exact (phrasesFrom_cons ..).2 ⟨⟨hp, hnoun⟩, hmore⟩

theorem every_somePhrases : st.somePhrases.Every (PhrasesFrom st) := by
  apply every_bind
  intro b
  cases b with
  | true => exact every_bind fun extra => st.every_phrases true (extra + 1)
  | false => exact phrasesFrom_nil st

theorem every_clause : st.clause.Every (Clause.WordsFrom st) := by
  apply st.every_noun.bind
  intro subject hsubject
  apply st.every_verb.bind
  intro verb hverb
  refine Every.bind (p := fun object => ∀ o ∈ object, o.From st) (every_bind fun b => ?_) ?_
  · cases b with
    | true => exact st.every_noun.bind fun noun hnoun => by rintro _ ⟨⟩; exact hnoun
    | false => exact fun _ ho => by cases ho
  · intro object hobject
    apply st.every_somePhrases.bind
    intro phrases hphrases
    exact ⟨hsubject, hverb, hobject, hphrases⟩

end Stock

namespace Lexicon

variable [Source σ] {lx : Lexicon} {s : σ} {x : Sentence}

theorem sentenceFrom_eq_ok_iff :
    lx.sentenceFrom s = .ok x ↔ ∃ c, (lx.stock.clause.run s).1 = .ok c ∧ c.sentence = x := by
  rw [sentenceFrom, sentence, Choice.run_map]
  cases (lx.stock.clause.run s).1 with
  | ok c => simp
  | error e => simp

theorem exists_clause_of_sentenceFrom (h : lx.sentenceFrom s = .ok x) :
    ∃ c : Clause String, c.WordsFrom lx.stock ∧ c.sentence = x := by
  obtain ⟨c, hc, hx⟩ := sentenceFrom_eq_ok_iff.1 h
  exact ⟨c, lx.stock.every_clause.of_run hc, hx⟩

end Lexicon

end TokiSentences
