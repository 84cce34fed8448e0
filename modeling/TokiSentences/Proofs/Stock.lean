import TokiSentences.Proofs.Choice
import TokiSentences.Proofs.Lexicon

namespace TokiSentences

def Noun.From (st : Stock α) : Noun α → Prop
  | .pronoun w => w ∈ st.pronoun
  | .single w => w ∈ st.content
  | .compound head tail => head ∈ st.content ∧ tail ∈ st.content

@[mk_iff] structure Verb.From (st : Stock α) (v : Verb α) : Prop where
  root : v.root ∈ st.content
  preverb : ∀ p ∈ v.preverb, p ∈ st.preverb
  negated : v.negation = .preverb → v.preverb.isSome

theorem Verb.from_bare {st : Stock α} {n : Negation} (hw : w ∈ st.content) (hn : n ≠ .preverb) :
    Verb.From st ⟨w, none, n⟩ :=
  ⟨hw, by simp, fun h => absurd h hn⟩

theorem Verb.from_modal {st : Stock α} (hm : m ∈ st.preverb) (hw : w ∈ st.content)
    (n : Negation) : Verb.From st ⟨w, some m, n⟩ :=
  ⟨hw, by rintro _ ⟨⟩; exact hm, by simp⟩

def Preposition.From (st : Stock α) : Preposition α → Prop
  | .locative => True
  | .plain w => w ∈ st.plain

@[simp] theorem Preposition.from_locative (st : Stock α) : From st locative := trivial

@[simp] theorem Preposition.from_plain (st : Stock α) (w : α) :
    From st (plain w) ↔ w ∈ st.plain := Iff.rfl

def locatives (ps : List (Preposition α × Noun α)) : Nat := ps.countP (·.1.isLocative)

@[simp] theorem locatives_nil : locatives ([] : List (Preposition α × Noun α)) = 0 := rfl

@[simp] theorem locatives_cons (p : Preposition α × Noun α) (ps : List (Preposition α × Noun α)) :
    locatives (p :: ps) = locatives ps + p.1.isLocative.toNat := by
  rw [locatives, List.countP_cons, locatives]
  cases p.1.isLocative <;> rfl

def PhrasesFrom (st : Stock α) (ps : List (Preposition α × Noun α)) : Prop :=
  ∀ p ∈ ps, p.1.From st ∧ p.2.From st

@[simp] theorem phrasesFrom_nil (st : Stock α) : PhrasesFrom st [] := by simp [PhrasesFrom]

@[simp] theorem phrasesFrom_cons (st : Stock α) (p : Preposition α × Noun α)
    (ps : List (Preposition α × Noun α)) :
    PhrasesFrom st (p :: ps) ↔ (p.1.From st ∧ p.2.From st) ∧ PhrasesFrom st ps := by
  simp [PhrasesFrom]

@[mk_iff] structure Clause.From (st : Stock α) (c : Clause α) : Prop where
  subject : c.subject.From st
  verb : c.verb.From st
  object : ∀ o ∈ c.object, o.From st
  phrases_length : c.phrases.length ≤ maxPhrases
  phrases : PhrasesFrom st c.phrases
  locatives : locatives c.phrases ≤ 1

namespace Stock

open Choice

variable {st : Stock α}

section

variable {range : Nat → Nat → Prop} {allowed : Stop → Prop} (hf : st.Full)
  (hr : ∀ n i, range n i → i < n ∨ allowed .broken)

include hf hr

theorem within_noun : st.noun.Within range allowed := by
  apply (within_chance (by decide)).bind
  intro b
  cases b with
  | true => exact (within_among hf.pronoun hr).bind fun _ => trivial
  | false =>
    apply (within_among hf.content hr).bind
    intro head
    apply (within_chance (by decide)).bind
    intro b
    cases b with
    | true => exact (within_among hf.content hr).bind fun _ => trivial
    | false => trivial

theorem within_verb : st.verb.Within range allowed := by
  apply (within_among hf.content hr).bind
  intro root
  apply (within_chance (by decide)).bind
  intro b
  cases b with
  | true =>
    apply (within_among hf.preverb hr).bind
    intro preverb
    apply (within_chance (by decide)).bind
    intro b
    cases b with
    | true => trivial
    | false => exact (within_chance (by decide)).bind fun _ => trivial
  | false => exact (within_chance (by decide)).bind fun _ => trivial

theorem within_preposition (fresh : Bool) : (st.preposition fresh).Within range allowed := by
  have hplain : (Preposition.plain <$> among st.plain).Within range allowed :=
    (within_among hf.plain hr).map _
  cases fresh with
  | true =>
    apply (within_chance (by decide)).bind
    intro b
    cases b with
    | true => trivial
    | false => exact hplain
  | false => exact hplain

theorem within_phrases (fresh : Bool) (n : Nat) : (st.phrases fresh n).Within range allowed := by
  induction n generalizing fresh with
  | zero => trivial
  | succ n ih =>
    apply (within_preposition hf hr fresh).bind
    intro p
    apply (within_noun hf hr).bind
    intro noun
    exact (ih _).bind fun _ => trivial

theorem within_somePhrases : st.somePhrases.Within range allowed := by
  apply (within_chance (by decide)).bind
  intro b
  cases b with
  | true => exact (within_uniform (by decide)).bind fun extra => within_phrases hf hr true _
  | false => trivial

theorem within_clause : st.clause.Within range allowed := by
  apply (within_noun hf hr).bind
  intro subject
  apply (within_verb hf hr).bind
  intro verb
  refine Within.bind (Within.bind (within_chance (by decide)) fun b => ?_) fun object => ?_
  · cases b with
    | true => exact (within_noun hf hr).bind fun _ => trivial
    | false => trivial
  · exact (within_somePhrases hf hr).bind fun _ => trivial

end

theorem mem_support_noun {n : Noun α} : n ∈ st.noun.support ↔ n.From st := by
  cases n <;> simp (disch := decide) [noun, mem_support_chance, Noun.From]

theorem mem_support_verb {v : Verb α} : v ∈ st.verb.support ↔ v.From st := by
  obtain ⟨root, preverb, negation⟩ := v
  cases preverb <;> cases negation <;>
    simp (disch := decide) [verb, mem_support_chance, Verb.from_iff]

theorem mem_support_preposition {fresh : Bool} {p : Preposition α} :
    p ∈ (st.preposition fresh).support ↔ p.From st ∧ (p.isLocative → fresh) := by
  cases fresh <;> cases p <;>
    simp (disch := decide) [preposition, mem_support_chance, Preposition.From,
      Preposition.isLocative]

theorem mem_support_phrases {fresh : Bool} {n : Nat} {ps : List (Preposition α × Noun α)} :
    ps ∈ (st.phrases fresh n).support ↔
      ps.length = n ∧ PhrasesFrom st ps ∧ locatives ps ≤ fresh.toNat := by
  induction n generalizing fresh ps with
  | zero => cases ps <;> simp [phrases]
  | succ n ih =>
    cases ps with
    | nil => simp [phrases]
    | cons p ps =>
      obtain ⟨p, noun⟩ := p
      -- The locative takes the place that the rest of the phrases have for one.
      have hfresh : locatives ps + p.isLocative.toNat ≤ fresh.toNat ↔
          (p.isLocative → fresh) ∧ locatives ps ≤ (fresh && !p.isLocative).toNat := by
        cases fresh <;> cases p.isLocative <;> simp
      simp only [phrases, mem_support_bind, mem_support_preposition, mem_support_noun, ih,
        pure_eq_done, mem_support_done, List.cons.injEq, Prod.mk.injEq, phrasesFrom_cons,
        locatives_cons, hfresh, List.length_cons, Nat.add_right_cancel_iff]
      constructor
      · rintro ⟨p, ⟨hp, hlocative⟩, noun, hnoun, ps, ⟨hlen, hps, hrest⟩, ⟨rfl, rfl⟩, rfl⟩
        exact ⟨hlen, ⟨⟨hp, hnoun⟩, hps⟩, hlocative, hrest⟩
      · rintro ⟨hlen, ⟨⟨hp, hnoun⟩, hps⟩, hlocative, hrest⟩
        exact ⟨p, ⟨hp, hlocative⟩, noun, hnoun, ps, ⟨hlen, hps, hrest⟩, ⟨rfl, rfl⟩, rfl⟩

theorem mem_support_somePhrases {ps : List (Preposition α × Noun α)} :
    ps ∈ st.somePhrases.support ↔
      ps.length ≤ maxPhrases ∧ PhrasesFrom st ps ∧ locatives ps ≤ 1 := by
  have hlength : (∃ extra < maxPhrases, ps.length = extra + 1) ↔
      ps ≠ [] ∧ ps.length ≤ maxPhrases := by
    cases ps with
    | nil => simp
    | cons p ps =>
      constructor
      · rintro ⟨extra, hextra, hlen⟩
        exact ⟨List.cons_ne_nil p ps, hlen ▸ hextra⟩
      · rintro ⟨-, hlen⟩
        exact ⟨ps.length, hlen, rfl⟩
  have hsome : ps ∈ (uniform maxPhrases >>= fun extra => st.phrases true (extra + 1)).support ↔
      (ps ≠ [] ∧ ps.length ≤ maxPhrases) ∧ PhrasesFrom st ps ∧ locatives ps ≤ 1 := by
    simp only [mem_support_bind, mem_support_uniform, mem_support_phrases, Bool.toNat_true,
      ← hlength, ← and_assoc, exists_and_right]
  simp (disch := decide) only [somePhrases, mem_support_bind (c := chance Odds.prepositions),
    mem_support_chance, true_and, Bool.exists_bool, if_true, hsome, Bool.false_eq_true, if_false,
    pure_eq_done, mem_support_done]
  by_cases h : ps = []
  · subst h
    simp
  · simp [h]

theorem mem_support_clause {c : Clause α} : c ∈ st.clause.support ↔ c.From st := by
  obtain ⟨subject, verb, object, phrases⟩ := c
  cases object <;>
    simp (disch := decide) [clause, mem_support_chance, mem_support_noun, mem_support_verb,
      mem_support_somePhrases, Clause.from_iff]

end Stock

theorem Lexicon.within_sentence (lx : Lexicon) {range : Nat → Nat → Prop} {allowed : Stop → Prop}
    (hr : ∀ n i, range n i → i < n ∨ allowed .broken) : lx.sentence.Within range allowed :=
  (Stock.within_clause lx.stock_full hr).map _

theorem Lexicon.clause_from_of_run [Source σ] {lx : Lexicon} {s : σ} {c : Clause String}
    (hσ : Source.InRange σ) (h : (lx.stock.clause.run s).1 = .ok c) : c.From lx.stock := by
  have hwithin : lx.stock.clause.Within (fun n i => i < n) fun _ => False :=
    Stock.within_clause lx.stock_full fun _ _ hi => .inl hi
  exact Stock.mem_support_clause.1 (hwithin.mem_support_of_run hσ (Prod.ext h rfl))

theorem Lexicon.sentenceFrom_ne_violation [Source σ] (lx : Lexicon) (s : σ) (v : Violation) :
    lx.sentenceFrom s ≠ .error (.violation v) := by
  intro h
  have hw : lx.sentence.Within (fun _ _ => True) (· = .broken) :=
    lx.within_sentence fun _ _ _ => .inr rfl
  have hrun : lx.sentence.run s = (.error (.violation v), (lx.sentence.run s).2) := by
    rw [← h]
    rfl
  rcases hw.run_eq_error (fun _ _ _ _ _ _ => trivial) hrun with h | h <;> cases h

theorem Lexicon.sentenceFrom_eq_ok [Source σ] {lx : Lexicon} {s : σ}
    (h : lx.sentenceFrom s ≠ .error .broken) : ∃ x, lx.sentenceFrom s = .ok x := by
  cases hs : lx.sentenceFrom s with
  | ok x => exact ⟨x, rfl⟩
  | error e =>
    cases e with
    | broken => exact absurd hs h
    | violation v => exact absurd hs (lx.sentenceFrom_ne_violation s v)

end TokiSentences
