import Mathlib.Data.List.Sigma
import TokiSentences.Lexicon.Samples
import TokiSentences.Proofs.Renaming
import TokiSentences.Proofs.Runs
import TokiSentences.Proofs.Stock

namespace TokiSentences

inductive NounPlace
  | subject
  | object
  | phrase (k : Nat)

def Clause.nounAt (c : Clause α) : NounPlace → Option (Noun α)
  | .subject => some c.subject
  | .object => c.object
  | .phrase k => c.phrases[k]?.map Prod.snd

def Negation.share : Negation → ℚ
  | none => 11 / 16
  | preverb => 1 / 12
  | trailing => 11 / 48

namespace Stock

open Choice

def share (st : Stock α) : Noun β → ℚ
  | .pronoun _ => 1 / (3 * st.pronoun.length)
  | .single _ => 1 / (3 * st.content.length)
  | .compound _ _ => 1 / (3 * st.content.length ^ 2)

def object (st : Stock α) : Choice (Option (Noun α)) := do
  if ← chance Odds.object then
    return some (← st.noun)
  else
    return none

variable (st : Stock α)

theorem clause_eq : st.clause = (do
    let subject ← st.noun
    let verb ← st.verb
    let object ← st.object
    let phrases ← st.somePhrases
    return ⟨subject, verb, object, phrases⟩) := rfl

theorem mean_noun (f : Noun α → ℚ) :
    st.noun.mean f = 1 / 3 * average st.pronoun (fun w => f (.pronoun w)) +
      2 / 3 * average st.content fun head =>
        1 / 2 * average st.content (fun tail => f (.compound head tail)) +
          1 / 2 * f (.single head) := by
  simp only [noun, mean_bind, mean_chance (by decide : Odds.pronoun.Open),
    mean_chance (by decide : Odds.compound.Open), mean_among, pure_eq_done, mean_done, if_true,
    Bool.false_eq_true, if_false]
  norm_num [Odds.pronoun, Odds.compound]

theorem mean_preposition (fresh : Bool) (f : Preposition α → ℚ) :
    (st.preposition fresh).mean f =
      if fresh then 1 / 2 * f .locative + 1 / 2 * average st.plain (fun w => f (.plain w))
      else average st.plain fun w => f (.plain w) := by
  cases fresh with
  | true =>
    simp only [preposition, mean_bind, mean_chance (by decide : Odds.locative.Open), mean_among,
      pure_eq_done, mean_done, if_true, Bool.false_eq_true, if_false]
    norm_num [Odds.locative]
  | false => simp [preposition, mean_among]

theorem mean_object (f : Option (Noun α) → ℚ) :
    st.object.mean f = 2 / 3 * st.noun.mean (fun n => f (some n)) + 1 / 3 * f none := by
  simp only [object, mean_bind, mean_chance (by decide : Odds.object.Open), pure_eq_done,
    mean_done, if_true, Bool.false_eq_true, if_false]
  norm_num [Odds.object]

theorem mean_somePhrases (f : List (Preposition α × Noun α) → ℚ) :
    st.somePhrases.mean f =
      2 / 3 * f [] + 1 / 6 * (st.phrases true 1).mean f + 1 / 6 * (st.phrases true 2).mean f := by
  simp only [somePhrases, mean_bind, mean_chance (by decide : Odds.prepositions.Open),
    mean_uniform, pure_eq_done, mean_done, if_true, Bool.false_eq_true, if_false]
  norm_num [Odds.prepositions, maxPhrases, average, List.range_succ]
  ring

theorem mean_phrases_succ (fresh : Bool) (n : Nat) (f : List (Preposition α × Noun α) → ℚ) :
    (st.phrases fresh (n + 1)).mean f = (st.preposition fresh).mean fun p => st.noun.mean fun m =>
      (st.phrases (fresh && !p.isLocative) n).mean fun ps => f ((p, m) :: ps) := by
  simp [phrases]

theorem mean_clause_mul (s : Noun α → ℚ) (v : Verb α → ℚ) (o : Option (Noun α) → ℚ)
    (p : List (Preposition α × Noun α) → ℚ) :
    (st.clause.mean fun c => s c.subject * v c.verb * o c.object * p c.phrases) =
      st.noun.mean s * st.verb.mean v * st.object.mean o * st.somePhrases.mean p := by
  simp only [clause_eq, mean_bind, pure_eq_done, mean_done, mul_assoc, mean_mul_left,
    mean_mul_right]

section

variable {st} (hf : st.Full)

include hf

theorem mean_verb_shape (f : Bool → Negation → ℚ) :
    (st.verb.mean fun v => f v.preverb.isSome v.negation) =
      1 / 12 * f true .preverb + 1 / 16 * f true .trailing + 3 / 16 * f true .none +
        1 / 6 * f false .trailing + 1 / 2 * f false .none := by
  simp only [verb, mean_bind, mean_chance (by decide : Odds.preverb.Open),
    mean_chance (by decide : Odds.preverbNegation.Open),
    mean_chance (by decide : Odds.trailingNegation.Open), mean_among, pure_eq_done, mean_done,
    if_true, Bool.false_eq_true, if_false, Option.isSome, average_const hf.content,
    average_const hf.preverb]
  norm_num [Odds.preverb, Odds.preverbNegation, Odds.trailingNegation]
  ring

theorem mean_noun_const (k : ℚ) : (st.noun.mean fun _ => k) = k :=
  (within_noun hf fun _ _ hi => .inl hi).mean_const k

theorem mean_verb_const (k : ℚ) : (st.verb.mean fun _ => k) = k :=
  (within_verb hf fun _ _ hi => .inl hi).mean_const k

theorem mean_object_const (k : ℚ) : (st.object.mean fun _ => k) = k := by
  rw [mean_object, mean_noun_const hf]
  ring

theorem mean_phrases_const (fresh : Bool) (n : Nat) (k : ℚ) :
    ((st.phrases fresh n).mean fun _ => k) = k :=
  (within_phrases hf (fun _ _ hi => .inl hi) fresh n).mean_const k

theorem mean_somePhrases_const (k : ℚ) : (st.somePhrases.mean fun _ => k) = k :=
  (within_somePhrases hf fun _ _ hi => .inl hi).mean_const k

theorem mean_phrases_length (fresh : Bool) (n : Nat) (f : Nat → ℚ) :
    ((st.phrases fresh n).mean fun ps => f ps.length) = f n := by
  calc
    _ = (st.phrases fresh n).mean fun _ => f n :=
      mean_congr fun ps hps => congrArg f (mem_support_phrases.1 hps).1
    _ = f n := mean_phrases_const hf fresh n _

theorem mean_phrases_locative (fresh : Bool) (n : Nat) :
    ((st.phrases fresh n).mean fun ps => truth (ps.any (·.1.isLocative))) =
      if fresh then 1 - (1 / 2) ^ n else 0 := by
  induction n generalizing fresh with
  | zero => simp [phrases]
  | succ n ih =>
    have hrest (p : Preposition α) : ((st.phrases (fresh && !p.isLocative) n).mean fun ps =>
        truth (p.isLocative || ps.any (·.1.isLocative))) =
          if p.isLocative then 1 else if fresh then 1 - (1 / 2) ^ n else 0 := by
      cases p with
      | locative => exact mean_phrases_const hf _ n 1
      | plain w => simpa using ih fresh
    simp only [mean_phrases_succ, List.any_cons, hrest, mean_noun_const hf, mean_preposition,
      Preposition.isLocative_locative, Preposition.isLocative_plain, Bool.false_eq_true, if_true,
      if_false, average_const hf.plain]
    cases fresh with
    | true =>
      simp only [if_true]
      ring
    | false => rfl

theorem mean_phrases_getElem? {f g : Preposition α × Noun α → ℚ} {r : ℚ}
    (h : ∀ fresh, ((st.preposition fresh).mean fun p => st.noun.mean fun m => f (p, m)) =
      r * (st.preposition fresh).mean fun p => st.noun.mean fun m => g (p, m))
    (fresh : Bool) (n k : Nat) :
    ((st.phrases fresh n).mean fun ps => ps[k]?.elim 0 f) =
      r * (st.phrases fresh n).mean fun ps => ps[k]?.elim 0 g := by
  induction n generalizing fresh k with
  | zero => simp [phrases]
  | succ n ih =>
    simp only [mean_phrases_succ]
    cases k with
    | zero => simpa only [List.getElem?_cons_zero, Option.elim, mean_phrases_const hf] using h fresh
    | succ k => simp only [List.getElem?_cons_succ, ih, mean_mul_left]

theorem mean_somePhrases_getElem? {f g : Preposition α × Noun α → ℚ} {r : ℚ}
    (h : ∀ fresh, ((st.preposition fresh).mean fun p => st.noun.mean fun m => f (p, m)) =
      r * (st.preposition fresh).mean fun p => st.noun.mean fun m => g (p, m)) (k : Nat) :
    (st.somePhrases.mean fun ps => ps[k]?.elim 0 f) =
      r * st.somePhrases.mean fun ps => ps[k]?.elim 0 g := by
  simp only [mean_somePhrases, mean_phrases_getElem? hf h, List.getElem?_nil, Option.elim_none]
  ring

theorem mean_clause_subject (f : Noun α → ℚ) :
    (st.clause.mean fun c => f c.subject) = st.noun.mean f := by
  simpa [mean_verb_const hf, mean_object_const hf, mean_somePhrases_const hf] using
    mean_clause_mul st f (fun _ => 1) (fun _ => 1) fun _ => 1

theorem mean_clause_verb (f : Verb α → ℚ) :
    (st.clause.mean fun c => f c.verb) = st.verb.mean f := by
  simpa [mean_noun_const hf, mean_object_const hf, mean_somePhrases_const hf] using
    mean_clause_mul st (fun _ => 1) f (fun _ => 1) fun _ => 1

theorem mean_clause_object (f : Option (Noun α) → ℚ) :
    (st.clause.mean fun c => f c.object) = st.object.mean f := by
  simpa [mean_noun_const hf, mean_verb_const hf, mean_somePhrases_const hf] using
    mean_clause_mul st (fun _ => 1) (fun _ => 1) f fun _ => 1

theorem mean_clause_phrases (f : List (Preposition α × Noun α) → ℚ) :
    (st.clause.mean fun c => f c.phrases) = st.somePhrases.mean f := by
  simpa [mean_noun_const hf, mean_verb_const hf, mean_object_const hf] using
    mean_clause_mul st (fun _ => 1) (fun _ => 1) (fun _ => 1) f

end

theorem average_zipIdx [DecidableEq α] {items : List α} {e : α × Nat} (he : e ∈ items.zipIdx) :
    average items.zipIdx (fun a => truth (a = e)) = 1 / items.length := by
  have hnodup : items.zipIdx.Nodup := (List.nodup_zipIdx_map_snd items).of_map
  rw [average_of_nodup hnodup he, List.length_zipIdx]

variable {st}

theorem weight_noun [DecidableEq α] {n : Noun (α × Nat)} (hn : n.From st.numbered) :
    st.numbered.noun.weight (· = n) = st.share n := by
  rw [weight_eq_mean, mean_noun]
  cases n with
  | pronoun e =>
    have he : average st.pronoun.zipIdx (fun a => truth (a = e)) = _ := average_zipIdx hn
    simp only [Noun.pronoun.injEq, reduceCtorEq, decide_false, truth_false, mul_zero, add_zero,
      average_zero, numbered, he, share]
    ring
  | single e =>
    have he : average st.content.zipIdx (fun a => truth (a = e)) = _ := average_zipIdx hn
    simp only [Noun.single.injEq, reduceCtorEq, decide_false, truth_false, mul_zero, zero_add,
      average_zero, numbered, average_mul_left, he, share]
    ring
  | compound head tail =>
    have hhead : average st.content.zipIdx (fun a => truth (a = head)) = _ := average_zipIdx hn.1
    have htail : average st.content.zipIdx (fun a => truth (a = tail)) = _ := average_zipIdx hn.2
    simp only [Noun.compound.injEq, Bool.decide_and, truth_and, reduceCtorEq, decide_false,
      truth_false, mul_zero, add_zero, zero_add, average_zero, numbered, average_mul_left,
      average_mul_right, hhead, htail, share]
    ring

section

variable (hf : st.Full)

include hf

theorem weight_nounAt [DecidableEq α] (place : NounPlace) {n : Noun (α × Nat)}
    (hn : n.From st.numbered) :
    st.numbered.clause.weight (fun c => c.nounAt place = some n) =
      st.share n * st.numbered.clause.weight fun c => (c.nounAt place).isSome := by
  have hfull := hf.numbered
  have hshare : (st.numbered.noun.mean fun m => truth (m = n)) = st.share n := by
    rw [← weight_noun hn, weight_eq_mean]
  simp only [weight_eq_mean]
  cases place with
  | subject =>
    calc
      _ = st.numbered.noun.mean fun m => truth (some m = some n) :=
        mean_clause_subject hfull fun m => truth (some m = some n)
      _ = st.share n * st.numbered.noun.mean fun _ => 1 := by
        simp only [Option.some.injEq, hshare, mean_noun_const hfull, mul_one]
      _ = _ := congrArg _ (mean_clause_subject hfull fun _ => 1).symm
  | object =>
    calc
      _ = st.numbered.object.mean fun o => truth (o = some n) :=
        mean_clause_object hfull fun o => truth (o = some n)
      _ = st.share n * st.numbered.object.mean fun o => truth o.isSome := by
        simp only [mean_object, Option.some.injEq, hshare, reduceCtorEq, decide_false, truth_false,
          Option.isSome_some, Option.isSome_none, truth_true, mean_noun_const hfull]
        ring
      _ = _ := congrArg _ (mean_clause_object hfull fun o => truth o.isSome).symm
  | phrase k =>
    have hplace := mean_somePhrases_getElem? hfull (f := fun p => truth (p.2 = n)) (g := fun _ => 1)
      (r := st.share n) (fun fresh => by
        simp only [hshare, mean_noun_const hfull, ← mean_mul_left, mul_one]) k
    calc
      _ = st.numbered.somePhrases.mean fun ps => truth (ps[k]?.map Prod.snd = some n) :=
        mean_clause_phrases hfull fun ps => truth (ps[k]?.map Prod.snd = some n)
      _ = st.share n * st.numbered.somePhrases.mean fun ps =>
          truth (ps[k]?.map Prod.snd).isSome := by
        simp only [truth_map_eq_some, Option.isSome_map, truth_isSome, hplace]
      _ = _ := congrArg _ (mean_clause_phrases hfull fun ps =>
        truth (ps[k]?.map Prod.snd).isSome).symm

theorem weight_plain [DecidableEq α] (k : Nat) {w : α × Nat} (hw : w ∈ st.numbered.plain) :
    st.numbered.clause.weight (fun c => c.phrases[k]?.map Prod.fst = some (.plain w)) =
      1 / st.plain.length *
        st.numbered.clause.weight fun c => c.phrases[k]?.any fun p => !p.1.isLocative := by
  have hfull := hf.numbered
  have hw' : average st.numbered.plain (fun a => truth (a = w)) = 1 / st.plain.length :=
    average_zipIdx hw
  simp only [weight_eq_mean, truth_map_eq_some, truth_any]
  rw [mean_clause_phrases hfull fun ps => ps[k]?.elim 0 fun p => truth (p.1 = .plain w),
    mean_clause_phrases hfull fun ps => ps[k]?.elim 0 fun p => truth (!p.1.isLocative)]
  apply mean_somePhrases_getElem? hfull
  intro fresh
  simp only [mean_noun_const hfull, mean_preposition, Preposition.plain.injEq, hw', reduceCtorEq,
    decide_false, truth_false, Preposition.isLocative_locative, Preposition.isLocative_plain,
    Bool.not_true, Bool.not_false, truth_true, average_const hfull.plain]
  cases fresh <;> simp [mul_comm]

theorem weight_verb_shape (p : Bool → Negation → Bool) :
    st.clause.weight (fun c => p c.verb.preverb.isSome c.verb.negation) =
      1 / 12 * truth (p true .preverb) + 1 / 16 * truth (p true .trailing) +
        3 / 16 * truth (p true .none) + 1 / 6 * truth (p false .trailing) +
        1 / 2 * truth (p false .none) := by
  rw [weight_eq_mean, mean_clause_verb hf fun v => truth (p v.preverb.isSome v.negation)]
  exact mean_verb_shape hf fun b n => truth (p b n)

theorem weight_negation (n : Negation) :
    st.clause.weight (fun c => c.verb.negation = n) = n.share := by
  rw [weight_verb_shape hf fun _ m => m = n]
  cases n <;>
    simp only [Negation.share, reduceCtorEq, decide_true, decide_false, truth_true, truth_false] <;>
    norm_num

theorem weight_object : st.clause.weight (·.object.isSome) = 2 / 3 := by
  rw [weight_eq_mean, mean_clause_object hf fun o => truth o.isSome, mean_object]
  simp [mean_noun_const hf]

theorem weight_length (p : Nat → Bool) :
    st.clause.weight (fun c => p c.phrases.length) =
      2 / 3 * truth (p 0) + 1 / 6 * truth (p 1) + 1 / 6 * truth (p 2) := by
  rw [weight_eq_mean, mean_clause_phrases hf fun ps => truth (p ps.length), mean_somePhrases,
    mean_phrases_length hf true 1 fun n => truth (p n),
    mean_phrases_length hf true 2 fun n => truth (p n), List.length_nil]

theorem weight_locative : st.clause.weight (·.phrases.any (·.1.isLocative)) = 5 / 24 := by
  rw [weight_eq_mean, mean_clause_phrases hf fun ps => truth (ps.any (·.1.isLocative)),
    mean_somePhrases, mean_phrases_locative hf, mean_phrases_locative hf]
  norm_num

theorem weight_independent (s : Noun α → Bool) (v : Verb α → Bool) (o : Option (Noun α) → Bool)
    (p : List (Preposition α × Noun α) → Bool) :
    st.clause.weight (fun c => s c.subject && v c.verb && o c.object && p c.phrases) =
      st.clause.weight (s ·.subject) * st.clause.weight (v ·.verb) *
        st.clause.weight (o ·.object) * st.clause.weight (p ·.phrases) := by
  simp only [weight_eq_mean, truth_and]
  rw [mean_clause_mul st (fun n => truth (s n)) (fun w => truth (v w)) (fun n => truth (o n))
      fun ps => truth (p ps), mean_clause_subject hf fun n => truth (s n),
    mean_clause_verb hf fun w => truth (v w), mean_clause_object hf fun n => truth (o n),
    mean_clause_phrases hf fun ps => truth (p ps)]

end

end Stock

namespace Lexicon

/-- The odds of all that a sentence is made of. Words count by their entries in the lexicon, so that
of two entries spelled alike each has its own share. -/
theorem sentence_odds (lx : Lexicon) :
    let st := lx.stock.numbered
    let weight : (Clause (String × Nat) → Bool) → ℚ := st.clause.weight
    lx.sentence = (fun c => (c.map Prod.fst).sentence) <$> st.clause ∧
    (∀ r ∈ lx.sentence.runs, ∃ x, r.outcome = .ok x) ∧ (lx.sentence.runs.map Run.weight).sum = 1 ∧
    (∀ place n, n.From st → weight (fun c => c.nounAt place = some n) =
      lx.stock.share n * weight fun c => (c.nounAt place).isSome) ∧
    weight (·.verb.preverb.isSome) = 1 / 3 ∧
    weight (·.verb.negation = .none) = 11 / 16 ∧
    weight (·.verb.negation = .preverb) = 1 / 12 ∧
    weight (·.verb.negation = .trailing) = 11 / 48 ∧
    weight (·.object.isSome) = 2 / 3 ∧
    weight (·.phrases.length = 0) = 2 / 3 ∧
    weight (·.phrases.length = 1) = 1 / 6 ∧
    weight (·.phrases.length = 2) = 1 / 6 ∧
    weight (·.phrases.any (·.1.isLocative)) = 5 / 24 ∧
    (∀ (k : Nat), ∀ w ∈ st.plain,
      weight (fun c => c.phrases[k]?.map Prod.fst = some (.plain w)) =
        1 / lx.plainPrepositions.length *
          weight fun c => c.phrases[k]?.any fun p => !p.1.isLocative) ∧
    ∀ (s : Noun (String × Nat) → Bool) (v : Verb (String × Nat) → Bool)
      (o : Option (Noun (String × Nat)) → Bool)
      (p : List (Preposition (String × Nat) × Noun (String × Nat)) → Bool),
      weight (fun c => s c.subject && v c.verb && o c.object && p c.phrases) =
        weight (s ·.subject) * weight (v ·.verb) * weight (o ·.object) * weight (p ·.phrases) := by
  intro st weight
  have hf : lx.stock.Full := lx.stock_full
  have hfull : st.Full := hf.numbered
  have hw : lx.sentence.Within (fun n i => i < n) fun _ => False :=
    lx.within_sentence fun _ _ hi => .inl hi
  refine ⟨?_, hw.exists_ok_of_mem_runs, hw.sum_weight_runs,
    fun place _ hn => Stock.weight_nounAt hf place hn, ?_, Stock.weight_negation hfull .none,
    Stock.weight_negation hfull .preverb, Stock.weight_negation hfull .trailing,
    Stock.weight_object hfull, ?_, ?_, ?_, Stock.weight_locative hfull,
    fun k _ hk => Stock.weight_plain hf k hk, Stock.weight_independent hfull⟩
  · rw [sentence, ← Stock.map_fst_numbered lx.stock, Stock.clause_map, Functor.map_map]
  · refine (Stock.weight_verb_shape hfull fun b _ => b).trans ?_
    norm_num
  · refine (Stock.weight_length hfull (· = 0)).trans ?_
    norm_num
  · refine (Stock.weight_length hfull (· = 1)).trans ?_
    norm_num
  · refine (Stock.weight_length hfull (· = 2)).trans ?_
    norm_num

theorem sentence_odds_repeated_word :
    ∃ lx, ofWords (small ++ wordsOf .content ["moku"]) = .ok lx ∧
      let st := lx.stock.numbered
      let weight : (Clause (String × Nat) → Bool) → ℚ := st.clause.weight
      let single : Noun (String × Nat) := .single ("moku", 2)
      let compound : Noun (String × Nat) := .compound ("moku", 0) ("moku", 2)
      (single.From st ∧ weight (fun c => c.nounAt .object = some single) =
        1 / 9 * weight fun c => (c.nounAt .object).isSome) ∧
      (compound.From st ∧ weight (fun c => c.nounAt (.phrase 1) = some compound) =
        1 / 27 * weight fun c => (c.nounAt (.phrase 1)).isSome) ∧
      ("tan", 0) ∈ st.plain ∧
      weight (fun c => c.phrases[1]?.map Prod.fst = some (.plain ("tan", 0))) =
        1 * weight fun c => c.phrases[1]?.any fun p => !p.1.isLocative := by
  obtain ⟨lx, hlx, hcontent, hplain⟩ : ∃ lx, ofWords (small ++ wordsOf .content ["moku"]) = .ok lx ∧
      lx.texts .content = ["moku", "tomo", "moku"] ∧ lx.plainPrepositions = ["tan"] :=
    ⟨_, rfl, by decide, by decide⟩
  refine ⟨lx, hlx, ?_⟩
  intro st weight single compound
  obtain ⟨-, -, -, hnoun, -, -, -, -, -, -, -, -, -, hpreposition, -⟩ := sentence_odds lx
  have hsecond : ("moku", 2) ∈ st.content := by
    simp [st, Stock.numbered, hcontent]
  have hfirst : ("moku", 0) ∈ st.content := by
    simp [st, Stock.numbered, hcontent]
  have htan : ("tan", 0) ∈ st.plain := by
    simp [st, Stock.numbered, hplain]
  have hsingle : lx.stock.share single = 1 / 9 := by
    norm_num [Stock.share, single, hcontent]
  have hcompound : lx.stock.share compound = 1 / 27 := by
    norm_num [Stock.share, compound, hcontent]
  have htans : (1 / lx.plainPrepositions.length : ℚ) = 1 := by
    norm_num [hplain]
  refine ⟨⟨hsecond, ?_⟩, ⟨⟨hfirst, hsecond⟩, ?_⟩, htan, ?_⟩
  · rw [← hsingle]
    exact hnoun .object single hsecond
  · rw [← hcompound]
    exact hnoun (.phrase 1) compound ⟨hfirst, hsecond⟩
  · rw [← htans]
    exact hpreposition 1 ("tan", 0) htan

end Lexicon

end TokiSentences
