import TokiSentences.Proofs.Places

namespace TokiSentences

namespace Choice

/-- Whatever the answers, the outcome and the number of draws up to it are as said. -/
def EveryAfter (p : Nat → α → Prop) : Choice α → Prop
  | done a => p 0 a
  | stop _ => True
  | draw _ next => ∀ i, (next i).EveryAfter fun k a => p (k + 1) a

theorem EveryAfter.bind {c : Choice α} {f : α → Choice β} {p : Nat → α → Prop}
    {q : Nat → β → Prop} (hc : c.EveryAfter p)
    (hf : ∀ k a, p k a → (f a).EveryAfter fun m b => q (k + m) b) : (c >>= f).EveryAfter q := by
  induction c generalizing p q with
  | done a => simpa using hf 0 a hc
  | stop e => trivial
  | draw n next ih =>
    intro i
    apply ih i (hc i)
    intro k a ha
    simpa [Nat.add_right_comm] using hf (k + 1) a ha

theorem EveryAfter.imp {c : Choice α} {p q : Nat → α → Prop} (hc : c.EveryAfter p)
    (h : ∀ k a, p k a → q k a) : c.EveryAfter q := by
  induction c generalizing p q with
  | done a => exact h 0 a hc
  | stop e => trivial
  | draw n next ih => exact fun i => ih i (hc i) fun k a ha => h (k + 1) a ha

theorem everyAfter_chance (o : Odds) : (chance o).EveryAfter fun k _ => k = 1 := fun _ => rfl

theorem everyAfter_uniform (n : Nat) : (uniform n).EveryAfter fun k _ => k = 1 := fun _ => rfl

theorem everyAfter_among (items : List α) : (among items).EveryAfter fun k _ => k = 1 := by
  unfold among
  split
  · trivial
  · intro i
    cases h : items[i]? with
    | none => simp only [h]; trivial
    | some a => simp only [h]; rfl

theorem EveryAfter.single_bind {c : Choice α} (hc : c.EveryAfter fun k _ => k = 1)
    {f : α → Choice β} {p : Nat → β → Prop}
    (hf : ∀ a, (f a).EveryAfter fun k b => p (k + 1) b) : (c >>= f).EveryAfter p := by
  apply hc.bind
  rintro _ a rfl
  simpa [Nat.add_comm] using hf a

theorem EveryAfter.of_run [Source σ] {c : Choice α} {p : Nat → α → Prop} (hc : c.EveryAfter p)
    {s : σ} {a : α} (h : (c.run s).1 = .ok a) : p (c.asked s).length a := by
  induction c generalizing s p with
  | done b =>
    obtain rfl : b = a := by simpa using h
    exact hc
  | stop e => simp at h
  | draw n next ih =>
    simp only [run] at h
    split at h
    · rename_i hd
      simp only [asked, hd, List.length_cons]
      exact ih _ (hc _) h
    · cases h

end Choice

/-- What a source answers to draws below these bounds, one after the other. -/
def Source.answers [Source σ] : List Nat → σ → List (Option Nat)
  | [], _ => []
  | n :: bounds, s =>
    let (i, s') := draw s n
    i :: answers bounds s'

theorem Choice.run_of_answers [Source σ] [Source τ] (c : Choice α) {s : σ} {t : τ}
    (h : Source.answers (c.asked s) t = Source.answers (c.asked s) s) :
    (c.run t).1 = (c.run s).1 := by
  induction c generalizing s t with
  | done a => rfl
  | stop e => rfl
  | draw n next ih =>
    cases hs : Source.draw s n with
    | mk i s' =>
      cases ht : Source.draw t n with
      | mk j t' =>
        cases i with
        | none =>
          obtain rfl : j = none := by simpa [asked, hs, ht, Source.answers] using h
          simp only [run, hs, ht]
        | some i =>
          obtain ⟨rfl, hrest⟩ : j = some i ∧ Source.answers ((next i).asked s') t' =
              Source.answers ((next i).asked s') s' := by
            simpa [asked, hs, ht, Source.answers] using h
          simp only [run, hs, ht]
          exact ih i hrest

def Noun.draws : Noun α → Nat
  | pronoun _ => 2
  | single _ => 3
  | compound _ _ => 4

def Verb.draws (v : Verb α) : Nat :=
  match v.preverb with
  | none => 3
  | some _ => if v.negation = .preverb then 4 else 5

/-- The locative is one draw while it is `fresh`, and any other preposition is one more. -/
def phrasesDraws : Bool → List (Preposition α × Noun α) → Nat
  | _, [] => 0
  | fresh, (p, noun) :: more =>
    fresh.toNat + (!p.isLocative).toNat + noun.draws + phrasesDraws (fresh && !p.isLocative) more

def Clause.draws (c : Clause α) : Nat :=
  c.subject.draws + c.verb.draws + 1 + c.object.elim 0 Noun.draws + 1 +
    if c.phrases = [] then 0 else 1 + phrasesDraws true c.phrases

namespace Stock

open Choice

variable (st : Stock α)

theorem noun_draws : st.noun.EveryAfter fun k n => k = n.draws := by
  apply (everyAfter_chance _).single_bind
  intro b
  cases b with
  | true => exact (everyAfter_among _).single_bind fun _ => rfl
  | false =>
    apply (everyAfter_among _).single_bind
    intro head
    apply (everyAfter_chance _).single_bind
    intro b
    cases b with
    | true => exact (everyAfter_among _).single_bind fun _ => rfl
    | false => rfl

theorem verb_draws : st.verb.EveryAfter fun k v => k = v.draws := by
  apply (everyAfter_among _).single_bind
  intro root
  apply (everyAfter_chance _).single_bind
  intro b
  cases b with
  | true =>
    apply (everyAfter_among _).single_bind
    intro preverb
    apply (everyAfter_chance _).single_bind
    intro b
    cases b with
    | true => rfl
    | false =>
      apply (everyAfter_chance _).single_bind
      intro negated
      cases negated <;> rfl
  | false => exact (everyAfter_chance _).single_bind fun _ => rfl

theorem preposition_draws (fresh : Bool) : (st.preposition fresh).EveryAfter fun k p =>
    k = fresh.toNat + (!p.isLocative).toNat := by
  cases fresh with
  | true =>
    apply (everyAfter_chance _).single_bind
    intro b
    cases b with
    | true => rfl
    | false => exact (everyAfter_among _).single_bind fun _ => rfl
  | false => exact (everyAfter_among _).single_bind fun _ => rfl

theorem phrases_draws (fresh : Bool) (n : Nat) : (st.phrases fresh n).EveryAfter fun k ps =>
    k = phrasesDraws fresh ps ∧ ps.length = n := by
  induction n generalizing fresh with
  | zero => exact ⟨rfl, rfl⟩
  | succ n ih =>
    apply (st.preposition_draws fresh).bind
    rintro _ p rfl
    apply st.noun_draws.bind
    rintro _ noun rfl
    apply (ih _).bind
    rintro _ more ⟨rfl, hlen⟩
    simp [EveryAfter, phrasesDraws, hlen, Nat.add_assoc]

theorem somePhrases_draws : st.somePhrases.EveryAfter fun k ps =>
    k = 1 + if ps = [] then 0 else 1 + phrasesDraws true ps := by
  apply (everyAfter_chance _).single_bind
  intro b
  cases b with
  | true =>
    apply (everyAfter_uniform _).single_bind
    intro extra
    apply (st.phrases_draws true (extra + 1)).imp
    rintro _ ps ⟨rfl, hlen⟩
    have hne : ps ≠ [] := List.ne_nil_of_length_eq_add_one hlen
    rw [if_neg hne]
    omega
  | false => rfl

theorem clause_draws : st.clause.EveryAfter fun k c => k = c.draws := by
  apply st.noun_draws.bind
  rintro _ subject rfl
  apply st.verb_draws.bind
  rintro _ verb rfl
  have hobject : (do if ← chance Odds.object then return some (← st.noun) else return none :
      Choice (Option (Noun α))).EveryAfter fun k o => k = 1 + o.elim 0 Noun.draws := by
    apply (everyAfter_chance _).single_bind
    intro b
    cases b with
    | true =>
      apply st.noun_draws.bind
      rintro _ noun rfl
      exact Nat.add_comm ..
    | false => rfl
  apply hobject.bind
  rintro _ object rfl
  apply st.somePhrases_draws.bind
  rintro _ phrases rfl
  simp [EveryAfter, Clause.draws, Nat.add_assoc]

end Stock

theorem Noun.draws_bounds (n : Noun α) : 2 ≤ n.draws ∧ n.draws ≤ 4 := by
  cases n <;> simp [draws]

theorem Verb.draws_bounds (v : Verb α) : 3 ≤ v.draws ∧ v.draws ≤ 5 := by
  unfold draws
  split
  · simp
  · split <;> simp

theorem phrasesDraws_le (fresh : Bool) (ps : List (Preposition α × Noun α)) :
    phrasesDraws fresh ps ≤ 6 * ps.length := by
  induction ps generalizing fresh with
  | nil => simp [phrasesDraws]
  | cons q ps ih =>
    have hfresh : fresh.toNat ≤ 1 := Bool.toNat_le fresh
    have hplain : (!q.1.isLocative).toNat ≤ 1 := Bool.toNat_le _
    have hnoun : q.2.draws ≤ 4 := q.2.draws_bounds.2
    have hmore := ih (fresh && !q.1.isLocative)
    rw [phrasesDraws, List.length_cons]
    omega

theorem Clause.draws_bounds {c : Clause α} (h : c.phrases.length ≤ maxPhrases) :
    7 ≤ c.draws ∧ c.draws ≤ 28 := by
  have hsubject := c.subject.draws_bounds
  have hverb := c.verb.draws_bounds
  have hobject : c.object.elim 0 Noun.draws ≤ 4 := by
    cases c.object with
    | none => exact Nat.zero_le 4
    | some o => exact o.draws_bounds.2
  have hphrases := phrasesDraws_le true c.phrases
  rw [maxPhrases] at h
  rw [draws]
  split <;> omega

theorem Stock.Full.exists_clause_draws {st : Stock α} (h : st.Full) {n : Nat} (hn : n ∈ [7, 28]) :
    ∃ c : Clause α, c.From st ∧ c.draws = n := by
  obtain ⟨w, hw⟩ := List.exists_mem_of_ne_nil _ h.content
  obtain ⟨m, hm⟩ := List.exists_mem_of_ne_nil _ h.preverb
  obtain ⟨p, hp⟩ := List.exists_mem_of_ne_nil _ h.plain
  obtain ⟨i, hi⟩ := List.exists_mem_of_ne_nil _ h.pronoun
  have hnoun : (Noun.compound w w).From st := ⟨hw, hw⟩
  obtain rfl | rfl : n = 7 ∨ n = 28 := by simpa using hn
  · refine ⟨⟨.pronoun i, ⟨w, none, .none⟩, none, []⟩, ?_, rfl⟩
    exact ⟨hi, Verb.from_bare hw (by simp), by simp, Nat.zero_le _, by simp, Nat.zero_le _⟩
  · let phrase : Preposition α × Noun α := (.plain p, .compound w w)
    have hphrases : PhrasesFrom st [phrase, phrase] := by simp [phrase, hp, hnoun]
    refine ⟨⟨.compound w w, ⟨w, some m, .none⟩, some (.compound w w), [phrase, phrase]⟩, ?_, rfl⟩
    exact ⟨hnoun, Verb.from_modal hm hw .none, by simpa using hnoun, Nat.le_refl 2, hphrases,
      Nat.zero_le 1⟩

namespace Lexicon

theorem exists_script_of_clause {lx : Lexicon} {c : Clause String} (hc : c.From lx.stock) :
    ∃ values : List Nat, lx.sentenceFrom { values : Script } = .ok c.sentence ∧
      (lx.sentence.asked { values : Script }).length = c.draws := by
  obtain ⟨values, hrun⟩ := Choice.exists_script_of_mem_support (Stock.mem_support_clause.2 hc)
  refine ⟨values, sentenceFrom_eq_ok_iff.2 ⟨c, hrun, rfl⟩, ?_⟩
  rw [sentence, Choice.asked_map]
  exact lx.stock.clause_draws.of_run hrun

/-- A sentence takes the draws that its clause accounts for, from any source. Answers in the range
keep them from seven to twenty-eight, two numbers that every lexicon has sentences for; and another
source makes the same sentence if it answers these draws alike. -/
theorem sentence_draws (lx : Lexicon) [Source σ] {s : σ}
    (hs : lx.sentenceFrom s ≠ .error .broken) :
    (∃ c, (lx.stock.clause.run s).1 = .ok c ∧ lx.sentenceFrom s = .ok c.sentence ∧
      (lx.sentence.asked s).length = c.draws) ∧
    (Source.InRange σ →
      7 ≤ (lx.sentence.asked s).length ∧ (lx.sentence.asked s).length ≤ 28 ∧
      ∀ {τ : Type} [Source τ] (t : τ),
        let bounds := (lx.sentence.asked s).take 28
        Source.answers bounds t = Source.answers bounds s → lx.sentenceFrom t = lx.sentenceFrom s) ∧
    ∀ n ∈ [7, 28], ∃ values : List Nat, (∃ x, lx.sentenceFrom { values : Script } = .ok x) ∧
      (lx.sentence.asked { values : Script }).length = n := by
  obtain ⟨x, hx⟩ := sentenceFrom_eq_ok hs
  obtain ⟨c, hrun, rfl⟩ := sentenceFrom_eq_ok_iff.1 hx
  have hdraws : (lx.sentence.asked s).length = c.draws := by
    rw [sentence, Choice.asked_map]
    exact lx.stock.clause_draws.of_run hrun
  refine ⟨⟨c, hrun, hx, hdraws⟩, ?bounds, ?attained⟩
  case bounds =>
    intro hσ
    obtain ⟨hge, hle⟩ := Clause.draws_bounds (clause_from_of_run hσ hrun).phrases_length
    rw [← hdraws] at hge hle
    refine ⟨hge, hle, ?_⟩
    intro τ _ t bounds h
    rw [show bounds = lx.sentence.asked s from List.take_of_length_le hle] at h
    exact lx.sentence.run_of_answers h
  case attained =>
    intro n hn
    obtain ⟨d, hd, rfl⟩ := lx.stock_full.exists_clause_draws hn
    obtain ⟨values, hx, hasked⟩ := exists_script_of_clause hd
    exact ⟨values, ⟨_, hx⟩, hasked⟩

theorem sentence_draws_every_part :
    let s : Script := { values := [2, 0, 0, 1, 0, 0, 0, 0, 0, 0, 0, 0, 1, 0, 0, 0, 0, 2, 1, 1] }
    let t : Script := { values := s.values ++ [1, 2] }
    ∃ lx, ofWords small = .ok lx ∧ lx.sentenceFrom s ≠ .error .broken ∧
      (∃ c, (lx.stock.clause.run s).1 = .ok c ∧ c.draws = 20) ∧
      lx.sentenceFrom t = lx.sentenceFrom s := by
  intro s t
  obtain ⟨lx, hlx, hs, hasked, hanswers⟩ : ∃ lx, ofWords small = .ok lx ∧
      lx.sentenceFrom s ≠ .error .broken ∧ (lx.sentence.asked s).length = 20 ∧
      Source.answers ((lx.sentence.asked s).take 28) t =
        Source.answers ((lx.sentence.asked s).take 28) s :=
    ⟨_, rfl, by decide, by decide, by decide⟩
  obtain ⟨⟨c, hrun, -, hdraws⟩, hbounds, -⟩ := lx.sentence_draws hs
  refine ⟨lx, hlx, hs, ⟨c, hrun, hdraws ▸ hasked⟩, ?_⟩
  exact (hbounds Script.inRange).2.2 t hanswers

end Lexicon

end TokiSentences
