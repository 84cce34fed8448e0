import TokiSentences.Proofs.Generator
import TokiSentences.Source.Seeded

namespace TokiSentences

/-- Sources that answer draws below their bounds, those split off them too. What they make of a
draw from nothing is left open. -/
structure Source.Answers [Source σ] (good : σ → Prop) : Prop where
  draw : ∀ {s : σ} {n : Nat}, good s → 0 < n →
    ∃ i s', Source.draw s n = (some i, s') ∧ i < n ∧ good s'
  rest : ∀ {s : σ}, good s → good (Source.split s).2
  child : ∀ {s : σ}, good s → ∀ child ∈ (Source.split s).1, good child

/-- A run that never draws from nothing and comes to a result. -/
def Choice.Sure [Source σ] (good : σ → Prop) (c : Choice α) (s : σ) : Prop :=
  (∀ n ∈ c.asked s, 0 < n) ∧ ∃ a s', c.run s = (.ok a, s') ∧ good s'

namespace Choice

variable {allowed : Stop → Prop} {c : Choice α} {f : α → Choice β}

theorem Within.of_bind (h : (c >>= f).Within (fun n i => i < n) allowed) :
    c.Within (fun n i => i < n) allowed := by
  induction c with
  | done a => trivial
  | stop e => exact h
  | draw n next ih => exact ⟨h.1, fun i hi => ih i (h.2 i hi)⟩

theorem Within.of_mem_support (h : (c >>= f).Within (fun n i => i < n) allowed) :
    ∀ a ∈ c.support, (f a).Within (fun n i => i < n) allowed := by
  induction c with
  | done a =>
    rintro _ rfl
    exact h
  | stop e => exact fun _ ha => ha.elim
  | draw n next ih =>
    rintro a ⟨i, hi, ha⟩
    exact ih i (h.2 i hi) a ha

theorem Within.ne_nil_of_among {items : List α}
    (h : (among items).Within (fun n i => i < n) fun _ => False) : items ≠ [] := by
  rintro rfl
  exact h

end Choice

theorem Stock.within_clause_iff {st : Stock α} :
    st.clause.Within (fun n i => i < n) (fun _ => False) ↔ st.Full := by
  refine ⟨?_, fun hf => within_clause hf fun _ _ hi => .inl hi⟩
  intro h
  -- follow the draws of a clause up to the first that is among the words in question
  have hchance {o : Odds} (ho : o.Open) (b : Bool) : b ∈ (Choice.chance o).support :=
    Choice.mem_support_chance ho b
  have hnoun : st.noun.Within (fun n i => i < n) fun _ => False := h.of_bind
  have hpronoun : st.pronoun ≠ [] :=
    (hnoun.of_mem_support true (hchance (by decide) _)).of_bind.ne_nil_of_among
  have hcontent : st.content ≠ [] :=
    (hnoun.of_mem_support false (hchance (by decide) _)).of_bind.ne_nil_of_among
  obtain ⟨pronoun, hp⟩ := List.exists_mem_of_ne_nil _ hpronoun
  obtain ⟨content, hc⟩ := List.exists_mem_of_ne_nil _ hcontent
  have hverb := h.of_mem_support (.pronoun pronoun) (mem_support_noun.2 hp)
  have hroot := hverb.of_bind.of_mem_support content (Choice.mem_support_among.2 hc)
  have hpreverb : st.preverb ≠ [] :=
    (hroot.of_mem_support true (hchance (by decide) _)).of_bind.ne_nil_of_among
  have hobject := hverb.of_mem_support ⟨content, none, .none⟩
    (mem_support_verb.2 (Verb.from_bare hc (by decide)))
  have hphrases : st.somePhrases.Within (fun n i => i < n) fun _ => False :=
    (hobject.of_mem_support none
      (Choice.mem_support_bind.2 ⟨false, hchance (by decide) _, rfl⟩)).of_bind
  have hpreposition : (st.preposition true).Within (fun n i => i < n) fun _ => False :=
    ((hphrases.of_mem_support true (hchance (by decide) _)).of_mem_support 0
      (Choice.mem_support_uniform.2 (by decide))).of_bind
  have hplain : st.plain ≠ [] :=
    (hpreposition.of_mem_support false (hchance (by decide) _)).of_bind.ne_nil_of_among
  exact ⟨hcontent, hpreverb, hplain, hpronoun⟩

section

variable [Source σ] {good : σ → Prop} (hgood : Source.Answers good)

include hgood

theorem Choice.Within.sure {c : Choice α} (hc : c.Within (fun n i => i < n) fun _ => False)
    {s : σ} (hs : good s) : c.Sure good s := by
  induction c generalizing s with
  | done a => exact ⟨by simp [asked], a, s, rfl, hs⟩
  | stop e => exact hc.elim
  | draw n next ih =>
    obtain ⟨i, s', hdraw, hi, hs'⟩ := hgood.draw hs hc.1
    obtain ⟨hasked, hrun⟩ := ih i (hc.2 i hi) hs'
    simp only [Sure, asked, run, hdraw]
    exact ⟨List.forall_mem_cons.2 ⟨hc.1, hasked⟩, hrun⟩

namespace Source.Answers

theorem sentenceFrom_eq_ok {s : σ} (hs : good s) (lx : Lexicon) :
    ∃ x, lx.sentenceFrom s = .ok x := by
  have hwithin : lx.sentence.Within (fun n i => i < n) fun _ => False :=
    lx.within_sentence fun _ _ hi => .inl hi
  obtain ⟨-, x, rest, hrun, -⟩ := hwithin.sure hgood hs
  exact ⟨x, by rw [Lexicon.sentenceFrom, hrun]⟩

theorem takes {n : Nat} {s s' : σ} {r : Except Stop (List σ)} (hs : good s)
    (h : Source.takes n s = (r, s')) :
    good s' ∧ ∀ children, r = .ok children → ∀ child ∈ children, good child := by
  induction n generalizing s s' r with
  | zero =>
    cases h
    exact ⟨hs, by rintro _ ⟨⟩; simp⟩
  | succ n ih =>
    have hrest : good (split s).2 := hgood.rest hs
    cases hchild : (split s).1 with
    | none =>
      rw [Source.takes, take_of_split_none hchild] at h
      cases h
      exact ⟨hrest, by rintro _ ⟨⟩⟩
    | some child =>
      have htake : take s = (.ok child, (split s).2) := by
        rw [take, ← Prod.eta (split s), hchild]
      rw [Source.takes, htake] at h
      cases htakes : Source.takes n (split s).2 with
      | mk r' s'' =>
        obtain ⟨hs'', hchildren⟩ := ih hrest htakes
        simp only [htakes] at h
        cases r' with
        | error e =>
          cases h
          exact ⟨hs'', by rintro _ ⟨⟩⟩
        | ok children =>
          cases h
          refine ⟨hs'', ?_⟩
          rintro _ ⟨⟩
          exact List.forall_mem_cons.2 ⟨hgood.child hs child hchild, hchildren children rfl⟩

end Source.Answers

namespace Generator

theorem good_perform {g : Generator σ} (hs : good g.shared.source) (op : Operation)
    (turns : List Pool.Turn) : good (g.perform turns op).2.shared.source := by
  cases op with
  | query q => exact hs
  | request r =>
    simp only [perform, answer_eq, source_reserve]
    exact (hgood.takes hs rfl).1

theorem good_performAll {g : Generator σ} (hs : good g.shared.source)
    (ops : List (Operation × List Pool.Turn)) : good (g.performAll ops).shared.source := by
  induction ops generalizing g with
  | nil => exact hs
  | cons op ops ih => exact ih (good_perform hgood hs op.1 op.2)

omit hgood in
theorem answer_perm_of_takes {g : Generator σ} {r : Request} {children : List σ} {rest : σ}
    (h : Source.takes r.count g.shared.source = (.ok children, rest))
    (hok : ∀ s ∈ children, g.lexicon.sentenceFrom s ≠ .error .broken) (turns : List Pool.Turn) :
    ∃ xs : List Sentence, (g.answer r turns).1 = .ok xs ∧
      (xs.map .ok).Perm (children.map g.lexicon.sentenceFrom) := by
  rw [answer_eq]
  cases r with
  | sentence =>
    obtain ⟨child, htake, rfl⟩ := Source.take_of_takes_one h
    obtain ⟨x, hx⟩ := Lexicon.sentenceFrom_eq_ok (hok child (by simp))
    exact ⟨[x], by simp [reserve, htake, Except.bind, Task.finish, hx], by simp [hx]⟩
  | batch n =>
    rw [Request.count] at h
    obtain ⟨xs, hxs, hordered⟩ := Pool.generate_ok g.workers hok turns
    exact ⟨xs, by simpa [reserve, h, Except.bind, Task.finish] using! hxs,
      Pool.perm_of_interleaved hordered⟩

omit hgood in
theorem answer_of_takes {g : Generator σ} {r : Request} {children : List σ} {rest : σ}
    (h : Source.takes r.count g.shared.source = (.ok children, rest))
    (hok : ∀ s ∈ children, g.lexicon.sentenceFrom s ≠ .error .broken) (turns : List Pool.Turn) :
    ∃ xs : List Sentence, (g.answer r turns).1 = .ok xs ∧ xs.length = r.count := by
  obtain ⟨xs, hxs, hperm⟩ := answer_perm_of_takes h hok turns
  have hlen := hperm.length_eq
  rw [List.length_map, List.length_map, Source.length_of_takes h] at hlen
  exact ⟨xs, hxs, hlen⟩

/-- A lexicon in order and sources that answer below their bounds: no run of a noun, a verb or a
sentence draws from nothing or fails to come to a result, and whatever was done before, a request
is answered in full unless the shared source does not split. -/
theorem answers_without_violation (g : Generator σ) (hs : good g.shared.source) :
    (∀ t, good t → g.lexicon.noun.Sure good t ∧ g.lexicon.verb.Sure good t ∧
      g.lexicon.sentence.Sure good t) ∧
    ∀ (ops : List (Operation × List Pool.Turn)) (r : Request) (turns : List Pool.Turn),
      let g' := g.performAll ops
      (∀ v, (g'.answer r turns).1 ≠ .error (.violation v)) ∧
      (∀ children rest, Source.takes r.count g'.shared.source = (.ok children, rest) →
        ∀ child ∈ children, g.lexicon.sentence.Sure good child) ∧
      (Source.Splits r.count g'.shared.source →
        ∃ xs : List Sentence, (g'.answer r turns).1 = .ok xs ∧ xs.length = r.count) ∧
      (0 < r.count → 0 < Pool.workerCount g'.workers r.count) := by
  have hsentence {t : σ} (ht : good t) : g.lexicon.sentence.Sure good t :=
    (g.lexicon.within_sentence fun _ _ hi => .inl hi).sure hgood ht
  refine ⟨?_, ?_⟩
  · intro t ht
    have hnoun : g.lexicon.noun.Within (fun n i => i < n) fun _ => False :=
      (Stock.within_noun g.lexicon.stock_full fun _ _ hi => .inl hi).map _
    have hverb : g.lexicon.verb.Within (fun n i => i < n) fun _ => False :=
      Stock.within_verb g.lexicon.stock_full fun _ _ hi => .inl hi
    exact ⟨hnoun.sure hgood ht, hverb.sure hgood ht, hsentence ht⟩
  · intro ops r turns g'
    have hs' : good g'.shared.source := good_performAll hgood hs ops
    have hchildren {children : List σ} {rest : σ}
        (h : Source.takes r.count g'.shared.source = (.ok children, rest)) :
        ∀ child ∈ children, g.lexicon.sentence.Sure good child := fun child hchild =>
      hsentence ((hgood.takes hs' h).2 children rfl child hchild)
    have hanswer (hsplits : Source.Splits r.count g'.shared.source) :
        ∃ xs : List Sentence, (g'.answer r turns).1 = .ok xs ∧ xs.length = r.count := by
      obtain ⟨children, htakes⟩ := Source.takes_of_splits hsplits
      apply answer_of_takes htakes
      intro child hchild
      obtain ⟨-, x, t, hrun, -⟩ := hchildren htakes child hchild
      rw [(performAll_keeps g ops).1, Lexicon.sentenceFrom, hrun]
      simp
    refine ⟨?_, fun _ _ => hchildren, hanswer, ?_⟩
    · intro v hv
      rcases Source.splits_or_exists_none r.count g'.shared.source with hsplits | ⟨k, hk, h, hnone⟩
      · obtain ⟨xs, hxs, -⟩ := hanswer hsplits
        rw [hxs] at hv
        cases hv
      · rw [answer_eq, (reserve_of_split_none g' hk h hnone).1] at hv
        cases hv
    · intro hcount
      unfold Pool.workerCount
      omega

end Generator

end

theorem Seeded.below_lt (tries : Nat) {n : Nat} (hn : 0 < n) (s : Seeded) :
    (below tries n s).1 < n := by
  have hword (w : UInt64) : w.toNat * n / UInt64.size < n :=
    Nat.div_lt_of_lt_mul (Nat.mul_lt_mul_of_pos_right w.toNat_lt_size hn)
  induction tries generalizing s with
  | zero => exact hword _
  | succ tries ih =>
    simp only [below]
    split
    · exact hword _
    · exact ih _

theorem Seeded.answers : Source.Answers fun _ : Seeded => True where
  draw := fun {s n} _ hn =>
    ⟨(below maxTries n s).1, (below maxTries n s).2, rfl, below_lt maxTries hn s, trivial⟩
  rest := fun _ => trivial
  child := fun _ _ _ => trivial

theorem Seeded.splits (n : Nat) (s : Seeded) : Source.Splits n s := fun _ _ => rfl

theorem Generator.answers_three_sentences :
    ∃ lx, Lexicon.ofWords Lexicon.small = .ok lx ∧
      let g : Generator Seeded := ⟨lx, ⟨.ofSeed 7, false⟩, 0⟩
      let ops : List (Operation × List Pool.Turn) := [(.request (.batch 2), [.owner])]
      lx.noun.Sure (fun _ => True) (Seeded.ofSeed 9) ∧
        ∃ xs : List Sentence,
          ((g.performAll ops).answer (.batch 3) []).1 = .ok xs ∧ xs.length = 3 := by
  refine ⟨_, rfl, ?_⟩
  intro g ops
  obtain ⟨hruns, hanswers⟩ := answers_without_violation Seeded.answers g trivial
  exact ⟨(hruns _ trivial).1, (hanswers ops (.batch 3) []).2.2.1 (Seeded.splits 3 _)⟩

end TokiSentences
