import TokiSentences.Generator.Basic
import TokiSentences.Lexicon.Samples
import TokiSentences.Proofs.Pool
import TokiSentences.Proofs.Source
import TokiSentences.Source.Script

namespace TokiSentences

namespace Shared

@[simp] theorem hold_fst (s : Shared σ) (f : σ → Except Stop α × σ) :
    (s.hold f).1 = (f s.source).1 := by
  cases hs : s.spoiled <;> simp [hold, lock, hs]

@[simp] theorem source_hold (s : Shared σ) (f : σ → Except Stop α × σ) :
    (s.hold f).2.source = (f s.source).2 := by
  cases hs : s.spoiled <;> simp [hold, lock, hs]

end Shared

def Operation.splits : Operation → Nat
  | .request r => r.count
  | .query _ => 0

inductive Answer.Agree : Answer → Answer → Prop
  | sentences : TokiSentences.Agree r r' → Agree (.sentences r) (.sentences r')
  | other : Agree a a

namespace Generator

variable [Source σ]

@[simp] theorem lexicon_reserve (g : Generator σ) (r : Request) :
    (g.reserve r).2.lexicon = g.lexicon := by
  cases r <;> rfl

@[simp] theorem workers_reserve (g : Generator σ) (r : Request) :
    (g.reserve r).2.workers = g.workers := by
  cases r <;> rfl

theorem answer_eq (g : Generator σ) (r : Request) (turns : List Pool.Turn) :
    g.answer r turns =
      ((g.reserve r).1.bind (Task.finish g.lexicon turns), (g.reserve r).2) := by
  rw [answer]
  cases h : g.reserve r with
  | mk result g' => cases result <;> rfl

@[simp] theorem lexicon_perform (g : Generator σ) (op : Operation) (turns : List Pool.Turn) :
    (g.perform turns op).2.lexicon = g.lexicon := by
  cases op with
  | request r => simp [perform, answer_eq]
  | query q => rfl

@[simp] theorem workers_perform (g : Generator σ) (op : Operation) (turns : List Pool.Turn) :
    (g.perform turns op).2.workers = g.workers := by
  cases op with
  | request r => simp [perform, answer_eq]
  | query q => rfl

theorem performAll_keeps (g : Generator σ) (ops : List (Operation × List Pool.Turn)) :
    (g.performAll ops).lexicon = g.lexicon ∧ (g.performAll ops).workers = g.workers := by
  induction ops generalizing g with
  | nil => exact ⟨rfl, rfl⟩
  | cons op ops ih =>
    obtain ⟨hlexicon, hworkers⟩ := ih (g.perform op.2 op.1).2
    exact ⟨hlexicon.trans (lexicon_perform ..), hworkers.trans (workers_perform ..)⟩

theorem reserve_congr (g g' : Generator σ) (hw : g.workers = g'.workers)
    (hs : g.shared.source = g'.shared.source) (r : Request) :
    (g.reserve r).1 = (g'.reserve r).1 ∧
      (g.reserve r).2.shared.source = (g'.reserve r).2.shared.source := by
  cases r <;> simp [reserve, hw, hs]

theorem source_reserve (g : Generator σ) (r : Request) :
    (g.reserve r).2.shared.source = (Source.takes r.count g.shared.source).2 := by
  cases r <;> simp [reserve]

theorem reserve_of_splits (g : Generator σ) {r : Request}
    (h : Source.Splits r.count g.shared.source) :
    (g.reserve r).2.shared.source = Source.after r.count g.shared.source := by
  obtain ⟨children, htakes⟩ := Source.takes_of_splits h
  rw [source_reserve, htakes]

theorem reserve_of_split_none (g : Generator σ) {r : Request} {k : Nat} (hk : k < r.count)
    (h : Source.Splits k g.shared.source)
    (hnone : (Source.split (Source.after k g.shared.source)).1 = none) :
    (g.reserve r).1 = .error .broken ∧
      (g.reserve r).2.shared.source = Source.after (k + 1) g.shared.source := by
  cases r with
  | sentence =>
    obtain rfl : k = 0 := by simpa using hk
    have htake := Source.take_of_split_none (s := g.shared.source) hnone
    simp [reserve, htake, Source.after]
  | batch n =>
    have htakes : Source.takes n g.shared.source = _ := Source.takes_of_split_none hk h hnone
    simp [reserve, htakes]

theorem agree_answer (g : Generator σ) (r : Request) (turns turns' : List Pool.Turn) :
    TokiSentences.Agree (g.answer r turns).1 (g.answer r turns').1 := by
  simp only [answer_eq]
  cases r with
  | sentence =>
    simp only [reserve]
    cases (g.shared.hold Source.take).1 with
    | error e => exact .error
    | ok s => exact .refl _
  | batch n =>
    simp only [reserve]
    cases (g.shared.hold (Source.takes n)).1 with
    | error e => exact .error
    | ok sources => exact Pool.agree_generate g.workers g.workers turns turns' sources

theorem answer_one_any_turns {g : Generator σ} (hw : g.workers ≤ 1) (r : Request)
    (turns turns' : List Pool.Turn) : g.answer r turns = g.answer r turns' := by
  simp only [answer_eq]
  congr 1
  cases r with
  | sentence =>
    simp only [reserve]
    cases (g.shared.hold Source.take).1 <;> rfl
  | batch n =>
    simp only [reserve]
    cases (g.shared.hold (Source.takes n)).1 with
    | error e => rfl
    | ok sources => exact Pool.generate_one_any_turns hw turns turns' sources

def fresh (g : Generator σ) : Generator σ := { g with shared := ⟨g.shared.source, false⟩ }

theorem perform_fresh (g : Generator σ) (op : Operation) (turns : List Pool.Turn) :
    (g.fresh.perform turns op).1 = (g.perform turns op).1 ∧
      (g.fresh.perform turns op).2.shared.source = (g.perform turns op).2.shared.source := by
  cases op with
  | query q => exact ⟨by cases q <;> rfl, rfl⟩
  | request r =>
    obtain ⟨hresult, hsource⟩ := reserve_congr g.fresh g rfl rfl r
    simp only [perform, answer_eq, hresult, hsource]
    exact ⟨rfl, trivial⟩

theorem source_perform_of_splits (g : Generator σ) {op : Operation} (turns : List Pool.Turn)
    (h : Source.Splits op.splits g.shared.source) :
    (g.perform turns op).2.shared.source = Source.after op.splits g.shared.source := by
  cases op with
  | query q => rfl
  | request r =>
    simp only [perform, answer_eq]
    exact reserve_of_splits g h

theorem perform_of_split_none (g : Generator σ) {op : Operation} (turns : List Pool.Turn) {k : Nat}
    (hk : k < op.splits) (h : Source.Splits k g.shared.source)
    (hnone : (Source.split (Source.after k g.shared.source)).1 = none) :
    (g.perform turns op).1 = .sentences (.error .broken) ∧
      (g.perform turns op).2.shared.source = Source.after (k + 1) g.shared.source := by
  cases op with
  | query q => exact absurd hk (Nat.not_lt_zero k)
  | request r =>
    obtain ⟨hresult, hsource⟩ := reserve_of_split_none g hk h hnone
    simp only [perform, answer_eq, hresult]
    exact ⟨rfl, hsource⟩

theorem agree_perform (g : Generator σ) (op : Operation) (turns turns' : List Pool.Turn) :
    Answer.Agree (g.perform turns op).1 (g.perform turns' op).1 := by
  cases op with
  | query q => exact .other
  | request r => exact .sentences (agree_answer g r turns turns')

theorem snd_perform_any_turns (g : Generator σ) (op : Operation) (turns turns' : List Pool.Turn) :
    (g.perform turns op).2 = (g.perform turns' op).2 := by
  cases op with
  | request r => simp only [perform, answer_eq]
  | query q => rfl

theorem performAll_any_turns (g : Generator σ) {ops ops' : List (Operation × List Pool.Turn)}
    (h : ops.map (·.1) = ops'.map (·.1)) : g.performAll ops = g.performAll ops' := by
  induction ops generalizing g ops' with
  | nil =>
    obtain rfl : ops' = [] := by simpa using h.symm
    rfl
  | cons op ops ih =>
    cases ops' with
    | nil => cases h
    | cons op' ops' =>
      obtain ⟨op, turns⟩ := op
      obtain ⟨op', turns'⟩ := op'
      obtain ⟨rfl, hops⟩ : op = op' ∧ ops.map (·.1) = ops'.map (·.1) := by simpa using h
      calc
        g.performAll ((op, turns) :: ops) = (g.perform turns op).2.performAll ops := rfl
        _ = (g.perform turns' op).2.performAll ops' := by
          rw [snd_perform_any_turns g op turns turns', ih _ hops]

/-- No operation tells the two apart, whatever was done before with either and whatever turns their
pools take: their answers are the same but for the order within a batch. -/
def Indistinguishable (g g' : Generator σ) : Prop :=
  ∀ (ops ops' : List (Operation × List Pool.Turn)) (op : Operation) (turns turns' : List Pool.Turn),
    ops.map (·.1) = ops'.map (·.1) →
      Answer.Agree ((g.performAll ops).perform turns op).1
        ((g'.performAll ops').perform turns' op).1

theorem Indistinguishable.refl (g : Generator σ) : g.Indistinguishable g := by
  intro ops ops' op turns turns' h
  rw [performAll_any_turns g h]
  exact agree_perform _ op turns turns'

/-- Whatever operations have done, broken off or not, the lexicon and the workers are as they were,
and the next operation takes the splits that it tries off the source and nothing else; its answer
is that of a generator whose lock nobody spoiled. -/
theorem perform_after_operations (g : Generator σ) (ops : List (Operation × List Pool.Turn))
    (op : Operation) (turns : List Pool.Turn) :
    let g' := g.performAll ops
    let s := g'.shared.source
    let next := g'.perform turns op
    let unspoiled : Generator σ := ⟨g.lexicon, ⟨s, false⟩, g.workers⟩
    g'.lexicon = g.lexicon ∧ g'.workers = g.workers ∧
    next.2.lexicon = g.lexicon ∧ next.2.workers = g.workers ∧
    (Source.Splits op.splits s → next.2.shared.source = Source.after op.splits s) ∧
    (∀ k < op.splits, Source.Splits k s → (Source.split (Source.after k s)).1 = none →
      next.1 = .sentences (.error .broken) ∧ next.2.shared.source = Source.after (k + 1) s) ∧
    next.1 = (unspoiled.perform turns op).1 ∧
    next.2.shared.source = (unspoiled.perform turns op).2.shared.source ∧
    ∀ turns', Answer.Agree next.1 (unspoiled.perform turns' op).1 := by
  intro g' s next unspoiled
  obtain ⟨hlexicon, hworkers⟩ := performAll_keeps g ops
  have hfresh : unspoiled = g'.fresh := by
    simp only [unspoiled, s, fresh, g', hlexicon, hworkers]
  obtain ⟨hanswer, hsource⟩ := perform_fresh g' op turns
  refine ⟨hlexicon, hworkers, (lexicon_perform ..).trans hlexicon,
    (workers_perform ..).trans hworkers, source_perform_of_splits g' turns, ?_, ?_, ?_, ?_⟩
  · intro k hk h hnone
    exact perform_of_split_none g' turns hk h hnone
  · rw [hfresh]
    exact hanswer.symm
  · rw [hfresh]
    exact hsource.symm
  · intro turns'
    rw [hfresh, (perform_fresh g' op turns').1]
    exact agree_perform g' op turns turns'

theorem perform_after_broken_batch :
    ∃ lx, Lexicon.ofWords Lexicon.small = .ok lx ∧
      let s : Script := { values := [2, 1, 1, 0, 2, 3, 2, 2], brokenSplit := some 2 }
      let g : Generator Script := ⟨lx, ⟨s, false⟩, 2⟩
      let ops : List (Operation × List Pool.Turn) := [(.request (.batch 3), [])]
      (g.perform [] (.request (.batch 3))).1 = .sentences (.error .broken) ∧
      (g.performAll ops).shared = ⟨{ s with splits := 2 }, true⟩ ∧
      ((g.performAll ops).perform [] (.request .sentence)).2.shared.source =
        { s with splits := 3 } ∧
      Answer.Agree ((g.performAll ops).perform [] (.request .sentence)).1
        ((⟨lx, ⟨{ s with splits := 2 }, false⟩, 2⟩ : Generator Script).perform []
          (.request .sentence)).1 := by
  refine ⟨_, rfl, ?_⟩
  intro s g ops
  have hbatch := (perform_after_operations g [] (.request (.batch 3)) []).2.2.2.2.2.1 1
    (by decide) (by unfold Source.Splits; decide) rfl
  have hsentence := perform_after_operations g ops (.request .sentence) []
  obtain ⟨-, -, -, -, hsource, -, -, -, hagree⟩ := hsentence
  exact ⟨hbatch.1, rfl, hsource (by unfold Source.Splits; decide), hagree []⟩

end Generator

end TokiSentences
