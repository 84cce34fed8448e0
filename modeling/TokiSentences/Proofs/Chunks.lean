import Mathlib.Algebra.Order.Floor.Div
import TokiSentences.Proofs.Pool

namespace TokiSentences.Pool

structure Dealing (σ : Type) where
  rest : List σ
  dealt : List (List σ) := []
  deriving DecidableEq

def Dealing.round (size : Nat) (d : Dealing σ) : Dealing σ :=
  if d.rest = [] then d else ⟨d.rest.drop size, d.dealt ++ [d.rest.take size]⟩

def Dealing.after (size rounds : Nat) (xs : List σ) : Dealing σ :=
  (round size)^[rounds] { rest := xs }

section

variable {size : Nat} (hs : 0 < size)

include hs

theorem getElem?_chunks (xs : List α) (i : Nat) : (chunks size xs)[i]? =
    if i * size < xs.length then some ((xs.drop (i * size)).take size) else none := by
  induction i generalizing xs with
  | zero =>
    rw [chunks]
    cases xs <;> simp [hs.ne']
  | succ i ih =>
    rw [chunks]
    split
    next h =>
      obtain rfl : xs = [] := h.resolve_right hs.ne'
      simp
    next h =>
      have hlt : i * size < (xs.drop size).length ↔ (i + 1) * size < xs.length := by
        rw [List.length_drop, Nat.add_one_mul]
        omega
      rw [List.getElem?_cons_succ, ih, List.drop_drop, Nat.add_comm size, ← Nat.add_one_mul]
      simp only [hlt]

theorem length_chunks (xs : List α) : (chunks size xs).length = xs.length ⌈/⌉ size := by
  apply eq_of_forall_ge_iff
  intro i
  rw [← List.getElem?_eq_none_iff, getElem?_chunks hs, ceilDiv_le_iff_le_mul hs, Nat.mul_comm]
  simp

theorem chunk_bounds {xs : List α} {i : Nat} {chunk : List α}
    (h : (chunks size xs)[i]? = some chunk) : chunk ≠ [] ∧ chunk.length ≤ size ∧
      (i + 1 < (chunks size xs).length → chunk.length = size) := by
  rw [getElem?_chunks hs] at h
  split at h
  next hlt =>
    obtain rfl : (xs.drop (i * size)).take size = chunk := Option.some.inj h
    have hlen : ((xs.drop (i * size)).take size).length = min size (xs.length - i * size) := by
      rw [List.length_take, List.length_drop]
    refine ⟨?_, by omega, ?_⟩
    · rw [← List.length_pos_iff]
      omega
    · intro hnext
      rw [length_chunks hs, ← not_le, ceilDiv_le_iff_le_mul hs, not_le, Nat.mul_comm,
        Nat.add_one_mul] at hnext
      omega
  next => cases h

theorem Dealing.after_eq (xs : List σ) (rounds : Nat) : Dealing.after size rounds xs =
    { rest := xs.drop (rounds * size), dealt := (chunks size xs).take rounds } := by
  induction rounds with
  | zero => simp [after]
  | succ n ih =>
    have hnext : after size (n + 1) xs = (after size n xs).round size :=
      Function.iterate_succ_apply' ..
    rw [hnext, ih, round, List.take_add_one, getElem?_chunks hs, Nat.add_one_mul, ← List.drop_drop]
    by_cases h : n * size < xs.length
    · have hrest : xs.drop (n * size) ≠ [] := by simpa using h
      simp [hrest, h]
    · have hrest : xs.drop (n * size) = [] := by simpa using h
      simp [hrest, h]

theorem Dealing.rest_after_eq_nil_iff (xs : List σ) (rounds : Nat) :
    (Dealing.after size rounds xs).rest = [] ↔ xs.length ⌈/⌉ size ≤ rounds := by
  rw [after_eq hs, List.drop_eq_nil_iff, ceilDiv_le_iff_le_mul hs, Nat.mul_comm]

end

theorem chunkSize_eq_ceilDiv (asked count : Nat) :
    chunkSize asked count = count ⌈/⌉ workerCount asked count := rfl

theorem ceilDiv_chunkSize_le (asked : Nat) {count : Nat} (h : 0 < count) :
    count ⌈/⌉ chunkSize asked count ≤ workerCount asked count := by
  have hw : 0 < workerCount asked count := by
    unfold workerCount
    omega
  rw [ceilDiv_le_iff_le_mul (chunkSize_pos asked h), chunkSize_eq_ceilDiv, Nat.mul_comm,
    ← ceilDiv_le_iff_le_mul hw]

/-- Workers are set to the chunks in order, each to one of its own. -/
structure Posted (posts : List (List σ)) (p : Pool σ) : Prop where
  waiting : p.waiting = posts.drop p.queues.length
  bounded : p.queues.length ≤ posts.length

section

variable [Source σ] {lx : Lexicon} {posts : List (List σ)} {p p' : Pool σ}

theorem Posted.move (h : Posted posts p) (hm : Move lx p p') : Posted posts p' := by
  cases hm with
  | stay => exact h
  | close => exact ⟨h.waiting, h.bounded⟩
  | @start chunk rest hw =>
    have hdrop := h.waiting
    rw [hw] at hdrop
    have hlt : p.queues.length < posts.length := by
      have := congrArg List.length hdrop
      rw [List.length_cons, List.length_drop] at this
      omega
    refine ⟨?_, by simpa using Nat.succ_le_of_lt hlt⟩
    rw [List.drop_eq_getElem_cons hlt] at hdrop
    simpa using (List.cons.inj hdrop).2
  | hand | refuse | breakOff =>
    exact ⟨by simpa using h.waiting, by simpa using h.bounded⟩

theorem Posted.advance (h : Posted posts p) (turns : List Turn) :
    Posted posts (p.advance lx turns) := by
  induction turns generalizing p with
  | nil => exact h
  | cons t turns ih => exact ih (h.move (move_step lx p t))

end

theorem Posted.length_queues {posts : List (List σ)} {p : Pool σ} (h : Posted posts p)
    (hne : ∀ q ∈ posts, q ≠ []) (hquiet : ∀ q ∈ p.left, q = []) :
    p.queues.length = posts.length := by
  have hwaiting : p.waiting = [] := by
    apply List.eq_nil_iff_forall_not_mem.2
    intro q hq
    have hmem : q ∈ posts := List.mem_of_mem_drop (h.waiting ▸ hq)
    exact hne q hmem (hquiet q (List.mem_append_right _ hq))
  have hdrop := h.waiting
  rw [hwaiting, eq_comm, List.drop_eq_nil_iff] at hdrop
  exact Nat.le_antisymm h.bounded hdrop

theorem posted_ofSources (asked : Nat) (sources : List σ) :
    Posted (ofSources asked sources).waiting (ofSources asked sources) := by
  have hqueues : (ofSources asked sources).queues = [] := by
    unfold ofSources
    split <;> rfl
  exact ⟨by simp [hqueues], by simp [hqueues]⟩

theorem waiting_ofSources (asked : Nat) {sources : List σ} (h : 0 < sources.length) :
    (ofSources asked sources).waiting = chunks (chunkSize asked sources.length) sources := by
  have hne : sources ≠ [] := List.length_pos_iff.1 h
  simp [ofSources, hne]

/-- Sources are dealt out in as many rounds as it takes chunks of their size to hold them all. The
chunks are the sources in order, none is empty or too large, and all but the last are full. There
are no more of them than workers, so no more workers are ever set to work than there may be; in the
end each chunk has had one. -/
theorem dealt_to_workers (asked : Nat) {sources : List σ} (h : 0 < sources.length) :
    let count := sources.length
    let workers := min (max asked 1) count
    let size := count ⌈/⌉ workers
    let dealt := (ofSources asked sources).waiting
    (∀ rounds, (Dealing.after size rounds sources).dealt = dealt.take rounds ∧
      ((Dealing.after size rounds sources).rest = [] ↔ dealt.length ≤ rounds)) ∧
    dealt.flatten = sources ∧
    (∀ i chunk, dealt[i]? = some chunk →
      chunk ≠ [] ∧ chunk.length ≤ size ∧ (i + 1 < dealt.length → chunk.length = size)) ∧
    dealt.length = count ⌈/⌉ size ∧ dealt.length ≤ workers ∧
    ∀ [Source σ] (lx : Lexicon) (turns : List Turn),
      ((ofSources asked sources).advance lx turns).queues.length ≤ workers ∧
      ((ofSources asked sources).finish lx turns).queues.length = dealt.length := by
  intro count workers size dealt
  have hs : 0 < size := chunkSize_pos asked h
  have hdealt : dealt = chunks size sources := waiting_ofSources asked h
  have hlen : dealt.length = count ⌈/⌉ size := by rw [hdealt, length_chunks hs]
  have hle : dealt.length ≤ workers := hlen ▸ ceilDiv_chunkSize_le asked h
  have hbounds (i : Nat) (chunk : List σ) (hi : dealt[i]? = some chunk) :
      chunk ≠ [] ∧ chunk.length ≤ size ∧ (i + 1 < dealt.length → chunk.length = size) := by
    rw [hdealt] at hi ⊢
    exact chunk_bounds hs hi
  refine ⟨?rounds, ?_, hbounds, hlen, hle, ?workers⟩
  case rounds =>
    intro rounds
    refine ⟨?_, by rw [hlen, Dealing.rest_after_eq_nil_iff hs]⟩
    rw [Dealing.after_eq hs, hdealt]
  · rw [hdealt, flatten_chunks hs]
  case workers =>
    intro _ lx turns
    have hposted : Posted dealt ((ofSources asked sources).advance lx turns) :=
      (posted_ofSources asked sources).advance turns
    have hsound : Sound lx asked sources ((ofSources asked sources).finish lx turns) :=
      (sound_ofSources.advance turns).advance _
    refine ⟨hposted.bounded.trans hle, (hposted.advance _).length_queues ?_ ?_⟩
    · intro chunk hchunk
      obtain ⟨i, hi⟩ := List.getElem?_of_mem hchunk
      exact (hbounds i chunk hi).1
    · exact hsound.quiet (closed_finish _ turns)

theorem dealt_to_workers_seven :
    let sources : List Script := List.replicate 7 { values := [0] }
    let dealt (asked : Nat) := (ofSources asked sources).waiting
    (dealt 3).map List.length = [3, 3, 1] ∧ (dealt 3).flatten = sources ∧
      (Dealing.after 3 3 sources).rest = [] ∧ (dealt 6).length = 4 ∧ (dealt 6).length ≤ 6 ∧
      ∀ (lx : Lexicon) (turns : List Turn),
        ((ofSources 6 sources).finish lx turns).queues.length = 4 := by
  intro sources dealt
  obtain ⟨hrounds, hflatten, -⟩ := dealt_to_workers 3 (by decide : 0 < sources.length)
  obtain ⟨-, -, -, hlen, hle, hposts⟩ := dealt_to_workers 6 (by decide : 0 < sources.length)
  have hthree : sources.length ⌈/⌉ min (max 3 1) sources.length = 3 := by decide +kernel
  have hfour : (dealt 6).length = 4 := hlen.trans (by decide +kernel)
  refine ⟨by decide +kernel, hflatten, ?_, hfour, hle, ?_⟩
  · rw [hthree] at hrounds
    exact (hrounds 3).2.2 (by decide +kernel)
  · intro lx turns
    exact (hposts lx turns).2.trans hfour

end TokiSentences.Pool
