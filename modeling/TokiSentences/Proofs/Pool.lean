import Mathlib.Data.List.Perm.Basic
import TokiSentences.Lexicon.Samples
import TokiSentences.Pool
import TokiSentences.Proofs.Interleaving
import TokiSentences.Proofs.Stock
import TokiSentences.Source.Script

namespace TokiSentences

inductive Agree : Except Stop (List Sentence) → Except Stop (List Sentence) → Prop
  | ok : xs.Perm ys → Agree (.ok xs) (.ok ys)
  | error : Agree (.error e) (.error e)

theorem Agree.refl (r : Except Stop (List Sentence)) : Agree r r := by
  cases r with
  | ok xs => exact .ok (.refl xs)
  | error e => exact .error

theorem perm_of_map_ok {xs ys : List Sentence}
    (h : (xs.map (.ok : Sentence → Except Stop Sentence)).Perm (ys.map .ok)) : xs.Perm ys :=
  (List.map_perm_map_iff fun _ _ heq => Except.ok.inj heq).1 h

namespace Pool

theorem flatten_chunks {size : Nat} (hs : 0 < size) (xs : List α) :
    (chunks size xs).flatten = xs := by
  fun_induction chunks size xs with
  | case1 xs h =>
    obtain rfl : xs = [] := h.resolve_right (Nat.pos_iff_ne_zero.1 hs)
    rfl
  | case2 xs _ ih => rw [List.flatten_cons, ih, List.take_append_drop]

theorem length_chunks_le (size : Nat) (xs : List α) : (chunks size xs).length ≤ xs.length := by
  fun_induction chunks size xs with
  | case1 xs h => exact Nat.zero_le _
  | case2 xs h ih =>
    have hx : 0 < xs.length := List.length_pos_iff.2 fun hx => h (.inl hx)
    have hs : size ≠ 0 := fun hs => h (.inr hs)
    rw [List.length_drop] at ih
    rw [List.length_cons]
    omega

theorem chunkSize_pos (asked : Nat) {count : Nat} (h : 0 < count) : 0 < chunkSize asked count := by
  have hw : 0 < workerCount asked count := by
    unfold workerCount
    omega
  exact Nat.div_pos (by omega) hw

theorem chunks_of_asked_le_one {asked : Nat} (ha : asked ≤ 1) {xs : List α} (hx : xs ≠ []) :
    chunks (chunkSize asked xs.length) xs = [xs] := by
  have hlen : 0 < xs.length := List.length_pos_iff.2 hx
  have hw : workerCount asked xs.length = 1 := by
    unfold workerCount
    omega
  have hsize : chunkSize asked xs.length = xs.length := by
    rw [chunkSize, hw]
    simp
  rw [hsize, chunks, if_neg (by simp [hx]), List.take_length, List.drop_length, chunks,
    if_pos (.inl rfl)]

theorem work_ofSources_le (asked : Nat) (sources : List σ) :
    (ofSources asked sources).work ≤ 2 * sources.length + 1 := by
  by_cases h : sources = []
  · subst h
    simp [ofSources, work]
  · have hsize := chunkSize_pos asked (List.length_pos_iff.2 h)
    have hle := length_chunks_le (chunkSize asked sources.length) sources
    simp only [ofSources, List.isEmpty_iff, h, if_false, work, List.nil_append,
      flatten_chunks hsize, Bool.false_eq_true]
    omega

def left (p : Pool σ) : List (List σ) := p.queues ++ p.waiting

theorem getElem?_left {p : Pool σ} {i : Nat} {q : List σ} (h : p.queues[i]? = some q) :
    p.left[i]? = some q := by
  rw [left, List.getElem?_append_left (List.getElem?_eq_some_iff.1 h).1, h]

theorem set_left {p : Pool σ} {i : Nat} {q : List σ} (h : p.queues[i]? = some q) (q' : List σ) :
    p.queues.set i q' ++ p.waiting = p.left.set i q' := by
  rw [left, List.set_append_left _ _ (List.getElem?_eq_some_iff.1 h).1]

theorem next?_eq_none {p : Pool σ} (h : p.next? = none) : p.channel.closed := by
  unfold next? at h
  split at h
  · assumption
  · split at h <;> cases h

theorem collect_map_ok (xs : List Sentence) : collect (xs.map .ok) = .ok xs := by
  induction xs with
  | nil => rfl
  | cons x xs ih =>
    rw [List.map_cons, collect, ih]
    rfl

section

variable (lx : Lexicon) [Source σ]

inductive Move (p : Pool σ) : Pool σ → Prop
  | stay : Move p p
  | start : p.waiting = chunk :: rest →
      Move p { p with waiting := rest, queues := p.queues ++ [chunk] }
  | close : (∀ q ∈ p.left, q = []) → Move p { p with channel := { p.channel with closed := true } }
  | hand : p.queues[i]? = some (s :: queue) → lx.sentenceFrom s = .ok x →
      p.channel.closed = false →
      Move p { p with
        queues := p.queues.set i queue
        channel := { p.channel with sent := p.channel.sent ++ [.ok x] } }
  | refuse : p.queues[i]? = some (s :: queue) → p.channel.closed →
      Move p { p with queues := p.queues.set i [] }
  | breakOff : p.queues[i]? = some (s :: queue) → lx.sentenceFrom s = .error .broken →
      Move p { p with queues := p.queues.set i [], broken := true }

theorem move_step (p : Pool σ) (t : Turn) : Move lx p (p.step lx t) := by
  cases t with
  | owner =>
    simp only [step, stepOwner]
    split
    · rename_i chunk rest hw
      exact .start hw
    · rename_i hw
      split
      · rename_i hall
        apply Move.close
        simpa [left, hw, List.isEmpty_iff] using hall
      · exact .stay
  | worker i =>
    simp only [step, stepWorker]
    split
    · rename_i s queue hq
      split
      · rename_i x hx
        by_cases hc : p.channel.closed
        · simp only [hand, Channel.send, if_pos hc]
          exact .refuse hq hc
        · simp only [hand, Channel.send, if_neg hc]
          exact .hand hq hx (by simpa using hc)
      · rename_i v hv
        exact absurd hv (lx.sentenceFrom_ne_violation s v)
      · rename_i hb
        exact .breakOff hq hb
    · exact .stay

def outcomes (qs : List (List σ)) : List (List (Except Stop Sentence)) :=
  qs.map (·.map lx.sentenceFrom)

/-- What holds of a pool of these sources, whatever turns it has taken. -/
structure Sound (asked : Nat) (sources : List σ) (p : Pool σ) : Prop where
  wanted : p.wanted = sources.length
  mem : ∀ q ∈ p.left, ∀ s ∈ q, s ∈ sources
  quiet : p.channel.closed → ∀ q ∈ p.left, q = []
  blamed : p.broken → ∃ s ∈ sources, lx.sentenceFrom s = .error .broken
  /-- What was sent goes on, in any order of what is left, to what the chunks make. -/
  ordered : p.broken = false → ∃ xs : List Sentence, p.channel.sent = xs.map .ok ∧
    ∀ rs, Interleaved (outcomes lx p.left) rs →
      Interleaved (outcomes lx (chunks (chunkSize asked sources.length) sources))
        (xs.map .ok ++ rs)

variable {lx} {asked : Nat} {sources : List σ}

theorem sound_ofSources : Sound lx asked sources (ofSources asked sources) := by
  by_cases h : sources = []
  · subst h
    refine ⟨rfl, by simp [ofSources, left], fun _ => by simp [ofSources, left], by simp [ofSources],
      fun _ => ⟨[], by simp [ofSources], ?_⟩⟩
    simp [ofSources, left, outcomes, chunks]
  · have hof : ofSources asked sources =
        { wanted := sources.length
          waiting := chunks (chunkSize asked sources.length) sources } := by
      simp [ofSources, h]
    have hsize : 0 < chunkSize asked sources.length := chunkSize_pos asked (List.length_pos_iff.2 h)
    rw [hof]
    refine ⟨rfl, ?_, by simp, by simp, fun _ => ⟨[], rfl, fun rs hrs => hrs⟩⟩
    intro q hq s hs
    rw [← flatten_chunks hsize sources]
    exact List.mem_flatten.2 ⟨q, by simpa [left] using hq, hs⟩

theorem Sound.move {p p' : Pool σ} (h : Sound lx asked sources p) (hm : Move lx p p') :
    Sound lx asked sources p' := by
  cases hm with
  | stay => exact h
  | @start chunk rest hw =>
    have hleft : p.queues ++ [chunk] ++ rest = p.left := by simp [left, hw]
    refine ⟨h.wanted, ?_, ?_, h.blamed, ?_⟩ <;> simp only [left, hleft]
    · exact h.mem
    · exact h.quiet
    · exact h.ordered
  | close hq => exact ⟨h.wanted, h.mem, fun _ => hq, h.blamed, h.ordered⟩
  | @hand i s queue x hi hx hc =>
    have hleft : p.left[i]? = some (s :: queue) := getElem?_left hi
    have hmem : ∀ s' ∈ s :: queue, s' ∈ sources := h.mem _ (List.mem_of_getElem? hleft)
    refine ⟨h.wanted, ?_, ?_, h.blamed, ?_⟩
    · rw [left, set_left hi]
      exact forall_mem_set h.mem fun s' hs' => hmem s' (List.mem_cons_of_mem s hs')
    · intro hc'
      exact absurd hc' (by simp [hc])
    · intro hb
      obtain ⟨xs, hsent, hxs⟩ := h.ordered hb
      refine ⟨xs ++ [x], by simp [hsent], ?_⟩
      intro rs hrs
      rw [left, set_left hi, outcomes, List.map_set] at hrs
      -- what was sent was the first of what its chunk had left to make
      have hcons : Interleaved (outcomes lx p.left) (.ok x :: rs) :=
        .cons (i := i) (q := queue.map lx.sentenceFrom) (by simp [outcomes, hleft, hx]) hrs
      simpa using hxs _ hcons
  | @refuse i s queue hi hc =>
    exact absurd (h.quiet hc _ (List.mem_of_getElem? (getElem?_left hi))) (by simp)
  | @breakOff i s queue hi hb =>
    have hleft : p.left[i]? = some (s :: queue) := getElem?_left hi
    refine ⟨h.wanted, ?_, ?_, ?_, ?_⟩
    · rw [left, set_left hi]
      exact forall_mem_set h.mem (by simp)
    · intro hc
      exact absurd (h.quiet hc _ (List.mem_of_getElem? hleft)) (by simp)
    · intro _
      exact ⟨s, h.mem _ (List.mem_of_getElem? hleft) s (by simp), hb⟩
    · intro hb
      cases hb

theorem Sound.advance {p : Pool σ} (h : Sound lx asked sources p) (turns : List Turn) :
    Sound lx asked sources (p.advance lx turns) := by
  induction turns generalizing p with
  | nil => exact h
  | cons t turns ih => exact ih (h.move (move_step lx p t))

theorem stepWorker_shortens (lx : Lexicon) {p : Pool σ} {i : Nat} {s : σ} {queue : List σ}
    (h : p.queues[i]? = some (s :: queue)) :
    ∃ q' : List σ, q'.length ≤ queue.length ∧ (p.stepWorker lx i).queues = p.queues.set i q' ∧
      (p.stepWorker lx i).waiting = p.waiting ∧
      (p.stepWorker lx i).channel.closed = p.channel.closed := by
  have hhand (r) : ∃ q' : List σ, q'.length ≤ queue.length ∧
      (p.hand i queue r).queues = p.queues.set i q' ∧ (p.hand i queue r).waiting = p.waiting ∧
      (p.hand i queue r).channel.closed = p.channel.closed := by
    by_cases hc : p.channel.closed
    · exact ⟨[], Nat.zero_le _, by simp [hand, Channel.send, hc]⟩
    · exact ⟨queue, Nat.le_refl _, by simp [hand, Channel.send, hc]⟩
  rw [stepWorker, h]
  dsimp only
  split
  · exact hhand _
  · exact hhand _
  · exact ⟨[], Nat.zero_le _, rfl, rfl, rfl⟩

theorem work_step_lt (lx : Lexicon) {p : Pool σ} {t : Turn} (h : p.next? = some t) :
    (p.step lx t).work < p.work := by
  unfold next? at h
  split at h
  · cases h
  · rename_i hc
    split at h
    · rename_i chunk rest hw
      cases h
      simp [step, stepOwner, work, hw]
    · rename_i hw
      cases hi : p.queues.findIdx? (!·.isEmpty) with
      | none =>
        have hall : p.queues.all (·.isEmpty) := by simpa using hi
        rw [hi] at h
        cases h
        simp [step, stepOwner, work, hw, hall, hc]
      | some i =>
        rw [hi] at h
        cases h
        obtain ⟨hlt, hne, -⟩ := List.findIdx?_eq_some_iff_getElem.1 hi
        have hq : ∃ s queue, p.queues[i]? = some (s :: queue) := by
          rw [List.getElem?_eq_getElem hlt]
          cases hcons : p.queues[i] with
          | nil => simp [hcons] at hne
          | cons s queue => exact ⟨s, queue, rfl⟩
        obtain ⟨s, queue, hq⟩ := hq
        obtain ⟨q', hlen, hqueues, hwaiting, hclosed⟩ := stepWorker_shortens lx hq
        have hflat := length_flatten_set hq q'
        simp only [step, Option.elim, work, hqueues, hwaiting, hclosed, hw, List.append_nil,
          List.length_cons] at hflat ⊢
        omega

theorem closed_finish (p : Pool σ) (turns : List Turn) :
    (p.finish lx turns).channel.closed :=
  next?_eq_none (next?_turnsFor (fun _ _ h => work_step_lt lx h) (Nat.le_refl _))

theorem flatten_outcomes_chunks (asked : Nat) :
    (outcomes lx (chunks (chunkSize asked sources.length) sources)).flatten =
      sources.map lx.sentenceFrom := by
  rw [outcomes, ← List.map_flatten]
  by_cases h : sources = []
  · subst h
    simp [chunks]
  · rw [flatten_chunks (chunkSize_pos asked (List.length_pos_iff.2 h))]

theorem Sound.result {p : Pool σ} (h : Sound lx asked sources p) (hc : p.channel.closed) :
    (p.result = .error .broken ∧ ∃ s ∈ sources, lx.sentenceFrom s = .error .broken) ∨
      ∃ xs : List Sentence, p.result = .ok xs ∧
        Interleaved (outcomes lx (chunks (chunkSize asked sources.length) sources))
          (xs.map .ok) := by
  cases hb : p.broken with
  | true => exact .inl ⟨by simp [Pool.result, hb], h.blamed hb⟩
  | false =>
    obtain ⟨xs, hsent, hxs⟩ := h.ordered hb
    have hdone : Interleaved (outcomes lx p.left) [] := by
      apply Interleaved.nil
      intro q hq
      obtain ⟨chunk, hchunk, rfl⟩ := List.mem_map.1 hq
      rw [h.quiet hc chunk hchunk, List.map_nil]
    have hall := hxs [] hdone
    rw [List.append_nil] at hall
    have hlen : xs.length = p.wanted := by
      have := hall.perm.length_eq
      rw [flatten_outcomes_chunks] at this
      simpa [h.wanted] using this
    exact .inr ⟨xs, by simp [Pool.result, hb, hsent, collect_map_ok, hlen], hall⟩

theorem generate_cases (lx : Lexicon) (asked : Nat) (sources : List σ) (turns : List Turn) :
    (generate lx asked turns sources = .error .broken ∧
        ∃ s ∈ sources, lx.sentenceFrom s = .error .broken) ∨
      ∃ xs : List Sentence, generate lx asked turns sources = .ok xs ∧
        Interleaved (outcomes lx (chunks (chunkSize asked sources.length) sources))
          (xs.map .ok) :=
  ((sound_ofSources.advance turns).advance _).result (closed_finish _ turns)

theorem perm_of_interleaved {xs : List Sentence}
    (h : Interleaved (outcomes lx (chunks (chunkSize asked sources.length) sources)) (xs.map .ok)) :
    (xs.map .ok).Perm (sources.map lx.sentenceFrom) := by
  rw [← flatten_outcomes_chunks asked]
  exact h.perm

theorem ne_broken_of_perm {xs : List Sentence}
    (h : (xs.map .ok).Perm (sources.map lx.sentenceFrom)) :
    ∀ s ∈ sources, lx.sentenceFrom s ≠ .error .broken := by
  intro s hs hb
  have hmem : lx.sentenceFrom s ∈ xs.map .ok := h.mem_iff.2 (List.mem_map_of_mem hs)
  rw [hb] at hmem
  simp at hmem

theorem generate_ok (asked : Nat) (hok : ∀ s ∈ sources, lx.sentenceFrom s ≠ .error .broken)
    (turns : List Turn) : ∃ xs : List Sentence, generate lx asked turns sources = .ok xs ∧
      Interleaved (outcomes lx (chunks (chunkSize asked sources.length) sources)) (xs.map .ok) := by
  rcases generate_cases lx asked sources turns with ⟨-, s, hs, hb⟩ | h
  · exact absurd hb (hok s hs)
  · exact h

theorem generate_broken (hb : ∃ s ∈ sources, lx.sentenceFrom s = .error .broken)
    (turns : List Turn) : generate lx asked turns sources = .error .broken := by
  rcases generate_cases lx asked sources turns with ⟨h, -⟩ | ⟨xs, -, h⟩
  · exact h
  · obtain ⟨s, hs, hb⟩ := hb
    exact absurd hb (ne_broken_of_perm (perm_of_interleaved h) s hs)

theorem agree_generate (asked asked' : Nat) (turns turns' : List Turn) (sources : List σ) :
    Agree (generate lx asked turns sources) (generate lx asked' turns' sources) := by
  by_cases hok : ∀ s ∈ sources, lx.sentenceFrom s ≠ .error .broken
  · obtain ⟨xs, hxs, h⟩ := generate_ok asked hok turns
    obtain ⟨ys, hys, h'⟩ := generate_ok asked' hok turns'
    rw [hxs, hys]
    exact .ok (perm_of_map_ok ((perm_of_interleaved h).trans (perm_of_interleaved h').symm))
  · have hb : ∃ s ∈ sources, lx.sentenceFrom s = .error .broken := by simpa using hok
    rw [generate_broken hb, generate_broken hb]
    exact .error

theorem generate_one {asked : Nat} (ha : asked ≤ 1)
    (hok : ∀ s ∈ sources, lx.sentenceFrom s ≠ .error .broken) (turns : List Turn) :
    ∃ xs : List Sentence, generate lx asked turns sources = .ok xs ∧
      xs.map .ok = sources.map lx.sentenceFrom := by
  obtain ⟨xs, hxs, h⟩ := generate_ok asked hok turns
  refine ⟨xs, hxs, ?_⟩
  by_cases hs : sources = []
  · subst hs
    simpa using perm_of_interleaved h
  · rw [chunks_of_asked_le_one ha hs] at h
    exact h.eq_of_singleton

theorem generate_one_any_turns {asked : Nat} (ha : asked ≤ 1) (turns turns' : List Turn)
    (sources : List σ) : generate lx asked turns sources = generate lx asked turns' sources := by
  by_cases hok : ∀ s ∈ sources, lx.sentenceFrom s ≠ .error .broken
  · obtain ⟨xs, hxs, h⟩ := generate_one ha hok turns
    obtain ⟨ys, hys, h'⟩ := generate_one ha hok turns'
    obtain rfl : xs = ys := List.map_injective_iff.2 (fun _ _ => Except.ok.inj) (h.trans h'.symm)
    rw [hxs, hys]
  · have hb : ∃ s ∈ sources, lx.sentenceFrom s = .error .broken := by simpa using hok
    rw [generate_broken hb, generate_broken hb]

/-- Whatever the turns and however many the workers, a pool makes one sentence from each source,
those of each chunk in their order, or breaks off when one of its sources does. -/
theorem generate_any_turns (lx : Lexicon) (asked : Nat) (sources : List σ) :
    ((∀ s ∈ sources, lx.sentenceFrom s ≠ .error .broken) → ∀ turns, ∃ xs : List Sentence,
      generate lx asked turns sources = .ok xs ∧
      (xs.map .ok).Perm (sources.map lx.sentenceFrom) ∧
      Interleaved (outcomes lx (chunks (chunkSize asked sources.length) sources)) (xs.map .ok) ∧
      (asked ≤ 1 → xs.map .ok = sources.map lx.sentenceFrom)) ∧
    ((∃ s ∈ sources, lx.sentenceFrom s = .error .broken) → ∀ turns,
      generate lx asked turns sources = .error .broken) ∧
    (∀ turns v, generate lx asked turns sources ≠ .error (.violation v)) ∧
    (∀ turns (i : Nat) (s : σ) (queue : List σ) r,
      ((ofSources asked sources).advance lx turns).queues[i]? = some (s :: queue) →
      (((ofSources asked sources).advance lx turns).channel.send r).isSome) ∧
    ∀ asked' turns turns',
      Agree (generate lx asked turns sources) (generate lx asked' turns' sources) := by
  refine ⟨?_, generate_broken, ?_, ?_, ?_⟩
  · intro hok turns
    obtain ⟨xs, hxs, h⟩ := generate_ok asked hok turns
    refine ⟨xs, hxs, perm_of_interleaved h, h, ?_⟩
    intro ha
    by_cases hs : sources = []
    · subst hs
      simpa using perm_of_interleaved h
    · rw [chunks_of_asked_le_one ha hs] at h
      exact h.eq_of_singleton
  · intro turns v hv
    rcases generate_cases lx asked sources turns with ⟨h, -⟩ | ⟨xs, h, -⟩
    · rw [h] at hv
      cases hv
    · rw [h] at hv
      cases hv
  · intro turns i s queue r hq
    have hsound : Sound lx asked sources ((ofSources asked sources).advance lx turns) :=
      sound_ofSources.advance turns
    have hopen : ((ofSources asked sources).advance lx turns).channel.closed = false := by
      cases hc : ((ofSources asked sources).advance lx turns).channel.closed with
      | false => rfl
      | true =>
        exact absurd (hsound.quiet hc _ (List.mem_of_getElem? (getElem?_left hq))) (by simp)
    simp [Channel.send, hopen]
  · intro asked' turns turns'
    exact agree_generate asked asked' turns turns' sources

theorem generate_second_worker_first :
    ∃ lx, Lexicon.ofWords Lexicon.small = .ok lx ∧
      let sources : List Script :=
        [{ values := [2, 1, 1, 0, 2, 3, 2, 2] }, { values := [0] }, { values := [1, 2] }]
      let turns := [.owner, .owner, .worker 1, .worker 0]
      (∃ xs : List Sentence, generate lx 3 turns sources = .ok xs ∧
        (xs.map .ok).Perm (sources.map lx.sentenceFrom)) ∧
      generate lx 3 turns (sources ++ [{ values := [2, 1], brokenDraw := some 3 }]) =
        .error .broken := by
  refine ⟨_, rfl, ?_⟩
  intro sources turns
  refine ⟨?_, (generate_any_turns _ 3 _).2.1 (by decide) turns⟩
  exact ((generate_any_turns _ 3 sources).1 (by decide) turns).imp fun _ h => ⟨h.1, h.2.1⟩

end

end Pool

end TokiSentences
