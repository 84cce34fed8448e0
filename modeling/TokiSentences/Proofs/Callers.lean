import TokiSentences.Generator.Callers
import TokiSentences.Proofs.Generator

namespace TokiSentences

def Request.total (queues : List (List Request)) : Nat :=
  TokiSentences.total (TokiSentences.total Request.count) queues

theorem Request.total_of_getElem? {queues : List (List Request)}
    (h : queues[i]? = some (r :: queue)) :
    Request.total queues = r.count + Request.total (queues.set i queue) := by
  have hset := total_set (TokiSentences.total Request.count) h queue
  simp only [total, TokiSentences.total] at hset ⊢
  omega

theorem Request.total_eq_zero {queues : List (List Request)} (h : ∀ q ∈ queues, q = []) :
    Request.total queues = 0 := by
  induction queues with
  | nil => rfl
  | cons q queues ih =>
    obtain rfl : q = [] := h q List.mem_cons_self
    exact (Nat.zero_add _).trans (ih fun q hq => h q (List.mem_cons_of_mem _ hq))

theorem Caller.work_receive_le (k : Caller σ) (r : Except Stop (List Sentence)) :
    (k.receive r).work ≤ total Request.work k.queue := by
  simp only [work, receive, Option.elim, Nat.zero_add]
  split
  · exact Nat.zero_le _
  · exact Nat.le_refl _

theorem Callers.work_set_lt {c : Callers σ} {k k' : Caller σ} (hk : c.callers[i]? = some k)
    (hlt : k'.work < k.work) (g : Generator σ) :
    (⟨g, c.callers.set i k'⟩ : Callers σ).work < c.work := by
  have hset := total_set Caller.work hk k'
  simp only [work]
  omega

theorem Callers.idle_of_next?_eq_none {c : Callers σ} (h : c.next? = none) :
    ∀ k ∈ c.callers, k.task = none ∧ k.queue = [] := by
  intro k hk
  obtain ⟨i, hi⟩ := List.mem_iff_getElem?.1 hk
  have hnone := List.findSome?_eq_none_iff.1 h (k, i) (List.mk_mem_zipIdx_iff_getElem?.2 hi)
  rw [Option.map_eq_none_iff] at hnone
  obtain ⟨queue, task, answers⟩ := k
  cases task with
  | none =>
    cases queue with
    | nil => exact ⟨rfl, rfl⟩
    | cons r queue => cases hnone
  | some task => cases task <;> cases hnone

variable [Source σ]

structure Call (σ : Type) where
  request : Request
  sources : List σ
  answer : Except Stop (List Sentence)

/-- A call that was given a source for each sentence and used each once. -/
structure Call.Served (lx : Lexicon) (call : Call σ) : Prop where
  length_sources : call.sources.length = call.request.count
  answer : ∃ xs : List Sentence, call.answer = .ok xs ∧
    (xs.map .ok).Perm (call.sources.map lx.sentenceFrom)

/-- A caller with its calls: those that are answered, and what the one under way was given. -/
structure Book (σ : Type) where
  caller : Caller σ
  calls : List (Call σ) := []
  pending : Option (Request × List σ) := none

inductive Underway (lx : Lexicon) (workers : Nat) :
    Option (Request × List σ) → Option (Task σ) → Prop
  | idle : Underway lx workers none none
  | single : lx.sentenceFrom s ≠ .error .broken →
      Underway lx workers (some (.sentence, [s])) (some (.single s))
  | batch : (∀ s ∈ sources, lx.sentenceFrom s ≠ .error .broken) →
      Pool.Sound lx workers sources p →
      Underway lx workers (some (.batch sources.length, sources)) (some (.batch p))

theorem Underway.pending_eq_none {lx : Lexicon} {pending : Option (Request × List σ)}
    (h : Underway lx workers pending none) : pending = none := by
  cases h
  rfl

namespace Book

def requests (b : Book σ) : List Request :=
  b.calls.map Call.request ++ b.pending.toList.map Prod.fst ++ b.caller.queue

def shares (b : Book σ) : List (List σ) :=
  b.calls.map Call.sources ++ b.pending.toList.map Prod.snd

structure Kept (lx : Lexicon) (workers : Nat) (b : Book σ) : Prop where
  answers : b.caller.answers = b.calls.map Call.answer
  served : ∀ call ∈ b.calls, call.Served lx
  underway : Underway lx workers b.pending b.caller.task

structure Same (b b' : Book σ) : Prop where
  requests : b'.requests = b.requests
  shares : b'.shares = b.shares
  queue : b'.caller.queue = b.caller.queue

variable {lx : Lexicon} {workers : Nat} {b : Book σ}

def settle (b : Book σ) (share : Request × List σ) (xs : List Sentence) : Book σ where
  caller := b.caller.receive (.ok xs)
  calls := b.calls ++ [⟨share.1, share.2, .ok xs⟩]

theorem Kept.settle (h : b.Kept lx workers) (hp : b.pending = some share)
    (hlen : share.2.length = share.1.count)
    (hperm : (xs.map .ok).Perm (share.2.map lx.sentenceFrom)) :
    (b.settle share xs).Kept lx workers ∧ b.Same (b.settle share xs) := by
  refine ⟨⟨?_, ?_, .idle⟩, ⟨?_, ?_, rfl⟩⟩
  · simp [Book.settle, Caller.receive, h.answers]
  · intro call hcall
    rcases List.mem_append.1 hcall with hcall | hcall
    · exact h.served call hcall
    · obtain rfl := List.mem_singleton.1 hcall
      exact ⟨hlen, xs, rfl, hperm⟩
  · simp [requests, Book.settle, Caller.receive, hp]
  · simp [shares, Book.settle, hp]

theorem Kept.proceed (h : b.Kept lx workers) (ht : b.caller.task = some task) (t : Pool.Turn) :
    ∃ b' : Book σ, b'.caller = b.caller.proceed lx task t ∧ b'.Kept lx workers ∧ b.Same b' := by
  have hstay : b.Kept lx workers ∧ b.Same b := ⟨h, rfl, rfl, rfl⟩
  obtain ⟨⟨queue, task', answers⟩, calls, pending⟩ := b
  obtain rfl : task' = some task := ht
  cases h.underway with
  | @single s hs =>
    cases t with
    | worker i => exact ⟨_, rfl, hstay⟩
    | owner =>
      obtain ⟨x, hx⟩ := lx.sentenceFrom_eq_ok hs
      refine ⟨Book.settle _ (.sentence, [s]) [x], ?_, h.settle rfl rfl (by simp [hx])⟩
      simp only [Caller.proceed, hx]
      rfl
  | @batch sources p hok hp =>
    simp only [Caller.proceed]
    by_cases hc : p.channel.closed
    · cases t with
      | worker i => exact ⟨_, by rw [if_pos hc], hstay⟩
      | owner =>
        rcases hp.result hc with ⟨-, s, hs, hb⟩ | ⟨xs, hxs, hinter⟩
        · exact absurd hb (hok s hs)
        · refine ⟨Book.settle _ (.batch sources.length, sources) xs, ?_,
            h.settle rfl rfl (Pool.perm_of_interleaved hinter)⟩
          simp only [Book.settle, hxs, if_pos hc]
    · refine ⟨⟨⟨queue, some (.batch (p.step lx t)), answers⟩, calls, _⟩, by rw [if_neg hc],
        ⟨h.answers, h.served, .batch hok (hp.move (Pool.move_step lx p t))⟩, rfl, rfl, rfl⟩

end Book

inductive Callers.Move (c : Callers σ) : Turn → Callers σ → Prop
  | proceed : c.callers[i]? = some k → k.task = some task →
      Move c ⟨i, t⟩ { c with callers := c.callers.set i (k.proceed c.generator.lexicon task t) }
  | reserve : c.callers[i]? = some k → k.task = none → k.queue = r :: queue →
      c.generator.reserve r = (.ok task, g) →
      Move c ⟨i, .owner⟩ ⟨g, c.callers.set i { k with queue, task := some task }⟩
  | refuse : c.callers[i]? = some k → k.task = none → k.queue = r :: queue →
      c.generator.reserve r = (.error e, g) →
      Move c ⟨i, .owner⟩ ⟨g, c.callers.set i (Caller.receive { k with queue } (.error e))⟩
  | stay : (∀ k, c.callers[t.caller]? = some k → k.next? ≠ some t.pool) → Move c t c

theorem Callers.move_step (c : Callers σ) (t : Turn) : Move c t (c.step t) := by
  obtain ⟨i, t⟩ := t
  cases hk : c.callers[i]? with
  | none =>
    simp only [step, hk]
    exact .stay (by simp [hk])
  | some k =>
    obtain ⟨queue, task, answers⟩ := k
    cases task with
    | some task =>
      simp only [step, hk]
      exact .proceed hk rfl
    | none =>
      cases queue with
      | nil =>
        simp only [step, hk]
        exact .stay (by simp [hk, Caller.next?])
      | cons r queue =>
        cases t with
        | worker j =>
          simp only [step, hk]
          exact .stay (by simp [hk, Caller.next?])
        | owner =>
          simp only [step, hk]
          cases hr : c.generator.reserve r with
          | mk result g =>
            cases result with
            | ok task => exact .reserve hk rfl rfl hr
            | error e => exact .refuse hk rfl rfl hr

theorem Generator.reserve_of_takes {g : Generator σ} {lx : Lexicon} {r : Request}
    (h : Source.takes r.count g.shared.source = (.ok sources, rest))
    (hok : ∀ s ∈ sources, lx.sentenceFrom s ≠ .error .broken) :
    ∃ task, (g.reserve r).1 = .ok task ∧ (g.reserve r).2.shared.source = rest ∧
      Underway lx g.workers (some (r, sources)) (some task) := by
  cases r with
  | sentence =>
    obtain ⟨s, htake, rfl⟩ := Source.take_of_takes_one h
    exact ⟨.single s, by simp [reserve, htake], by simp [reserve, htake],
      .single (hok s List.mem_cons_self)⟩
  | batch n =>
    obtain rfl : sources.length = n := Source.length_of_takes h
    rw [Request.count] at h
    exact ⟨.batch (.ofSources g.workers sources), by simp [reserve, h], by simp [reserve, h],
      .batch hok Pool.sound_ofSources⟩

/-- The books of all callers, the sources of every call in the order of their splits, and the
sources that nobody was given so far. -/
structure Ledger (σ : Type) where
  books : List (Book σ)
  log : List (List σ)
  unused : List σ

namespace Ledger

/-- What a ledger says of callers who set out with these queues, when the splits to come off the
source are `forks` and leave it as `rest`. -/
structure Keeps (g : Generator σ) (queues : List (List Request)) (forks : List σ) (rest : σ)
    (c : Callers σ) (l : Ledger σ) : Prop where
  lexicon : c.generator.lexicon = g.lexicon
  workers : c.generator.workers = g.workers
  callers : c.callers = l.books.map Book.caller
  kept : ∀ b ∈ l.books, b.Kept g.lexicon g.workers
  requests : l.books.map Book.requests = queues
  order : Interleaved (l.books.map Book.shares) l.log
  given : l.log.flatten ++ l.unused = forks
  unused : Source.takes (Request.total (l.books.map (·.caller.queue))) c.generator.shared.source =
    (.ok l.unused, rest)

variable {g : Generator σ} {queues : List (List Request)} {forks : List σ} {rest : σ}
  {c : Callers σ} {l : Ledger σ}

theorem keeps_start
    (h : Source.takes (Request.total queues) g.shared.source = (.ok forks, rest)) :
    Keeps g queues forks rest (.start g queues)
      ⟨queues.map fun queue => { caller := { queue } }, [], forks⟩ where
  lexicon := rfl
  workers := rfl
  callers := by simp [Callers.start]
  kept := by
    intro b hb
    obtain ⟨queue, -, rfl⟩ := List.mem_map.1 hb
    exact ⟨rfl, by simp, .idle⟩
  requests := by simp [Function.comp_def, Book.requests]
  order := .nil (by simp [Book.shares])
  given := rfl
  unused := by simpa [Callers.start, Function.comp_def] using h

theorem Keeps.proceed {b b' : Book σ} (h : Keeps g queues forks rest c l)
    (hb : l.books[i]? = some b) (hkept : b'.Kept g.lexicon g.workers) (hsame : b.Same b') :
    Keeps g queues forks rest { c with callers := c.callers.set i b'.caller }
      { l with books := l.books.set i b' } := by
  have hset {β : Type} (f : Book σ → β) (hf : f b' = f b) :
      (l.books.set i b').map f = l.books.map f := by
    rw [List.map_set, hf]
    exact set_eq_self (by simp [hb])
  refine ⟨h.lexicon, h.workers, ?_, ?_, ?_, ?_, h.given, ?_⟩
  · simp [List.map_set, h.callers]
  · exact forall_mem_set h.kept hkept
  · rw [hset _ hsame.requests, h.requests]
  · rw [hset _ hsame.shares]
    exact h.order
  · rw [hset _ hsame.queue]
    exact h.unused

theorem Keeps.reserve {b : Book σ} (h : Keeps g queues forks rest c l)
    (hok : ∀ s ∈ forks, g.lexicon.sentenceFrom s ≠ .error .broken) (hb : l.books[i]? = some b)
    (htask : b.caller.task = none) (hqueue : b.caller.queue = r :: queue) :
    ∃ task l', (c.generator.reserve r).1 = .ok task ∧
      Keeps g queues forks rest ⟨(c.generator.reserve r).2,
        c.callers.set i { b.caller with queue, task := some task }⟩ l' := by
  have hkept := h.kept b (List.mem_of_getElem? hb)
  have hnone : b.pending = none := Underway.pending_eq_none (htask ▸ hkept.underway)
  -- the sources of the request are the first of those unused
  have hi : (l.books.map (·.caller.queue))[i]? = some (r :: queue) := by simp [hb, hqueue]
  have hunused := h.unused
  rw [Request.total_of_getElem? hi] at hunused
  obtain ⟨sources, others, s', htakes, hothers, hsplit⟩ := Source.takes_add hunused
  have hgiven : sources ⊆ forks := by
    rw [← h.given, hsplit]
    intro s hs
    simp [hs]
  obtain ⟨task, hresult, hsource, hunderway⟩ := Generator.reserve_of_takes htakes
    fun s hs => hok s (hgiven hs)
  rw [h.workers] at hunderway
  let b' : Book σ := ⟨{ b.caller with queue, task := some task }, b.calls, some (r, sources)⟩
  have hrequests : b'.requests = b.requests := by simp [b', Book.requests, hnone, hqueue]
  have hshares : b'.shares = b.shares ++ [sources] := by simp [b', Book.shares, hnone]
  refine ⟨task, ⟨l.books.set i b', l.log ++ [sources], others⟩, hresult, ?_⟩
  refine ⟨(Generator.lexicon_reserve ..).trans h.lexicon,
    (Generator.workers_reserve ..).trans h.workers, ?_, ?_, ?_, ?_, ?_, ?_⟩
  · simp [List.map_set, h.callers, b']
  · exact forall_mem_set h.kept ⟨hkept.answers, hkept.served, hunderway⟩
  · rw [List.map_set, hrequests, set_eq_self (by simp [hb]), h.requests]
  · rw [List.map_set, hshares]
    exact h.order.concat (by simp [hb]) sources
  · rw [← h.given, hsplit]
    simp
  · rw [List.map_set, hsource]
    exact hothers

theorem Keeps.step (h : Keeps g queues forks rest c l)
    (hok : ∀ s ∈ forks, g.lexicon.sentenceFrom s ≠ .error .broken) (t : Turn) :
    ∃ l', Keeps g queues forks rest (c.step t) l' := by
  have hbook {i : Nat} {k : Caller σ} (hk : c.callers[i]? = some k) :
      ∃ b, l.books[i]? = some b ∧ b.caller = k := by
    rwa [h.callers, List.getElem?_map, Option.map_eq_some_iff] at hk
  have hmove := c.move_step t
  generalize c.step t = c' at hmove ⊢
  cases hmove with
  | stay => exact ⟨l, h⟩
  | @proceed i k task t hk htask =>
    obtain ⟨b, hb, rfl⟩ := hbook hk
    obtain ⟨b', hcaller, hkept, hsame⟩ :=
      (h.kept b (List.mem_of_getElem? hb)).proceed htask t
    rw [h.lexicon, ← hcaller]
    exact ⟨_, h.proceed hb hkept hsame⟩
  | @reserve i k r queue g' task hk htask hqueue hr =>
    obtain ⟨b, hb, rfl⟩ := hbook hk
    obtain ⟨task', l', hresult, hl'⟩ := h.reserve hok hb htask hqueue
    rw [hr] at hresult hl'
    cases hresult
    exact ⟨l', hl'⟩
  | @refuse i k r queue g' e hk htask hqueue hr =>
    obtain ⟨b, hb, rfl⟩ := hbook hk
    obtain ⟨task', l', hresult, -⟩ := h.reserve hok hb htask hqueue
    rw [hr] at hresult
    cases hresult

theorem Keeps.advance (h : Keeps g queues forks rest c l)
    (hok : ∀ s ∈ forks, g.lexicon.sentenceFrom s ≠ .error .broken) (turns : List Turn) :
    ∃ l', Keeps g queues forks rest (c.advance turns) l' := by
  induction turns generalizing c l with
  | nil => exact ⟨l, h⟩
  | cons t turns ih =>
    obtain ⟨l', hl'⟩ := h.step hok t
    exact ih hl'

end Ledger

theorem Generator.work_of_reserve {g : Generator σ} {r : Request} {task : Task σ}
    (h : (g.reserve r).1 = .ok task) : task.work < r.work := by
  cases r with
  | sentence =>
    simp only [reserve, Shared.hold_fst] at h
    cases hs : (Source.take g.shared.source).1 with
    | error e => simp [hs] at h
    | ok s =>
      simp only [hs, Except.ok.injEq, Functor.map, Except.map] at h
      subst h
      exact Nat.one_lt_two
  | batch n =>
    simp only [reserve, Shared.hold_fst] at h
    cases hs : Source.takes n g.shared.source with
    | mk result rest =>
      cases result with
      | error e => simp [hs] at h
      | ok sources =>
        simp only [hs, Functor.map, Except.map, Except.ok.injEq] at h
        subst h
        have hle := Pool.work_ofSources_le g.workers sources
        rw [Source.length_of_takes hs] at hle
        simp only [Task.work, Request.work]
        omega

theorem Caller.work_proceed_lt (lx : Lexicon) {k : Caller σ} {task : Task σ} {t : Pool.Turn}
    (ht : k.task = some task) (hn : k.next? = some t) : (k.proceed lx task t).work < k.work := by
  have hwork : k.work = task.work + total Request.work k.queue := by simp [work, ht]
  have hreceive (r) : (k.receive r).work < k.work := by
    have hle := k.work_receive_le r
    have hpos : 0 < task.work := by cases task <;> simp [Task.work]
    omega
  simp only [next?, ht] at hn
  cases task with
  | single s =>
    cases hn
    exact hreceive _
  | batch p =>
    obtain rfl := Option.some.inj hn
    cases hp : p.next? with
    | none =>
      have hc := Pool.next?_eq_none hp
      simp only [proceed, hc, Option.getD, if_true]
      exact hreceive _
    | some t =>
      have hc : p.channel.closed = false := by
        cases hc : p.channel.closed with
        | false => rfl
        | true => simp [Pool.next?, hc] at hp
      have hlt := Pool.work_step_lt lx hp
      simp only [proceed, hc, Option.getD, hwork, Bool.false_eq_true, if_false]
      simp only [work, Option.elim, Task.work]
      omega

namespace Callers

theorem work_step_lt {c : Callers σ} {t : Turn} (h : c.next? = some t) :
    (c.step t).work < c.work := by
  obtain ⟨k, hk, hnext⟩ : ∃ k, c.callers[t.caller]? = some k ∧ k.next? = some t.pool := by
    obtain ⟨⟨k, i⟩, hmem, hnext⟩ := List.exists_of_findSome?_eq_some h
    obtain ⟨pool, hpool, rfl⟩ := Option.map_eq_some_iff.1 hnext
    exact ⟨k, List.mk_mem_zipIdx_iff_getElem?.1 hmem, hpool⟩
  have hwork {k : Caller σ} {r : Request} {queue : List Request} (htask : k.task = none)
      (hqueue : k.queue = r :: queue) : k.work = r.work + total Request.work queue := by
    simp [Caller.work, htask, hqueue, total]
  have hmove := c.move_step t
  generalize c.step t = c' at hmove ⊢
  cases hmove with
  | stay hstay => exact absurd hnext (hstay k hk)
  | @proceed i k' task t hk' htask =>
    obtain rfl : k' = k := Option.some.inj (hk'.symm.trans hk)
    exact work_set_lt hk (k'.work_proceed_lt _ htask hnext) _
  | @reserve i k' r queue g' task hk' htask hqueue hr =>
    obtain rfl : k' = k := Option.some.inj (hk'.symm.trans hk)
    have hlt : task.work < r.work := Generator.work_of_reserve (congrArg Prod.fst hr)
    apply work_set_lt hk
    rw [hwork htask hqueue]
    exact Nat.add_lt_add_right hlt _
  | @refuse i k' r queue g' e hk' htask hqueue hr =>
    obtain rfl : k' = k := Option.some.inj (hk'.symm.trans hk)
    have hle := ({ k' with queue } : Caller σ).work_receive_le (.error e)
    have hpos : 0 < r.work := by cases r <;> simp [Request.work]
    apply work_set_lt hk
    rw [hwork htask hqueue]
    exact Nat.lt_of_le_of_lt hle (Nat.lt_add_of_pos_left hpos)

theorem next?_serve (c : Callers σ) (turns : List Turn) : (c.serve turns).next? = none :=
  next?_turnsFor (fun _ _ h => work_step_lt h) (Nat.le_refl _)

/-- The calls of each caller, all in the order `log`, with the sources that the callers have used
up together. -/
structure Linear (lx : Lexicon) (queues : List (List Request)) (forks : List σ) (c : Callers σ)
    (calls : List (List (Call σ))) (log : List (Call σ)) : Prop where
  requests : calls.map (·.map Call.request) = queues
  answers : c.callers.map Caller.answers = calls.map (·.map Call.answer)
  order : Interleaved calls log
  served : ∀ call ∈ log, call.Served lx
  sources : log.flatMap Call.sources = forks

theorem linear_of_keeps {g : Generator σ} {queues : List (List Request)} {forks : List σ}
    {rest : σ} {c : Callers σ} {l : Ledger σ} (h : l.Keeps g queues forks rest c)
    (hdone : c.next? = none) :
    c.generator.shared.source = rest ∧ ∃ calls log, Linear g.lexicon queues forks c calls log := by
  -- nobody has anything left to do, so whatever was given belongs to a call that was answered
  have hidle : ∀ b ∈ l.books, b.pending = none ∧ b.caller.queue = [] := by
    intro b hb
    obtain ⟨htask, hqueue⟩ := idle_of_next?_eq_none hdone b.caller
      (by rw [h.callers]; exact List.mem_map_of_mem hb)
    exact ⟨Underway.pending_eq_none (htask ▸ (h.kept b hb).underway), hqueue⟩
  have hunused := h.unused
  rw [Request.total_eq_zero (by simpa using fun b hb => (hidle b hb).2)] at hunused
  obtain ⟨hnil, hrest⟩ := Prod.mk.inj hunused
  have hrequests : (l.books.map Book.calls).map (·.map Call.request) = queues := by
    rw [← h.requests, List.map_map]
    exact List.map_congr_left fun b hb => by simp [Book.requests, hidle b hb]
  have hshares : l.books.map Book.shares = (l.books.map Book.calls).map (·.map Call.sources) := by
    rw [List.map_map]
    exact List.map_congr_left fun b hb => by simp [Book.shares, hidle b hb]
  obtain ⟨log, hlog, hsources⟩ := (hshares ▸ h.order).of_map
  refine ⟨hrest, l.books.map Book.calls, log, hrequests, ?_, hlog, ?_, ?_⟩
  · rw [h.callers, List.map_map, List.map_map]
    exact List.map_congr_left fun b hb => (h.kept b hb).answers
  · intro call hcall
    obtain ⟨calls, hcalls, hmem⟩ := List.mem_flatten.1 (hlog.perm.mem_iff.1 hcall)
    obtain ⟨b, hb, rfl⟩ := List.mem_map.1 hcalls
    exact (h.kept b hb).served call hmem
  · rw [← h.given, ← hsources, ← Except.ok.inj hnil, List.append_nil, List.flatMap_def]

theorem mapM_answers {lx : Lexicon} {calls : List (Call σ)} (h : ∀ call ∈ calls, call.Served lx) :
    ∃ xss : List (List Sentence), (calls.map Call.answer).mapM id = .ok xss ∧
      (xss.flatten.map .ok).Perm ((calls.flatMap Call.sources).map lx.sentenceFrom) := by
  induction calls with
  | nil => exact ⟨[], rfl, .nil⟩
  | cons call calls ih =>
    obtain ⟨xss, hxss, hperm⟩ := ih fun call' h' => h call' (List.mem_cons_of_mem call h')
    obtain ⟨xs, hxs, hperm'⟩ := (h call List.mem_cons_self).answer
    refine ⟨xs :: xss, ?_, ?_⟩
    · rw [List.map_cons, List.mapM_cons, hxss, hxs]
      rfl
    · simpa using hperm'.append hperm

theorem Linear.sentences {lx : Lexicon} {queues : List (List Request)} {forks : List σ}
    {c : Callers σ} {calls : List (List (Call σ))} {log : List (Call σ)}
    (h : Linear lx queues forks c calls log) :
    ∃ xs, c.sentences = .ok xs ∧ (xs.map .ok).Perm (forks.map lx.sentenceFrom) := by
  have hanswers : c.callers.flatMap Caller.answers = calls.flatten.map Call.answer := by
    rw [List.flatMap_def, h.answers, List.map_flatten]
  have hserved : ∀ call ∈ calls.flatten, call.Served lx := fun call hcall =>
    h.served call (h.order.perm.mem_iff.2 hcall)
  obtain ⟨xss, hxss, hperm⟩ := mapM_answers hserved
  refine ⟨xss.flatten, ?_, ?_⟩
  · rw [Callers.sentences, hanswers, hxss]
    rfl
  · rw [← h.sources]
    exact hperm.trans ((h.order.perm.symm.flatMap_right _).map _)

theorem linear_serve {g : Generator σ} {queues : List (List Request)} {forks : List σ} {rest : σ}
    (h : Source.takes (Request.total queues) g.shared.source = (.ok forks, rest))
    (hok : ∀ s ∈ forks, g.lexicon.sentenceFrom s ≠ .error .broken) (turns : List Turn) :
    ((start g queues).serve turns).generator.shared.source = rest ∧
      ∃ calls log, Linear g.lexicon queues forks ((start g queues).serve turns) calls log := by
  obtain ⟨l, hl⟩ := (Ledger.keeps_start h).advance hok turns
  obtain ⟨l', hl'⟩ := hl.advance hok (((start g queues).advance turns).remaining)
  exact linear_of_keeps hl' (next?_serve _ turns)

/-- Whatever turns callers take, their calls use the sources up one after the other and each source
once, and leave what so many splits leave. Which sentences come of it hangs neither on the turns
nor on the workers nor on how the requests are grouped. -/
theorem serve_any_turns (g : Generator σ) (queues : List (List Request)) {forks : List σ} {rest : σ}
    (h : Source.takes (Request.total queues) g.shared.source = (.ok forks, rest))
    (hok : ∀ s ∈ forks, g.lexicon.sentenceFrom s ≠ .error .broken) (turns : List Turn) :
    let c := (start g queues).serve turns
    c.generator.shared.source = rest ∧
    (∃ calls log, Linear g.lexicon queues forks c calls log) ∧
    ∃ xs, c.sentences = .ok xs ∧ (xs.map .ok).Perm (forks.map g.lexicon.sentenceFrom) ∧
      ∀ workers queues' turns', Request.total queues' = Request.total queues →
        ∃ ys, ((start { g with workers } queues').serve turns').sentences = .ok ys ∧
          ys.Perm xs := by
  intro c
  obtain ⟨hrest, calls, log, hlinear⟩ := linear_serve h hok turns
  obtain ⟨xs, hxs, hperm⟩ := hlinear.sentences
  refine ⟨hrest, ⟨calls, log, hlinear⟩, xs, hxs, hperm, ?_⟩
  intro workers queues' turns' htotal
  rw [← htotal] at h
  obtain ⟨-, _, _, hlinear'⟩ := linear_serve (g := { g with workers }) h hok turns'
  obtain ⟨ys, hys, hperm'⟩ := hlinear'.sentences
  exact ⟨ys, hys, perm_of_map_ok (hperm'.trans hperm.symm)⟩

theorem serve_two_callers :
    ∃ lx, Lexicon.ofWords Lexicon.small = .ok lx ∧
      let s : Script := { values := [2, 1, 1, 0, 2, 3, 2, 2] }
      let g : Generator Script := ⟨lx, ⟨s, false⟩, 2⟩
      let queues : List (List Request) := [[.sentence, .batch 2], [.batch 1]]
      let turns : List Turn :=
        [⟨0, .owner⟩, ⟨1, .owner⟩, ⟨1, .owner⟩, ⟨0, .owner⟩, ⟨0, .owner⟩, ⟨1, .worker 0⟩]
      ((start g queues).serve turns).generator.shared.source = { s with splits := 4 } ∧
      ∃ xs, ((start g queues).serve turns).sentences = .ok xs ∧
        (xs.map .ok).Perm ([s, s, s, s].map lx.sentenceFrom) := by
  refine ⟨_, rfl, ?_⟩
  intro s g queues turns
  have htakes : Source.takes (Request.total queues) g.shared.source =
      (.ok [s, s, s, s], { s with splits := 4 }) := rfl
  have hok : ∀ s' ∈ [s, s, s, s], g.lexicon.sentenceFrom s' ≠ .error .broken := by decide
  have hserve := serve_any_turns g queues htakes hok turns
  exact ⟨hserve.1, hserve.2.2.imp fun _ h => ⟨h.1, h.2.1⟩⟩

end Callers

end TokiSentences
