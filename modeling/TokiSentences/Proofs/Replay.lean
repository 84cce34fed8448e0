import TokiSentences.Proofs.Callers
import TokiSentences.Proofs.Safety

namespace TokiSentences

structure Draw where
  bound : Nat
  answer : Option Nat
  deriving DecidableEq, Repr

structure Member (σ : Type) where
  source : σ
  draws : List Draw := []
  deriving DecidableEq, Repr

inductive Deed
  | draw (n : Nat)
  | split
  deriving DecidableEq, Repr

/-- Sources that were split off one another, each behind those that were there before it. -/
structure Family (σ : Type) where
  members : List (Member σ)
  deriving DecidableEq, Repr

section

variable [Source σ]

def Member.undergo (m : Member σ) : Deed → Member σ × Option (Member σ)
  | .draw n =>
    let (answer, source) := Source.draw m.source n
    ({ source, draws := m.draws ++ [⟨n, answer⟩] }, none)
  | .split =>
    let (child, source) := Source.split m.source
    ({ m with source }, child.map fun source => { source })

namespace Family

def ofSource (s : σ) : Family σ := ⟨[{ source := s }]⟩

def step (f : Family σ) (i : Nat) (deed : Deed) : Family σ :=
  match f.members[i]? with
  | none => f
  | some m => ⟨f.members.set i (m.undergo deed).1 ++ (m.undergo deed).2.toList⟩

def run (f : Family σ) (deeds : List (Nat × Deed)) : Family σ :=
  deeds.foldl (fun f d => f.step d.1 d.2) f

theorem getElem?_step (f : Family σ) (deed : Deed) (hi : i ≠ k) (hk : k < f.members.length) :
    (f.step i deed).members[k]? = f.members[k]? := by
  unfold step
  split
  · rfl
  · rw [List.getElem?_append_left (by simpa using hk), List.getElem?_set_ne hi]

theorem forall_mem_step {P : Member σ → Prop}
    (hP : ∀ m deed, P m → P (m.undergo deed).1 ∧ ∀ m' ∈ (m.undergo deed).2, P m')
    {f : Family σ} (h : ∀ m ∈ f.members, P m) (i : Nat) (deed : Deed) :
    ∀ m ∈ (f.step i deed).members, P m := by
  unfold step
  split
  · exact h
  · rename_i m hm
    obtain ⟨hself, hchild⟩ := hP m deed (h m (List.mem_of_getElem? hm))
    intro m' hm'
    rcases List.mem_append.1 hm' with hm' | hm'
    · exact forall_mem_set h hself m' hm'
    · exact hchild m' (by simpa using hm')

theorem forall_mem_run {P : Member σ → Prop}
    (hP : ∀ m deed, P m → P (m.undergo deed).1 ∧ ∀ m' ∈ (m.undergo deed).2, P m')
    {f : Family σ} (h : ∀ m ∈ f.members, P m) (deeds : List (Nat × Deed)) :
    ∀ m ∈ (f.run deeds).members, P m := by
  induction deeds generalizing f with
  | nil => exact h
  | cons d deeds ih => exact ih (forall_mem_step hP h d.1 d.2)

end Family

end

namespace Script

def reply (values : List Nat) (i n : Nat) : Nat := values.getD (i % values.length) 0 % n

structure Plays (values : List Nat) (s : Script) : Prop where
  values_eq : s.values = values
  brokenDraw : s.brokenDraw = none
  brokenSplit : s.brokenSplit = none

theorem plays_fresh (values : List Nat) (drawn splits : Nat) :
    Plays values { values, drawn, splits } := ⟨rfl, rfl, rfl⟩

variable {values : List Nat} {s : Script}

theorem Plays.draw (h : s.Plays values) (n : Nat) :
    Source.draw s n = (some (reply values s.drawn n),
      { s with drawn := if values = [] then s.drawn else s.drawn + 1 }) := by
  obtain ⟨values', _, _, drawn, splits⟩ := s
  obtain ⟨rfl, rfl, rfl⟩ : values' = values ∧ _ = none ∧ _ = none :=
    ⟨h.values_eq, h.brokenDraw, h.brokenSplit⟩
  simp only [Source.draw, Script.draw, reply, List.getD_eq_getElem?_getD]
  by_cases hv : values' = []
  · simp [hv]
  · have hlt : drawn % values'.length < values'.length := Nat.mod_lt _ (List.length_pos_iff.2 hv)
    simp [hv, List.getElem?_eq_getElem hlt]

theorem Plays.split (h : s.Plays values) :
    Source.split s = (some { values }, { s with splits := s.splits + 1 }) := by
  obtain ⟨rfl, hdraw, hsplit⟩ := h
  simp [Source.split, Script.split, fresh, hdraw, hsplit]

theorem answers_of_plays (values : List Nat) : Source.Answers (Plays values) where
  draw := by
    intro s n h hn
    refine ⟨_, _, h.draw n, ?_, h.values_eq, h.brokenDraw, h.brokenSplit⟩
    exact Nat.mod_lt _ hn
  rest := by
    intro s h
    rw [h.split]
    exact ⟨h.values_eq, h.brokenDraw, h.brokenSplit⟩
  child := by
    intro s h child hchild
    rw [h.split] at hchild
    obtain rfl : { values } = child := by simpa using hchild
    exact plays_fresh values 0 0

theorem Plays.takes (h : s.Plays values) (n : Nat) :
    ∃ rest, Source.takes n s = (.ok (List.replicate n { values }), rest) := by
  induction n generalizing s with
  | zero => exact ⟨s, rfl⟩
  | succ n ih =>
    have hrest : (Source.split s).2.Plays values := (answers_of_plays values).rest h
    obtain ⟨rest, htakes⟩ := ih hrest
    rw [h.split] at htakes
    exact ⟨rest, by simp only [Source.takes, Source.take, h.split, htakes, List.replicate_succ]⟩

/-- A member that has drawn what the script says, each time in its turn. -/
structure Follows (values : List Nat) (m : Member Script) : Prop where
  plays : m.source.Plays values
  drawn : m.source.drawn = if values = [] then 0 else m.draws.length
  answers : ∀ i d, m.draws[i]? = some d → d.answer = some (reply values i d.bound)

theorem follows_fresh (values : List Nat) : Follows values { source := { values } } where
  plays := plays_fresh values 0 0
  drawn := by simp
  answers := by simp

theorem reply_drawn (values : List Nat) (i n : Nat) :
    reply values (if values = [] then 0 else i) n = reply values i n := by
  split
  · simp_all [reply]
  · rfl

theorem Follows.undergo {m : Member Script} (h : Follows values m) (deed : Deed) :
    Follows values (m.undergo deed).1 ∧ ∀ m' ∈ (m.undergo deed).2, Follows values m' := by
  cases deed with
  | split =>
    simp only [Member.undergo, h.plays.split, Option.map_some, Option.mem_some_iff, forall_eq']
    exact ⟨⟨⟨h.plays.values_eq, h.plays.brokenDraw, h.plays.brokenSplit⟩, h.drawn, h.answers⟩,
      follows_fresh values⟩
  | draw n =>
    simp only [Member.undergo, h.plays.draw]
    refine ⟨⟨⟨h.plays.values_eq, h.plays.brokenDraw, h.plays.brokenSplit⟩, ?drawn, ?answers⟩,
      by simp⟩
    case drawn =>
      rw [h.drawn]
      split <;> simp
    case answers =>
      intro i d hd
      rw [List.getElem?_append] at hd
      split at hd
      · exact h.answers i d hd
      · -- the draw that was made last
        obtain ⟨hi, rfl⟩ : i = m.draws.length ∧ _ = d := by
          rw [List.getElem?_singleton] at hd
          split at hd
          · exact ⟨by omega, Option.some.inj hd⟩
          · cases hd
        rw [h.drawn, reply_drawn, hi]

end Script

section

variable {lx : Lexicon} {x : Sentence}

theorem Lexicon.not_broken_of_replicate [Source σ] {s : σ} (hx : lx.sentenceFrom s = .ok x)
    (n : Nat) : ∀ s' ∈ List.replicate n s, lx.sentenceFrom s' ≠ .error .broken := by
  intro s' hs'
  rw [List.eq_of_mem_replicate hs', hx]
  simp

theorem Lexicon.eq_replicate_of_perm [Source σ] {s : σ} (hx : lx.sentenceFrom s = .ok x) {n : Nat}
    {xs : List Sentence} (h : (xs.map .ok).Perm ((List.replicate n s).map lx.sentenceFrom)) :
    xs = List.replicate n x := by
  rw [List.map_replicate, hx, ← List.map_replicate] at h
  exact List.perm_replicate.1 (perm_of_map_ok h)

def Request.replay (x : Sentence) (r : Request) : Except Stop (List Sentence) :=
  .ok (List.replicate r.count x)

variable {values : List Nat}

theorem Generator.answer_of_plays {g : Generator Script} (hs : g.shared.source.Plays values)
    (hx : g.lexicon.sentenceFrom ({ values } : Script) = .ok x) (r : Request)
    (turns : List Pool.Turn) : (g.answer r turns).1 = r.replay x := by
  obtain ⟨rest, htakes⟩ := hs.takes r.count
  obtain ⟨xs, hxs, hperm⟩ :=
    answer_perm_of_takes htakes (Lexicon.not_broken_of_replicate hx r.count) turns
  rw [hxs, Lexicon.eq_replicate_of_perm hx hperm, Request.replay]

theorem Call.Served.replay {call : Call Script} (h : call.Served lx)
    (hx : lx.sentenceFrom ({ values } : Script) = .ok x)
    (hs : ∀ s ∈ call.sources, s = { values }) : call.answer = call.request.replay x := by
  obtain ⟨xs, hxs, hperm⟩ := h.answer
  rw [List.eq_replicate_of_mem hs, h.length_sources] at hperm
  rw [hxs, Lexicon.eq_replicate_of_perm hx hperm, Request.replay]

theorem Ledger.Keeps.answers_replay {g : Generator Script} {queues : List (List Request)}
    {forks : List Script} {rest : Script} {c : Callers Script} {l : Ledger Script}
    (h : l.Keeps g queues forks rest c)
    (hx : g.lexicon.sentenceFrom ({ values } : Script) = .ok x)
    (hforks : ∀ s ∈ forks, s = { values }) :
    List.Forall₂ (fun k queue => k.answers <+: queue.map (Request.replay x)) c.callers queues := by
  rw [h.callers, ← h.requests, List.forall₂_map_left_iff, List.forall₂_map_right_iff,
    List.forall₂_same]
  intro b hb
  have hkept := h.kept b hb
  have hsources : ∀ call ∈ b.calls, ∀ s ∈ call.sources, s = { values } := by
    intro call hcall s hs
    have hshare : call.sources ∈ l.log :=
      h.order.perm.mem_iff.2 (List.mem_flatten.2 ⟨b.shares, List.mem_map_of_mem hb,
        List.mem_append_left _ (List.mem_map_of_mem hcall)⟩)
    apply hforks s
    rw [← h.given]
    exact List.mem_append_left _ (List.mem_flatten.2 ⟨_, hshare, hs⟩)
  have hanswers : b.caller.answers = (b.calls.map Call.request).map (Request.replay x) := by
    rw [hkept.answers, List.map_map]
    exact List.map_congr_left fun call hcall =>
      (hkept.served call hcall).replay hx (hsources call hcall)
  rw [hanswers, Book.requests, List.append_assoc, List.map_append]
  exact List.prefix_append _ _

theorem Callers.Linear.answers_replay {queues : List (List Request)} {forks : List Script}
    {c : Callers Script} {calls : List (List (Call Script))} {log : List (Call Script)}
    (h : Linear lx queues forks c calls log)
    (hx : lx.sentenceFrom ({ values } : Script) = .ok x)
    (hforks : ∀ s ∈ forks, s = { values }) :
    c.callers.map Caller.answers = queues.map (·.map (Request.replay x)) := by
  have hcall : ∀ call ∈ log, call.answer = call.request.replay x := by
    intro call hcall
    apply (h.served call hcall).replay hx
    intro s hs
    apply hforks s
    rw [← h.sources]
    exact List.mem_flatMap.2 ⟨call, hcall, hs⟩
  rw [h.answers, ← h.requests, List.map_map]
  apply List.map_congr_left
  intro cs hcs
  rw [Function.comp_apply, List.map_map]
  exact List.map_congr_left fun call hmem =>
    hcall call (h.order.perm.mem_iff.2 (List.mem_flatten.2 ⟨cs, hcs, hmem⟩))

end

/-- A script makes one sentence, and a generator that shares it makes that one and no other:
whatever was asked before, however many workers there are, in whatever order callers and workers
take their turns, a request is answered with as many of it as are asked for. In a family of sources
that come of the script, each plays it from the start, so what it answers and how far it has come
hang on its own draws alone. -/
theorem Script.always_replayed (values : List Nat) (lx : Lexicon) :
    (∃ x, lx.sentenceFrom ({ values } : Script) = .ok x ∧
      ∀ drawn splits spoiled workers,
        let s : Script := { values, drawn, splits }
        let g : Generator Script := ⟨lx, ⟨s, spoiled⟩, workers⟩
        (∀ ops r turns,
          ((g.performAll ops).perform turns (.request r)).1 = .sentences (r.replay x)) ∧
        ∀ queues turns,
          let c := Callers.start g queues
          List.Forall₂ (fun k queue => k.answers <+: queue.map (Request.replay x))
            (c.advance turns).callers queues ∧
          (c.serve turns).callers.map Caller.answers = queues.map (·.map (Request.replay x))) ∧
    ∀ deeds,
      let family := (Family.ofSource ({ values } : Script)).run deeds
      (∀ m ∈ family.members,
        m.source.drawn = (if values = [] then 0 else m.draws.length) ∧
        ∀ i d, m.draws[i]? = some d → 0 < d.bound →
          d.answer = some (values.getD (i % values.length) 0 % d.bound)) ∧
      ∀ i deed k, i ≠ k → k < family.members.length →
        (family.step i deed).members[k]? = family.members[k]? := by
  refine ⟨?sentence, ?family⟩
  case sentence =>
    obtain ⟨x, hx⟩ := (answers_of_plays values).sentenceFrom_eq_ok (plays_fresh values 0 0) lx
    refine ⟨x, hx, ?_⟩
    intro drawn splits spoiled workers s g
    have hs : g.shared.source.Plays values := plays_fresh values drawn splits
    constructor
    · intro ops r turns
      have hplays := Generator.good_performAll (answers_of_plays values) hs ops
      have hlexicon : (g.performAll ops).lexicon = lx := (Generator.performAll_keeps g ops).1
      rw [← hlexicon] at hx
      exact congrArg Answer.sentences (Generator.answer_of_plays hplays hx r turns)
    · intro queues turns c
      obtain ⟨rest, htakes⟩ := hs.takes (Request.total queues)
      have hforks : ∀ s ∈ List.replicate (Request.total queues) ({ values } : Script),
          s = { values } := fun s hs => List.eq_of_mem_replicate hs
      have hok := Lexicon.not_broken_of_replicate hx (Request.total queues)
      obtain ⟨l, hl⟩ := (Ledger.keeps_start htakes).advance hok turns
      obtain ⟨-, calls, log, hlinear⟩ := Callers.linear_serve htakes hok turns
      exact ⟨hl.answers_replay hx hforks, hlinear.answers_replay hx hforks⟩
  case family =>
    intro deeds family
    refine ⟨?_, fun i deed k => family.getElem?_step deed⟩
    have hstart : ∀ m ∈ (Family.ofSource ({ values } : Script)).members, Follows values m := by
      simpa [Family.ofSource] using follows_fresh values
    intro m hm
    have hfollows : Follows values m :=
      Family.forall_mem_run (fun _ deed (h : Follows values _) => h.undergo deed) hstart deeds m hm
    exact ⟨hfollows.drawn, fun i d hd _ => hfollows.answers i d hd⟩

theorem Script.always_replayed_small :
    ∃ lx, Lexicon.ofWords Lexicon.small = .ok lx ∧
      let values := [2, 1, 1, 0, 2, 3, 2, 2]
      let g : Generator Script := ⟨lx, ⟨{ values }, false⟩, 2⟩
      let deeds : List (Nat × Deed) :=
        [(0, .draw 5), (0, .split), (1, .draw 3), (0, .draw 4), (1, .draw 2)]
      let m : Member Script := ⟨{ values, drawn := 2 }, [⟨3, some 2⟩, ⟨2, some 1⟩]⟩
      (∃ x, lx.sentenceFrom ({ values } : Script) = .ok x ∧
        ((g.performAll [(.request .sentence, [])]).perform [] (.request (.batch 3))).1 =
          .sentences (.ok [x, x, x])) ∧
      m ∈ ((Family.ofSource ({ values } : Script)).run deeds).members ∧
      m.source.drawn = 2 ∧ some 1 = some (values.getD (1 % values.length) 0 % 2) := by
  refine ⟨_, rfl, ?_⟩
  intro values g deeds m
  obtain ⟨⟨x, hx, hgenerator⟩, hfamily⟩ := always_replayed values g.lexicon
  have hm : m ∈ ((Family.ofSource ({ values } : Script)).run deeds).members := by decide
  obtain ⟨hdrawn, hanswer⟩ := (hfamily deeds).1 m hm
  exact ⟨⟨x, hx, (hgenerator 0 0 false 2).1 [(.request .sentence, [])] (.batch 3) []⟩, hm, hdrawn,
    hanswer 1 ⟨2, some 1⟩ rfl (by decide)⟩

end TokiSentences
