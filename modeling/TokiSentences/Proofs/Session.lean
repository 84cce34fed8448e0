import TokiSentences.Proofs.Safety
import TokiSentences.Proofs.Settings
import TokiSentences.Shell.Session

namespace TokiSentences

theorem Lexicon.sentenceFrom_seeded (lx : Lexicon) (s : Seeded) :
    lx.sentenceFrom s ≠ .error .broken := by
  obtain ⟨x, hx⟩ := Seeded.answers.sentenceFrom_eq_ok (s := s) trivial lx
  simp [hx]

namespace Shell

inductive Output.Agree (workers : Nat) : Output → Output → Prop
  | same : Agree workers o o
  | reordered : 1 < workers → xs.Perm ys → Agree workers (.sentences style xs) (.sentences style ys)

theorem Output.Agree.eq {workers : Nat} {o o' : Output} (h : o.Agree workers o')
    (hw : workers ≤ 1) : o = o' := by
  cases h with
  | same => rfl
  | reordered hw' _ => omega

namespace Session

def withShared (s : Session) (shared : Shared Seeded) : Session :=
  { s with generator := { s.generator with shared } }

def drawn (s : Session) (n : Nat) : Session :=
  s.withShared (s.generator.reserve (.batch n)).2.shared

def reseeded (s : Session) (n : Nat) : Session := s.withShared { source := .ofSeed (.ofNat n) }

/-- The dictionary still makes the generator that was made of it. -/
def Steady (s : Session) : Prop :=
  ∀ n, { s.options with seed := some n }.setup.build s.host = .ok (s.reseeded n).generator

theorem Steady.withShared {s : Session} (h : s.Steady) (shared : Shared Seeded) :
    (s.withShared shared).Steady := h

structure Alike (workers : Nat) (s t : Session) : Prop where
  left : s.Steady
  right : t.Steady
  generator : s.generator = t.generator
  workers_eq : s.generator.workers = workers

end Session

inductive Reply.Agree (workers : Nat) : Reply → Reply → Prop
  | go : Output.Agree workers o o' → Session.Alike workers s s' →
      Agree workers (.go o s) (.go o' s')
  | leave : Output.Agree workers o o' → Agree workers (.leave o) (.leave o')
  | crash : Agree workers .crash .crash

def Reply.shown : Reply → Option Output
  | .go o _ | .leave o => some o
  | .crash => none

namespace Session

theorem generate_of_answer {s : Session} {turns : List Pool.Turn} {n : Nat} {xs : List Sentence}
    (h : (s.generator.answer (.batch n) turns).1 = .ok xs) (style : Style) :
    s.generate turns style n = .go (.sentences style xs) (s.drawn n) := by
  simp only [Generator.answer_eq] at h
  rw [generate, Generator.answer_eq, h]
  rfl

theorem exists_answer (s : Session) (turns : List Pool.Turn) (n : Nat) :
    ∃ xs : List Sentence, (s.generator.answer (.batch n) turns).1 = .ok xs ∧ xs.length = n := by
  obtain ⟨children, htakes⟩ := Source.takes_of_splits (Seeded.splits n s.generator.shared.source)
  exact Generator.answer_of_takes (r := .batch n) htakes
    (fun child _ => s.generator.lexicon.sentenceFrom_seeded child) turns

theorem Steady.reseed {s : Session} (h : s.Steady) (n : Nat) :
    s.reseed n = .go (.lines [s!"Seed set to {n}"]) (s.reseeded n) := by
  rw [Session.reseed, h n]
  rfl

theorem Steady.eq_of_respond {s u : Session} (h : s.Steady) {line : String}
    {turns : List Pool.Turn} {o : Output} (hr : s.respond line turns = .go o u) :
    ∃ shared, u = s.withShared shared := by
  have hsay {ls : List String} (hr : s.say ls = .go o u) : ∃ shared, u = s.withShared shared := by
    cases hr
    exact ⟨s.generator.shared, rfl⟩
  unfold respond at hr
  cases hline : Line.read line with
  | blank =>
    rw [hline] at hr
    exact hsay hr
  | headless =>
    rw [hline] at hr
    cases hr
  | command c =>
    rw [hline] at hr
    cases c with
    | quit => cases hr
    | seed n =>
      simp only [obey, h.reseed] at hr
      cases hr
      exact ⟨_, rfl⟩
    | generate style n =>
      obtain ⟨xs, hxs, -⟩ := s.exists_answer turns n
      simp only [obey, generate_of_answer hxs] at hr
      cases hr
      exact ⟨_, rfl⟩
    | help | badCount | words | badRole | noSeed | badSeed | unknown => exact hsay hr

def after? (s : Session) : List Arrival → Option Session
  | [] => some s
  | ⟨none, _⟩ :: _ => none
  | ⟨some line, turns⟩ :: rest =>
    match s.respond line turns with
    | .go _ s' => s'.after? rest
    | _ => none

theorem after?_cons {s u : Session} {a : Arrival} {rest : List Arrival}
    (h : s.after? (a :: rest) = some u) :
    ∃ line turns o s', a = ⟨some line, turns⟩ ∧ s.respond line turns = .go o s' ∧
      s'.after? rest = some u := by
  obtain ⟨line, turns⟩ := a
  cases line with
  | none => cases h
  | some line =>
    rw [after?] at h
    split at h
    · rename_i o s' hr
      exact ⟨line, turns, o, s', rfl, hr, h⟩
    · cases h

theorem Steady.eq_of_after? {s u : Session} (h : s.Steady) {before : List Arrival}
    (hu : s.after? before = some u) : ∃ shared, u = s.withShared shared := by
  induction before generalizing s with
  | nil =>
    obtain rfl : s = u := by simpa [after?] using hu
    exact ⟨s.generator.shared, rfl⟩
  | cons a before ih =>
    obtain ⟨line, turns, o, s', -, hr, hu⟩ := after?_cons hu
    obtain ⟨shared, rfl⟩ := h.eq_of_respond hr
    obtain ⟨shared', rfl⟩ := ih (h.withShared shared) hu
    exact ⟨shared', rfl⟩

theorem replies_append {s u : Session} {before : List Arrival} (h : s.after? before = some u)
    (after : List Arrival) : s.replies (before ++ after) = s.replies before ++ u.replies after := by
  induction before generalizing s with
  | nil =>
    cases h
    rfl
  | cons a before ih =>
    obtain ⟨line, turns, o, s', rfl, hr, hu⟩ := after?_cons h
    simp only [List.cons_append, replies, hr, ih hu]

section

variable {workers : Nat} {s t : Session} (h : s.Alike workers t)

include h

theorem Alike.withShared (shared : Shared Seeded) :
    (s.withShared shared).Alike workers (t.withShared shared) where
  left := h.left.withShared shared
  right := h.right.withShared shared
  generator := by simp only [Session.withShared, h.generator]
  workers_eq := h.workers_eq

theorem Alike.drawn (n : Nat) : (s.drawn n).Alike workers (t.drawn n) := by
  rw [Session.drawn, Session.drawn, ← h.generator]
  exact h.withShared _

theorem Alike.say (ls : List String) : Reply.Agree workers (s.say ls) (t.say ls) := .go .same h

theorem Alike.generate (turns turns' : List Pool.Turn) (style : Style) (n : Nat) :
    Reply.Agree workers (s.generate turns style n) (t.generate turns' style n) := by
  obtain ⟨xs, hxs, -⟩ := s.exists_answer turns n
  obtain ⟨ys, hys, -⟩ := t.exists_answer turns' n
  rw [generate_of_answer hxs, generate_of_answer hys]
  refine .go ?_ (h.drawn n)
  rw [h.generator] at hxs
  -- a single worker leaves turns no say, and several only in the order of the batch
  by_cases hw : workers ≤ 1
  · have hone : t.generator.workers ≤ 1 := by rwa [← h.generator, h.workers_eq]
    rw [Generator.answer_one_any_turns hone _ turns turns', hys] at hxs
    obtain rfl : ys = xs := Except.ok.inj hxs
    exact .same
  · have hagree := Generator.agree_answer t.generator (.batch n) turns turns'
    rw [hxs, hys] at hagree
    cases hagree with
    | ok hperm => exact .reordered (by omega) hperm

theorem Alike.obey (turns turns' : List Pool.Turn) (c : Command) :
    Reply.Agree workers (s.obey turns c) (t.obey turns' c) := by
  cases c with
  | quit => exact .leave .same
  | generate style n => exact h.generate turns turns' style n
  | seed n =>
    simp only [Session.obey, h.left.reseed, h.right.reseed]
    exact .go .same (h.withShared _)
  | words roles =>
    simp only [Session.obey, h.generator]
    exact h.say _
  | help | badCount | badRole | noSeed | badSeed | unknown => exact h.say _

theorem Alike.respond (line : String) (turns turns' : List Pool.Turn) :
    Reply.Agree workers (s.respond line turns) (t.respond line turns') := by
  unfold Session.respond
  cases Line.read line with
  | blank => exact h.say []
  | command c => exact h.obey turns turns' c
  | headless => exact .crash

end

theorem Alike.replies {workers : Nat} {s t : Session} (h : s.Alike workers t)
    {as bs : List Arrival} (hl : as.map (·.line) = bs.map (·.line)) :
    List.Forall₂ (Reply.Agree workers) (s.replies as) (t.replies bs) := by
  induction as generalizing s t bs with
  | nil =>
    obtain rfl : bs = [] := by simpa using hl.symm
    exact .nil
  | cons a as ih =>
    cases bs with
    | nil => cases hl
    | cons b bs =>
      obtain ⟨line, turns⟩ := a
      obtain ⟨line', turns'⟩ := b
      obtain ⟨rfl, hrest⟩ : line = line' ∧ as.map (·.line) = bs.map (·.line) := by simpa using hl
      cases line with
      | none => exact .nil
      | some line =>
        have hreply := h.respond line turns turns'
        simp only [Session.replies]
        generalize s.respond line turns = r at hreply
        generalize t.respond line turns' = r' at hreply
        cases hreply with
        | go ho hnext => exact .cons (.go ho hnext) (ih hnext hrest)
        | leave ho => exact .cons (.leave ho) .nil
        | crash => exact .cons .crash .nil

section

variable {workers : Nat} (hw : workers ≤ 1) {rs rs' : List Reply}
  (h : List.Forall₂ (Reply.Agree workers) rs rs')

include hw h

theorem shown_congr : rs.map Reply.shown = rs'.map Reply.shown := by
  induction h with
  | nil => rfl
  | cons hr _ ih =>
    rw [List.map_cons, List.map_cons, ih]
    cases hr with
    | go ho _ => rw [Reply.shown, Reply.shown, ho.eq hw]
    | leave ho => rw [Reply.shown, Reply.shown, ho.eq hw]
    | crash => rfl

theorem transcript_congr : transcript rs = transcript rs' := by
  induction h with
  | nil => rfl
  | cons hr _ ih =>
    cases hr with
    | go ho _ => rw [transcript, transcript, ho.eq hw, ih]
    | leave ho => rw [transcript, transcript, ho.eq hw]
    | crash => rfl

end

end Session

theorem Options.build_reseeded {host host' : Host} {o : Options} {g : Generator Seeded}
    (hdisk : host'.disk o.lexicon = host.disk o.lexicon) (hcores : host'.cores = host.cores)
    (hg : o.setup.build host = .ok g) (n : Nat) :
    { o with seed := some n }.setup.build host' =
      .ok { g with shared := { source := .ofSeed (.ofNat n) } } := by
  obtain ⟨added, lx, hadded, hlx, rfl⟩ := Setup.build_eq_ok_iff.1 hg
  refine Setup.build_eq_ok_iff.2 ⟨added, lx, ?_, hlx, by rw [hcores]; rfl⟩
  rw [← hadded]
  simp only [Setup.loaded, Options.setup, Dictionary.load, hdisk]

namespace Session

theorem start_eq_ok_iff {host : Host} {o : Options} {s : Session} :
    start host o = .ok s ↔
      o.setup.build host = .ok s.generator ∧ s.host = host ∧ s.options = o := by
  obtain ⟨host', o', g⟩ := s
  rw [start]
  cases o.setup.build host with
  | error e => simp
  | ok g' =>
    simp only [Except.ok.injEq, mk.injEq]
    tauto

theorem steady_of_start {host : Host} {o : Options} {s : Session} (h : start host o = .ok s) :
    s.Steady := by
  obtain ⟨hg, rfl, rfl⟩ := start_eq_ok_iff.1 h
  exact Options.build_reseeded rfl rfl hg

theorem exists_start_alike {host host' : Host} {o : Options} {s : Session}
    (hdisk : host'.disk o.lexicon = host.disk o.lexicon) (hcores : host'.cores = host.cores)
    (hs : start host o = .ok s) (n : Nat) :
    ∃ t, start host' { o with seed := some n } = .ok t ∧
      (s.reseeded n).Alike s.generator.workers t := by
  have hg := Options.build_reseeded hdisk hcores (start_eq_ok_iff.1 hs).1 n
  refine ⟨⟨host', { o with seed := some n }, _⟩, start_eq_ok_iff.2 ⟨hg, rfl, rfl⟩, ?_⟩
  exact ⟨(steady_of_start hs).withShared _, steady_of_start (start_eq_ok_iff.2 ⟨hg, rfl, rfl⟩),
    rfl, rfl⟩

end Session

theorem openWith_eq_session_iff {arguments : List String} {o : Options}
    (h : Options.read arguments = .ok o) {host : Host} {s : Session} :
    openWith host arguments = .session s ↔ Session.start host o = .ok s := by
  match arguments, h with
  | [first], h => simp [Options.read, Flags.read] at h
  | first :: value :: rest, h =>
    have hfirst : ¬ (first = "--help" ∨ first = "-h") := by
      rintro (rfl | rfl) <;> simp [Options.read, Flags.read] at h
    simp only [openWith, if_neg hfirst, h]
    cases Session.start host o <;> simp

/-- Reseeding is starting over. Whatever lines came before, those that follow a seed are answered
as in a session that is started with it, on any host with the same dictionary and cores. -/
theorem replies_reseeded {host host' : Host} {arguments arguments' : List String} {o : Options}
    {s u : Session} {before : List Arrival} {line : String} {n : Nat}
    (hdisk : host'.disk o.lexicon = host.disk o.lexicon) (hcores : host'.cores = host.cores)
    (hread : Options.read arguments = .ok o) (hopen : openWith host arguments = .session s)
    (hbefore : s.after? before = some u) (hline : Line.read line = .command (.seed n))
    (hread' : Options.read arguments' = .ok { o with seed := some n }) (turns : List Pool.Turn) :
    ∃ reseeded fresh : Session,
      u.respond line turns = .go (.lines [s!"Seed set to {n}"]) reseeded ∧
      openWith host' arguments' = .session fresh ∧
      ∀ after after' : List Arrival, after.map (·.line) = after'.map (·.line) →
        s.replies (before ++ ⟨some line, turns⟩ :: after) = s.replies before ++
          .go (.lines [s!"Seed set to {n}"]) reseeded :: reseeded.replies after ∧
        List.Forall₂ (Reply.Agree fresh.generator.workers) (reseeded.replies after)
          (fresh.replies after') ∧
        (fresh.generator.workers ≤ 1 →
          (reseeded.replies after).map Reply.shown = (fresh.replies after').map Reply.shown ∧
          Session.transcript (reseeded.replies after) =
            Session.transcript (fresh.replies after')) := by
  have hs := (openWith_eq_session_iff hread).1 hopen
  have hsteady := Session.steady_of_start hs
  obtain ⟨fresh, hfresh, halike⟩ := Session.exists_start_alike hdisk hcores hs n
  obtain ⟨shared, rfl⟩ := hsteady.eq_of_after? hbefore
  have hseed : (s.withShared shared).respond line turns =
      .go (.lines [s!"Seed set to {n}"]) (s.reseeded n) := by
    simp only [Session.respond, hline]
    exact (hsteady.withShared shared).reseed n
  refine ⟨s.reseeded n, fresh, hseed, (openWith_eq_session_iff hread').2 hfresh, ?_⟩
  intro after after' hlines
  have hworkers : s.generator.workers = fresh.generator.workers :=
    congrArg (·.workers) halike.generator
  have hreplies := halike.replies hlines
  rw [hworkers] at hreplies
  refine ⟨?_, hreplies, fun hw => ⟨Session.shown_congr hw hreplies,
    Session.transcript_congr hw hreplies⟩⟩
  rw [Session.replies_append hbefore]
  simp only [Session.replies, hseed]

theorem exists_start_least (host : Host) (o : Options)
    (h : host.disk o.lexicon = .ok (.file Dictionary.leastText.toUTF8)) :
    ∃ s, Session.start host o = .ok s ∧
      s.generator.workers = o.workers.elim host.cores (max · 1) := by
  obtain ⟨lx, hlx⟩ : ∃ lx, Lexicon.ofWords Dictionary.leastWords = .ok lx := ⟨_, rfl⟩
  have hload : Setup.loaded host.disk o.setup.dictionary = .ok Dictionary.leastWords := by
    simp only [Setup.loaded, Options.setup, Dictionary.load, h, Dictionary.ofNode_leastText]
  exact ⟨⟨host, o, _⟩, Session.start_eq_ok_iff.2 ⟨Setup.build_of_accepted hload hlx, rfl, rfl⟩, rfl⟩

theorem replies_reseeded_two_workers :
    let disk : Disk := fun _ => .ok (.file Dictionary.leastText.toUTF8)
    let host : Host := ⟨disk, 1, 8⟩
    let host' : Host := ⟨disk, 2, 8⟩
    let batch (turns : List Pool.Turn) : Arrival := ⟨some "gen 3", turns⟩
    ∃ s u reseeded fresh : Session,
      openWith host ["--lexicon", "least.ron", "--workers", "2"] = .session s ∧
      s.after? [{ line := some " GEN 2" }] = some u ∧
      u.respond "seed +9" = .go (.lines ["Seed set to 9"]) reseeded ∧
      openWith host' ["--seed", "9", "--workers", "2", "--lexicon", "least.ron"] =
        .session fresh ∧
      List.Forall₂ (Reply.Agree fresh.generator.workers) (reseeded.replies [batch []])
        (fresh.replies [batch [.owner, .owner, .worker 1]]) := by
  intro disk host host' batch
  have hread : Options.read ["--lexicon", "least.ron", "--workers", "2"] =
      .ok ⟨"least.ron", none, some 2⟩ := by decide +kernel
  have hread' : Options.read ["--seed", "9", "--workers", "2", "--lexicon", "least.ron"] =
      .ok ⟨"least.ron", some 9, some 2⟩ := by decide +kernel
  have hdisk : host'.disk "least.ron" = host.disk "least.ron" := rfl
  have hcores : host'.cores = host.cores := rfl
  obtain ⟨s, hs, -⟩ := exists_start_least host ⟨"least.ron", none, some 2⟩ rfl
  have hopen := (openWith_eq_session_iff hread).2 hs
  have hbefore : s.after? [{ line := some " GEN 2" }] = some (s.drawn 2) := by
    obtain ⟨xs, hxs, -⟩ := s.exists_answer [] 2
    have hline : Line.read " GEN 2" = .command (.generate .brief 2) := by decide +kernel
    simp only [Session.after?, Session.respond, hline, Session.obey,
      Session.generate_of_answer hxs]
  have hline : Line.read "seed +9" = .command (.seed 9) := by decide +kernel
  obtain ⟨reseeded, fresh, hseed, hfresh, hafter⟩ :=
    replies_reseeded hdisk hcores hread hopen hbefore hline hread' []
  have htext : s!"Seed set to {9}" = "Seed set to 9" := by decide +kernel
  rw [htext] at hseed
  refine ⟨s, s.drawn 2, reseeded, fresh, hopen, hbefore, hseed, hfresh, ?_⟩
  exact (hafter [batch []] [batch [.owner, .owner, .worker 1]] rfl).2.1

end Shell

end TokiSentences
