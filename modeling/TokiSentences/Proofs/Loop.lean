import TokiSentences.Proofs.Commands
import TokiSentences.Proofs.Lines

namespace TokiSentences.Shell

/-- The first line of some bytes and what comes after it. Every line ends in a newline, which is the
byte 10, but for the last, which need not. -/
inductive FirstLine : List UInt8 → List UInt8 → List UInt8 → Prop
  | ended : 10 ∉ line → FirstLine (line ++ 10 :: rest) line rest
  | last : 10 ∉ line → line ≠ [] → FirstLine line line []

/-- The lines that are heard until the loop stops, and what is said then. -/
inductive Heard : List UInt8 → List String → List String → Prop
  | atEnd : Heard [] [] []
  | noText : FirstLine bytes piece rest → String.fromUTF8? ⟨piece.toArray⟩ = none →
      Heard bytes [] []
  | leave : FirstLine bytes piece rest → String.fromUTF8? ⟨piece.toArray⟩ = some line →
      Line.read line = .command .quit → Heard bytes [] ["pona!"]
  | line : FirstLine bytes piece rest → String.fromUTF8? ⟨piece.toArray⟩ = some line →
      Line.read line ≠ .command .quit → Heard rest lines closing →
      Heard bytes (line :: lines) closing

namespace Session

/-- What a session makes of a line: a batch of as many sentences as are asked for, a generator built
with a new seed, or nothing but something to say. -/
inductive Answered (s : Session) (line : String) : Output → Session → Prop
  | batch : Line.read line = .command (.generate style n) →
      s.generator.answer (.batch n) turns = (.ok xs, g) → xs.length = n →
      Answered s line (.sentences style xs) { s with generator := g }
  | seed : Line.read line = .command (.seed n) →
      { s.options with seed := some n }.setup.build s.host = .ok g →
      Answered s line (.lines [s!"Seed set to {n}"]) { s with generator := g }
  | idle : (Line.read line).idle → Answered s line (.lines ls) s

/-- The dictionary on the host no longer makes a generator, and a seed leaves the old one there. -/
inductive Unbuilt (s : Session) (line : String) : Output → Session → Prop
  | seed : Line.read line = .command (.seed n) →
      { s.options with seed := some n }.setup.build s.host = .error e →
      Unbuilt s line (.lines ["ERROR: " ++ e.message]) s

inductive Conversation : Session → List String → List Output → Session → Prop
  | nil : Conversation s [] [] s
  | cons : Answered s line o t → Conversation t lines os u →
      Conversation s (line :: lines) (o :: os) u

end Session

theorem linesOf_append {line : List UInt8} (h : 10 ∉ line) (read rest : List UInt8) :
    linesOf read (line ++ rest) = linesOf (line.reverse ++ read) rest := by
  induction line generalizing read with
  | nil => rfl
  | cons b line ih =>
    obtain ⟨hb, hline⟩ : 10 ≠ b ∧ 10 ∉ line := by simpa using h
    rw [List.cons_append, linesOf, if_neg hb.symm, ih hline]
    simp

theorem linesOf_nil {read : List UInt8} (h : read ≠ []) :
    linesOf read [] = [linesOf.textOf read] := by
  cases read with
  | nil => exact absurd rfl h
  | cons b read => rfl

theorem FirstLine.linesOf_eq {bytes piece rest : List UInt8} (h : FirstLine bytes piece rest) :
    linesOf [] bytes = String.fromUTF8? ⟨piece.toArray⟩ :: linesOf [] rest := by
  cases h with
  | ended hline =>
    rw [linesOf_append hline, linesOf, if_pos rfl, linesOf.textOf]
    simp
  | last hline hne =>
    have hread : linesOf [] bytes = linesOf bytes.reverse [] := by
      simpa using linesOf_append hline [] []
    rw [hread, linesOf_nil (mt List.reverse_eq_nil_iff.1 hne), linesOf.textOf, List.reverse_reverse]
    rfl

theorem exists_firstLine {bytes : List UInt8} (h : bytes ≠ []) :
    ∃ piece rest, FirstLine bytes piece rest ∧ rest.length < bytes.length := by
  by_cases hnewline : 10 ∈ bytes
  · obtain ⟨piece, rest, rfl, hpiece⟩ := List.eq_append_cons_of_mem hnewline
    refine ⟨piece, rest, .ended hpiece, ?_⟩
    rw [List.length_append, List.length_cons]
    omega
  · exact ⟨bytes, [], .last hnewline h, List.length_pos_iff.2 h⟩

theorem exists_heard (bytes : List UInt8) : ∃ lines closing, Heard bytes lines closing := by
  by_cases hbytes : bytes = []
  · exact ⟨[], [], hbytes ▸ .atEnd⟩
  · obtain ⟨piece, rest, hfirst, hshorter⟩ := exists_firstLine hbytes
    cases htext : String.fromUTF8? ⟨piece.toArray⟩ with
    | none => exact ⟨[], [], .noText hfirst htext⟩
    | some line =>
      by_cases hquit : Line.read line = .command .quit
      · exact ⟨[], ["pona!"], .leave hfirst htext hquit⟩
      · obtain ⟨lines, closing, hrest⟩ := exists_heard rest
        exact ⟨line :: lines, closing, .line hfirst htext hquit hrest⟩
termination_by bytes.length

namespace Session

theorem respond_of_quit (s : Session) {line : String} (h : Line.read line = .command .quit)
    (turns : List Pool.Turn) : s.respond line turns = .leave (.lines ["pona!"]) := by
  simp only [respond, h, obey]

/-- Whatever has become of the dictionary on the host, a session says something and goes on. -/
theorem answered_or_unbuilt (s : Session) {line : String}
    (hline : Line.read line ≠ .command .quit) (turns : List Pool.Turn) :
    ∃ o t, s.respond line turns = .go o t ∧ (s.Answered line o t ∨ s.Unbuilt line o t) := by
  have hidle (hi : (Line.read line).idle) :
      ∃ o t, s.respond line turns = .go o t ∧ (s.Answered line o t ∨ s.Unbuilt line o t) := by
    obtain ⟨ls, hr⟩ := respond_of_idle hi s turns
    exact ⟨_, s, hr, .inl (.idle hi)⟩
  cases hread : Line.read line with
  | blank => exact hidle (by rw [hread]; rfl)
  | headless => exact absurd hread (Line.understood line).ne_headless
  | command c =>
    cases c with
    | quit => exact absurd hread hline
    | generate style n =>
      obtain ⟨xs, hxs, hlen⟩ := s.exists_answer turns n
      obtain ⟨g, hanswer⟩ : ∃ g, s.generator.answer (.batch n) turns = (.ok xs, g) :=
        ⟨_, Prod.ext hxs rfl⟩
      have hr : s.respond line turns = .go (.sentences style xs) { s with generator := g } := by
        simp only [respond, hread, obey, generate, hanswer]
      exact ⟨_, _, hr, .inl (.batch hread hanswer hlen)⟩
    | seed n =>
      cases hbuild : { s.options with seed := some n }.setup.build s.host with
      | ok g =>
        have hr : s.respond line turns =
            .go (.lines [s!"Seed set to {n}"]) { s with generator := g } := by
          simp only [respond, hread, obey, reseed, hbuild, say]
        exact ⟨_, _, hr, .inl (.seed hread hbuild)⟩
      | error e =>
        have hr : s.respond line turns = .go (.lines ["ERROR: " ++ e.message]) s := by
          simp only [respond, hread, obey, reseed, hbuild, say]
        exact ⟨_, _, hr, .inr (.seed hread hbuild)⟩
    | help | badCount | words | badRole | noSeed | badSeed | unknown =>
      exact hidle (by rw [hread]; rfl)

theorem exit_transcript_replies (s : Session) (as : List Arrival) :
    (transcript (s.replies as)).exit = 0 := by
  induction as generalizing s with
  | nil => rfl
  | cons a as ih =>
    obtain ⟨line, turns⟩ := a
    cases line with
    | none => rfl
    | some line =>
      by_cases hquit : Line.read line = .command .quit
      · simp only [replies, s.respond_of_quit hquit, transcript]
      · obtain ⟨o, t, hr, -⟩ := s.answered_or_unbuilt hquit turns
        simp only [replies, hr, transcript, ih]

theorem Steady.answered {s : Session} (h : s.Steady) {line : String}
    (hline : Line.read line ≠ .command .quit) (turns : List Pool.Turn) :
    ∃ o t, s.respond line turns = .go o t ∧ s.Answered line o t ∧ t.Steady := by
  obtain ⟨o, t, hr, hanswered | hunbuilt⟩ := s.answered_or_unbuilt hline turns
  · obtain ⟨shared, rfl⟩ := h.eq_of_respond hr
    exact ⟨o, _, hr, hanswered, h.withShared shared⟩
  · cases hunbuilt with
    | @seed n e _ hbuild =>
      rw [h n] at hbuild
      cases hbuild

theorem Steady.converses {s : Session} (h : s.Steady) {bytes : List UInt8} {lines : List String}
    {closing : List String} (hheard : Heard bytes lines closing) {as : List Arrival}
    (has : as.map (·.line) = linesOf [] bytes) :
    ∃ os t, s.Conversation lines os t ∧ transcript (s.replies as) =
      { out := String.join (os.map (prompt ++ ·.text)) ++ prompt ++ unlines closing } := by
  -- Whatever session the line before led to is steady too.
  induction hheard generalizing s as with
  | atEnd =>
    obtain rfl : as = [] := by simpa [linesOf] using has
    exact ⟨[], s, .nil, by simp [replies, transcript, unlines]⟩
  | noText hfirst htext =>
    rw [hfirst.linesOf_eq, htext, List.map_eq_cons_iff] at has
    obtain ⟨⟨_, turns⟩, as, rfl, rfl, -⟩ := has
    exact ⟨[], s, .nil, by simp [replies, transcript, unlines]⟩
  | @leave bytes piece rest line hfirst htext hquit =>
    rw [hfirst.linesOf_eq, htext, List.map_eq_cons_iff] at has
    obtain ⟨⟨_, turns⟩, as, rfl, rfl, -⟩ := has
    exact ⟨[], s, .nil, by simp [replies, s.respond_of_quit hquit, transcript, Output.text]⟩
  | @line bytes piece rest line lines closing hfirst htext hquit _ ih =>
    rw [hfirst.linesOf_eq, htext, List.map_eq_cons_iff] at has
    obtain ⟨⟨_, turns⟩, as, rfl, rfl, has⟩ := has
    obtain ⟨o, t, hr, hanswered, ht⟩ := h.answered hquit turns
    obtain ⟨os, u, hrest, hout⟩ := ih ht has
    refine ⟨o :: os, u, .cons hanswered hrest, ?_⟩
    simp only [replies, hr, transcript, hout]
    simp [String.append_assoc]

end Session

theorem exists_start_of_openWith {host : Host} {arguments : List String} {s : Session}
    (h : openWith host arguments = .session s) : ∃ o, Session.start host o = .ok s := by
  cases arguments with
  | nil => cases h
  | cons first more =>
    rw [openWith] at h
    split at h
    · cases h
    · cases hread : Options.read (first :: more) with
      | error r => simp [hread] at h
      | ok o =>
        refine ⟨o, ?_⟩
        cases hstart : Session.start host o with
        | error e => simp [hread, hstart] at h
        | ok s' => simpa [hread, hstart] using h

/-- A session answers every input. It goes on from line to line until nothing is left or a line is
no text or takes leave, and it never crashes. What a line asks for is told by its tokens: a batch is
made just when its count is a numeral within bounds, and a generator is built anew just when its
seed is one that fits a word, however many zeros they open with. -/
theorem input_answered {host : Host} {arguments : List String} {s : Session}
    (hopen : openWith host arguments = .session s) (input : ByteArray) :
    (∃ lines closing, Heard input.data.toList lines closing) ∧
    (∀ lines closing, Heard input.data.toList lines closing →
      (∀ as : List Arrival, as.map (·.line) = linesOf [] input.data.toList →
        ∃ os t, s.Conversation lines os t ∧ Session.transcript (s.replies as) =
          { out := String.join (os.map (prompt ++ ·.text)) ++ prompt ++ unlines closing }) ∧
      ∃ os t, s.Conversation lines os t ∧ run host arguments input = { out :=
        s.greeting ++ (String.join (os.map (prompt ++ ·.text)) ++ prompt ++ unlines closing) }) ∧
    (∀ line, Line.Understood line) ∧
    ∀ (ds : List Char) (n zeros : Nat), Text.Digits ds n →
      Text.Digits (List.replicate zeros '0' ++ ds) n := by
  obtain ⟨o, hstart⟩ := exists_start_of_openWith hopen
  have hsteady := Session.steady_of_start hstart
  refine ⟨exists_heard _, ?_, Line.understood, fun ds n zeros h => h.zeros zeros⟩
  intro lines closing hheard
  refine ⟨fun as has => hsteady.converses hheard has, ?_⟩
  have hlines : ((linesOf [] input.data.toList).map fun line => ({ line } : Arrival)).map
      (·.line) = linesOf [] input.data.toList := by
    rw [List.map_map]
    exact List.map_id _
  obtain ⟨os, t, hconversation, hout⟩ := hsteady.converses hheard hlines
  refine ⟨os, t, hconversation, ?_⟩
  simp only [run, hopen, hout]

theorem input_answered_no_text :
    let host : Host := ⟨fun _ => .ok (.file Dictionary.leastText.toUTF8), 1, 8⟩
    let arguments := ["--lexicon", "least.ron"]
    ∃ s, openWith host arguments = .session s ∧
      (∃ os t, s.Conversation ["gen 02"] os t ∧
        run host arguments ⟨#[103, 101, 110, 32, 48, 50, 10, 113, 10, 255]⟩ = { out := s.greeting ++
          (String.join (os.map (prompt ++ ·.text)) ++ prompt ++ unlines ["pona!"]) }) ∧
      (run host arguments ⟨#[255, 10, 113, 10]⟩).exit = 0 ∧
      Line.read "seed +18446744073709551615" = .command (.seed 18446744073709551615) ∧
      ∀ style n, Line.read "gen 18446744073709551617" ≠ .command (.generate style n) := by
  intro host arguments
  have hread : Options.read arguments = .ok ⟨"least.ron", none, none⟩ := by decide +kernel
  obtain ⟨s, hs, -⟩ := exists_start_least host ⟨"least.ron", none, none⟩ rfl
  have hopen := (openWith_eq_session_iff hread).2 hs
  refine ⟨s, hopen, ?_, ?_, ?_, ?_⟩
  · obtain ⟨-, hrun, -⟩ :=
      input_answered hopen ⟨#[103, 101, 110, 32, 48, 50, 10, 113, 10, 255]⟩
    have hgen : FirstLine [103, 101, 110, 32, 48, 50, 10, 113, 10, 255]
        [103, 101, 110, 32, 48, 50] [113, 10, 255] :=
      @FirstLine.ended [103, 101, 110, 32, 48, 50] _ (by decide)
    have hleave : FirstLine [113, 10, 255] [113] [255] := @FirstLine.ended [113] _ (by decide)
    have htext : String.fromUTF8? ⟨#[113]⟩ = some "q" := by decide +kernel
    have hquit : Heard [113, 10, 255] [] ["pona!"] := .leave hleave htext (by decide +kernel)
    have hcount : String.fromUTF8? ⟨#[103, 101, 110, 32, 48, 50]⟩ = some "gen 02" := by
      decide +kernel
    exact (hrun _ _ (.line hgen hcount (by decide +kernel) hquit)).2
  · obtain ⟨-, hrun, -⟩ := input_answered hopen ⟨#[255, 10, 113, 10]⟩
    have hnoText : FirstLine [255, 10, 113, 10] [255] [113, 10] :=
      @FirstLine.ended [255] _ (by decide)
    obtain ⟨os, t, -, hout⟩ := (hrun [] [] (.noText hnoText (by decide +kernel))).2
    rw [hout]
  · obtain ⟨-, -, hunderstood, -⟩ := input_answered hopen ⟨#[]⟩
    have htokens :
        Text.tokens "seed +18446744073709551615" = ["seed", "+18446744073709551615"] := by
      decide +kernel
    apply ((hunderstood _).seeded "seed" _ [] htokens (by decide +kernel) _).2
    exact Text.word?_eq_some_iff.1 (by decide +kernel)
  · obtain ⟨-, -, hunderstood, -⟩ := input_answered hopen ⟨#[]⟩
    have htokens : Text.tokens "gen 18446744073709551617" = ["gen", "18446744073709551617"] := by
      decide +kernel
    intro style n hline
    obtain ⟨-, hn, -, hle⟩ := ((hunderstood _).counted "gen" _ [] .brief htokens
      (by decide +kernel) style n).1 hline
    have hvalue : Text.Numeral "18446744073709551617" 18446744073709551617 :=
      Text.numeral?_eq_some_iff.1 (by decide +kernel)
    rw [hn.unique hvalue] at hle
    exact absurd hle (by decide)

end TokiSentences.Shell
