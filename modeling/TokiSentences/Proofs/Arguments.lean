import TokiSentences.Proofs.Numerals
import TokiSentences.Proofs.Session

namespace TokiSentences

theorem unlines_singleton (line : String) : unlines [line] = line ++ "\n" := by
  simp [unlines]

namespace Shell

def flags : List String := ["--lexicon", "--seed", "--workers"]

inductive Given
  | lexicon (path : String)
  | seed (n : Nat)
  | workers (n : Nat)
  deriving DecidableEq

namespace Given

def flag : Given → String
  | lexicon _ => "--lexicon"
  | seed _ => "--seed"
  | workers _ => "--workers"

/-- A path says itself, even if it is spelled like a flag. -/
def SaidBy : Given → String → Prop
  | lexicon path, value => value = path
  | seed n, value | workers n, value => Text.Numeral value n ∧ n ≤ Text.maxWord

def path? : Given → Option String
  | lexicon path => some path
  | _ => none

def seed? : Given → Option Nat
  | seed n => some n
  | _ => none

def workers? : Given → Option Nat
  | workers n => some n
  | _ => none

def last? (kind : Given → Option α) (gs : List Given) : Option α := (gs.filterMap kind).getLast?

/-- The pairs of each flag stand in the same order, wherever they stand among the others. -/
def Reordered (gs gs' : List Given) : Prop :=
  ∀ flag ∈ flags, gs'.filter (·.flag = flag) = gs.filter (·.flag = flag)

instance (gs gs' : List Given) : Decidable (Reordered gs gs') :=
  inferInstanceAs (Decidable (∀ flag ∈ flags, _ = _))

end Given

inductive Written : List Given → List String → Prop
  | nil : Written [] []
  | cons : Given.SaidBy g value → Written gs args → Written (g :: gs) (g.flag :: value :: args)

inductive Offence : List String → Refusal → Prop
  | unknown : argument ∉ flags → Offence (argument :: rest) (.unknown argument)
  | valueless : flag ∈ flags → Offence [flag] (.unknown flag)
  | number : flag ∈ ["--seed", "--workers"] →
      (∀ n, Text.Numeral value n → Text.maxWord < n) →
      Offence (flag :: value :: rest) (.badValue flag value)

/-- What arguments are refused for: the leftmost offence, or the want of a lexicon if there is
none. -/
inductive Reported : List String → Refusal → Prop
  | offence : Written gs before → Offence rest r → Reported (before ++ rest) r
  | noLexicon : Written gs args → (∀ path, .lexicon path ∉ gs) → Reported args .noLexicon

def Refusal.transcript (r : Refusal) : Transcript where
  exit := 1
  out := unlines [usage]
  err := unlines [r.message]

def Opening.ofStart : Except GeneratorError Session → Opening
  | .error e => .over { exit := 1, err := unlines ["ERROR: " ++ e.message] }
  | .ok s => .session s

namespace Refusal

@[simp] theorem err_unknown (argument : String) :
    (unknown argument).transcript.err = "Unknown argument: " ++ argument ++ "\n" :=
  unlines_singleton ("Unknown argument: " ++ argument)

@[simp] theorem err_badValue (flag value : String) : (badValue flag value).transcript.err =
    "Invalid value for " ++ flag ++ ": " ++ value ++ "\n" :=
  unlines_singleton ("Invalid value for " ++ flag ++ ": " ++ value)

@[simp] theorem err_noLexicon : noLexicon.transcript.err = "Missing --lexicon <path>\n" :=
  unlines_singleton "Missing --lexicon <path>"

end Refusal

theorem Reported.kind {args : List String} {r : Refusal} (h : Reported args r) :
    (∃ argument, r = .unknown argument) ∨
      (∃ flag ∈ ["--seed", "--workers"], ∃ value, r = .badValue flag value) ∨ r = .noLexicon := by
  cases h with
  | noLexicon => exact .inr (.inr rfl)
  | offence _ hr =>
    cases hr with
    | unknown | valueless => exact .inl ⟨_, rfl⟩
    | number hflag => exact .inr (.inl ⟨_, hflag, _, rfl⟩)

/-- It would not hold of arbitrary texts for flags, since the first may have a colon in it. -/
theorem Refusal.err_badValue_inj {flag flag' value value' : String}
    (hflag : flag ∈ ["--seed", "--workers"]) (hflag' : flag' ∈ ["--seed", "--workers"])
    (h : (badValue flag value).transcript.err = (badValue flag' value').transcript.err) :
    flag = flag' ∧ value = value' := by
  obtain rfl | rfl : flag = "--seed" ∨ flag = "--workers" := by simpa using hflag
  · obtain rfl | rfl : flag' = "--seed" ∨ flag' = "--workers" := by simpa using hflag'
    · simpa [← String.toList_inj] using h
    · simp [← String.toList_inj] at h
  · obtain rfl | rfl : flag' = "--seed" ∨ flag' = "--workers" := by simpa using hflag'
    · simp [← String.toList_inj] at h
    · simpa [← String.toList_inj] using h

/-- The transcript tells what the arguments were refused for. -/
theorem Reported.transcript_inj {args args' : List String} {r r' : Refusal} (h : Reported args r)
    (h' : Reported args' r') : r.transcript = r'.transcript ↔ r = r' := by
  refine ⟨fun heq => ?_, congrArg Refusal.transcript⟩
  have herr : r.transcript.err = r'.transcript.err := congrArg Transcript.err heq
  rcases h.kind with ⟨argument, rfl⟩ | ⟨flag, hflag, value, rfl⟩ | rfl
  · rcases h'.kind with ⟨argument', rfl⟩ | ⟨flag', -, value', rfl⟩ | rfl
    · obtain rfl : argument = argument' := by simpa [← String.toList_inj] using herr
      rfl
    all_goals simp [← String.toList_inj] at herr
  · rcases h'.kind with ⟨argument', rfl⟩ | ⟨flag', hflag', value', rfl⟩ | rfl
    case inr.inl =>
      obtain ⟨rfl, rfl⟩ := Refusal.err_badValue_inj hflag hflag' herr
      rfl
    all_goals simp [← String.toList_inj] at herr
  · rcases h'.kind with ⟨argument', rfl⟩ | ⟨flag', -, value', rfl⟩ | rfl
    case inr.inr => rfl
    all_goals simp [← String.toList_inj] at herr

namespace Given

theorem last?_append_singleton (kind : Given → Option α) (gs : List Given) (g : Given) :
    last? kind (gs ++ [g]) = (kind g).or (last? kind gs) :=
  getLast?_filterMap_append_singleton kind gs g

theorem isSome_last?_path? {gs : List Given} :
    (last? path? gs).isSome ↔ ∃ path, .lexicon path ∈ gs := by
  rw [last?, List.getLast?_isSome, Ne, List.filterMap_eq_nil_iff]
  constructor
  · intro h
    by_contra hno
    apply h
    intro g hg
    cases g with
    | lexicon path => exact absurd ⟨path, hg⟩ hno
    | seed | workers => rfl
  · rintro ⟨path, hmem⟩ h
    cases h _ hmem

theorem flag_mem_flags (g : Given) : g.flag ∈ flags := by
  cases g <;> simp [flag, flags]

theorem flag_ne_help (g : Given) : g.flag ∉ ["--help", "-h"] := by
  cases g <;> simp [flag]

theorem lexicon_mem_iff {gs : List Given} :
    (∃ path, .lexicon path ∈ gs) ↔ "--lexicon" ∈ gs.map flag := by
  rw [List.mem_map]
  constructor
  · rintro ⟨path, hmem⟩
    exact ⟨_, hmem, rfl⟩
  · rintro ⟨g, hmem, hflag⟩
    cases g with
    | lexicon path => exact ⟨path, hmem⟩
    | seed | workers => simp [flag] at hflag

theorem Reordered.ne_nil {gs gs' : List Given} (h : Reordered gs gs') (hne : gs ≠ []) :
    gs' ≠ [] := by
  obtain ⟨g, hg⟩ := List.exists_mem_of_ne_nil gs hne
  have hmem : g ∈ gs.filter (·.flag = g.flag) := by simpa using hg
  rw [← h g.flag g.flag_mem_flags] at hmem
  exact List.ne_nil_of_mem (List.mem_of_mem_filter hmem)

theorem Reordered.last?_eq {gs gs' : List Given} (h : Reordered gs gs') {flag : String}
    (hflag : flag ∈ flags) {kind : Given → Option α} (hkind : ∀ g, g.flag ≠ flag → kind g = none) :
    last? kind gs' = last? kind gs := by
  have hfilter (xs : List Given) :
      (xs.filter (·.flag = flag)).filterMap kind = xs.filterMap kind := by
    rw [List.filterMap_filter]
    congr 1
    funext g
    by_cases hg : g.flag = flag <;> simp [hg, hkind]
  rw [last?, last?, ← hfilter gs', h flag hflag, hfilter]

theorem Reordered.same_last {gs gs' : List Given} (h : Reordered gs gs') :
    last? path? gs' = last? path? gs ∧ last? seed? gs' = last? seed? gs ∧
      last? workers? gs' = last? workers? gs := by
  refine ⟨h.last?_eq (by decide : "--lexicon" ∈ flags) ?path,
    h.last?_eq (by decide : "--seed" ∈ flags) ?seed,
    h.last?_eq (by decide : "--workers" ∈ flags) ?workers⟩
  case path =>
    intro g hg
    cases g with
    | lexicon path => exact absurd rfl hg
    | seed | workers => rfl
  case seed =>
    intro g hg
    cases g with
    | seed n => exact absurd rfl hg
    | lexicon | workers => rfl
  case workers =>
    intro g hg
    cases g with
    | workers n => exact absurd rfl hg
    | lexicon | seed => rfl

end Given

theorem Written.append {gs hs : List Given} {before rest : List String} (h : Written gs before)
    (h' : Written hs rest) : Written (gs ++ hs) (before ++ rest) := by
  induction h with
  | nil => exact h'
  | cons hsaid _ ih => exact .cons hsaid ih

theorem exists_said_or_offence (flag value : String) (rest : List String) :
    (∃ g : Given, g.flag = flag ∧ g.SaidBy value) ∨ ∃ r, Offence (flag :: value :: rest) r := by
  by_cases hflag : flag ∈ flags
  · have hcases : flag = "--lexicon" ∨ flag = "--seed" ∨ flag = "--workers" := by
      simpa [flags] using hflag
    by_cases hvalue : ∃ n, Text.Numeral value n ∧ n ≤ Text.maxWord
    · obtain ⟨n, hn⟩ := hvalue
      rcases hcases with rfl | rfl | rfl
      · exact .inl ⟨.lexicon value, rfl, rfl⟩
      · exact .inl ⟨.seed n, rfl, hn⟩
      · exact .inl ⟨.workers n, rfl, hn⟩
    · push Not at hvalue
      rcases hcases with rfl | hnumber
      · exact .inl ⟨.lexicon value, rfl, rfl⟩
      · exact .inr ⟨_, .number (by simpa using hnumber) hvalue⟩
  · exact .inr ⟨_, .unknown hflag⟩

theorem exists_written_or_offence : ∀ args : List String, (∃ gs, Written gs args) ∨
    ∃ gs before rest r, args = before ++ rest ∧ Written gs before ∧ Offence rest r
  | [] => .inl ⟨[], .nil⟩
  | [argument] => by
    refine .inr ⟨[], [], [argument], .unknown argument, rfl, .nil, ?_⟩
    by_cases hflag : argument ∈ flags
    · exact .valueless hflag
    · exact .unknown hflag
  | flag :: value :: args => by
    rcases exists_said_or_offence flag value args with ⟨g, rfl, hsaid⟩ | ⟨r, hr⟩
    · rcases exists_written_or_offence args with ⟨gs, hgs⟩ | ⟨gs, before, rest, r, rfl, hgs, hr⟩
      · exact .inl ⟨_, .cons hsaid hgs⟩
      · exact .inr ⟨_, _, rest, r, rfl, .cons hsaid hgs, hr⟩
    · exact .inr ⟨[], [], _, r, rfl, .nil, hr⟩

def Flags.set (f : Flags) : Given → Flags
  | .lexicon path => { f with lexicon := some path }
  | .seed n => { f with seed := some n }
  | .workers n => { f with workers := some n }

namespace Flags

open Given

theorem foldl_set (gs : List Given) : gs.foldl set {} =
    ⟨last? path? gs, last? seed? gs, last? workers? gs⟩ := by
  induction gs using List.reverseRecOn with
  | nil => rfl
  | append_singleton gs g ih =>
    rw [List.foldl_append, ih]
    simp only [last?_append_singleton]
    cases g <;> rfl

theorem read_pair (f : Flags) {g : Given} {value : String} (h : g.SaidBy value)
    (rest : List String) : f.read (g.flag :: value :: rest) = (f.set g).read rest := by
  cases g with
  | lexicon path =>
    obtain rfl : value = path := h
    rfl
  | seed n => simp [Given.flag, read, Text.word?_eq_some_iff.2 h, set]
  | workers n => simp [Given.flag, read, Text.word?_eq_some_iff.2 h, set]

theorem read_append (f : Flags) {gs : List Given} {before : List String} (h : Written gs before)
    (rest : List String) : f.read (before ++ rest) = (gs.foldl set f).read rest := by
  induction h generalizing f with
  | nil => rfl
  | cons hsaid _ ih =>
    rw [List.cons_append, List.cons_append, read_pair f hsaid, ih]
    rfl

theorem read_offence (f : Flags) {rest : List String} {r : Refusal} (h : Offence rest r) :
    f.read rest = .error r := by
  cases h with
  | @unknown argument rest hflag =>
    cases rest with
    | nil => rfl
    | cons value rest =>
      obtain ⟨hl, hs, hw⟩ :
          argument ≠ "--lexicon" ∧ argument ≠ "--seed" ∧ argument ≠ "--workers" := by
        simpa [flags] using hflag
      simp only [read, if_neg hl, if_neg hs, if_neg hw]
  | valueless => rfl
  | @number flag value rest hflag hvalue =>
    have hnone : Text.word? value = none := Text.word?_eq_none_iff.2 hvalue
    have hcases : flag = "--seed" ∨ flag = "--workers" := by simpa using hflag
    rcases hcases with rfl | rfl <;> simp [read, hnone]

end Flags

namespace Options

open Given

theorem read_of_written {gs : List Given} {args : List String} (h : Written gs args) :
    read args = match last? path? gs with
      | some path => .ok ⟨path, last? seed? gs, last? workers? gs⟩
      | none => .error .noLexicon := by
  have hflags : Flags.read {} args = .ok ⟨last? path? gs, last? seed? gs, last? workers? gs⟩ := by
    rw [← Flags.foldl_set]
    simpa [Flags.read] using Flags.read_append {} h []
  cases hpath : last? path? gs <;> simp [read, hflags, hpath]

theorem read_of_reported {args : List String} {r : Refusal} (h : Reported args r) :
    read args = .error r := by
  cases h with
  | offence hgs hr => rw [read, Flags.read_append {} hgs, Flags.read_offence _ hr]
  | @noLexicon gs _ hgs hno =>
    have hnone : last? path? gs = none := by
      rw [← Option.not_isSome_iff_eq_none, isSome_last?_path?, not_exists]
      exact hno
    rw [read_of_written hgs, hnone]

end Options

theorem openWith_cons {first : String} (h : first ∉ ["--help", "-h"]) (host : Host)
    (more : List String) : openWith host (first :: more) =
      match Options.read (first :: more) with
      | .error r => .over r.transcript
      | .ok o => .ofStart (Session.start host o) := by
  have hfirst : ¬ (first = "--help" ∨ first = "-h") := by simpa using h
  simp only [openWith, if_neg hfirst]
  cases Options.read (first :: more) with
  | error r => rfl
  | ok o => cases Session.start host o <;> rfl

theorem Opening.ofStart_ne_refused (started : Except GeneratorError Session) (r : Refusal) :
    Opening.ofStart started ≠ .over r.transcript := by
  cases started with
  | ok s => simp [ofStart]
  | error e =>
    intro h
    have hout : "" = unlines [usage] := congrArg Transcript.out (Opening.over.inj h)
    exact absurd hout (by decide)

open Given

section

variable (host : Host) {gs gs' : List Given} {before before' : List String}

theorem openWith_of_written {args : List String} (h : Written gs args) (hne : gs ≠ []) :
    openWith host args = match last? path? gs with
      | some path => .ofStart (Session.start host ⟨path, last? seed? gs, last? workers? gs⟩)
      | none => .over Refusal.noLexicon.transcript := by
  cases h with
  | nil => exact absurd rfl hne
  | @cons g value gs args hsaid hgs =>
    rw [openWith_cons g.flag_ne_help, Options.read_of_written (.cons hsaid hgs)]
    cases last? path? (g :: gs) <;> rfl

theorem openWith_of_reported {first : String} (h : first ∉ ["--help", "-h"]) {more : List String}
    {r : Refusal} (hr : Reported (first :: more) r) :
    openWith host (first :: more) = .over r.transcript := by
  rw [openWith_cons h, Options.read_of_reported hr]

theorem openWith_ne_refused {args : List String} (hgs : Written gs args)
    (hlexicon : ∃ path, .lexicon path ∈ gs) (r : Refusal) :
    openWith host args ≠ .over r.transcript := by
  obtain ⟨path, hpath⟩ := Option.isSome_iff_exists.1 (isSome_last?_path?.2 hlexicon)
  obtain ⟨_, hmem⟩ := hlexicon
  rw [openWith_of_written host hgs (List.ne_nil_of_mem hmem), hpath]
  exact Opening.ofStart_ne_refused _ r

theorem exists_lexicon_or_reported (args : List String) :
    (∃ gs, Written gs args ∧ ∃ path, .lexicon path ∈ gs) ∨ ∃ r, Reported args r := by
  rcases exists_written_or_offence args with ⟨gs, hgs⟩ | ⟨gs, before, rest, r, rfl, hgs, hr⟩
  · by_cases hlexicon : ∃ path, .lexicon path ∈ gs
    · exact .inl ⟨gs, hgs, hlexicon⟩
    · exact .inr ⟨_, .noLexicon hgs (not_exists.1 hlexicon)⟩
  · exact .inr ⟨r, .offence hgs hr⟩

theorem openWith_eq_refused_iff {first : String} (h : first ∉ ["--help", "-h"])
    {more args : List String} {r : Refusal} (hr : Reported args r) :
    openWith host (first :: more) = .over r.transcript ↔ Reported (first :: more) r := by
  refine ⟨fun hopen => ?_, openWith_of_reported host h⟩
  rcases exists_lexicon_or_reported (first :: more) with ⟨gs, hgs, hlexicon⟩ | ⟨r', hr'⟩
  · exact absurd hopen (openWith_ne_refused host hgs hlexicon r)
  · rw [openWith_of_reported host h hr'] at hopen
    obtain rfl := (hr'.transcript_inj hr).1 (Opening.over.inj hopen)
    exact hr'

theorem reported_congr (hgs : Written gs before) (hgs' : Written gs' before')
    (hflags : gs'.map flag = gs.map flag) (rest : List String) :
    (∃ r, Reported (before ++ rest) r ∧ Reported (before' ++ rest) r) ∨
      ∃ hs hs', Written hs (before ++ rest) ∧ Written hs' (before' ++ rest) ∧
        (∃ path, .lexicon path ∈ hs) ∧ ∃ path, .lexicon path ∈ hs' := by
  rcases exists_written_or_offence rest with ⟨hs, hhs⟩ | ⟨hs, middle, rest, r, rfl, hhs, hr⟩
  · have hlexicon : (∃ path, .lexicon path ∈ gs' ++ hs) ↔ ∃ path, .lexicon path ∈ gs ++ hs := by
      rw [lexicon_mem_iff, lexicon_mem_iff, List.map_append, List.map_append, hflags]
    by_cases h : ∃ path, .lexicon path ∈ gs ++ hs
    · exact .inr ⟨_, _, hgs.append hhs, hgs'.append hhs, h, hlexicon.2 h⟩
    · exact .inl ⟨_, .noLexicon (hgs.append hhs) (not_exists.1 h),
        .noLexicon (hgs'.append hhs) (not_exists.1 (mt hlexicon.1 h))⟩
  · refine .inl ⟨r, ?_, ?_⟩
    · rw [← List.append_assoc]
      exact .offence (hgs.append hhs) hr
    · rw [← List.append_assoc]
      exact .offence (hgs'.append hhs) hr

theorem refused_congr (hgs : Written gs before) (hgs' : Written gs' before')
    (hflags : gs'.map flag = gs.map flag) (rest : List String) (r : Refusal) :
    openWith host (before' ++ rest) = .over r.transcript ↔
      openWith host (before ++ rest) = .over r.transcript := by
  have hcongr := reported_congr hgs hgs' hflags rest
  cases hgs with
  | nil =>
    obtain rfl : gs' = [] := List.map_eq_nil_iff.1 hflags
    cases hgs'
    rfl
  | @cons g value gs before hsaid hgs =>
    cases hgs' with
    | nil => cases hflags
    | @cons g' value' gs' before' hsaid' hgs' =>
      rcases hcongr with ⟨r₀, hr, hr'⟩ | ⟨hs, hs', hhs, hhs', hlexicon, hlexicon'⟩
      · simp only [List.cons_append] at hr hr' ⊢
        rw [openWith_of_reported host g.flag_ne_help hr,
          openWith_of_reported host g'.flag_ne_help hr']
      · exact iff_of_false (openWith_ne_refused host hhs' hlexicon' r)
          (openWith_ne_refused host hhs hlexicon r)

end

/-- A generator is built just when the arguments are pairs of a flag and its value with a lexicon
among them. The last value of each flag is used, so pairs of different flags may change places.
Other arguments are refused with the leftmost offence, or for want of a lexicon when there is none.
The values in the pairs before are of no account for that: no value is taken for a flag. -/
theorem built_iff_written (host : Host) {first : String} (h : first ∉ ["--help", "-h"])
    (more : List String) :
    let args := first :: more
    let opened := openWith host args
    ((∃ o, opened = .ofStart (Session.start host o)) ↔
      ∃ gs, Written gs args ∧ ∃ path, .lexicon path ∈ gs) ∧
    (∀ gs, Written gs args →
      (∀ path, last? path? gs = some path → opened =
        .ofStart (Session.start host ⟨path, last? seed? gs, last? workers? gs⟩)) ∧
      ∀ gs' args', Written gs' args' → Reordered gs gs' → openWith host args' = opened) ∧
    ((¬ ∃ gs, Written gs args ∧ ∃ path, .lexicon path ∈ gs) → ∃ r, Reported args r) ∧
    (∀ r, Reported args r → opened = .over r.transcript) ∧
    ∀ gs gs' before before' rest, args = before ++ rest → Written gs before →
      Written gs' before' → gs'.map flag = gs.map flag → ∀ r : Refusal,
        (openWith host (before' ++ rest) = .over r.transcript ↔ opened = .over r.transcript) := by
  intro args opened
  have hne {gs : List Given} (hgs : Written gs (first :: more)) : gs ≠ [] := by
    rintro rfl
    cases hgs
  have hlast {gs : List Given} (hgs : Written gs args) {path : String}
      (hpath : last? path? gs = some path) : opened =
        .ofStart (Session.start host ⟨path, last? seed? gs, last? workers? gs⟩) := by
    simpa only [hpath] using openWith_of_written host hgs (hne hgs)
  have hreported (r : Refusal) (hr : Reported args r) : opened = .over r.transcript :=
    openWith_of_reported host h hr
  refine ⟨⟨?refused, ?built⟩, fun gs hgs => ⟨fun path hpath => hlast hgs hpath, ?reordered⟩,
    (exists_lexicon_or_reported args).resolve_left, hreported, ?values⟩
  case refused =>
    rintro ⟨o, ho⟩
    rcases exists_lexicon_or_reported args with hlexicon | ⟨r, hr⟩
    · exact hlexicon
    · exact absurd (ho.symm.trans (hreported r hr)) (Opening.ofStart_ne_refused _ r)
  case built =>
    rintro ⟨gs, hgs, hlexicon⟩
    obtain ⟨path, hpath⟩ := Option.isSome_iff_exists.1 (isSome_last?_path?.2 hlexicon)
    exact ⟨_, hlast hgs hpath⟩
  case reordered =>
    intro gs' args' hgs' hsame
    obtain ⟨hpath, hseed, hworkers⟩ := hsame.same_last
    rw [openWith_of_written host hgs' (hsame.ne_nil (hne hgs)), hpath, hseed, hworkers]
    exact (openWith_of_written host hgs (hne hgs)).symm
  case values =>
    intro gs gs' before before' rest hargs hgs hgs' hflags r
    rw [refused_congr host hgs hgs' hflags rest r, ← hargs]

theorem built_iff_written_flag_as_path :
    let disk : Disk := fun path =>
      if path = "least.ron" then .ok (.file Dictionary.leastText.toUTF8) else .error .missing
    let host : Host := ⟨disk, 1, 8⟩
    let args :=
      ["--lexicon", "--seed", "--seed", "+007", "--workers", "0", "--lexicon", "least.ron"]
    let args' := ["--seed", "7", "--lexicon", "--seed", "--lexicon", "least.ron", "--workers", "0"]
    "--lexicon" ∉ ["--help", "-h"] ∧
    (∃ s, Session.start host ⟨"least.ron", some 7, some 0⟩ = .ok s ∧
      openWith host args = .session s ∧ openWith host args' = .session s) ∧
    openWith host ["--lexicon", "--seed", "--seed", "--workers", "0"] =
      .over (Refusal.badValue "--seed" "--workers").transcript ∧
    openWith host ["--lexicon", "--help", "--seed"] = .over (Refusal.unknown "--seed").transcript ∧
    openWith host ["--seed", "7"] = .over Refusal.noLexicon.transcript := by
  intro disk host args args'
  have hflag : "--lexicon" ∉ ["--help", "-h"] := by decide
  have hzeros : (Given.seed 7).SaidBy "+007" := Text.word?_eq_some_iff.1 (by decide +kernel)
  have hseven : (Given.seed 7).SaidBy "7" := Text.word?_eq_some_iff.1 (by decide +kernel)
  have hnone : (Given.workers 0).SaidBy "0" := Text.word?_eq_some_iff.1 (by decide +kernel)
  have hgs : Written [.lexicon "--seed", .seed 7, .workers 0, .lexicon "least.ron"] args :=
    .cons rfl (.cons hzeros (.cons hnone (.cons rfl .nil)))
  have hgs' : Written [.seed 7, .lexicon "--seed", .lexicon "least.ron", .workers 0] args' :=
    .cons hseven (.cons rfl (.cons rfl (.cons hnone .nil)))
  have hpair (path : String) : Written [.lexicon path] ["--lexicon", path] := .cons rfl .nil
  obtain ⟨s, hs, -⟩ := exists_start_least host ⟨"least.ron", some 7, some 0⟩ rfl
  obtain ⟨-, hwritten, -⟩ := built_iff_written host hflag args.tail
  obtain ⟨hlast, hreordered⟩ := hwritten _ hgs
  have hopen : openWith host args = .session s :=
    (hlast "least.ron" rfl).trans (congrArg Opening.ofStart hs)
  refine ⟨hflag, ⟨s, hs, hopen, (hreordered _ args' hgs' (by decide)).trans hopen⟩, ?_, ?_, ?_⟩
  · obtain ⟨-, -, -, hreported, -⟩ :=
      built_iff_written host hflag ["--seed", "--seed", "--workers", "0"]
    have hbad : Offence ["--seed", "--workers", "0"] (.badValue "--seed" "--workers") :=
      .number (by decide) (Text.word?_eq_none_iff.1 (by decide +kernel))
    exact hreported _ (.offence (hpair _) hbad)
  · obtain ⟨-, -, -, hreported, -⟩ := built_iff_written host hflag ["--help", "--seed"]
    have hbad : Offence ["--seed"] (.unknown "--seed") := .valueless (by decide)
    exact hreported _ (.offence (hpair _) hbad)
  · obtain ⟨-, -, -, hreported, -⟩ := built_iff_written host (by decide : "--seed" ∉ _) ["7"]
    exact hreported _ (.noLexicon (.cons hseven .nil) (by simp))

end Shell

end TokiSentences
