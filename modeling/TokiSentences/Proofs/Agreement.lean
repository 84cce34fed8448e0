import TokiSentences.Proofs.ExitStatus
import TokiSentences.Proofs.Session

/-!
The linter and the generator on one dictionary file. The linter scans the words and lists what is
wrong with them, a generator shelves them and stops at the first thing that it cannot do without;
they come to the same verdict but for blanks in a word, and to the same counts.
-/

namespace TokiSentences

theorem Setup.build_dictionary_eq_ok_iff {host : Host} {path : String} {g : Generator Seeded} :
    (ofSettings [.dictionary path]).build host = .ok g ↔
      ∃ words lx, Dictionary.load host.disk path = .ok words ∧ Lexicon.ofWords words = .ok lx ∧
        g = ⟨lx, ⟨.ofSeed host.entropy, false⟩, host.cores⟩ := build_eq_ok_iff

theorem Shell.openWith_dictionary_eq_session_iff {host : Host} {path : String} {s : Session} :
    openWith host ["--lexicon", path] = .session s ↔
      (Setup.ofSettings [.dictionary path]).build host = .ok s.generator ∧ s.host = host ∧
        s.options = ⟨path, none, none⟩ := by
  have hread : Options.read ["--lexicon", path] = .ok ⟨path, none, none⟩ := rfl
  exact (openWith_eq_session_iff hread).trans Session.start_eq_ok_iff

namespace Lint

/-- How a report opens: so many words, and for each role how many hold it. -/
def counts (size : Nat) (held : Role → Nat) : List String :=
  [s!"Loaded {size} words", "", "=== Lexicon Lint Report ===", ""] ++
  Role.all.map (fun r => s!"  {padded r.name} {held r}") ++ [""]

def remarks (words : List Word) : List String :=
  (if (findings words).isEmpty then ["All checks passed!"] else []) ++ warningLines words ++
    errorLines words ++ summary words

theorem report_eq_counts (words : List Word) : report words =
    counts words.length (fun r => (words.filter (·.has r)).length) ++ remarks words := by
  simp only [report_eq, heading, counts, remarks, List.append_assoc]
  rfl

theorem report_of_accepted {words : List Word} {lx : Lexicon} (h : Lexicon.ofWords words = .ok lx) :
    report words = counts lx.size (fun r => (lx.texts r).length) ++ remarks words := by
  have hsize : lx.size = words.length := by
    rw [Lexicon.size_of_ofListing h, List.length_map]
  have hheld (r : Role) : (lx.texts r).length = (words.filter (·.has r)).length := by
    rw [Lexicon.texts_eq_shelf h, shelf, List.length_map]
  simp only [report_eq_counts, hsize, hheld]

section

variable {disk : Disk} {path : String} {content : ByteArray}

theorem runOn_of_loaded {words : List Word} (h : disk path = .ok (.file content))
    (hload : Dictionary.load disk path = .ok words) :
    runOn disk path = { exit := exitCode words, out := unlines (report words) } := by
  rw [Dictionary.load, h] at hload
  simp only [runOn, h, hload]

theorem runOn_exit_eq_zero_iff (h : disk path = .ok (.file content)) :
    (runOn disk path).exit = 0 ↔ ∃ words lx, Dictionary.load disk path = .ok words ∧
      Lexicon.ofWords words = .ok lx ∧ ∀ w ∈ words, Text.hasBlank w.text = false := by
  constructor
  · intro hexit
    rw [exit_runOn h, exitCode_eq_zero_iff] at hexit
    obtain ⟨words, hload⟩ := exists_words_of_file hexit
    have hwords : (Survey.ofNode path (.file content)).words = words := by
      simp [Survey.ofNode, Survey.words, hload]
    rw [hwords] at hexit
    obtain ⟨⟨lx, hlx⟩, hblank⟩ := errors_eq_nil_iff.1 hexit
    exact ⟨words, lx, by rw [Dictionary.load, h]; exact hload, hlx, hblank⟩
  · rintro ⟨words, lx, hload, hlx, hblank⟩
    rw [runOn_of_loaded h hload]
    exact exitCode_eq_zero_iff.2 (errors_eq_nil_iff.2 ⟨⟨lx, hlx⟩, hblank⟩)

theorem runOn_exit_le_one (h : disk path = .ok (.file content)) : (runOn disk path).exit ≤ 1 := by
  rw [exit_runOn h]
  exact exitCode_le_one _

end

/-- The linter and the generator agree on a file. It passes just when it loads, its words make a
lexicon and none of them has a blank in it. So there is a generator of a file that passes, and a
session opens on it; and when there is none, the file fails. Where both come to words, the linter
counts as many of them, and as many for each role, as the generator has. -/
theorem run_agrees_with_build {disk : Disk} {path : String} {content : ByteArray}
    (h : disk path = .ok (.file content)) (hpath : path ≠ "--help" ∧ path ≠ "-h")
    (more : List String) :
    let linted := run disk (path :: more)
    (linted.exit = 0 ↔ ∃ words lx, Dictionary.load disk path = .ok words ∧
      Lexicon.ofWords words = .ok lx ∧ ∀ w ∈ words, Text.hasBlank w.text = false) ∧
    ∀ entropy cores,
      let host : Host := ⟨disk, entropy, cores⟩
      let built := (Setup.ofSettings [.dictionary path]).build host
      (linted.exit = 0 → (∃ g, built = .ok g) ∧
        ∃ s, Shell.openWith host ["--lexicon", path] = .session s) ∧
      (∀ e, built = .error e → linted.exit = 1) ∧
      ∀ g, built = .ok g → ∃ words, Dictionary.load disk path = .ok words ∧
        linted.out = unlines
          (counts g.lexicon.size (fun r => (g.lexicon.texts r).length) ++ remarks words) := by
  intro linted
  have hlinted : linted = runOn disk path := run_cons hpath disk more
  rw [hlinted]
  refine ⟨runOn_exit_eq_zero_iff h, ?_⟩
  intro entropy cores host built
  have hbuilt (hexit : (runOn disk path).exit = 0) : ∃ g, built = .ok g := by
    obtain ⟨words, lx, hload, hlx, -⟩ := (runOn_exit_eq_zero_iff h).1 hexit
    exact ⟨_, Setup.build_dictionary_eq_ok_iff.2 ⟨words, lx, hload, hlx, rfl⟩⟩
  refine ⟨?passed, ?failed, ?counted⟩
  case passed =>
    intro hexit
    obtain ⟨g, hg⟩ := hbuilt hexit
    exact ⟨⟨g, hg⟩, ⟨host, ⟨path, none, none⟩, g⟩,
      Shell.openWith_dictionary_eq_session_iff.2 ⟨hg, rfl, rfl⟩⟩
  case failed =>
    intro e he
    have hle : (runOn disk path).exit ≤ 1 := runOn_exit_le_one h
    have hne : (runOn disk path).exit ≠ 0 := by
      intro hexit
      obtain ⟨g, hg⟩ := hbuilt hexit
      cases he.symm.trans hg
    omega
  case counted =>
    intro g hg
    obtain ⟨words, lx, hload, hlx, rfl⟩ := Setup.build_dictionary_eq_ok_iff.1 hg
    refine ⟨words, hload, ?_⟩
    rw [runOn_of_loaded h hload, report_of_accepted hlx]

def spacedText : String := String.join [
  "\x7b\"mi\":(),",
  "\"moku pona\":(definitions:[\"\"]),",
  "\"ken\":(definitions:[\"(preverb)\"]),",
  "\"tan\":(definitions:[\"(preposition)\"])\x7d"]

def spacedWords : List Word :=
  Lexicon.wordsOf .preverb ["ken"] ++ Lexicon.wordsOf .pronoun ["mi"] ++
    Lexicon.wordsOf .content ["moku pona"] ++ Lexicon.wordsOf .preposition ["tan"]

theorem ofNode_spacedText :
    Dictionary.ofNode (.file spacedText.toUTF8) = .ok spacedWords := by
  simp only [Dictionary.ofNode, Dictionary.text_toUTF8]
  decide +kernel

theorem run_agrees_with_build_three_files :
    let disk : Disk := fun path =>
      if path = "least.ron" then .ok (.file Dictionary.leastText.toUTF8)
      else if path = "spaced.ron" then .ok (.file spacedText.toUTF8)
      else .ok (.file "\x7b".toUTF8)
    let host : Host := ⟨disk, 1, 8⟩
    (run disk ["least.ron"]).exit = 0 ∧
    (∃ s, Shell.openWith host ["--lexicon", "least.ron"] = .session s) ∧
    (run disk ["spaced.ron"]).exit ≠ 0 ∧
    (∃ g, (Setup.ofSettings [.dictionary "spaced.ron"]).build host = .ok g ∧
      (run disk ["spaced.ron"]).out = unlines
        (counts g.lexicon.size (fun r => (g.lexicon.texts r).length) ++ remarks spacedWords)) ∧
    (run disk ["broken.ron"]).exit = 1 := by
  intro disk host
  have hleast : Dictionary.load disk "least.ron" = .ok Dictionary.leastWords :=
    Dictionary.ofNode_leastText
  have hspaced : Dictionary.load disk "spaced.ron" = .ok spacedWords := ofNode_spacedText
  have hbroken : Dictionary.load disk "broken.ron" = .error (.text ⟨.endOfInput, 1, 2⟩) :=
    ofNode_brace
  have hfile : disk "least.ron" = .ok (.file Dictionary.leastText.toUTF8) := rfl
  have hfile' : disk "spaced.ron" = .ok (.file spacedText.toUTF8) := rfl
  have hfile'' : disk "broken.ron" = .ok (.file "\x7b".toUTF8) := rfl
  obtain ⟨hpassed, hgenerator⟩ := run_agrees_with_build hfile (by decide) []
  obtain ⟨hpassed', hgenerator'⟩ := run_agrees_with_build hfile' (by decide) []
  obtain ⟨-, hgenerator''⟩ := run_agrees_with_build hfile'' (by decide) []
  obtain ⟨lx, hlx⟩ : ∃ lx, Lexicon.ofWords Dictionary.leastWords = .ok lx := ⟨_, rfl⟩
  obtain ⟨lx', hlx'⟩ : ∃ lx, Lexicon.ofWords spacedWords = .ok lx := ⟨_, rfl⟩
  have hexit := hpassed.2 ⟨_, lx, hleast, hlx, by decide⟩
  refine ⟨hexit, ((hgenerator 1 8).1 hexit).2, ?spaced, ?counts, ?broken⟩
  case spaced =>
    intro hexit'
    obtain ⟨words, -, hload, -, hblank⟩ := hpassed'.1 hexit'
    rw [hspaced] at hload
    cases hload
    exact absurd hblank (by decide)
  case counts =>
    refine ⟨⟨lx', ⟨.ofSeed 1, false⟩, 8⟩, ?_⟩
    have hbuilt : (Setup.ofSettings [.dictionary "spaced.ron"]).build host =
        .ok ⟨lx', ⟨.ofSeed 1, false⟩, 8⟩ :=
      Setup.build_dictionary_eq_ok_iff.2 ⟨_, _, hspaced, hlx', rfl⟩
    obtain ⟨words, hload, hout⟩ := (hgenerator' 1 8).2.2 _ hbuilt
    rw [hspaced] at hload
    cases hload
    exact ⟨hbuilt, hout⟩
  case broken => exact (hgenerator'' 1 8).2.1 _ (Setup.build_of_load_error hbroken)

end Lint

end TokiSentences
