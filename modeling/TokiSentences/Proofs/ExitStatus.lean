import TokiSentences.Proofs.Catalogue
import TokiSentences.Proofs.Lint
import TokiSentences.Proofs.Listing

/-!
What the exit status of the linter tells: whether something is wrong with the words it came by. A
dictionary that does not load leaves no words behind, so a file that is linted by itself must load;
a folder passes all the same as long as its other dictionaries do.
-/

namespace TokiSentences

def Node.isFolder : Node → Bool
  | file _ => false
  | folder _ => true

def Dictionary.Loads (content : ByteArray) : Prop := ∃ words, ofNode (.file content) = .ok words

namespace Lint

/-- A content that the linter tries to load: that of the file, or of a dictionary in the folder. -/
def Tried : Node → ByteArray → Prop
  | .file content, tried => tried = content
  | .folder entries, tried => ∃ names, FileAt entries names tried ∧ IsDictionary names

namespace Survey

def ofNode (path : String) : Node → Survey
  | .file content => ⟨[(path, Dictionary.ofNode (.file content))]⟩
  | .folder entries => ofFolder path (.folder entries)

def Complete (s : Survey) : Prop := ∀ a ∈ s.attempts, ∃ words, a.2 = .ok words

theorem failed_eq_nil_iff {s : Survey} : s.failed = [] ↔ s.Complete := by
  simp only [failed, List.filterMap_eq_nil_iff, Complete]
  refine forall₂_congr fun a _ => ?_
  obtain ⟨path, r⟩ := a
  cases r <;> simp

theorem complete_ofNode_iff {path : String} {n : Node} :
    (ofNode path n).Complete ↔ ∀ content, Tried n content → Dictionary.Loads content := by
  cases n with
  | file content => simp [Complete, ofNode, Tried, Dictionary.Loads]
  | folder entries =>
    simp only [Complete, ofNode, attempts_ofFolder, List.forall_mem_map, mem_dictionaries, Tried,
      Dictionary.Loads]
    constructor
    · rintro h content ⟨names, hat⟩
      exact h (names, content) hat
    · rintro h ⟨names, content⟩ hat
      exact h content ⟨names, hat⟩

end Survey

theorem exitCode_eq_zero_iff {words : List Word} : exitCode words = 0 ↔ errors words = [] := by
  unfold exitCode
  split <;> simp_all

theorem exitCode_le_one (words : List Word) : exitCode words ≤ 1 := by
  unfold exitCode
  split <;> decide

theorem run_cons {path : String} (hpath : path ≠ "--help" ∧ path ≠ "-h") (disk : Disk)
    (more : List String) : run disk (path :: more) = runOn disk path :=
  if_neg (by simpa [not_or] using hpath)

theorem exit_runOn {disk : Disk} {path : String} {n : Node} (h : disk path = .ok n) :
    (runOn disk path).exit = exitCode (Survey.ofNode path n).words := by
  cases n with
  | file content =>
    simp only [runOn, h, Survey.ofNode, Survey.words]
    cases Dictionary.ofNode (.file content) with
    | error e => rfl
    | ok words => simp
  | folder entries =>
    simp only [runOn, h]
    rfl

theorem exists_words_of_file {path : String} {content : ByteArray}
    (h : errors (Survey.ofNode path (.file content)).words = []) :
    ∃ words, Dictionary.ofNode (.file content) = .ok words := by
  cases hload : Dictionary.ofNode (.file content) with
  | ok words => exact ⟨words, rfl⟩
  | error e =>
    have hwords : (Survey.ofNode path (.file content)).words = [] := by
      simp [Survey.ofNode, Survey.words, hload]
    rw [hwords] at h
    exact absurd h (by decide)

theorem runOn_of_loads {disk : Disk} {path : String} {n : Node} (h : disk path = .ok n)
    (hload : ∀ content, n = .file content → Dictionary.Loads content) :
    let s := Survey.ofNode path n
    (runOn disk path).out = unlines ((if n.isFolder then s.loaded else []) ++ report s.words) ∧
      (runOn disk path).err = unlines s.failed := by
  cases n with
  | file content =>
    obtain ⟨words, hload⟩ := hload content rfl
    simp [runOn, h, hload, Survey.ofNode, Survey.words, Survey.failed, Node.isFolder, unlines]
  | folder entries =>
    simp only [runOn, h, Node.isFolder, if_true]
    exact ⟨rfl, rfl⟩

theorem runOn_of_errors_eq_nil {disk : Disk} {path : String} {n : Node} (h : disk path = .ok n)
    (herrors : errors (Survey.ofNode path n).words = []) :
    let s := Survey.ofNode path n
    (runOn disk path).out = unlines ((if n.isFolder then s.loaded else []) ++ report s.words) ∧
      (runOn disk path).err = unlines s.failed := by
  apply runOn_of_loads h
  rintro content rfl
  exact exists_words_of_file herrors

/-- The linter succeeds just when nothing is wrong with the words that it came by, and the errors it
still tells of then are the dictionaries that did not load. For a file there are none of these, so
success means that it loaded and that nothing is wrong with it; for a folder it means as much only
where every dictionary that is tried loads, as far as nothing is wrong with the others. -/
theorem run_exit_eq_zero_iff {disk : Disk} {path : String} {n : Node} (h : disk path = .ok n)
    (hpath : path ≠ "--help" ∧ path ≠ "-h") (more : List String) :
    let s := Survey.ofNode path n
    let t := run disk (path :: more)
    let complete := ∀ content, Tried n content → Dictionary.Loads content
    (t.exit = 0 ↔ errors s.words = []) ∧ t.exit ≤ 1 ∧ (s.failed = [] ↔ complete) ∧
    (t.exit = 0 → errorLines s.words = [] ∧
      t.out = unlines ((if n.isFolder then s.loaded else []) ++ report s.words) ∧
      t.err = unlines s.failed) ∧
    ((t.exit = 0 ↔ complete ∧ errors s.words = []) ↔
      (n.isFolder → errors s.words = [] → complete)) := by
  intro s t complete
  have ht : t = runOn disk path := run_cons hpath disk more
  have hexit : t.exit = exitCode s.words := by rw [ht, exit_runOn h]
  have hzero : t.exit = 0 ↔ errors s.words = [] := by rw [hexit, exitCode_eq_zero_iff]
  refine ⟨hzero, ?_, ?_, ?_, ?_⟩
  · rw [hexit]
    exact exitCode_le_one s.words
  · rw [Survey.failed_eq_nil_iff, Survey.complete_ofNode_iff]
  · intro h₀
    have herrors := hzero.1 h₀
    rw [ht]
    exact ⟨by rw [errorLines, herrors, List.map_nil], runOn_of_errors_eq_nil h herrors⟩
  · have hfile (hn : n.isFolder = false) (herrors : errors s.words = []) : complete := by
      cases n with
      | file content =>
        rintro _ rfl
        exact exists_words_of_file herrors
      | folder entries => cases hn
    rw [hzero]
    cases hn : n.isFolder with
    | false => simpa using hfile hn
    | true => simp

def partlyBroken : List (String × Node) :=
  [("a.ron", .file Dictionary.leastText.toUTF8), ("b.ron", .file "\x7b".toUTF8)]

theorem ofNode_brace :
    Dictionary.ofNode (.file "\x7b".toUTF8) = .error (.text ⟨.endOfInput, 1, 2⟩) := by
  simp only [Dictionary.ofNode, Dictionary.text_toUTF8]
  decide +kernel

theorem not_loads_brace : ¬ Dictionary.Loads "\x7b".toUTF8 := by
  rintro ⟨words, hwords⟩
  rw [ofNode_brace] at hwords
  cases hwords

theorem dictionaries_partlyBroken : dictionaries partlyBroken =
    [(["a.ron"], Dictionary.leastText.toUTF8), (["b.ron"], "\x7b".toUTF8)] := by
  have ha : extension? "a.ron" = some dictionaryExtension := by decide
  have hb : extension? "b.ron" = some dictionaryExtension := by decide
  simp [partlyBroken, dictionaries, ha, hb]

theorem tried_brace : Tried (.folder partlyBroken) "\x7b".toUTF8 := by
  have hmem : (["b.ron"], "\x7b".toUTF8) ∈ dictionaries partlyBroken := by
    simp [dictionaries_partlyBroken]
  exact ⟨["b.ron"], mem_dictionaries.1 hmem⟩

theorem errors_partlyBroken :
    errors (Survey.ofFolder "d" (.folder partlyBroken)).words = [] := by
  rw [Survey.words_ofFolder, dictionaries_partlyBroken]
  simp only [List.flatMap_cons, Dictionary.ofNode_leastText, ofNode_brace]
  decide +kernel

theorem failed_partlyBroken : (Survey.ofFolder "d" (.folder partlyBroken)).failed =
    ["  ERROR loading d/b.ron: RON deserialization error: 1:2: Unexpected end of RON"] := by
  rw [Survey.failed, Survey.attempts_ofFolder, dictionaries_partlyBroken]
  simp only [List.map_cons, Dictionary.ofNode_leastText, ofNode_brace]
  decide +kernel

theorem run_exit_zero_of_broken_dictionary :
    let broken := "\x7b".toUTF8
    let t := run (fun _ => .ok (.folder partlyBroken)) ["d"]
    Tried (.folder partlyBroken) broken ∧ ¬ Dictionary.Loads broken ∧ t.exit = 0 ∧
      t.err = "  ERROR loading d/b.ron: RON deserialization error: 1:2: Unexpected end of RON\n" ∧
      (run (fun _ => .ok (.file broken)) ["d/b.ron"]).exit = 1 := by
  intro broken t
  have hdisk : (fun _ => .ok (.folder partlyBroken) : Disk) "d" = .ok (.folder partlyBroken) := rfl
  have ht : t = runOn (fun _ => .ok (.folder partlyBroken)) "d" := rfl
  refine ⟨tried_brace, not_loads_brace, ?_, ?_, by decide +kernel⟩
  · rw [ht, exit_runOn hdisk, exitCode_eq_zero_iff]
    exact errors_partlyBroken
  · rw [ht, runOn_folder hdisk]
    simp only [failed_partlyBroken]
    decide

theorem run_exit_eq_zero_iff_partly_broken :
    let disk : Disk := fun _ => .ok (.folder partlyBroken)
    disk "d" = .ok (.folder partlyBroken) ∧ (run disk ["d"]).exit = 0 ∧
      ¬ ((run disk ["d"]).exit = 0 ↔
        (∀ content, Tried (.folder partlyBroken) content → Dictionary.Loads content) ∧
          errors (Survey.ofNode "d" (.folder partlyBroken)).words = []) := by
  intro disk
  have hdisk : disk "d" = .ok (.folder partlyBroken) := rfl
  obtain ⟨hzero, -, -, -, hiff⟩ := run_exit_eq_zero_iff hdisk (by decide) []
  refine ⟨hdisk, hzero.2 errors_partlyBroken, ?_⟩
  rw [hiff]
  intro hcomplete
  exact not_loads_brace (hcomplete rfl errors_partlyBroken _ tried_brace)

end Lint

end TokiSentences
