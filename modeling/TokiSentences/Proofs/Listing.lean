import Mathlib.Data.List.Perm.Basic
import TokiSentences.Dictionary.Vocabulary
import TokiSentences.Lint.Report
import TokiSentences.Proofs.Lexicon

namespace TokiSentences

theorem Lexicon.refusal?_perm {texts texts' : Role → List String}
    (h : ∀ r, (texts r).Perm (texts' r)) : refusal? texts = refusal? texts' := by
  have hempty : (fun r => (texts r).isEmpty) = fun r => (texts' r).isEmpty :=
    funext fun r => (h r).isEmpty_eq
  have hplain := ((h .preposition).filter (· != locative)).isEmpty_eq
  simp only [refusal?, hempty, hplain]

theorem shelf_perm {words words' : List Word} (h : words.Perm words') (r : Role) :
    (shelf words r).Perm (shelf words' r) := (h.filter _).map _

namespace Lint

theorem ofLexicon_eq (words : List Word) :
    ofLexicon words = (Lexicon.refusal? (shelf words)).toList.map .refused := by
  unfold ofLexicon
  cases h : Lexicon.ofWords words with
  | error e => simp [Lexicon.ofWords_eq_error_iff.1 h]
  | ok lx =>
    cases hrefusal : Lexicon.refusal? (shelf words) with
    | none => rfl
    | some e =>
      rw [Lexicon.ofWords_eq_error_iff.2 hrefusal] at h
      cases h

theorem ofWord_eq (seen : List String) (w : Word) :
    ofWord seen w = (if w.text ∈ seen then [.repeated w.text] else []) ++ ofWord [] w := by
  simp [ofWord]

theorem ofEach_congr {seen seen' : List String} (h : ∀ text, text ∈ seen ↔ text ∈ seen')
    (words : List Word) : ofEach seen words = ofEach seen' words := by
  induction words generalizing seen seen' with
  | nil => rfl
  | cons w words ih =>
    have hcons : ∀ text, text ∈ w.text :: seen ↔ text ∈ w.text :: seen' := by
      simp only [List.mem_cons, h, implies_true]
    rw [ofEach, ofEach, ofWord_eq seen, ofWord_eq seen', ih hcons]
    simp only [h]

theorem ofWord_swap (seen : List String) (v w : Word) :
    (ofWord seen v ++ ofWord (v.text :: seen) w).Perm
      (ofWord seen w ++ ofWord (w.text :: seen) v) := by
  rw [List.perm_iff_count]
  intro f
  rw [ofWord_eq seen, ofWord_eq seen, ofWord_eq (v.text :: seen), ofWord_eq (w.text :: seen)]
  by_cases h : v.text = w.text
  · simp only [h, List.count_append]
    omega
  · have h' : w.text ≠ v.text := Ne.symm h
    simp only [List.mem_cons, h, h', false_or, List.count_append]
    omega

theorem ofEach_perm {words words' : List Word} (h : words.Perm words') (seen : List String) :
    (ofEach seen words).Perm (ofEach seen words') := by
  induction h generalizing seen with
  | nil => exact .nil
  | cons w _ ih => exact (ih _).append_left _
  | swap v w words =>
    -- what comes after the two has seen the same texts
    have hrest :
        ofEach (v.text :: w.text :: seen) words = ofEach (w.text :: v.text :: seen) words :=
      ofEach_congr (by simp [or_left_comm]) words
    simp only [ofEach, ← List.append_assoc, hrest]
    exact (ofWord_swap seen w v).append_right _
  | trans _ _ ih ih' => exact (ih seen).trans (ih' seen)

theorem hasWord_perm {words words' : List Word} (h : words.Perm words') (text : String) (r : Role) :
    hasWord words text r = hasWord words' text r := h.any_eq

theorem findings_perm {words words' : List Word} (h : words.Perm words') :
    (findings words).Perm (findings words') := by
  simp only [findings, ofLexicon_eq, Lexicon.refusal?_perm (shelf_perm h), hasWord_perm h]
  exact (((ofEach_perm h []).append_left _).append_right _).append_right _

def warningLines (words : List Word) : List String :=
  (warnings words).map ("WARNING: " ++ ·.message)

def errorLines (words : List Word) : List String := (errors words).map ("ERROR: " ++ ·.message)

def heading (words : List Word) : List String :=
  [s!"Loaded {words.length} words", "", "=== Lexicon Lint Report ===", ""] ++
  Role.all.map (countLine words) ++ [""] ++
  (if (findings words).isEmpty then ["All checks passed!"] else [])

def summary (words : List Word) : List String :=
  ["", s!"Summary: {(errors words).length} errors, {(warnings words).length} warnings"]

theorem report_eq (words : List Word) :
    report words = heading words ++ warningLines words ++ errorLines words ++ summary words := rfl

section

variable {words words' : List Word} (h : words.Perm words')

include h

theorem errors_perm : (errors words).Perm (errors words') := (findings_perm h).filter _

theorem warnings_perm : (warnings words).Perm (warnings words') := (findings_perm h).filter _

theorem exitCode_perm : exitCode words = exitCode words' := by
  simp only [exitCode, (errors_perm h).isEmpty_eq]

theorem countLine_perm : countLine words = countLine words' := by
  funext r
  simp only [countLine, (h.filter _).length_eq]

theorem heading_perm : heading words = heading words' := by
  simp only [heading, h.length_eq, countLine_perm h, (findings_perm h).isEmpty_eq]

theorem summary_perm : summary words = summary words' := by
  simp only [summary, (errors_perm h).length_eq, (warnings_perm h).length_eq]

end

end Lint

/-- The same entries in another order, and so on in every folder among them. -/
inductive Relisted : List (String × Node) → List (String × Node) → Prop
  | nil : Relisted [] []
  | file : Relisted entries entries' →
      Relisted ((name, .file content) :: entries) ((name, .file content) :: entries')
  | folder : Relisted held held' → Relisted entries entries' →
      Relisted ((name, .folder held) :: entries) ((name, .folder held') :: entries')
  | swap : Relisted (e :: f :: entries) (f :: e :: entries)
  | trans : Relisted entries entries' → Relisted entries' entries'' → Relisted entries entries''

namespace Relisted

theorem refl : ∀ entries, Relisted entries entries
  | [] => .nil
  | (_, .file _) :: entries => .file (refl entries)
  | (_, .folder held) :: entries => .folder (refl held) (refl entries)

theorem of_perm {entries entries' : List (String × Node)} (h : entries.Perm entries') :
    Relisted entries entries' := by
  induction h with
  | nil => exact .nil
  | cons e _ ih =>
    obtain ⟨name, n⟩ := e
    cases n with
    | file content => exact .file ih
    | folder held => exact .folder (refl held) ih
  | swap => exact .swap
  | trans _ _ ih ih' => exact .trans ih ih'

end Relisted

inductive Distinct : List (String × Node) → Prop
  | nil : Distinct []
  | file : name ∉ entries.map (·.1) → Distinct entries → Distinct ((name, .file content) :: entries)
  | folder : name ∉ entries.map (·.1) → Distinct held → Distinct entries →
      Distinct ((name, .folder held) :: entries)

/-- Where the names lead from the entries of a folder, there is a file. -/
inductive FileAt : List (String × Node) → List String → ByteArray → Prop
  | here : (name, .file content) ∈ entries → FileAt entries [name] content
  | inside : (name, .folder held) ∈ entries → FileAt held names content →
      FileAt entries (name :: names) content

namespace FileAt

theorem cons_iff {e : String × Node} {entries : List (String × Node)} {names : List String}
    {content : ByteArray} :
    FileAt (e :: entries) names content ↔
      FileAt [e] names content ∨ FileAt entries names content := by
  constructor
  · rintro (h | ⟨h, hheld⟩)
    · rcases List.mem_cons.1 h with rfl | h
      · exact .inl (.here List.mem_cons_self)
      · exact .inr (.here h)
    · rcases List.mem_cons.1 h with rfl | h
      · exact .inl (.inside List.mem_cons_self hheld)
      · exact .inr (.inside h hheld)
  · rintro ((h | ⟨h, hheld⟩) | (h | ⟨h, hheld⟩))
    · exact .here (by simp [List.mem_singleton.1 h])
    · exact .inside (by simp [List.mem_singleton.1 h]) hheld
    · exact .here (List.mem_cons_of_mem e h)
    · exact .inside (List.mem_cons_of_mem e h) hheld

theorem file_iff {name : String} {content content' : ByteArray} {names : List String} :
    FileAt [(name, .file content)] names content' ↔ names = [name] ∧ content' = content := by
  constructor
  · rintro (h | ⟨h, -⟩) <;> cases List.mem_singleton.1 h
    exact ⟨rfl, rfl⟩
  · rintro ⟨rfl, rfl⟩
    exact .here List.mem_cons_self

theorem folder_iff {name : String} {held : List (String × Node)} {content : ByteArray}
    {names : List String} :
    FileAt [(name, .folder held)] names content ↔
      ∃ rest, names = name :: rest ∧ FileAt held rest content := by
  constructor
  · rintro (h | ⟨h, hheld⟩) <;> cases List.mem_singleton.1 h
    exact ⟨_, rfl, hheld⟩
  · rintro ⟨rest, rfl, hheld⟩
    exact .inside List.mem_cons_self hheld

theorem not_nil {names : List String} {content : ByteArray} : ¬ FileAt [] names content := by
  rintro (h | ⟨h, -⟩) <;> cases h

theorem names_ne_nil {entries : List (String × Node)} {names : List String} {content : ByteArray}
    (h : FileAt entries names content) : names ≠ [] := by
  cases h <;> simp

theorem exists_head_mem {entries : List (String × Node)} {names : List String}
    {content : ByteArray} (h : FileAt entries names content) :
    ∃ name ∈ entries.map (·.1), names.head? = some name := by
  cases h with
  | here h => exact ⟨_, List.mem_map_of_mem h, rfl⟩
  | inside h _ => exact ⟨_, List.mem_map_of_mem h, rfl⟩

end FileAt

namespace Lint

def IsDictionary (names : List String) : Prop :=
  names.getLast?.bind extension? = some dictionaryExtension

def dictionaries : List (String × Node) → List (List String × ByteArray)
  | [] => []
  | (name, .folder held) :: entries =>
    (dictionaries held).map (fun d => (name :: d.1, d.2)) ++ dictionaries entries
  | (name, .file content) :: entries =>
    (if extension? name = some dictionaryExtension then [([name], content)] else []) ++
      dictionaries entries

theorem isDictionary_cons {name : String} {names : List String} (h : names ≠ []) :
    IsDictionary (name :: names) ↔ IsDictionary names := by
  rw [IsDictionary, IsDictionary, List.getLast?_cons_of_ne_nil h]

theorem mem_dictionaries {entries : List (String × Node)} {d : List String × ByteArray} :
    d ∈ dictionaries entries ↔ FileAt entries d.1 d.2 ∧ IsDictionary d.1 := by
  fun_induction dictionaries entries generalizing d with
  | case1 => simp [FileAt.not_nil]
  | case2 name held entries ih ih' =>
    rw [List.mem_append, ih', FileAt.cons_iff, FileAt.folder_iff, or_and_right, List.mem_map]
    refine or_congr_left ?_
    constructor
    · rintro ⟨d, hd, rfl⟩
      obtain ⟨hat, hdictionary⟩ := ih.1 hd
      exact ⟨⟨_, rfl, hat⟩, (isDictionary_cons hat.names_ne_nil).2 hdictionary⟩
    · rintro ⟨⟨rest, hnames, hat⟩, hdictionary⟩
      rw [hnames, isDictionary_cons hat.names_ne_nil] at hdictionary
      exact ⟨(rest, d.2), ih.2 ⟨hat, hdictionary⟩, by rw [← hnames]⟩
  | case3 name content entries ih =>
    rw [List.mem_append, ih, FileAt.cons_iff, FileAt.file_iff, or_and_right]
    refine or_congr_left ?_
    obtain ⟨names, content'⟩ := d
    split
    · rename_i hdictionary
      simp only [List.mem_singleton, Prod.mk.injEq]
      refine ⟨fun h => ⟨h, ?_⟩, (·.1)⟩
      rw [h.1]
      exact hdictionary
    · rename_i hother
      simp only [List.not_mem_nil, false_iff]
      rintro ⟨⟨rfl, -⟩, hdictionary⟩
      exact hother hdictionary

theorem cons_not_mem_dictionaries {entries : List (String × Node)} {name : String}
    (h : name ∉ entries.map (·.1)) (rest : List String) :
    name :: rest ∉ (dictionaries entries).map (·.1) := by
  intro hmem
  obtain ⟨d, hd, hnames⟩ := List.mem_map.1 hmem
  obtain ⟨name', hname', hhead⟩ := (mem_dictionaries.1 hd).1.exists_head_mem
  obtain rfl : name = name' := by simpa [hnames] using hhead
  exact h hname'

theorem nodup_dictionaries {entries : List (String × Node)} (h : Distinct entries) :
    ((dictionaries entries).map (·.1)).Nodup := by
  induction h with
  | nil => simp [dictionaries]
  | file hname _ ih =>
    rw [dictionaries]
    split
    · exact List.nodup_cons.2 ⟨cons_not_mem_dictionaries hname [], ih⟩
    · exact ih
  | @folder name held entries hname _ _ ih ih' =>
    have hheld : ((dictionaries held).map fun d => name :: d.1).Nodup := by
      have := ih.map (List.cons_injective (a := name))
      rwa [List.map_map] at this
    rw [dictionaries, List.map_append, List.map_map]
    refine List.nodup_append'.2 ⟨hheld, ih', ?_⟩
    intro names hmem
    obtain ⟨d, -, rfl⟩ := List.mem_map.1 hmem
    exact cons_not_mem_dictionaries hname d.1

def pathOf (path : String) (names : List String) : String := names.foldl pathIn path

theorem filesAmong_eq (path : String) (entries : List (String × Node)) :
    filesAmong path entries =
      (dictionaries entries).map fun d => (pathOf path d.1, .file d.2) := by
  fun_induction dictionaries entries generalizing path with
  | case1 => rw [filesAmong, List.map_nil]
  | case2 name held entries ih ih' =>
    rw [filesAmong, ih, ih']
    simp [pathOf]
  | case3 name content entries ih =>
    rw [filesAmong, ih]
    split <;> simp [pathOf]

theorem dictionaries_cons (e : String × Node) (entries : List (String × Node)) :
    dictionaries (e :: entries) = dictionaries [e] ++ dictionaries entries := by
  obtain ⟨name, n⟩ := e
  cases n <;> simp [dictionaries]

theorem dictionaries_perm {entries entries' : List (String × Node)}
    (h : Relisted entries entries') : (dictionaries entries).Perm (dictionaries entries') := by
  induction h with
  | nil => exact .refl _
  | file _ ih =>
    rw [dictionaries, dictionaries]
    exact ih.append_left _
  | folder _ _ ih ih' =>
    rw [dictionaries, dictionaries]
    exact (ih.map _).append ih'
  | @swap e f entries =>
    rw [dictionaries_cons e, dictionaries_cons f, dictionaries_cons f (e :: entries),
      dictionaries_cons e entries]
    exact List.perm_append_comm_assoc ..
  | trans _ _ ih ih' => exact ih.trans ih'

namespace Survey

theorem attempts_ofFolder (path : String) (entries : List (String × Node)) :
    (ofFolder path (.folder entries)).attempts =
      (dictionaries entries).map fun d => (pathOf path d.1, Dictionary.ofNode (.file d.2)) := by
  rw [ofFolder, filesIn, filesAmong_eq, List.map_map]
  rfl

theorem words_ofFolder (path : String) (entries : List (String × Node)) :
    (ofFolder path (.folder entries)).words =
      (dictionaries entries).flatMap fun d => (Dictionary.ofNode (.file d.2)).toOption.getD [] := by
  rw [words, attempts_ofFolder, List.flatMap_map]
  congr 1
  funext d
  cases Dictionary.ofNode (.file d.2) <;> rfl

section

variable {s s' : Survey} (h : s.attempts.Perm s'.attempts)

include h

theorem words_perm : s.words.Perm s'.words := h.flatMap_right _

theorem loaded_perm : s.loaded.Perm s'.loaded := h.filterMap _

theorem failed_perm : s.failed.Perm s'.failed := h.filterMap _

end

end Survey

theorem runOn_folder {disk : Disk} {path : String} {entries : List (String × Node)}
    (h : disk path = .ok (.folder entries)) :
    let s := Survey.ofFolder path (.folder entries)
    runOn disk path =
      { exit := exitCode s.words
        out := unlines (s.loaded ++ heading s.words ++ warningLines s.words ++
          errorLines s.words ++ summary s.words)
        err := unlines s.failed } := by
  simp only [runOn, h, report_eq, List.append_assoc]

/-- A folder is linted alike in whatever order it and the folders in it are listed. Each dictionary
at any depth is tried once and nothing else is, those that load make up the words, and the two
reports have the same lines, of which only the loaded files, the warnings and the errors may come in
another order. -/
theorem runOn_of_relisted {disk disk' : Disk} {path : String}
    {entries entries' : List (String × Node)} (h : disk path = .ok (.folder entries))
    (h' : disk' path = .ok (.folder entries')) (hrelisted : Relisted entries entries') :
    let s := Survey.ofFolder path (.folder entries)
    let s' := Survey.ofFolder path (.folder entries')
    (∃ found : List (List String × ByteArray),
      (Distinct entries → (found.map (·.1)).Nodup) ∧
      (∀ names content, (names, content) ∈ found ↔
        FileAt entries names content ∧ IsDictionary names) ∧
      s.attempts = found.map (fun d => (pathOf path d.1, Dictionary.ofNode (.file d.2))) ∧
      s.words = found.flatMap fun d => (Dictionary.ofNode (.file d.2)).toOption.getD []) ∧
    s.attempts.Perm s'.attempts ∧ s.words.Perm s'.words ∧
    s.loaded.Perm s'.loaded ∧ s.failed.Perm s'.failed ∧
    heading s.words = heading s'.words ∧ summary s.words = summary s'.words ∧
    (warningLines s.words).Perm (warningLines s'.words) ∧
    (errorLines s.words).Perm (errorLines s'.words) ∧
    (runOn disk path).exit = (runOn disk' path).exit ∧
    (runOn disk path).out = unlines (s.loaded ++ heading s.words ++ warningLines s.words ++
      errorLines s.words ++ summary s.words) ∧
    (runOn disk path).err = unlines s.failed ∧
    (runOn disk' path).out = unlines (s'.loaded ++ heading s'.words ++ warningLines s'.words ++
      errorLines s'.words ++ summary s'.words) ∧
    (runOn disk' path).err = unlines s'.failed ∧
    ∀ words words' : List Word, words.Perm words' →
      (errors words).Perm (errors words') ∧ (warnings words).Perm (warnings words') := by
  intro s s'
  have hattempts : s.attempts.Perm s'.attempts := by
    rw [Survey.attempts_ofFolder, Survey.attempts_ofFolder]
    exact (dictionaries_perm hrelisted).map _
  have hwords := Survey.words_perm hattempts
  refine ⟨⟨dictionaries entries, nodup_dictionaries, ?_,
      Survey.attempts_ofFolder path entries, Survey.words_ofFolder path entries⟩,
    hattempts, hwords, Survey.loaded_perm hattempts, Survey.failed_perm hattempts,
    heading_perm hwords, summary_perm hwords, (warnings_perm hwords).map _,
    (errors_perm hwords).map _, ?_, ?_, ?_, ?_, ?_, ?_⟩
  · exact fun names content => mem_dictionaries
  · rw [runOn_folder h, runOn_folder h']
    exact exitCode_perm hwords
  · rw [runOn_folder h]
  · rw [runOn_folder h]
  · rw [runOn_folder h']
  · rw [runOn_folder h']
  · exact fun words words' hperm => ⟨errors_perm hperm, warnings_perm hperm⟩

theorem runOn_of_relisted_two_dictionaries :
    let good : Node := .file Dictionary.leastText.toUTF8
    let broken : Node := .file "\x7b".toUTF8
    let notes : Node := .file ByteArray.empty
    let entries := [("a.ron", good), ("b", .folder [("c.ron", broken), ("notes", notes)])]
    let entries' := [("b", .folder [("notes", notes), ("c.ron", broken)]), ("a.ron", good)]
    let disk : Disk := fun _ => .ok (.folder entries)
    let disk' : Disk := fun _ => .ok (.folder entries')
    (∃ found : List (List String × ByteArray), (found.map (·.1)).Nodup ∧
      ∀ names content, (names, content) ∈ found ↔
        FileAt entries names content ∧ IsDictionary names) ∧
      (Survey.ofFolder "d" (.folder entries)).words.Perm
        (Survey.ofFolder "d" (.folder entries')).words ∧
      (runOn disk "d").exit = (runOn disk' "d").exit := by
  intro good broken notes entries entries' disk disk'
  have hheld : Relisted [("c.ron", broken), ("notes", notes)]
    [("notes", notes), ("c.ron", broken)] := .of_perm (.swap ..)
  have hrelisted : Relisted entries entries' := .trans .swap (.folder hheld (.file .nil))
  have hdistinct : Distinct entries :=
    .file (by decide) (.folder (by decide) (.file (by decide) (.file (by decide) .nil)) .nil)
  have hdisk : disk "d" = .ok (.folder entries) := rfl
  have hdisk' : disk' "d" = .ok (.folder entries') := rfl
  obtain ⟨⟨found, hnodup, hfound, -⟩, -, hwords, -, -, -, -, -, -, hexit, -⟩ :=
    runOn_of_relisted hdisk hdisk' hrelisted
  exact ⟨⟨found, hnodup hdistinct, hfound⟩, hwords, hexit⟩

end Lint

end TokiSentences
