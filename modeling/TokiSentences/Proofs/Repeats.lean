import TokiSentences.Proofs.Catalogue
import TokiSentences.Proofs.ExitStatus

/-!
What the linter makes of a word that is defined again. It goes through the words that dictionaries
come to, and of these a dictionary has each only once: what is written twice in one file is gone
before the linter looks, and it tells of nothing but words of two files.
-/

namespace TokiSentences

namespace Dictionary

def Reads (content : ByteArray) (written : List (String × Entry)) : Prop :=
  ∃ text, (Node.file content).text = .ok text ∧ read text = .ok written

theorem reads_toUTF8 {text : String} {written : List (String × Entry)}
    (h : read text = .ok written) : Reads text.toUTF8 written :=
  ⟨text, text_toUTF8 text, h⟩

theorem Reads.ofNode_eq {content : ByteArray} {written : List (String × Entry)}
    (h : Reads content written) : ofNode (.file content) = .ok (words written) := by
  obtain ⟨text, htext, hread⟩ := h
  simp only [ofNode, htext, parse, hread]

theorem exists_reads_of_ofNode {content : ByteArray} {ws : List Word}
    (h : ofNode (.file content) = .ok ws) :
    ∃ written, Reads content written ∧ ws = words written := by
  cases htext : (Node.file content).text with
  | error e => simp [ofNode, htext] at h
  | ok text =>
    cases hread : read text with
    | error f => simp [ofNode, htext, parse, hread] at h
    | ok written =>
      have hreads : Reads content written := ⟨text, htext, hread⟩
      exact ⟨written, hreads, Except.ok.inj (h.symm.trans hreads.ofNode_eq)⟩

def textsOf (content : ByteArray) : List String :=
  ((ofNode (.file content)).toOption.getD []).map (·.text)

theorem nodup_textsOf (content : ByteArray) : (textsOf content).Nodup := by
  unfold textsOf
  cases h : ofNode (.file content) with
  | error e => exact List.nodup_nil
  | ok ws =>
    obtain ⟨written, -, rfl⟩ := exists_reads_of_ofNode h
    exact nodup_texts_words written

theorem mem_textsOf {content : ByteArray} {word : String} : word ∈ textsOf content ↔
    ∃ written e, Reads content written ∧ lastOf? word written = some e ∧ eligible word e := by
  constructor
  · intro hmem
    cases h : ofNode (.file content) with
    | error e => simp [textsOf, h, Except.toOption] at hmem
    | ok ws =>
      obtain ⟨written, hreads, rfl⟩ := exists_reads_of_ofNode h
      simp only [textsOf, h, Except.toOption, Option.getD_some, List.mem_map] at hmem
      obtain ⟨w, hw, rfl⟩ := hmem
      obtain ⟨e, hlast, he, -⟩ := mem_words.1 hw
      exact ⟨written, e, hreads, hlast, he⟩
  · rintro ⟨written, e, hreads, hlast, he⟩
    rw [textsOf, hreads.ofNode_eq]
    exact List.mem_map.2 ⟨wordOf (word, e), mem_words.2 ⟨e, hlast, he, rfl⟩, rfl⟩

/-- The word is written more than once, and not all that is written of it is left out. -/
def WrittenAgain (word : String) (written : List (String × Entry)) : Prop :=
  2 ≤ written.countP (·.1 == word) ∧ ∃ e, (word, e) ∈ written ∧ eligible word e

end Dictionary

namespace Lint

theorem repeated_mem_ofWord {seen : List String} {w : Word} {text : String} :
    .repeated text ∈ ofWord seen w ↔ w.text = text ∧ text ∈ seen := by
  rw [mem_ofWord]
  constructor
  · rintro (⟨hseen, h⟩ | ⟨-, h⟩ | ⟨-, h⟩) <;> cases h
    exact ⟨rfl, hseen⟩
  · rintro ⟨rfl, hseen⟩
    exact .inl ⟨hseen, rfl⟩

theorem repeated_mem_ofEach {seen : List String} {words : List Word} {text : String} :
    .repeated text ∈ ofEach seen words ↔
      (text ∈ seen ∧ text ∈ words.map (·.text)) ∨ 2 ≤ (words.map (·.text)).count text := by
  -- For any words seen before: the word at hand is one of them for the rest of the list.
  induction words generalizing seen with
  | nil => simp [ofEach]
  | cons w words ih =>
    rw [ofEach, List.mem_append, repeated_mem_ofWord, ih, List.map_cons, List.count_cons,
      List.mem_cons, List.mem_cons]
    by_cases h : w.text = text
    · have hcount : 2 ≤ (words.map (·.text)).count text + 1 ↔ text ∈ words.map (·.text) := by
        rw [← List.count_pos_iff]
        omega
      have hmem : 2 ≤ (words.map (·.text)).count text → text ∈ words.map (·.text) := fun h₂ =>
        List.count_pos_iff.1 (by omega)
      simp only [h, beq_self_eq_true, if_true, hcount, true_and, true_or]
      tauto
    · simp [h, Ne.symm h]

theorem repeated_mem_findings {words : List Word} {text : String} :
    .repeated text ∈ findings words ↔ 2 ≤ (words.map (·.text)).count text := by
  simp [mem_findings, mem_ofLexicon, repeated_mem_ofEach]

theorem Finding.message_eq_repeated_iff {f : Finding} (hf : f.isError = false) {word : String} :
    f.message = (repeated word).message ↔ f = repeated word := by
  have hhead : (repeated word).message.toList.head? = some 'W' := by
    simp [message, ToString.toString]
  have hlast : (repeated word).message.toList.getLast? = some 'e' := by
    simp [message, ToString.toString, List.getLast?_cons, List.getLast?_append]
  constructor
  · intro h
    -- The first letter tells it from the warnings on a whole list, the last from the other one on
    -- a word.
    rw [← h] at hhead hlast
    cases f with
    | refused e => cases hf
    | blank w => cases hf
    | repeated w => simpa [message, ToString.toString] using h
    | roleless w =>
      simp [message, ToString.toString, List.getLast?_cons, List.getLast?_append] at hlast
    | noLocative => simp [message, locative, ToString.toString] at hhead
    | negationContent => simp [message, negationParticle, ToString.toString] at hhead
  · rintro rfl
    rfl

theorem repeated_mem_warningLines {words : List Word} {word : String} :
    "WARNING: " ++ (Finding.repeated word).message ∈ warningLines words ↔
      2 ≤ (words.map (·.text)).count word := by
  rw [← repeated_mem_findings, warningLines, List.mem_map]
  constructor
  · rintro ⟨f, hf, hmessage⟩
    obtain ⟨hf, herror⟩ := List.mem_filter.1 hf
    have hmessage : f.message = (Finding.repeated word).message := by simpa using hmessage
    rwa [← (Finding.message_eq_repeated_iff (by simpa using herror)).1 hmessage]
  · intro hf
    exact ⟨_, List.mem_filter.2 ⟨hf, rfl⟩, rfl⟩

def tried : Node → List ByteArray
  | .file content => [content]
  | .folder entries => (dictionaries entries).map (·.2)

theorem mem_tried {n : Node} {content : ByteArray} : content ∈ tried n ↔ Tried n content := by
  cases n with
  | file content' => simp [tried, Tried]
  | folder entries => simp [tried, Tried, mem_dictionaries]

theorem Survey.texts_ofNode (path : String) (n : Node) :
    (ofNode path n).words.map (·.text) = (tried n).flatMap Dictionary.textsOf := by
  cases n with
  | file content =>
    simp only [ofNode, words, tried, Dictionary.textsOf, List.flatMap_singleton]
    cases Dictionary.ofNode (.file content) <;> rfl
  | folder entries =>
    rw [ofNode, words_ofFolder, List.map_flatMap, tried, List.flatMap_map]
    rfl

theorem Survey.words_ofNode_of_reads (path : String) {content : ByteArray}
    {written : List (String × Dictionary.Entry)} (h : Dictionary.Reads content written) :
    (ofNode path (.file content)).words = Dictionary.words written := by
  simp [ofNode, words, h.ofNode_eq]

theorem count_texts (contents : List ByteArray) (word : String) :
    (contents.flatMap Dictionary.textsOf).count word =
      contents.countP fun content => word ∈ Dictionary.textsOf content := by
  induction contents with
  | nil => rfl
  | cons content contents ih =>
    rw [List.flatMap_cons, List.count_append, ih, List.countP_cons, Nat.add_comm]
    congr 1
    by_cases h : word ∈ Dictionary.textsOf content
    · simp [h, List.count_eq_one_of_mem (Dictionary.nodup_textsOf content) h]
    · simp [h, List.count_eq_zero_of_not_mem h]

/-- The linter says that a word is defined more than once when at least two of the dictionaries that
it tries come to that word, each by the last entry for it. Of a single file it never says so, and
what is written again there is all reported just when nothing is written again. -/
theorem repeated_reported_iff {disk : Disk} {path : String} {n : Node} (h : disk path = .ok n)
    (hpath : path ≠ "--help" ∧ path ≠ "-h")
    (hload : ∀ content, n = .file content → Dictionary.Loads content) (more : List String) :
    let s := Survey.ofNode path n
    let reported (word : String) :=
      s!"WARNING: Word '{word}' is defined more than once" ∈ warningLines s.words
    (run disk (path :: more)).out = unlines ((if n.isFolder then s.loaded else []) ++
      heading s.words ++ warningLines s.words ++ errorLines s.words ++ summary s.words) ∧
    (∀ word, reported word ↔
      2 ≤ (tried n).countP fun content => word ∈ Dictionary.textsOf content) ∧
    (∀ content, content ∈ tried n ↔ Tried n content) ∧
    (∀ content word, word ∈ Dictionary.textsOf content ↔ ∃ written e,
      Dictionary.Reads content written ∧ Dictionary.lastOf? word written = some e ∧
        Dictionary.eligible word e) ∧
    ∀ content written, n = .file content → Dictionary.Reads content written →
      (∀ word, ¬ reported word) ∧
      ((∀ word, Dictionary.WrittenAgain word written → reported word) ↔
        ∀ word, ¬ Dictionary.WrittenAgain word written) := by
  intro s reported
  have hreported : ∀ word, reported word ↔
      2 ≤ (tried n).countP fun content => word ∈ Dictionary.textsOf content := by
    intro word
    have hline : s!"WARNING: Word '{word}' is defined more than once" =
        "WARNING: " ++ (Finding.repeated word).message := by
      simp [Finding.message, ToString.toString, ← String.append_assoc]
    rw [← count_texts, ← Survey.texts_ofNode path n, ← repeated_mem_warningLines, ← hline]
  refine ⟨?printed, hreported, fun _ => mem_tried, fun _ _ => Dictionary.mem_textsOf, ?file⟩
  case printed =>
    rw [run_cons hpath, (runOn_of_loads h hload).1, report_eq]
    simp only [List.append_assoc, s]
  case file =>
    rintro content written rfl -
    have hnone : ∀ word, ¬ reported word := by
      intro word hword
      have hone : (tried (.file content)).countP (fun c => word ∈ Dictionary.textsOf c) ≤ 1 :=
        List.countP_le_length
      have htwo := (hreported word).1 hword
      omega
    refine ⟨hnone, forall_congr' fun word => ?_⟩
    simp only [hnone word, imp_false]

def againText : String := String.join [
  "\x7b\"mi\":(),",
  "\"moku\":(definitions:[\"\"]),",
  "\"ken\":(definitions:[\"(preverb)\"]),",
  "\"lon\":(definitions:[\"\"]),",
  "\"lon\":(definitions:[\"(preposition)\"]),",
  "\"tan\":(definitions:[\"(preposition)\"])\x7d"]

def againEntries : List (String × Dictionary.Entry) :=
  [("mi", {}), ("moku", ⟨[""], none⟩), ("ken", ⟨["(preverb)"], none⟩), ("lon", ⟨[""], none⟩),
    ("lon", ⟨["(preposition)"], none⟩), ("tan", ⟨["(preposition)"], none⟩)]

theorem reads_againText : Dictionary.Reads againText.toUTF8 againEntries :=
  Dictionary.reads_toUTF8 (by decide +kernel)

theorem writtenAgain_againEntries : Dictionary.WrittenAgain "lon" againEntries :=
  ⟨by decide, ⟨[""], none⟩, by decide, by decide⟩

theorem textsOf_againText :
    Dictionary.textsOf againText.toUTF8 = ["ken", "lon", "mi", "moku", "tan"] := by
  rw [Dictionary.textsOf, reads_againText.ofNode_eq]
  decide

theorem textsOf_leastText :
    Dictionary.textsOf Dictionary.leastText.toUTF8 = ["ken", "mi", "moku", "tan"] := by
  rw [Dictionary.textsOf, Dictionary.ofNode_leastText]
  decide

theorem repeated_entry_not_reported :
    let t := run (fun _ => .ok (.file againText.toUTF8)) ["d.ron"]
    let lines := ["Loaded 5 words", "", "=== Lexicon Lint Report ===", "", "  particle     0",
      "  content      1", "  preverb      1", "  preposition  2", "  pronoun      1", "",
      "All checks passed!", "", "Summary: 0 errors, 0 warnings"]
    ∃ written, Dictionary.Reads againText.toUTF8 written ∧
      Dictionary.WrittenAgain "lon" written ∧ t.exit = 0 ∧ t.out = unlines lines ∧ t.err = "" ∧
      "WARNING: Word 'lon' is defined more than once" ∉ lines := by
  intro t lines
  let disk : Disk := fun _ => .ok (.file againText.toUTF8)
  have hdisk : disk "d.ron" = .ok (.file againText.toUTF8) := rfl
  have ht : t = runOn disk "d.ron" := run_cons (by decide) disk []
  have hwords : (Survey.ofNode "d.ron" (.file againText.toUTF8)).words =
      Dictionary.words againEntries := Survey.words_ofNode_of_reads _ reads_againText
  have hclean : errors (Dictionary.words againEntries) = [] := by decide +kernel
  have hfailed : (Survey.ofNode "d.ron" (.file againText.toUTF8)).failed = [] :=
    Survey.failed_eq_nil_iff.2 <| Survey.complete_ofNode_iff.2 fun content h =>
      h ▸ ⟨_, reads_againText.ofNode_eq⟩
  obtain ⟨hout, herr⟩ := runOn_of_errors_eq_nil hdisk (hwords ▸ hclean)
  refine ⟨againEntries, reads_againText, writtenAgain_againEntries, ?_, ?_, ?_, by simp [lines]⟩
  · rw [ht, exit_runOn hdisk, hwords, exitCode_eq_zero_iff, hclean]
  · rw [ht, hout, hwords]
    decide +kernel
  · rw [ht, herr, hfailed]
    rfl

theorem repeated_reported_iff_two_dictionaries :
    let file : Node := .file againText.toUTF8
    let folder : Node := .folder [("a.ron", .file Dictionary.leastText.toUTF8), ("b.ron", file)]
    (¬ ∀ word, Dictionary.WrittenAgain word againEntries →
        s!"WARNING: Word '{word}' is defined more than once" ∈
          warningLines (Survey.ofNode "d.ron" file).words) ∧
    "WARNING: Word 'moku' is defined more than once" ∈
      warningLines (Survey.ofNode "d" folder).words ∧
    "WARNING: Word 'lon' is defined more than once" ∉
      warningLines (Survey.ofNode "d" folder).words := by
  intro file folder
  have hloads : ∀ content, file = .file content → Dictionary.Loads content := by
    intro content h
    rw [← Node.file.inj h]
    exact ⟨_, reads_againText.ofNode_eq⟩
  have hfolder : ∀ content, folder = .file content → Dictionary.Loads content := nofun
  have htried : tried folder = [Dictionary.leastText.toUTF8, againText.toUTF8] := by
    have ha : extension? "a.ron" = some dictionaryExtension := by decide
    have hb : extension? "b.ron" = some dictionaryExtension := by decide
    simp [folder, file, tried, dictionaries, ha, hb]
  let disk : Disk := fun path => if path = "d" then .ok folder else .ok file
  have hfileAt : disk "d.ron" = .ok file := rfl
  have hfolderAt : disk "d" = .ok folder := rfl
  obtain ⟨-, -, -, -, halone⟩ := repeated_reported_iff hfileAt (by decide) hloads []
  obtain ⟨-, htwo, -⟩ := repeated_reported_iff hfolderAt (by decide) hfolder []
  simp only [htried, List.countP_cons, List.countP_nil, textsOf_leastText, textsOf_againText]
    at htwo
  refine ⟨?_, (htwo "moku").2 (by decide), mt (htwo "lon").1 (by decide)⟩
  rw [(halone _ _ rfl reads_againText).2]
  exact fun h => h "lon" writtenAgain_againEntries

end Lint

end TokiSentences
