import Mathlib.Data.List.Induction
import Mathlib.Data.List.Sort
import TokiSentences.Dictionary.Import
import TokiSentences.Dictionary.Vocabulary
import TokiSentences.Lexicon.Samples
import TokiSentences.Proofs.Lexicon

namespace TokiSentences

namespace Dictionary

def lastOf? (word : String) (written : List (String × Entry)) : Option Entry :=
  ((written.filter (·.1 == word)).getLast?).map (·.2)

theorem lastOf?_append_singleton (word : String) (written : List (String × Entry))
    (p : String × Entry) : lastOf? word (written ++ [p]) =
      if p.1 = word then some p.2 else lastOf? word written := by
  by_cases h : p.1 = word <;> simp [lastOf?, h]

def Before (p q : String × Entry) : Prop := Text.order p.1 q.1 = .lt

theorem Before.ne {p q : String × Entry} (h : Before p q) : p.1 ≠ q.1 := Text.ne_of_order_eq_lt h

theorem Before.trans {p q r : String × Entry} (h : Before p q) (h' : Before q r) : Before p r :=
  Std.TransCmp.lt_trans h h'

instance : Std.Irrefl Before := ⟨fun _ h => h.ne rfl⟩

instance : Std.Antisymm Before := ⟨fun _ _ h h' => absurd rfl (h.trans h').ne⟩

theorem mem_put {word : String} {e : Entry} {sorted : List (String × Entry)}
    (h : sorted.Pairwise Before) {p : String × Entry} :
    p ∈ put word e sorted ↔ p = (word, e) ∨ p ∈ sorted ∧ p.1 ≠ word := by
  induction sorted with
  | nil => simp [put]
  | cons q rest ih =>
    obtain ⟨w, f⟩ := q
    obtain ⟨hq, hrest⟩ := List.pairwise_cons.1 h
    simp only [put]
    split
    next hlt =>
      -- Nothing is overwritten, since all that follows stands after `word`.
      have hother : ∀ p ∈ (w, f) :: rest, p.1 ≠ word := by
        have hw : Before (word, e) (w, f) := hlt
        exact List.forall_mem_cons.2 ⟨hw.ne.symm, fun p hp => (hw.trans (hq p hp)).ne.symm⟩
      rw [List.mem_cons]
      exact or_congr_right ⟨fun hp => ⟨hp, hother p hp⟩, fun hp => hp.1⟩
    next heq =>
      obtain rfl : word = w := Std.LawfulEqCmp.eq_of_compare heq
      rw [List.mem_cons, List.mem_cons]
      refine or_congr_right ⟨fun hp => ⟨.inr hp, (hq p hp).ne.symm⟩, ?_⟩
      rintro ⟨rfl | hp, hne⟩
      · exact absurd rfl hne
      · exact hp
    next hgt =>
      have hw : w ≠ word := Text.ne_of_order_eq_lt (Std.OrientedCmp.lt_of_gt hgt)
      rw [List.mem_cons, List.mem_cons, ih hrest]
      constructor
      · rintro (rfl | rfl | ⟨hp, hne⟩)
        · exact .inr ⟨.inl rfl, hw⟩
        · exact .inl rfl
        · exact .inr ⟨.inr hp, hne⟩
      · rintro (rfl | ⟨rfl | hp, hne⟩)
        · exact .inr (.inl rfl)
        · exact .inl rfl
        · exact .inr (.inr ⟨hp, hne⟩)

theorem pairwise_put {sorted : List (String × Entry)} (h : sorted.Pairwise Before) (word : String)
    (e : Entry) : (put word e sorted).Pairwise Before := by
  induction sorted with
  | nil => simp [put]
  | cons q rest ih =>
    obtain ⟨w, f⟩ := q
    obtain ⟨hq, hrest⟩ := List.pairwise_cons.1 h
    simp only [put]
    split
    next hlt =>
      have hw : Before (word, e) (w, f) := hlt
      exact List.pairwise_cons.2 ⟨List.forall_mem_cons.2 ⟨hw, fun p hp => hw.trans (hq p hp)⟩, h⟩
    next heq =>
      obtain rfl : word = w := Std.LawfulEqCmp.eq_of_compare heq
      exact List.pairwise_cons.2 ⟨hq, hrest⟩
    next hgt =>
      refine List.pairwise_cons.2 ⟨?_, ih hrest⟩
      intro p hp
      rcases (mem_put hrest).1 hp with rfl | ⟨hp, -⟩
      · exact Std.OrientedCmp.lt_of_gt hgt
      · exact hq p hp

theorem catalogue_append_singleton (written : List (String × Entry)) (p : String × Entry) :
    catalogue (written ++ [p]) = put p.1 p.2 (catalogue written) := by
  simp [catalogue]

theorem pairwise_catalogue (written : List (String × Entry)) :
    (catalogue written).Pairwise Before := by
  induction written using List.reverseRecOn with
  | nil => exact .nil
  | append_singleton written p ih =>
    rw [catalogue_append_singleton]
    exact pairwise_put ih _ _

theorem mem_catalogue {written : List (String × Entry)} {p : String × Entry} :
    p ∈ catalogue written ↔ lastOf? p.1 written = some p.2 := by
  induction written using List.reverseRecOn with
  | nil => simp [catalogue, lastOf?]
  | append_singleton written q ih =>
    rw [catalogue_append_singleton, mem_put (pairwise_catalogue written), ih,
      lastOf?_append_singleton]
    obtain ⟨word, e⟩ := p
    obtain ⟨word', e'⟩ := q
    by_cases h : word' = word
    · simp [h, eq_comm]
    · simp [h, Ne.symm h]

theorem catalogue_congr {written written' : List (String × Entry)}
    (h : ∀ word, lastOf? word written' = lastOf? word written) :
    catalogue written' = catalogue written := by
  apply (pairwise_catalogue written').eq_of_mem_iff (pairwise_catalogue written)
  intro p
  rw [mem_catalogue, mem_catalogue, h]

theorem mem_words {written : List (String × Entry)} {w : Word} : w ∈ words written ↔
    ∃ e, lastOf? w.text written = some e ∧ eligible w.text e ∧ w = wordOf (w.text, e) := by
  simp only [words, List.mem_map, List.mem_filter, mem_catalogue]
  constructor
  · rintro ⟨⟨word, e⟩, ⟨hlast, he⟩, rfl⟩
    exact ⟨e, hlast, he, rfl⟩
  · rintro ⟨e, hlast, he, hw⟩
    exact ⟨(w.text, e), ⟨hlast, he⟩, hw.symm⟩

theorem pairwise_words (written : List (String × Entry)) :
    (words written).Pairwise fun v w => Text.order v.text w.text = .lt := by
  rw [words, List.pairwise_map]
  exact (pairwise_catalogue written).filter _

theorem nodup_texts_words (written : List (String × Entry)) :
    ((words written).map (·.text)).Nodup :=
  List.pairwise_map.2 ((pairwise_words written).imp Text.ne_of_order_eq_lt)

theorem eligible_iff {word : String} {e : Entry} :
    eligible word e ↔ e.usage ≠ some "obscure" ∧ word ≠ "ali" := by
  simp [eligible, obscureUsage, skippedWords]

theorem nodup_shelf {ws : List Word} (h : (ws.map (·.text)).Nodup) (r : Role) :
    (shelf ws r).Nodup :=
  h.sublist (List.filter_sublist.map _)

/-- A dictionary comes to one word for each word that is written in it, unless that is the
alternate spelling or its last entry is obscure; the roles are those of the last entry, and the
words stand in the order of their bytes. In which order different words were written makes no
difference, and a lexicon of them has no text twice on a shelf. -/
theorem words_of_last_entries (written : List (String × Entry)) :
    let ws := words written
    (∀ text, read text = .ok written → parse text = .ok ws) ∧
    (∀ w, w ∈ ws ↔ ∃ e, lastOf? w.text written = some e ∧ e.usage ≠ some "obscure" ∧
      w.text ≠ "ali" ∧ w = .ofRoles w.text (rolesOf w.text e.definitions)) ∧
    (ws.Pairwise fun v w => Text.order v.text w.text = .lt) ∧
    (∀ written', (∀ word, written'.filter (·.1 == word) = written.filter (·.1 == word)) →
      words written' = ws) ∧
    ∀ lx, Lexicon.ofWords ws = .ok lx → ∀ r, (lx.texts r).Nodup := by
  intro ws
  refine ⟨?parsed, ?kept, pairwise_words written, ?reordered, ?lexicon⟩
  case parsed =>
    intro text h
    rw [parse, h]
  case kept =>
    intro w
    simp only [ws, mem_words, eligible_iff, and_assoc]
    rfl
  case reordered =>
    intro written' h
    have hlast : ∀ word, lastOf? word written' = lastOf? word written := by
      intro word
      rw [lastOf?, lastOf?, h]
    simp only [ws, words, catalogue_congr hlast]
  case lexicon =>
    intro lx hlx r
    rw [Lexicon.texts_eq_shelf hlx]
    exact nodup_shelf (nodup_texts_words written) r

theorem words_of_last_entries_repeated :
    let text := "\x7b\"ｱ\":(),\"sama\":(),\"𝄞\":(),\"Z\":(),\"sama\":(usage:Some(\"obscure\"))," ++
      "\"ali\":(),\"Z\":(definitions:[\"(preverb)\",\"\"]),\"mi\":()\x7d"
    let obscure : Entry := ⟨[], some "obscure"⟩
    let last : Entry := ⟨["(preverb)", ""], none⟩
    let others : List (String × Entry) := [("ｱ", {}), ("sama", {}), ("𝄞", {}), ("Z", {}),
      ("sama", obscure), ("ali", {}), ("Z", last)]
    let mi : String × Entry := ("mi", {})
    let written := others ++ [mi]
    let written' := mi :: others
    parse text = .ok (words written) ∧ words written' = words written ∧
      words written = [.ofRoles "Z" [.content, .preverb], .ofRoles "mi" [.pronoun],
        .ofRoles "ｱ" [], .ofRoles "𝄞" []] := by
  intro text obscure last others mi written written'
  obtain ⟨hparse, -, -, hreordered, -⟩ := words_of_last_entries written
  refine ⟨hparse text (by decide +kernel), hreordered written' ?_, by decide +kernel⟩
  intro word
  by_cases hword : word = "mi"
  · subst hword
    decide +kernel
  · simp [written, written', mi, List.filter_append, Ne.symm hword]

theorem text_toUTF8 (text : String) : (Node.file text.toUTF8).text = .ok text := by
  simp [Node.text, String.fromUTF8?, String.fromUTF8, text.isValidUTF8]

def leastWords : List Word :=
  Lexicon.wordsOf .preverb ["ken"] ++ Lexicon.wordsOf .pronoun ["mi"] ++
    Lexicon.wordsOf .content ["moku"] ++ Lexicon.wordsOf .preposition ["tan"]

theorem ofNode_leastText : ofNode (.file leastText.toUTF8) = .ok leastWords := by
  simp only [ofNode, text_toUTF8]
  decide +kernel

end Dictionary

end TokiSentences
