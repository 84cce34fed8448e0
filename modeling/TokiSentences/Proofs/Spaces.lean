import TokiSentences.Proofs.Tokens

namespace TokiSentences

namespace Text

/-- What stands between the spaces of a text, also where that is nothing. -/
def cut (s : String) : List String := (s.toList.splitOn ' ').map String.ofList

theorem toList_intercalate (ts : List String) :
    (" ".intercalate ts).toList = [' '].intercalate (ts.map String.toList) := by
  rw [String.toList_intercalate]
  rfl

theorem cut_intercalate {ts : List String} (hne : ts ≠ []) (h : ∀ t ∈ ts, ' ' ∉ t.toList) :
    cut (" ".intercalate ts) = ts := by
  have hsplit : ([' '].intercalate (ts.map String.toList)).splitOn ' ' = ts.map String.toList := by
    apply List.splitOn_intercalate
    · simpa using h
    · simpa using hne
  rw [cut, toList_intercalate, hsplit]
  simp

theorem intercalate_cut (s : String) : " ".intercalate (cut s) = s := by
  apply String.toList_injective
  simp [cut, Function.comp_def, List.intercalate_splitOn]

theorem cut_append_space (a b : String) : cut (a ++ " " ++ b) = cut a ++ cut b := by
  have hlist : (a ++ " " ++ b).toList = a.toList ++ ' ' :: b.toList := by simp
  have hsplit : (a.toList ++ ' ' :: b.toList).splitOn ' ' =
      a.toList.splitOn ' ' ++ b.toList.splitOn ' ' :=
    List.splitOnP_append_cons _ _ (by decide)
  rw [cut, hlist, hsplit, List.map_append, cut, cut]

@[simp] theorem cut_empty : cut "" = [""] := rfl

structure Tidy (s : String) : Prop where
  head : s.toList.head? ≠ some ' '
  last : s.toList.getLast? ≠ some ' '
  inner : ¬ [' ', ' '] <:+: s.toList

theorem Tidy.empty_not_mem_cut {s : String} (h : Tidy s) (hs : s ≠ "") : "" ∉ cut s := by
  intro hmem
  obtain ⟨before, after, hcut⟩ := List.append_of_mem hmem
  have hsplit : s = " ".intercalate (before ++ "" :: after) := by
    rw [← hcut, intercalate_cut]
  by_cases hbefore : before = []
  · subst hbefore
    cases after with
    | nil => exact hs (by simpa using hsplit)
    | cons t after =>
      apply h.head
      simp [hsplit, String.intercalate_cons_cons]
  · rw [String.intercalate_append_of_ne_nil hbefore (by simp)] at hsplit
    cases after with
    | nil =>
      apply h.last
      simp [hsplit]
    | cons t after =>
      apply h.inner
      refine ⟨(" ".intercalate before).toList, (" ".intercalate (t :: after)).toList, ?_⟩
      simp [hsplit, String.intercalate_cons_cons]

theorem tidy_of_empty_not_mem_cut {s : String} (h : "" ∉ cut s) : Tidy s := by
  have hends {a b : String} (hs : s = a ++ " " ++ b) : "" ∉ cut a ∧ "" ∉ cut b := by
    simpa [hs, cut_append_space] using h
  refine ⟨?head, ?last, ?inner⟩
  case head =>
    intro hhead
    obtain ⟨b, hb⟩ := List.head?_eq_some_iff.1 hhead
    have hs : s = "" ++ " " ++ String.ofList b := String.toList_injective (by simp [hb])
    exact (hends hs).1 (by simp)
  case last =>
    intro hlast
    obtain ⟨a, ha⟩ := List.getLast?_eq_some_iff.1 hlast
    have hs : s = String.ofList a ++ " " ++ "" := String.toList_injective (by simp [ha])
    exact (hends hs).2 (by simp)
  case inner =>
    rintro ⟨a, b, hab⟩
    have hs : s = String.ofList a ++ " " ++ ("" ++ " " ++ String.ofList b) :=
      String.toList_injective (by simp [← hab])
    have hrest := (hends hs).2
    rw [cut_append_space] at hrest
    exact hrest (by simp)

theorem tidy_intercalate_iff {ts : List String} (hne : " ".intercalate ts ≠ "")
    (h : ∀ t ∈ ts, ' ' ∉ t.toList) : Tidy (" ".intercalate ts) ↔ "" ∉ ts := by
  have hts : ts ≠ [] := by
    rintro rfl
    exact hne rfl
  have hcut : cut (" ".intercalate ts) = ts := cut_intercalate hts h
  constructor
  · intro htidy
    rw [← hcut]
    exact htidy.empty_not_mem_cut hne
  · intro hempty
    apply tidy_of_empty_not_mem_cut
    rwa [hcut]

theorem intercalate_append_flatten {ts : List String} (hts : ts ≠ []) {bs : List (List String)}
    (hbs : ∀ b ∈ bs, b ≠ []) : " ".intercalate (ts ++ bs.flatten) =
      " ".intercalate ts ++ String.join (bs.map (" " ++ " ".intercalate ·)) := by
  induction bs generalizing ts with
  | nil => simp
  | cons b bs ih =>
    obtain ⟨hb, hbs⟩ := List.forall_mem_cons.1 hbs
    rw [List.flatten_cons, ← List.append_assoc, ih (by simp [hts]) hbs,
      String.intercalate_append_of_ne_nil hts hb]
    simp [String.append_assoc]

end Text

theorem Sentence.predicate_eq (subject : Noun String) (verb : Verb String) :
    predicate subject.text verb.text = " ".intercalate (subject.words ++
      (if subject.text ∈ unmarkedSubjects then [] else [predicateMarker]) ++ verb.tokens) := by
  have hsubject := subject.words_ne_nil
  have hverb := verb.tokens_ne_nil
  rw [predicate, Verb.text_eq, subject.text_eq]
  split
  · rw [List.append_nil, String.intercalate_append_of_ne_nil hsubject hverb]
  · rw [String.intercalate_append_of_ne_nil (by simp) hverb,
      String.intercalate_append_of_ne_nil hsubject (by simp)]
    simp

theorem Clause.text_eq (c : Clause String) : c.sentence.text = " ".intercalate c.tokens := by
  have hadditions : ∀ b ∈ c.additions, b ≠ [] := by
    intro b hb
    rcases mem_additions.1 hb with ⟨o, -, rfl⟩ | ⟨q, -, rfl⟩ <;> simp
  have hjoin : String.join (c.additions.map (" " ++ " ".intercalate ·)) =
      Sentence.objectText (c.object.map Noun.text) ++
        String.join ((c.phrases.map fun p => p.1.text ++ " " ++ p.2.text).map (" " ++ ·)) := by
    cases h : c.object <;>
      simp [additions, objectBlock, phraseBlocks, h, Sentence.objectText, Function.comp_def,
        ← phrase_text_eq, String.append_assoc]
  rw [tokens, rest, ← List.append_assoc,
    Text.intercalate_append_flatten (by simp [Verb.tokens_ne_nil]) hadditions,
    ← Sentence.predicate_eq, hjoin]
  simp [sentence, Sentence.ofParts, String.append_assoc]

end TokiSentences
