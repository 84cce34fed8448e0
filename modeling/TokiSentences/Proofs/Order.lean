import Mathlib.Data.Finset.Dedup
import Mathlib.Data.Finset.Card
import Mathlib.Data.List.SplitBy
import TokiSentences.Sentence.Order

namespace TokiSentences

namespace Text

def Before (a b : String) : Prop := List.Lex (· < ·) (bytes a) (bytes b)

def ListBefore : List String → List String → Prop := List.Lex Before

inductive OptionBefore : Option String → Option String → Prop
  | absent : OptionBefore none (some b)
  | present : Before a b → OptionBefore (some a) (some b)

theorem compareLex_eq_lt_iff {cmp : α → α → Ordering} [Std.LawfulEqCmp cmp] {xs ys : List α} :
    List.compareLex cmp xs ys = .lt ↔ List.Lex (cmp · · = .lt) xs ys := by
  induction xs generalizing ys with
  | nil => cases ys <;> simp [List.compareLex_nil_nil, List.compareLex_nil_cons]
  | cons x xs ih =>
    cases ys with
    | nil => simp [List.compareLex_cons_nil]
    | cons y ys =>
      rw [List.compareLex_cons_cons, Ordering.then_eq_lt, Std.LawfulEqCmp.compare_eq_iff_eq, ih]
      constructor
      · rintro (h | ⟨rfl, h⟩)
        · exact .rel h
        · exact .cons h
      · intro h
        cases h with
        | rel h => exact .inl h
        | cons h => exact .inr ⟨rfl, h⟩

theorem order_eq_lt_iff {a b : String} : order a b = .lt ↔ Before a b := by
  rw [order, List.compare_eq_compareLex, compareLex_eq_lt_iff]
  simp only [Before, Std.compare_eq_lt]

theorem orderList_eq_lt_iff {xs ys : List String} : orderList xs ys = .lt ↔ ListBefore xs ys := by
  rw [orderList, compareLex_eq_lt_iff]
  simp only [ListBefore, order_eq_lt_iff]

theorem orderOption_eq_lt_iff {a b : Option String} :
    orderOption a b = .lt ↔ OptionBefore a b := by
  constructor
  · intro h
    match a, b, h with
    | none, some _, _ => exact .absent
    | some _, some _, h => exact .present (order_eq_lt_iff.1 h)
  · rintro (_ | h)
    · rfl
    · exact order_eq_lt_iff.2 h

instance : Std.TransCmp orderList := inferInstanceAs (Std.TransCmp (List.compareLex order))

instance : Std.LawfulEqCmp orderList := inferInstanceAs (Std.LawfulEqCmp (List.compareLex order))

instance : Std.TransCmp orderOption where
  eq_swap := by
    rintro (_ | a) (_ | b)
    · rfl
    · rfl
    · rfl
    · have hswap : order a b = (order b a).swap := Std.OrientedCmp.eq_swap
      exact hswap
  isLE_trans := by
    rintro (_ | a) (_ | b) (_ | c) hab hbc
    · rfl
    · rfl
    · rfl
    · rfl
    · exact hab
    · cases hab
    · cases hbc
    · have htrans : (order a b).isLE → (order b c).isLE → (order a c).isLE :=
        Std.TransCmp.isLE_trans
      exact htrans hab hbc

instance : Std.LawfulEqCmp orderOption where
  compare_self := by
    rintro (_ | a)
    · rfl
    · have hself : order a a = .eq := Std.ReflCmp.compare_self
      exact hself
  eq_of_compare := by
    rintro (_ | a) (_ | b) h
    · rfl
    · cases h
    · cases h
    · have heq : order a b = .eq := h
      rw [Std.LawfulEqCmp.eq_of_compare heq]

end Text

namespace Sentence

/-- The first field that differs decides. -/
inductive Before (a b : Sentence) : Prop
  | text : Text.Before a.text b.text → Before a b
  | subject : a.text = b.text → Text.Before a.subject b.subject → Before a b
  | verb : a.text = b.text → a.subject = b.subject → Text.Before a.verb b.verb → Before a b
  | object : a.text = b.text → a.subject = b.subject → a.verb = b.verb →
      Text.OptionBefore a.object b.object → Before a b
  | prepositionalPhrases : a.text = b.text → a.subject = b.subject → a.verb = b.verb →
      a.object = b.object → Text.ListBefore a.prepositionalPhrases b.prepositionalPhrases →
      Before a b
  | components : a.text = b.text → a.subject = b.subject → a.verb = b.verb →
      a.object = b.object → a.prepositionalPhrases = b.prepositionalPhrases →
      Text.ListBefore a.components b.components → Before a b

theorem eq_of_order_eq {a b : Sentence} (h : order a b = .eq) : a = b := by
  obtain ⟨_, _, _, _, _, _⟩ := a
  obtain ⟨_, _, _, _, _, _⟩ := b
  simp only [order, Ordering.then_eq_eq, Std.LawfulEqCmp.compare_eq_iff_eq] at h
  obtain ⟨rfl, rfl, rfl, rfl, rfl, rfl⟩ := h
  rfl

instance : Std.TransCmp order :=
  inferInstanceAs <| Std.TransCmp <|
    compareLex (Ordering.byKey Sentence.text Text.order) <|
    compareLex (Ordering.byKey Sentence.subject Text.order) <|
    compareLex (Ordering.byKey Sentence.verb Text.order) <|
    compareLex (Ordering.byKey Sentence.object Text.orderOption) <|
    compareLex (Ordering.byKey Sentence.prepositionalPhrases Text.orderList) <|
    Ordering.byKey Sentence.components Text.orderList

instance : Std.LawfulEqCmp order where
  compare_self := Std.ReflCmp.compare_self
  eq_of_compare := eq_of_order_eq

theorem order_eq_lt_iff {a b : Sentence} : order a b = .lt ↔ Before a b := by
  simp only [order, Ordering.then_eq_lt, Std.LawfulEqCmp.compare_eq_iff_eq, Text.order_eq_lt_iff,
    Text.orderOption_eq_lt_iff, Text.orderList_eq_lt_iff]
  constructor
  · rintro (h | ⟨ht, h | ⟨hs, h | ⟨hv, h | ⟨ho, h | ⟨hp, h⟩⟩⟩⟩⟩)
    · exact .text h
    · exact .subject ht h
    · exact .verb ht hs h
    · exact .object ht hs hv h
    · exact .prepositionalPhrases ht hs hv ho h
    · exact .components ht hs hv ho hp h
  · intro h
    cases h with
    | text h => exact .inl h
    | subject ht h => exact .inr ⟨ht, .inl h⟩
    | verb ht hs h => exact .inr ⟨ht, .inr ⟨hs, .inl h⟩⟩
    | object ht hs hv h => exact .inr ⟨ht, .inr ⟨hs, .inr ⟨hv, .inl h⟩⟩⟩
    | prepositionalPhrases ht hs hv ho h =>
      exact .inr ⟨ht, .inr ⟨hs, .inr ⟨hv, .inr ⟨ho, .inl h⟩⟩⟩⟩
    | components ht hs hv ho hp h =>
      exact .inr ⟨ht, .inr ⟨hs, .inr ⟨hv, .inr ⟨ho, .inr ⟨hp, h⟩⟩⟩⟩⟩

theorem eq_of_isLE {a b : Sentence} (hab : (order a b).isLE) (hba : (order b a).isLE) : a = b :=
  eq_of_order_eq (Std.OrientedCmp.isLE_antisymm hab hba)

theorem sort_perm (xs : List Sentence) : (sort xs).Perm xs := List.mergeSort_perm xs _

theorem pairwise_sort (xs : List Sentence) : (sort xs).Pairwise fun a b => (order a b).isLE := by
  apply List.pairwise_mergeSort
  · intro a b c hab hbc
    exact Std.TransCmp.isLE_trans hab hbc
  · intro a b
    have hswap : order b a = (order a b).swap := Std.OrientedCmp.eq_swap
    rw [hswap]
    cases order a b <;> rfl

theorem sort_eq_sort_iff {xs ys : List Sentence} : sort xs = sort ys ↔ xs.Perm ys := by
  constructor
  · intro h
    exact (sort_perm xs).symm.trans (h ▸ sort_perm ys)
  · intro h
    apply ((sort_perm xs).trans (h.trans (sort_perm ys).symm)).eq_of_pairwise
    · intro a b _ _
      exact eq_of_isLE
    · exact pairwise_sort xs
    · exact pairwise_sort ys

end Sentence

theorem length_splitBy_loop (r : α → α → Bool) (xs : List α) (a : α) (run : List α)
    (runs : List (List α)) : (List.splitBy.loop r xs a run runs).length =
      ((a :: xs).splitBy r).length + runs.length := by
  induction xs generalizing a run runs with
  | nil => simp [List.splitBy, List.splitBy.loop, Nat.add_comm]
  | cons b xs ih =>
    have hstart : (a :: b :: xs).splitBy r = List.splitBy.loop r (b :: xs) a [] [] := rfl
    rw [hstart, List.splitBy.loop, List.splitBy.loop]
    split
    · rw [ih, ih, List.length_nil, Nat.add_zero]
    · rw [ih, ih, List.length_cons, List.length_singleton]
      omega

theorem length_splitBy_cons_cons (r : α → α → Bool) (a b : α) (xs : List α) :
    ((a :: b :: xs).splitBy r).length =
      ((b :: xs).splitBy r).length + if r a b then 0 else 1 := by
  have hstart : (a :: b :: xs).splitBy r = List.splitBy.loop r (b :: xs) a [] [] := rfl
  rw [hstart, List.splitBy.loop]
  cases r a b
  · exact length_splitBy_loop r xs b [] [[a]]
  · exact length_splitBy_loop r xs b [a] []

theorem nodup_eraseDups [DecidableEq α] (xs : List α) : xs.eraseDups.Nodup := by
  match xs with
  | [] => simp
  | a :: xs =>
    rw [List.eraseDups_cons, List.nodup_cons, List.mem_eraseDups]
    exact ⟨by simp, nodup_eraseDups _⟩
termination_by xs.length
decreasing_by
  have := List.length_filter_le (fun b => !b == a) xs
  simp only [List.length_cons]
  omega

namespace Sentence

theorem distinct_eq_card (xs : List Sentence) : distinct xs = xs.toFinset.card := by
  have hfinset : xs.toFinset = xs.eraseDups.toFinset := by
    ext x
    simp
  rw [hfinset, List.toFinset_card_of_nodup (nodup_eraseDups xs), distinct]

theorem length_runs {xs : List Sentence} (h : xs.Pairwise fun a b => (order a b).isLE) :
    (xs.splitBy (· == ·)).length = xs.toFinset.card := by
  induction xs with
  | nil => rfl
  | cons a xs ih =>
    obtain ⟨ha, hxs⟩ := List.pairwise_cons.1 h
    cases xs with
    | nil => rfl
    | cons b xs =>
      rw [length_splitBy_cons_cons, ih hxs, List.toFinset_cons (a := a)]
      by_cases hab : a = b
      · simp [hab]
      · have hmem : a ∉ (b :: xs).toFinset := by
          rw [List.mem_toFinset, List.mem_cons]
          rintro (rfl | hmem)
          · exact hab rfl
          · exact hab (eq_of_isLE (ha b List.mem_cons_self) ((List.pairwise_cons.1 hxs).1 a hmem))
        rw [Finset.card_insert_of_notMem hmem, if_neg (by simpa using hab)]

/-- The order compares field by field, is total, and no two sentences are equal in it but those that
are the same. So two lists are sorted into the same one just when one is a rearrangement of the
other, and a sorted list has as many runs of equal neighbours as there are different sentences. -/
theorem sort_canonical :
    (∀ a b : Sentence, (order a b = .lt ↔ Before a b) ∧ (order a b = .gt ↔ Before b a) ∧
      (order a b = .eq ↔ a = b)) ∧
    (∀ a b c : Sentence, Before a b → Before b c → Before a c) ∧
    (∀ xs : List Sentence, (sort xs).Perm xs ∧ (sort xs).Pairwise fun a b => ¬ Before b a) ∧
    (∀ xs ys : List Sentence, sort xs = sort ys ↔ xs.Perm ys) ∧
    ∀ xs : List Sentence, distinct xs = xs.toFinset.card ∧
      ((sort xs).splitBy (· == ·)).length = distinct xs := by
  have hgt (a b : Sentence) : order a b = .gt ↔ Before b a := by
    rw [← order_eq_lt_iff, Std.OrientedCmp.gt_iff_lt]
  refine ⟨?_, ?_, ?_, fun xs ys => sort_eq_sort_iff, ?_⟩
  · intro a b
    exact ⟨order_eq_lt_iff, hgt a b, Std.LawfulEqCmp.compare_eq_iff_eq⟩
  · intro a b c hab hbc
    rw [← order_eq_lt_iff] at *
    exact Std.TransCmp.lt_trans hab hbc
  · intro xs
    refine ⟨sort_perm xs, (pairwise_sort xs).imp ?_⟩
    intro a b h
    rw [← hgt]
    intro hab
    simp [hab] at h
  · intro xs
    have hset : (sort xs).toFinset = xs.toFinset := List.toFinset_eq_of_perm _ _ (sort_perm xs)
    refine ⟨distinct_eq_card xs, ?_⟩
    rw [length_runs (pairwise_sort xs), hset, distinct_eq_card]

theorem sort_canonical_same_text :
    let x := ofParts "mi" "moku" none ["e kili"]
    let y := ofParts "mi" "moku" (some "kili") []
    let z := ofParts "mi" "moku e kili" none []
    x.text = y.text ∧ y.text = z.text ∧ Before x y ∧ Before y z ∧ Before x z ∧
      sort [z, y, x, y] = sort [y, x, y, z] ∧
      ((sort [z, y, x, y]).splitBy (· == ·)).length = 3 := by
  intro x y z
  obtain ⟨horder, htrans, -, hperm, hruns⟩ := sort_canonical
  have hxy : Before x y := (horder x y).1.1 (by decide +kernel)
  have hyz : Before y z := (horder y z).1.1 (by decide +kernel)
  refine ⟨by decide +kernel, by decide +kernel, hxy, hyz, htrans x y z hxy hyz, ?_, ?_⟩
  · exact (hperm _ _).2 (by decide +kernel)
  · exact (hruns _).2.trans (by decide +kernel)

end Sentence

end TokiSentences
