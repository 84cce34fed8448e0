import Mathlib.Data.List.Basic

namespace TokiSentences

inductive Interleaved : List (List α) → List α → Prop
  | nil : (∀ q ∈ qs, q = []) → Interleaved qs []
  | cons : qs[i]? = some (a :: q) → Interleaved (qs.set i q) xs → Interleaved qs (a :: xs)

theorem forall_mem_set {P : α → Prop} {xs : List α} (h : ∀ a ∈ xs, P a) (hb : P b) :
    ∀ a ∈ xs.set i b, P a := by
  intro a ha
  rcases List.mem_or_eq_of_mem_set ha with ha | rfl
  · exact h a ha
  · exact hb

theorem set_eq_self {xs : List α} (h : xs[i]? = some a) : xs.set i a = xs := by
  obtain ⟨hi, rfl⟩ := List.getElem?_eq_some_iff.1 h
  exact List.set_getElem_self hi

theorem flatten_set_perm {qs : List (List α)} (h : qs[i]? = some q) (q' : List α) :
    (q ++ (qs.set i q').flatten).Perm (q' ++ qs.flatten) := by
  induction qs generalizing i with
  | nil => simp at h
  | cons p qs ih =>
    cases i with
    | zero =>
      obtain rfl : p = q := by simpa using h
      simpa using List.perm_append_comm_assoc p q' qs.flatten
    | succ i =>
      simp only [List.set_cons_succ, List.flatten_cons]
      calc
        (q ++ (p ++ (qs.set i q').flatten)).Perm (p ++ (q ++ (qs.set i q').flatten)) :=
          List.perm_append_comm_assoc ..
        List.Perm _ (p ++ (q' ++ qs.flatten)) := (ih (by simpa using h)).append_left p
        List.Perm _ (q' ++ (p ++ qs.flatten)) := List.perm_append_comm_assoc ..

theorem length_flatten_set {qs : List (List α)} (h : qs[i]? = some q) (q' : List α) :
    q.length + (qs.set i q').flatten.length = q'.length + qs.flatten.length := by
  simpa only [List.length_append] using (flatten_set_perm h q').length_eq

namespace Interleaved

theorem perm {qs : List (List α)} (h : Interleaved qs xs) : xs.Perm qs.flatten := by
  induction h with
  | nil h => rw [List.flatten_eq_nil_iff.2 h]
  | @cons qs i a q xs hi _ ih =>
    have hset : (q ++ a :: (qs.set i q).flatten).Perm (q ++ qs.flatten) :=
      List.perm_middle.trans (flatten_set_perm hi q)
    exact (ih.cons a).trans ((List.perm_append_left_iff q).1 hset)

theorem concat {qs : List (List α)} (h : Interleaved qs xs) (hi : qs[i]? = some q) (a : α) :
    Interleaved (qs.set i (q ++ [a])) (xs ++ [a]) := by
  have hlt : i < qs.length := (List.getElem?_eq_some_iff.1 hi).1
  induction h generalizing q with
  | @nil qs h =>
    obtain rfl : q = [] := h q (List.mem_of_getElem? hi)
    refine .cons (i := i) (q := []) (by simp [hlt]) (.nil ?_)
    rw [List.set_set]
    exact forall_mem_set h rfl
  | @cons qs j b q' xs hj _ ih =>
    by_cases hij : i = j
    · subst hij
      obtain rfl : q = b :: q' := by simpa [hi] using hj
      refine .cons (i := i) (q := q' ++ [a]) (by simp [hlt]) ?_
      simpa using ih (q := q') (by simp [hlt]) (by simpa using hlt)
    · refine .cons (i := j) (q := q') (by simp [hij, hj]) ?_
      rw [List.set_comm _ _ hij]
      exact ih (by rw [List.getElem?_set_ne (Ne.symm hij), hi]) (by simpa using hlt)

theorem eq_of_singleton (h : Interleaved [q] xs) : xs = q := by
  generalize hqs : [q] = qs at h
  induction h generalizing q with
  | nil h =>
    subst hqs
    exact (h q (by simp)).symm
  | @cons qs i a q' xs hi _ ih =>
    subst hqs
    cases i with
    | zero =>
      obtain rfl : q = a :: q' := by simpa using hi
      rw [ih rfl]
    | succ i => simp at hi

theorem of_map {f : α → β} {qs : List (List α)} (h : Interleaved (qs.map (·.map f)) ys) :
    ∃ xs, Interleaved qs xs ∧ xs.map f = ys := by
  generalize hqs : qs.map (·.map f) = rs at h
  induction h generalizing qs with
  | nil h =>
    subst hqs
    refine ⟨[], .nil ?_, rfl⟩
    intro q hq
    exact List.map_eq_nil_iff.1 (h _ (List.mem_map_of_mem hq))
  | @cons rs i b r ys hi _ ih =>
    subst hqs
    obtain ⟨q, hq, hmap⟩ : ∃ q, qs[i]? = some q ∧ q.map f = b :: r := by simpa using hi
    obtain ⟨a, q, rfl, rfl, rfl⟩ := List.map_eq_cons_iff.1 hmap
    obtain ⟨xs, hxs, rfl⟩ := ih (List.map_set : (qs.set i q).map _ = _)
    exact ⟨a :: xs, .cons hq hxs, rfl⟩

end Interleaved

end TokiSentences
