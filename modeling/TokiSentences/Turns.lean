namespace TokiSentences

def turnsFor (step : β → τ → β) (next? : β → Option τ) : Nat → β → List τ
  | 0, _ => []
  | n + 1, b =>
    match next? b with
    | none => []
    | some t => t :: turnsFor step next? n (step b t)

theorem next?_turnsFor {step : β → τ → β} {next? : β → Option τ} {work : β → Nat}
    (hlt : ∀ b t, next? b = some t → work (step b t) < work b) {n : Nat} {b : β}
    (h : work b ≤ n) : next? ((turnsFor step next? n b).foldl step b) = none := by
  induction n generalizing b with
  | zero =>
    cases hn : next? b with
    | none => exact hn
    | some t =>
      have := hlt b t hn
      omega
  | succ n ih =>
    cases hn : next? b with
    | none => simp [turnsFor, hn]
    | some t =>
      have := hlt b t hn
      simpa [turnsFor, hn] using ih (b := step b t) (by omega)

def total (f : α → Nat) : List α → Nat
  | [] => 0
  | a :: rest => f a + total f rest

theorem total_set (f : α → Nat) {xs : List α} (h : xs[i]? = some a) (b : α) :
    f a + total f (xs.set i b) = f b + total f xs := by
  induction xs generalizing i with
  | nil => simp at h
  | cons x xs ih =>
    cases i with
    | zero =>
      obtain rfl : x = a := by simpa using h
      exact Nat.add_left_comm ..
    | succ i =>
      have := ih (by simpa using h)
      simp only [List.set_cons_succ, total]
      omega

end TokiSentences
