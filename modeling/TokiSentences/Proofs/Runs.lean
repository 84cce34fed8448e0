import Mathlib.Algebra.BigOperators.Ring.List
import Mathlib.Algebra.Field.Rat
import Mathlib.Data.List.Nodup
import Mathlib.Tactic.FieldSimp
import Mathlib.Tactic.NormNum
import Mathlib.Tactic.Ring
import TokiSentences.Proofs.Choice

/-!
All the runs of a choice, and what they weigh when the answers below a bound are equally likely.
A weight is a mean, and the mean of a choice goes by the steps that the choice is made of.
-/

namespace TokiSentences

/-- One way through a choice: the bounds that it draws below, and what it comes to. -/
structure Run (α : Type) where
  bounds : List Nat
  outcome : Except Stop α

namespace Run

def weight (r : Run α) : ℚ := (r.bounds.map fun n => 1 / (n : ℚ)).prod

def value (f : α → ℚ) (r : Run α) : ℚ :=
  match r.outcome with
  | .ok a => f a
  | .error _ => 0

def meets (p : α → Bool) (r : Run α) : Bool :=
  match r.outcome with
  | .ok a => p a
  | .error _ => false

def afterDraw (n : Nat) (r : Run α) : Run α := ⟨n :: r.bounds, r.outcome⟩

@[simp] theorem weight_afterDraw (n : Nat) (r : Run α) : (r.afterDraw n).weight = r.weight / n := by
  simp [afterDraw, weight, div_eq_inv_mul]

@[simp] theorem value_afterDraw (f : α → ℚ) (n : Nat) (r : Run α) :
    (r.afterDraw n).value f = r.value f := rfl

end Run

def truth (b : Bool) : ℚ := if b then 1 else 0

@[simp] theorem truth_true : truth true = 1 := rfl

@[simp] theorem truth_false : truth false = 0 := rfl

@[simp] theorem truth_and (a b : Bool) : truth (a && b) = truth a * truth b := by
  cases a <;> simp

theorem truth_isSome (o : Option α) : truth o.isSome = o.elim 0 fun _ => 1 := by
  cases o <;> rfl

theorem truth_any (o : Option α) (p : α → Bool) :
    truth (o.any p) = o.elim 0 fun a => truth (p a) := by
  cases o <;> rfl

theorem truth_map_eq_some [DecidableEq β] (o : Option α) (f : α → β) (b : β) :
    truth (o.map f = some b) = o.elim 0 fun a => truth (f a = b) := by
  cases o <;> simp

def average (items : List α) (f : α → ℚ) : ℚ := (items.map f).sum / items.length

@[simp] theorem average_const {items : List α} (h : items ≠ []) (k : ℚ) :
    average items (fun _ => k) = k := by
  have hlen : (items.length : ℚ) ≠ 0 := by simpa using h
  rw [average, List.map_const', List.sum_replicate, nsmul_eq_mul, mul_div_cancel_left₀ k hlen]

@[simp] theorem average_zero (items : List α) : average items (fun _ => 0) = 0 := by
  simp [average]

theorem average_mul_left (items : List α) (k : ℚ) (f : α → ℚ) :
    average items (fun a => k * f a) = k * average items f := by
  rw [average, List.sum_map_mul_left, mul_div_assoc, average]

theorem average_mul_right (items : List α) (f : α → ℚ) (k : ℚ) :
    average items (fun a => f a * k) = average items f * k := by
  simp only [mul_comm _ k, average_mul_left]

theorem average_eq_count [DecidableEq α] (items : List α) (a : α) :
    average items (fun b => truth (b = a)) = items.count a / items.length := by
  rw [average]
  congr 1
  induction items with
  | nil => rfl
  | cons b items ih =>
    by_cases h : b = a
    · simp [h, ih, add_comm]
    · simp [h, ih]

theorem average_of_nodup [DecidableEq α] {items : List α} {a : α} (h : items.Nodup)
    (ha : a ∈ items) : average items (fun b => truth (b = a)) = 1 / items.length := by
  rw [average_eq_count, List.count_eq_one_of_mem h ha, Nat.cast_one]

namespace Choice

def runs : Choice α → List (Run α)
  | done a => [⟨[], .ok a⟩]
  | stop e => [⟨[], .error e⟩]
  | draw n next => (List.range n).flatMap fun i => (next i).runs.map (Run.afterDraw n)

def weight (c : Choice α) (p : α → Bool) : ℚ := ((c.runs.filter (·.meets p)).map Run.weight).sum

def mean (c : Choice α) (f : α → ℚ) : ℚ := (c.runs.map fun r => r.weight * r.value f).sum

theorem weight_eq_mean (c : Choice α) (p : α → Bool) :
    c.weight p = c.mean fun a => truth (p a) := by
  rw [weight, mean]
  induction c.runs with
  | nil => rfl
  | cons r runs ih =>
    have hvalue : r.value (fun a => truth (p a)) = truth (r.meets p) := by
      rw [Run.value, Run.meets]
      cases r.outcome <;> rfl
    cases h : r.meets p <;> simp [hvalue, h, ih]

@[simp] theorem mean_done (a : α) (f : α → ℚ) : (done a).mean f = f a := by
  simp [mean, runs, Run.weight, Run.value]

@[simp] theorem mean_stop (e : Stop) (f : α → ℚ) : (stop e).mean f = 0 := by
  simp [mean, runs, Run.value]

theorem mean_draw (n : Nat) (next : Nat → Choice α) (f : α → ℚ) :
    (draw n next).mean f = average (List.range n) fun i => (next i).mean f := by
  simp only [mean, runs, average, List.length_range, div_eq_mul_inv, ← List.sum_map_mul_right]
  induction List.range n with
  | nil => rfl
  | cons i is ih =>
    simp only [List.flatMap_cons, List.map_append, List.sum_append, ih, List.map_cons,
      List.sum_cons, List.map_map, Function.comp_def, Run.weight_afterDraw, Run.value_afterDraw]
    congr 3
    funext r
    ring

@[simp] theorem mean_bind (c : Choice α) (f : α → Choice β) (g : β → ℚ) :
    (c >>= f).mean g = c.mean fun a => (f a).mean g := by
  induction c with
  | done a => simp
  | stop e => simp
  | draw n next ih => simp only [bind_draw, mean_draw, ih]

theorem mean_mul_left (c : Choice α) (k : ℚ) (f : α → ℚ) :
    (c.mean fun a => k * f a) = k * c.mean f := by
  induction c with
  | done a => simp
  | stop e => simp
  | draw n next ih => simp only [mean_draw, ih, average_mul_left]

theorem mean_mul_right (c : Choice α) (f : α → ℚ) (k : ℚ) :
    (c.mean fun a => f a * k) = c.mean f * k := by
  simp only [mul_comm _ k, mean_mul_left]

theorem mean_congr {c : Choice α} {f g : α → ℚ} (h : ∀ a ∈ c.support, f a = g a) :
    c.mean f = c.mean g := by
  induction c with
  | done a => simpa using h a rfl
  | stop e => simp
  | draw n next ih =>
    rw [mean_draw, mean_draw, average, average]
    congr 2
    apply List.map_congr_left
    intro i hi
    exact ih i fun a ha => h a ⟨i, List.mem_range.1 hi, ha⟩

theorem mean_uniform (n : Nat) (f : Nat → ℚ) : (uniform n).mean f = average (List.range n) f := by
  simp [uniform, mean_draw]

theorem mean_chance {o : Odds} (h : o.Open) (f : Bool → ℚ) :
    (chance o).mean f =
      (o.hits / o.outOf : ℚ) * f true + (1 - o.hits / o.outOf : ℚ) * f false := by
  obtain ⟨hits, outOf⟩ := o
  obtain ⟨misses, rfl⟩ : ∃ m, outOf = hits + m := Nat.exists_eq_add_of_le (Nat.le_of_lt h.2)
  have hpos : ((hits + misses : Nat) : ℚ) ≠ 0 := Nat.cast_ne_zero.2 (Nat.ne_zero_of_lt h.2)
  have hhit : ∀ i ∈ List.range hits, f (decide (i < hits)) = f true := by
    intro i hi
    rw [decide_eq_true (List.mem_range.1 hi)]
  simp only [chance, mean_draw, mean_done, average, List.range_add, List.map_append,
    List.map_map, Function.comp_def, List.sum_append, List.map_congr_left hhit, List.length_append,
    List.length_range, List.length_map, List.map_const', List.sum_replicate, nsmul_eq_mul,
    Nat.not_lt.2 (Nat.le_add_right hits _), decide_false]
  field_simp
  push_cast
  ring

theorem mean_among (items : List α) (f : α → ℚ) : (among items).mean f = average items f := by
  unfold among
  split
  · rename_i h
    simp [List.isEmpty_iff.1 h, average]
  · rw [mean_draw, average, average, List.length_range]
    congr 2
    apply List.ext_getElem (by simp)
    intro i _ hi
    simp [List.getElem?_eq_getElem (by simpa using hi : i < items.length)]

section

variable {c : Choice α} (hc : c.Within (fun n i => i < n) fun _ => False)

include hc

theorem Within.exists_ok_of_mem_runs : ∀ r ∈ c.runs, ∃ a, r.outcome = .ok a := by
  induction c with
  | done a => exact fun r hr => ⟨a, by rw [List.mem_singleton.1 hr]⟩
  | stop e => exact hc.elim
  | draw n next ih =>
    intro r hr
    obtain ⟨i, hi, hr⟩ := List.mem_flatMap.1 hr
    obtain ⟨r', hr', rfl⟩ := List.mem_map.1 hr
    exact ih i (hc.2 i (List.mem_range.1 hi)) r' hr'

theorem Within.mean_const (k : ℚ) : (c.mean fun _ => k) = k := by
  induction c with
  | done a => simp
  | stop e => exact hc.elim
  | draw n next ih =>
    have hnext : ∀ i ∈ List.range n, ((next i).mean fun _ => k) = k := fun i hi =>
      ih i (hc.2 i (List.mem_range.1 hi))
    have hne : List.range n ≠ [] := by simpa using Nat.pos_iff_ne_zero.1 hc.1
    rw [mean_draw, average, List.map_congr_left hnext]
    exact average_const hne k

theorem Within.sum_weight_runs : (c.runs.map Run.weight).sum = 1 := by
  rw [← hc.mean_const 1, mean]
  congr 1
  apply List.map_congr_left
  intro r hr
  obtain ⟨a, ha⟩ := hc.exists_ok_of_mem_runs r hr
  simp [Run.value, ha]

end

end Choice

end TokiSentences
