import Mathlib.Data.Set.Basic
import TokiSentences.Source.Script

namespace TokiSentences

def Odds.Open (o : Odds) : Prop := 0 < o.hits ∧ o.hits < o.outOf

instance (o : Odds) : Decidable o.Open := inferInstanceAs (Decidable (_ ∧ _))

def Source.InRange (σ : Type) [Source σ] : Prop :=
  ∀ (s : σ) (n i : Nat) (s' : σ), 0 < n → Source.draw s n = (some i, s') → i < n

theorem Script.inRange : Source.InRange Script := by
  intro s n i s' hn h
  have hdraw : (s.draw n).1 = some i := congrArg Prod.fst h
  unfold Script.draw at hdraw
  split at hdraw
  · cases hdraw
  · split at hdraw
    · obtain rfl : 0 = i := by simpa using hdraw
      exact hn
    · rename_i v _
      obtain rfl : v % n = i := by simpa using hdraw
      exact Nat.mod_lt v hn

namespace Choice

def support : Choice α → Set α
  | done a => {a}
  | stop _ => ∅
  | draw n next => {a | ∃ i < n, a ∈ (next i).support}

/-- Every draw has something to draw from, and answers in the range lead to none but the allowed
stops. -/
def Within (range : Nat → Nat → Prop) (allowed : Stop → Prop) : Choice α → Prop
  | done _ => True
  | stop e => allowed e
  | draw n next => 0 < n ∧ ∀ i, range n i → (next i).Within range allowed

@[simp] theorem mem_support_done {a b : α} : b ∈ (done a).support ↔ b = a := Iff.rfl

@[simp] theorem mem_support_stop {e : Stop} {b : α} : b ∈ (stop e : Choice α).support ↔ False :=
  Iff.rfl

@[simp] theorem mem_support_draw {n : Nat} {next : Nat → Choice α} {a : α} :
    a ∈ (draw n next).support ↔ ∃ i < n, a ∈ (next i).support := Iff.rfl

@[simp] theorem mem_support_bind {c : Choice α} {f : α → Choice β} {b : β} :
    b ∈ (c >>= f).support ↔ ∃ a ∈ c.support, b ∈ (f a).support := by
  induction c with
  | done a => simp
  | stop e => simp
  | draw n next ih =>
    simp only [bind_draw, mem_support_draw, ih]
    constructor
    · rintro ⟨i, hi, a, ha, hb⟩
      exact ⟨a, ⟨i, hi, ha⟩, hb⟩
    · rintro ⟨a, ⟨i, hi, ha⟩, hb⟩
      exact ⟨i, hi, a, ha, hb⟩

@[simp] theorem mem_support_map {c : Choice α} {f : α → β} {b : β} :
    b ∈ (f <$> c).support ↔ ∃ a ∈ c.support, b = f a := by
  rw [map_eq_pure_bind]
  simp

theorem mem_support_chance {o : Odds} (h : o.Open) (b : Bool) : b ∈ (chance o).support := by
  obtain ⟨h₀, h₁⟩ := h
  cases b with
  | true => exact ⟨0, by omega, by simpa using h₀⟩
  | false => exact ⟨o.hits, h₁, by simp⟩

@[simp] theorem mem_support_uniform {n i : Nat} : i ∈ (uniform n).support ↔ i < n := by
  simp [uniform]

@[simp] theorem mem_support_among {items : List α} {a : α} :
    a ∈ (among items).support ↔ a ∈ items := by
  unfold among
  split
  · rename_i h
    simp [List.isEmpty_iff.1 h]
  · rw [mem_support_draw, List.mem_iff_getElem]
    constructor
    · rintro ⟨i, hi, ha⟩
      rw [List.getElem?_eq_getElem hi] at ha
      exact ⟨i, hi, ha.symm⟩
    · rintro ⟨i, hi, rfl⟩
      exact ⟨i, hi, by simp [List.getElem?_eq_getElem hi]⟩

section

variable {range : Nat → Nat → Prop} {allowed : Stop → Prop}

theorem Within.bind {c : Choice α} {f : α → Choice β} (hc : c.Within range allowed)
    (hf : ∀ a, (f a).Within range allowed) : (c >>= f).Within range allowed := by
  induction c with
  | done a => exact hf a
  | stop e => exact hc
  | draw n next ih => exact ⟨hc.1, fun i hi => ih i (hc.2 i hi)⟩

theorem Within.map {c : Choice α} (hc : c.Within range allowed) (f : α → β) :
    (f <$> c).Within range allowed := by
  rw [map_eq_pure_bind]
  exact hc.bind fun _ => trivial

theorem within_chance {o : Odds} (h : 0 < o.outOf) : (chance o).Within range allowed :=
  ⟨h, fun _ _ => trivial⟩

theorem within_uniform {n : Nat} (h : 0 < n) : (uniform n).Within range allowed :=
  ⟨h, fun _ _ => trivial⟩

theorem within_among {items : List α} (h : items ≠ [])
    (hr : ∀ n i, range n i → i < n ∨ allowed .broken) : (among items).Within range allowed := by
  have hlen : 0 < items.length := List.length_pos_iff.2 h
  rw [among, if_neg (by simpa using h)]
  refine ⟨hlen, ?_⟩
  intro i hi
  cases ha : items[i]? with
  | some a => simp only [ha]; trivial
  | none =>
    simp only [ha]
    have hge : items.length ≤ i := List.getElem?_eq_none_iff.1 ha
    exact (hr _ i hi).resolve_left (Nat.not_lt.2 hge)

end

/-- The bounds that a run draws below, up to the draw that breaks off. -/
def asked [Source σ] : Choice α → σ → List Nat
  | done _, _ => []
  | stop _, _ => []
  | draw n next, s =>
    match Source.draw s n with
    | (some i, s') => n :: (next i).asked s'
    | (none, _) => [n]

section

variable [Source σ] {range : Nat → Nat → Prop} {allowed : Stop → Prop}

theorem run_map (f : α → β) (c : Choice α) (s : σ) :
    (f <$> c).run s = (f <$> (c.run s).1, (c.run s).2) := by
  rw [map_eq_pure_bind, run_bind]
  cases c.run s with
  | mk r s' => cases r <;> rfl

theorem Within.run_eq_error {c : Choice α} (hc : c.Within range allowed)
    (hs : ∀ (s : σ) n i s', 0 < n → Source.draw s n = (some i, s') → range n i)
    {s s' : σ} {e : Stop} (h : c.run s = (.error e, s')) : allowed e ∨ e = .broken := by
  induction c generalizing s with
  | done a => cases h
  | stop e' =>
    obtain rfl : e' = e := by simpa using congrArg Prod.fst h
    exact .inl hc
  | draw n next ih =>
    simp only [run] at h
    split at h
    · rename_i i t hd
      exact ih i (hc.2 i (hs s n i t hc.1 hd)) h
    · obtain rfl : Stop.broken = e := by simpa using congrArg Prod.fst h
      exact .inr rfl

theorem Within.mem_support_of_run {c : Choice α} (hc : c.Within (fun n i => i < n) allowed)
    (hs : Source.InRange σ) {s s' : σ} {a : α} (h : c.run s = (.ok a, s')) : a ∈ c.support := by
  induction c generalizing s with
  | done b =>
    have hb : b = a := by simpa using congrArg Prod.fst h
    exact hb.symm
  | stop e => simp at h
  | draw n next ih =>
    simp only [run] at h
    split at h
    · rename_i i t hd
      have hi : i < n := hs s n i t hc.1 hd
      exact ⟨i, hi, ih i (hc.2 i hi) h⟩
    · cases h

end

theorem exists_answers_of_mem_support {c : Choice α} {a : α} (h : a ∈ c.support) :
    ∃ answers : List Nat, ∀ before after : List Nat,
      (c.run { values := before ++ answers ++ after, drawn := before.length : Script }).1 =
        .ok a := by
  induction c with
  | done b =>
    obtain rfl : a = b := h
    exact ⟨[], fun _ _ => rfl⟩
  | stop e => exact absurd h (by simp)
  | draw n next ih =>
    obtain ⟨i, hi, ha⟩ := h
    obtain ⟨answers, hrun⟩ := ih i ha
    refine ⟨i :: answers, ?_⟩
    intro before after
    have hplay : Source.draw
        ({ values := before ++ i :: answers ++ after, drawn := before.length } : Script) n =
        (some i, { values := before ++ i :: answers ++ after, drawn := before.length + 1 }) := by
      have hmod : before.length % (before ++ i :: answers ++ after).length = before.length :=
        Nat.mod_eq_of_lt (by simp)
      simp only [Source.draw, Script.draw, hmod]
      simp [Nat.mod_eq_of_lt hi]
    simp only [run, hplay]
    simpa using hrun (before ++ [i]) after

theorem exists_script_of_mem_support {c : Choice α} {a : α} (h : a ∈ c.support) :
    ∃ values : List Nat, (c.run { values : Script }).1 = .ok a := by
  obtain ⟨answers, hrun⟩ := exists_answers_of_mem_support h
  exact ⟨answers, by simpa using hrun [] []⟩

end Choice

end TokiSentences
