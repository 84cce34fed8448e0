import TokiSentences.Source.Basic

namespace TokiSentences

namespace Source

variable [Source σ]

def after : Nat → σ → σ
  | 0, s => s
  | n + 1, s => after n (split s).2

def Splits (n : Nat) (s : σ) : Prop := ∀ k < n, (split (after k s)).1.isSome

theorem splits_succ {n : Nat} {s : σ} :
    Splits (n + 1) s ↔ (split s).1.isSome ∧ Splits n (split s).2 := by
  constructor
  · intro h
    exact ⟨h 0 (by omega), fun k hk => h (k + 1) (by omega)⟩
  · rintro ⟨h₀, h⟩ k hk
    cases k with
    | zero => exact h₀
    | succ k => exact h k (by omega)

theorem take_of_split {s : σ} (h : (split s).1.isSome) :
    ∃ child, take s = (.ok child, (split s).2) := by
  obtain ⟨child, hchild⟩ := Option.isSome_iff_exists.1 h
  refine ⟨child, ?_⟩
  rw [take, ← Prod.eta (split s), hchild]

theorem take_of_split_none {s : σ} (h : (split s).1 = none) :
    take s = (.error .broken, (split s).2) := by
  rw [take, ← Prod.eta (split s), h]

theorem takes_of_splits {n : Nat} {s : σ} (h : Splits n s) :
    ∃ children, takes n s = (.ok children, after n s) := by
  induction n generalizing s with
  | zero => exact ⟨[], rfl⟩
  | succ n ih =>
    obtain ⟨h₀, hn⟩ := splits_succ.1 h
    obtain ⟨child, htake⟩ := take_of_split h₀
    obtain ⟨children, htakes⟩ := ih hn
    exact ⟨child :: children, by simp only [takes, htake, htakes, after]⟩

theorem takes_of_split_none {n k : Nat} {s : σ} (hk : k < n) (h : Splits k s)
    (hnone : (split (after k s)).1 = none) : takes n s = (.error .broken, after (k + 1) s) := by
  induction k generalizing n s with
  | zero =>
    obtain ⟨n, rfl⟩ : ∃ m, n = m + 1 := ⟨n - 1, by omega⟩
    have htake : take s = (.error .broken, (split s).2) := take_of_split_none hnone
    simp only [takes, htake, after]
  | succ k ih =>
    obtain ⟨n, rfl⟩ : ∃ m, n = m + 1 := ⟨n - 1, by omega⟩
    obtain ⟨h₀, hk'⟩ := splits_succ.1 h
    obtain ⟨child, htake⟩ := take_of_split h₀
    simp only [takes, htake, ih (by omega : k < n) hk' hnone, after]

theorem splits_or_exists_none (n : Nat) (s : σ) :
    Splits n s ∨ ∃ k < n, Splits k s ∧ (split (after k s)).1 = none := by
  induction n with
  | zero => exact .inl fun k hk => absurd hk (Nat.not_lt_zero k)
  | succ n ih =>
    rcases ih with h | ⟨k, hk, h⟩
    · cases hsplit : (split (after n s)).1 with
      | none => exact .inr ⟨n, Nat.lt_succ_self n, h, hsplit⟩
      | some child =>
        left
        intro k hk
        rcases Nat.lt_succ_iff_lt_or_eq.1 hk with hk | rfl
        · exact h k hk
        · simp [hsplit]
    · exact .inr ⟨k, Nat.lt_succ_of_lt hk, h⟩

@[simp] theorem snd_takes_one (s : σ) : (takes 1 s).2 = (take s).2 := by
  simp only [takes]
  split <;> simp_all

theorem take_of_takes_one {s s' : σ} {children : List σ} (h : takes 1 s = (.ok children, s')) :
    ∃ child, take s = (.ok child, s') ∧ children = [child] := by
  simp only [takes] at h
  split at h
  · cases h
  · rename_i child _ htake
    cases h
    exact ⟨child, htake, rfl⟩

theorem length_of_takes {n : Nat} {s s' : σ} {children : List σ}
    (h : takes n s = (.ok children, s')) : children.length = n := by
  induction n generalizing s children with
  | zero =>
    cases h
    rfl
  | succ n ih =>
    rw [takes] at h
    split at h
    · cases h
    · split at h
      · rename_i htakes
        cases h
        exact congrArg (· + 1) (ih htakes)
      · cases h

theorem takes_add {m n : Nat} {s s'' : σ} {children : List σ}
    (h : takes (m + n) s = (.ok children, s'')) :
    ∃ (first others : List σ) (s' : σ), takes m s = (.ok first, s') ∧
      takes n s' = (.ok others, s'') ∧ children = first ++ others := by
  induction m generalizing s children with
  | zero =>
    rw [Nat.zero_add] at h
    exact ⟨[], children, s, rfl, h, rfl⟩
  | succ m ih =>
    rw [Nat.add_right_comm, takes] at h
    split at h
    · cases h
    · rename_i child s₁ htake
      split at h
      · rename_i htakes
        cases h
        obtain ⟨first, others, s', hfirst, hothers, rfl⟩ := ih htakes
        exact ⟨child :: first, others, s', by simp only [takes, htake, hfirst], hothers, rfl⟩
      · cases h

end Source

end TokiSentences
