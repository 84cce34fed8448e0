import Mathlib.Data.List.Induction
import Mathlib.Data.Nat.Digits.Defs
import TokiSentences.Text.Decimal

namespace TokiSentences.Text

structure Digits (ds : List Char) (n : Nat) : Prop where
  ne_nil : ds ≠ []
  isDigit : ∀ d ∈ ds, d.isDigit
  value : Nat.ofDigits 10 (ds.reverse.map digitValue) = n

def Numeral (s : String) (n : Nat) : Prop :=
  ∃ ds, Digits ds n ∧ (s.toList = ds ∨ s.toList = '+' :: ds)

theorem digitsValue_eq_ofDigits (ds : List Char) :
    digitsValue ds = Nat.ofDigits 10 (ds.reverse.map digitValue) := by
  induction ds using List.reverseRecOn with
  | nil => rfl
  | append_singleton ds d ih =>
    have hsnoc : digitsValue (ds ++ [d]) = 10 * digitsValue ds + digitValue d := by
      simp [digitsValue]
    rw [hsnoc, ih]
    simp [Nat.ofDigits_cons, Nat.add_comm]

theorem digits?_eq_some_iff {ds : List Char} {n : Nat} : digits? ds = some n ↔ Digits ds n := by
  unfold digits?
  split
  next h =>
    rw [Option.some.injEq, digitsValue_eq_ofDigits]
    exact ⟨fun hn => ⟨h.1, List.all_eq_true.1 h.2, hn⟩, fun hn => hn.value⟩
  next h =>
    constructor
    · intro hn
      cases hn
    · intro hn
      exact absurd ⟨hn.ne_nil, List.all_eq_true.2 hn.isDigit⟩ h

theorem numeral?_eq_some_iff {cs : List Char} {n : Nat} :
    numeral? cs = some n ↔ ∃ ds, Digits ds n ∧ (cs = ds ∨ cs = '+' :: ds) := by
  unfold numeral?
  split
  next ds =>
    rw [digits?_eq_some_iff]
    constructor
    · intro h
      exact ⟨ds, h, .inr rfl⟩
    · rintro ⟨ds', h, rfl | heq⟩
      · exact absurd (h.isDigit '+' List.mem_cons_self) (by decide)
      · rwa [(List.cons.inj heq).2]
  next hsign =>
    rw [digits?_eq_some_iff]
    constructor
    · intro h
      exact ⟨cs, h, .inl rfl⟩
    · rintro ⟨ds', h, rfl | rfl⟩
      · exact h
      · exact absurd rfl (hsign ds')

theorem natUpTo?_eq_some_iff {bound n : Nat} {s : String} :
    natUpTo? bound s = some n ↔ Numeral s n ∧ n ≤ bound := by
  rw [natUpTo?, Option.filter_eq_some_iff, numeral?_eq_some_iff, decide_eq_true_eq, Numeral]

theorem word?_eq_some_iff {s : String} {n : Nat} :
    word? s = some n ↔ Numeral s n ∧ n ≤ maxWord := natUpTo?_eq_some_iff

theorem word?_eq_none_iff {s : String} : word? s = none ↔ ∀ n, Numeral s n → maxWord < n := by
  simp only [Option.eq_none_iff_forall_ne_some, Ne, word?_eq_some_iff, not_and, Nat.not_le]

theorem Numeral.unique {s : String} {m n : Nat} (hm : Numeral s m) (hn : Numeral s n) : m = n := by
  have hm' := numeral?_eq_some_iff.2 hm
  rw [numeral?_eq_some_iff.2 hn] at hm'
  exact (Option.some.inj hm').symm

theorem Digits.zeros {ds : List Char} {n : Nat} (h : Digits ds n) (k : Nat) :
    Digits (List.replicate k '0' ++ ds) n where
  ne_nil := by simp [h.ne_nil]
  isDigit := by
    intro d hd
    rcases List.mem_append.1 hd with hd | hd
    · rw [List.eq_of_mem_replicate hd]
      rfl
    · exact h.isDigit d hd
  value := by
    rw [← h.value]
    simp [Nat.ofDigits_append, digitValue]

end TokiSentences.Text
