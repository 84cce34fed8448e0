namespace TokiSentences.Text

def bytes (s : String) : List UInt8 := s.toByteArray.data.toList

def order (a b : String) : Ordering := compare (bytes a) (bytes b)

def orderList : List String → List String → Ordering := List.compareLex order

def orderOption : Option String → Option String → Ordering
  | none, none => .eq
  | none, some _ => .lt
  | some _, none => .gt
  | some a, some b => order a b

theorem bytes_injective {a b : String} (h : bytes a = bytes b) : a = b := by
  have h' : a.toByteArray = b.toByteArray := by
    cases ha : a.toByteArray
    cases hb : b.toByteArray
    simp only [bytes, ha, hb] at h
    rw [Array.toList_inj.1 h]
  exact String.toByteArray_inj.1 h'

instance : Std.TransCmp order where
  eq_swap := Std.OrientedOrd.eq_swap
  isLE_trans := Std.TransOrd.isLE_trans

instance : Std.LawfulEqCmp order where
  eq_of_compare h := bytes_injective (Std.LawfulEqOrd.eq_of_compare h)
  compare_self := Std.ReflOrd.compare_self

theorem ne_of_order_eq_lt {a b : String} (h : order a b = .lt) : a ≠ b := by
  rintro rfl
  have hself : order a a = .eq := Std.ReflCmp.compare_self
  rw [hself] at h
  cases h

end TokiSentences.Text
