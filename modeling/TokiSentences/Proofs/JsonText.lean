import TokiSentences.Json.Reader
import TokiSentences.Json.Writer

namespace TokiSentences.Json

/-- Without numbers, and every string in it spells a text. -/
inductive Plain : Json → Prop
  | null : Plain null
  | bool (b : Bool) : Plain (bool b)
  | text (s : String) : Plain (text (some s))
  | list : (∀ j ∈ items, Plain j) → Plain (list items)
  | object : (∀ m ∈ members, m.1.isSome) → (∀ m ∈ members, Plain m.2) → Plain (object members)

section Strings

theorem hexValue?_hexDigit {d : Nat} (h : d < 16) : hexValue? (hexDigit d) = some d := by
  revert d
  decide

theorem unit?_control {n : Nat} (h : n < 0x20) :
    unit? '0' '0' (hexDigit (n / 16)) (hexDigit (n % 16)) = some n := by
  have hhigh : hexValue? (hexDigit (n / 16)) = some (n / 16) := hexValue?_hexDigit (by omega)
  have hlow : hexValue? (hexDigit (n % 16)) = some (n % 16) := hexValue?_hexDigit (by omega)
  have hzero : hexValue? '0' = some 0 := rfl
  simp only [unit?, hzero, hhigh, hlow, Option.pure_def, Option.bind_eq_bind, Option.bind_some]
  congr 1
  omega

def before (p : Piece) (r : List Piece × List Char) : List Piece × List Char := (p :: r.1, r.2)

theorem readPieces_unit {a b c d : Char} {n : Nat} (h : unit? a b c d = some n) (cs : List Char) :
    readPieces ('\\' :: 'u' :: a :: b :: c :: d :: cs) =
      (readPieces cs).map (before (.unit n)) := by
  simp only [readPieces, h, Option.bind_eq_bind, Option.bind_some, Option.pure_def]
  cases readPieces cs <;> rfl

theorem readPieces_short {e c : Char} (h : shortEscape? e = some c) (cs : List Char) :
    readPieces ('\\' :: e :: cs) = (readPieces cs).map (before (.char c)) := by
  have hu : e ≠ 'u' := by
    rintro rfl
    cases h
  rw [readPieces]
  · simp only [h, Option.bind_eq_bind, Option.bind_some, Option.pure_def]
    cases readPieces cs <;> rfl
  · rintro a b c d cs rfl -
    exact hu rfl

theorem readPieces_raw {c : Char} (hquote : c ≠ '"') (hslash : c ≠ '\\') (h : 0x20 ≤ c.toNat)
    (cs : List Char) : readPieces (c :: cs) = (readPieces cs).map (before (.char c)) := by
  rw [readPieces]
  · rw [if_neg (by simp [hslash]; omega)]
    cases readPieces cs <;> rfl
  · exact hquote
  · intro a b c d cs hc
    exact absurd hc hslash
  · intro e cs hc
    exact absurd hc hslash

theorem readPieces_escape (c : Char) (cs : List Char) :
    ∃ p, readPieces (escape c ++ cs) = (readPieces cs).map (before p) ∧
      ∀ ps, spell? (p :: ps) = (spell? ps).map (c :: ·) := by
  unfold escape
  split
  -- no short escape: a control character is written as a number, any other as itself
  case h_8 hquote hslash _ _ _ _ _ =>
    split
    · rename_i hcontrol
      refine ⟨.unit c.toNat, readPieces_unit (unit?_control hcontrol) cs, ?_⟩
      intro ps
      have hlow : isLow c.toNat = false := by
        simp [isLow]
        omega
      have hhigh : isHigh c.toNat = false := by
        simp [isHigh]
        omega
      rw [spell?.eq_def]
      simp [hlow, hhigh]
    · rename_i hcontrol
      exact ⟨.char c, readPieces_raw hquote hslash (by omega) cs, fun ps => rfl⟩
  all_goals exact ⟨.char _, readPieces_short rfl cs, fun ps => rfl⟩

theorem readText_escape (s : String) (rest : List Char) :
    readText (s.toList.flatMap escape ++ '"' :: rest) = some (some s, rest) := by
  have hpieces (cs : List Char) : ∃ ps,
      readPieces (cs.flatMap escape ++ '"' :: rest) = some (ps, rest) ∧ spell? ps = some cs := by
    induction cs with
    | nil => exact ⟨[], rfl, rfl⟩
    | cons c cs ih =>
      obtain ⟨ps, hps, hspell⟩ := ih
      obtain ⟨p, hp, hspelled⟩ := readPieces_escape c (cs.flatMap escape ++ '"' :: rest)
      refine ⟨p :: ps, ?_, ?_⟩
      · rw [List.flatMap_cons, List.append_assoc, hp, hps]
        rfl
      · rw [hspelled, hspell]
        rfl
  obtain ⟨ps, hps, hspell⟩ := hpieces s.toList
  simp [readText, hps, hspell]

end Strings

section Spaces

theorem skip_cons {c : Char} (h : isSpace c = false) (cs : List Char) :
    skip (c :: cs) = c :: cs := by
  simp [skip, h]

theorem skip_gap (l : Level) (cs : List Char) : skip (l.gap ++ cs) = skip cs := by
  cases l with
  | none => rfl
  | some n => simp [Level.gap, skip, List.dropWhile_append, isSpace]

theorem readValue_congr {cs cs' : List Char} (h : skip cs = skip cs') (n : Nat) :
    readValue n cs = readValue n cs' := by
  cases n with
  | zero => rfl
  | succ n => rw [readValue, readValue, h]

theorem readItems_congr {cs cs' : List Char} (h : skip cs = skip cs') (n : Nat) :
    readItems n cs = readItems n cs' := by
  cases n with
  | zero => rfl
  | succ n => rw [readItems, readItems, readValue_congr h]

theorem readMembers_congr {cs cs' : List Char} (h : skip cs = skip cs') (n : Nat) :
    readMembers n cs = readMembers n cs' := by
  cases n with
  | zero => rfl
  | succ n => rw [readMembers, readMembers, h]

end Spaces

theorem Plain.write_eq_cons {j : Json} (h : Plain j) (l : Level) :
    ∃ c cs, write l j = c :: cs ∧ isSpace c = false ∧ c ≠ ']' := by
  cases h with
  | null => exact ⟨'n', _, rfl, rfl, by decide⟩
  | bool b => cases b <;> exact ⟨_, _, rfl, rfl, by decide⟩
  | text s => exact ⟨'"', _, rfl, rfl, by decide⟩
  | @list items _ => cases items <;> exact ⟨'[', _, rfl, rfl, by decide⟩
  | @object members _ _ => cases members <;> exact ⟨'\x7b', _, rfl, rfl, by decide⟩

theorem writeText_append (s : String) (rest : List Char) :
    writeText (some s) ++ rest = '"' :: (s.toList.flatMap escape ++ '"' :: rest) := by
  have hw : writeText (some s) = quote s.toList := rfl
  simp [hw, quote]

/-- A value is read back, whatever follows it, by any bound above the length it is written in. -/
def ReadsBack (l : Level) (j : Json) : Prop :=
  ∀ n rest, (write l j).length ≤ n → readValue (n + 1) (write l j ++ rest) = some (j, rest)

theorem readItems_write {l : Level} {j : Json} {js : List Json}
    (h : ∀ i ∈ j :: js, ReadsBack l i) (outer : Level) (rest : List Char) {n : Nat}
    (hn : (write l j).length + (writeItems l js).length ≤ n) :
    readItems (n + 2) (write l j ++ (writeItems l js ++ (outer.gap ++ ']' :: rest))) =
      some (j :: js, rest) := by
  induction js generalizing j n with
  | nil =>
    have hj := h j (by simp) n (outer.gap ++ ']' :: rest) (by omega)
    simp [readItems, writeItems, hj, skip_gap, skip_cons (c := ']') rfl]
  | cons k ks ih =>
    simp only [writeItems, List.length_cons, List.length_append] at hn
    obtain ⟨n, rfl⟩ : ∃ m, n = m + 1 := ⟨n - 1, by omega⟩
    have hj := h j (by simp) (n + 1) (writeItems l (k :: ks) ++ (outer.gap ++ ']' :: rest))
      (by omega)
    have hks := ih (j := k) (fun i hi => h i (List.mem_cons_of_mem j hi)) (n := n) (by omega)
    rw [readItems, hj]
    simp [writeItems, skip_cons (c := ',') rfl, readItems_congr (skip_gap l _), hks]

@[simp] theorem colon_inner (l : Level) : l.inner.colon = l.colon := by
  cases l <;> rfl

theorem skip_colon (l : Level) (cs : List Char) :
    ∃ cs', skip (l.colon ++ cs) = ':' :: cs' ∧ skip cs' = skip cs := by
  cases l with
  | none => exact ⟨cs, rfl, rfl⟩
  | some n => exact ⟨' ' :: cs, rfl, rfl⟩

theorem readValue_text (n : Nat) (s : String) (rest : List Char) :
    readValue (n + 1) ('"' :: (s.toList.flatMap escape ++ '"' :: rest)) =
      some (text (some s), rest) := by
  rw [readValue, skip_cons rfl]
  simp only [readText_escape]
  rfl

theorem readValue_items {n : Nat} {c : Char} {cs cs' rest : List Char} {js : List Json}
    (hskip : skip cs = c :: cs') (hc : c ≠ ']') (h : readItems n (c :: cs') = some (js, rest)) :
    readValue (n + 1) ('[' :: cs) = some (list js, rest) := by
  rw [readValue, skip_cons rfl]
  simp only [hskip]
  split
  · rename_i heq
    cases heq
    exact absurd rfl hc
  · rw [h]
    rfl

theorem readValue_members {n : Nat} {c : Char} {cs cs' rest : List Char}
    {ms : List (Option String × Json)} (hskip : skip cs = c :: cs') (hc : c ≠ '\x7d')
    (h : readMembers n (c :: cs') = some (ms, rest)) :
    readValue (n + 1) ('\x7b' :: cs) = some (object ms, rest) := by
  rw [readValue, skip_cons rfl]
  simp only [hskip]
  split
  · rename_i heq
    cases heq
    exact absurd rfl hc
  · rw [h]
    rfl

theorem readMembers_last {n : Nat} {cs cs₁ cs₂ rest : List Char} {k : Option String} {j : Json}
    (htext : readText cs = some (k, cs₁)) (hcolon : skip cs₁ = ':' :: cs₂)
    (hj : readValue n cs₂ = some (j, cs₃)) (hclose : skip cs₃ = '\x7d' :: rest) :
    readMembers (n + 1) ('"' :: cs) = some ([(k, j)], rest) := by
  rw [readMembers, skip_cons rfl]
  simp only [htext, Option.bind_eq_bind, Option.bind_some, hcolon, hj, hclose]
  rfl

theorem readMembers_next {n : Nat} {cs cs₁ cs₂ rest : List Char} {k : Option String} {j : Json}
    (htext : readText cs = some (k, cs₁)) (hcolon : skip cs₁ = ':' :: cs₂)
    (hj : readValue n cs₂ = some (j, cs₃)) (hcomma : skip cs₃ = ',' :: cs₄)
    (hms : readMembers n cs₄ = some (ms, rest)) :
    readMembers (n + 1) ('"' :: cs) = some ((k, j) :: ms, rest) := by
  rw [readMembers, skip_cons rfl]
  simp only [htext, Option.bind_eq_bind, Option.bind_some, hcolon, hj, hcomma, hms]
  rfl

theorem readMembers_write {l : Level} {k : String} {j : Json} {ms : List (Option String × Json)}
    (hkeys : ∀ m ∈ ms, m.1.isSome) (h : ∀ m ∈ (some k, j) :: ms, ReadsBack l m.2) (outer : Level)
    (rest : List Char) {n : Nat} (hn : (write l j).length + (writeMembers l ms).length ≤ n) :
    readMembers (n + 2) (writeText (some k) ++ (l.colon ++ (write l j ++
      (writeMembers l ms ++ (outer.gap ++ '\x7d' :: rest))))) = some ((some k, j) :: ms, rest) := by
  induction ms generalizing k j n with
  | nil =>
    obtain ⟨cs, hcolon, hcs⟩ := skip_colon l (write l j ++ (outer.gap ++ '\x7d' :: rest))
    have hj := h (some k, j) (by simp) n (outer.gap ++ '\x7d' :: rest) (by simp; omega)
    rw [← readValue_congr hcs] at hj
    have hclose : skip (outer.gap ++ '\x7d' :: rest) = '\x7d' :: rest := by
      rw [skip_gap, skip_cons rfl]
    rw [writeText_append]
    exact readMembers_last (readText_escape ..) hcolon hj hclose
  | cons m ms ih =>
    obtain ⟨k', j'⟩ := m
    obtain ⟨k', rfl⟩ := Option.isSome_iff_exists.1 (hkeys (k', j') (by simp))
    simp only [writeMembers, List.length_cons, List.length_append] at hn
    obtain ⟨n, rfl⟩ : ∃ m, n = m + 1 := ⟨n - 1, by omega⟩
    have hms := ih (j := j') (fun m hm => hkeys m (List.mem_cons_of_mem _ hm))
      (fun m hm => h m (List.mem_cons_of_mem _ hm)) (n := n) (by omega)
    rw [← readMembers_congr (skip_gap l _)] at hms
    obtain ⟨cs, hcolon, hcs⟩ := skip_colon l
      (write l j ++ (writeMembers l ((some k', j') :: ms) ++ (outer.gap ++ '\x7d' :: rest)))
    have hj := h (some k, j) (by simp) (n + 1)
      (writeMembers l ((some k', j') :: ms) ++ (outer.gap ++ '\x7d' :: rest)) (by simp; omega)
    rw [← readValue_congr hcs] at hj
    have hcomma := skip_cons (c := ',') rfl (l.gap ++ (writeText (some k') ++ (l.colon ++
      (write l j' ++ (writeMembers l ms ++ (outer.gap ++ '\x7d' :: rest))))))
    rw [writeText_append]
    apply readMembers_next (readText_escape ..) hcolon hj _ hms
    simpa [writeMembers] using hcomma

theorem readsBack_bool (l : Level) (b : Bool) : ReadsBack l (.bool b) := by
  intro n rest _
  cases b with
  | true =>
    have hw : write l (.bool true) ++ rest = 't' :: 'r' :: 'u' :: 'e' :: rest := by simp [write]
    rw [hw, readValue, skip_cons rfl]
    rfl
  | false =>
    have hw : write l (.bool false) ++ rest = 'f' :: 'a' :: 'l' :: 's' :: 'e' :: rest := by
      simp [write]
    rw [hw, readValue, skip_cons rfl]
    rfl

theorem readsBack_list {items : List Json} (hitems : ∀ j ∈ items, Plain j)
    (h : ∀ j ∈ items, ∀ l, ReadsBack l j) (l : Level) : ReadsBack l (.list items) := by
  intro n rest hn
  cases items with
  | nil =>
    rw [write, List.cons_append, readValue, skip_cons rfl]
    rfl
  | cons j js =>
    obtain ⟨c, cs, hw, hspace, hclose⟩ := (hitems j (by simp)).write_eq_cons l.inner
    simp only [write, List.length_cons, List.length_append] at hn
    obtain ⟨n, rfl⟩ : ∃ m, n = m + 2 := ⟨n - 2, by omega⟩
    have hread := readItems_write (fun i hi => h i hi l.inner) l rest (n := n) (by omega)
    simp only [hw, List.cons_append] at hread
    simp only [write, hw, List.cons_append, List.nil_append, List.append_assoc]
    apply readValue_items _ hclose hread
    rw [skip_gap, skip_cons hspace]

theorem readsBack_object {members : List (Option String × Json)}
    (hkeys : ∀ m ∈ members, m.1.isSome) (h : ∀ m ∈ members, ∀ l, ReadsBack l m.2) (l : Level) :
    ReadsBack l (.object members) := by
  intro n rest hn
  cases members with
  | nil =>
    rw [write, List.cons_append, readValue, skip_cons rfl]
    rfl
  | cons m ms =>
    obtain ⟨k, j⟩ := m
    obtain ⟨k, rfl⟩ := Option.isSome_iff_exists.1 (hkeys (k, j) (by simp))
    simp only [write, List.length_cons, List.length_append] at hn
    obtain ⟨n, rfl⟩ : ∃ m, n = m + 2 := ⟨n - 2, by omega⟩
    have hread := readMembers_write (fun m hm => hkeys m (List.mem_cons_of_mem _ hm))
      (fun m hm => h m hm l.inner) l rest (n := n) (by omega)
    rw [writeText_append] at hread
    simp only [write, List.cons_append, List.nil_append, List.append_assoc, writeText_append,
      ← colon_inner l]
    apply readValue_members _ (by decide) hread
    rw [skip_gap, skip_cons rfl]

theorem Plain.readsBack {j : Json} (h : Plain j) (l : Level) : ReadsBack l j := by
  induction h generalizing l with
  | null =>
    intro n rest _
    have hw : write l .null ++ rest = 'n' :: 'u' :: 'l' :: 'l' :: rest := rfl
    rw [hw, readValue, skip_cons rfl]
    rfl
  | bool b => exact readsBack_bool l b
  | text s =>
    intro n rest _
    rw [write, writeText_append, readValue_text]
  | list hitems ih => exact readsBack_list hitems ih l
  | object hkeys _ ih => exact readsBack_object hkeys ih l

theorem Plain.read?_write {j : Json} (h : Plain j) (l : Level) (rest : List Char)
    (hrest : skip rest = []) : read? (String.ofList (write l j ++ rest)) = some j := by
  have hread := h.readsBack l (2 * (write l j ++ rest).length + 1) rest (by simp; omega)
  simp only [read?, String.toList_ofList, Option.bind_eq_bind]
  rw [hread]
  simp [hrest]

theorem Plain.read?_compact {j : Json} (h : Plain j) : read? j.compact = some j := by
  simpa [compact] using h.read?_write none [] rfl

theorem Plain.read?_pretty {j : Json} (h : Plain j) : read? j.pretty = some j := by
  simpa [pretty] using h.read?_write (some 0) [] rfl

theorem Plain.read?_pretty_line {j : Json} (h : Plain j) : read? (j.pretty ++ "\n") = some j := by
  have hread := h.read?_write (some 0) ['\n'] rfl
  rwa [String.ofList_append] at hread

end TokiSentences.Json
