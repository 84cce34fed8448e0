import Mathlib.Data.List.Forall2
import TokiSentences.Lexicon.Samples
import TokiSentences.Proofs.Lexicon

namespace TokiSentences

/-- The text of a word, with its roles in some order. -/
structure Word.Listed (w : Word) (p : String × List Role) : Prop where
  text : p.1 = w.text
  roles : p.2.Perm w.roles.toList

theorem shelf_eq_nil_iff {words : List Word} {r : Role} :
    shelf words r = [] ↔ ∀ w ∈ words, ¬w.has r := by
  simp [shelf, List.filter_eq_nil_iff]

theorem shelf_ne_nil_iff {words : List Word} {r : Role} :
    shelf words r ≠ [] ↔ ∃ w ∈ words, w.has r := by
  simp [shelf_eq_nil_iff]

theorem forall_mem_shelf {words : List Word} {r : Role} {p : String → Prop} :
    (∀ t ∈ shelf words r, p t) ↔ ∀ w ∈ words, w.has r → p w.text := by
  rw [shelf, List.forall_mem_map]
  simp

theorem exists_mem_shelf {words : List Word} {r : Role} {p : String → Prop} :
    (∃ t ∈ shelf words r, p t) ↔ ∃ w ∈ words, w.has r ∧ p w.text := by
  simp [shelf, and_assoc]

theorem Shelves.get_ofListing_of_listed {words : List Word} {listing : List (String × List Role)}
    (h : List.Forall₂ Word.Listed words listing) : (ofListing listing).get = shelf words := by
  funext r
  rw [get_ofListing]
  induction h with
  | nil => rfl
  | @cons w p words listing hw _ ih =>
    rw [List.flatMap_cons, ih, hw.roles.count_eq, RoleSet.count_toList, hw.text, shelf_cons,
      Word.has]
    cases w.roles.contains r <;> rfl

namespace Lexicon

section

variable {texts : Role → List String}

theorem refusal?_eq_missingRole_iff {r : Role} : refusal? texts = some (.missingRole r) ↔
    ∃ before after, Role.drawn = before ++ r :: after ∧ (∀ q ∈ before, texts q ≠ []) ∧
      texts r = [] := by
  have hfind : refusal? texts = some (.missingRole r) ↔
      (Role.drawn.find? fun r => (texts r).isEmpty) = some r := by
    unfold refusal?
    split
    next hr => simp [hr]
    next hr =>
      rw [hr]
      split <;> simp
  rw [hfind, List.find?_eq_some_iff_append]
  simp only [List.isEmpty_iff]
  constructor
  · rintro ⟨hempty, before, after, hdrawn, hbefore⟩
    exact ⟨before, after, hdrawn, by simpa using hbefore, hempty⟩
  · rintro ⟨before, after, hdrawn, hbefore, hempty⟩
    exact ⟨hempty, before, after, hdrawn, by simpa using hbefore⟩

theorem refusal?_of_held (h : ∀ r ∈ Role.drawn, texts r ≠ []) : refusal? texts =
    if ∀ t ∈ texts .preposition, t = locative then some .locativeOnly else none := by
  have hfind : (Role.drawn.find? fun r => (texts r).isEmpty) = none := by simpa using h
  simp [refusal?, hfind, List.filter_eq_nil_iff]

theorem refusal?_of_not_held (h : ¬∀ r ∈ Role.drawn, texts r ≠ []) :
    ∃ r, refusal? texts = some (.missingRole r) := by
  obtain ⟨r, hr⟩ : ∃ r, (Role.drawn.find? fun r => (texts r).isEmpty) = some r := by
    rw [← Option.isSome_iff_exists]
    simpa using h
  exact ⟨r, by simp [refusal?, hr]⟩

theorem refusal?_eq_locativeOnly_iff : refusal? texts = some .locativeOnly ↔
    (∀ r ∈ Role.drawn, texts r ≠ []) ∧ ∀ t ∈ texts .preposition, t = locative := by
  by_cases h : ∀ r ∈ Role.drawn, texts r ≠ []
  · rw [refusal?_of_held h, and_iff_right h]
    simp
  · obtain ⟨r, hr⟩ := refusal?_of_not_held h
    simp [hr, h]

theorem refusal?_eq_none_iff : refusal? texts = none ↔
    (∀ r ∈ Role.drawn, texts r ≠ []) ∧ ∃ t ∈ texts .preposition, t ≠ locative := by
  by_cases h : ∀ r ∈ Role.drawn, texts r ≠ []
  · rw [refusal?_of_held h, and_iff_right h]
    simp
  · obtain ⟨r, hr⟩ := refusal?_of_not_held h
    simp [hr, h]

end

theorem exists_ofListing_eq_ok_iff {listing : List (String × List Role)} :
    (∃ lx, ofListing listing = .ok lx) ↔ refusal? (Shelves.ofListing listing).get = none := by
  refine ⟨fun ⟨_, h⟩ => refusal?_of_ofListing_eq_ok h, ?_⟩
  intro h
  cases hlx : ofListing listing with
  | ok lx => exact ⟨lx, rfl⟩
  | error e =>
    rw [refusal?_of_ofListing_eq_error hlx] at h
    cases h

/-- A list of words is refused for the first drawn role that no word has, or else because every
preposition is the locative; otherwise there is a lexicon of it, with the texts of the words that
have a role on the shelf of that role, in their order and each as often as it is listed. -/
theorem ofListing_shelved {words : List Word} {listing : List (String × List Role)}
    (h : List.Forall₂ Word.Listed words listing) :
    (∀ r, ofListing listing = .error (.missingRole r) ↔
      ∃ before after, Role.drawn = before ++ r :: after ∧
        (∀ q ∈ before, ∃ w ∈ words, w.has q) ∧ ∀ w ∈ words, ¬w.has r) ∧
    (ofListing listing = .error .locativeOnly ↔
      (∀ r ∈ Role.drawn, ∃ w ∈ words, w.has r) ∧
        ∀ w ∈ words, w.has .preposition → w.text = locative) ∧
    ((∃ lx, ofListing listing = .ok lx) ↔
      (∀ r ∈ Role.drawn, ∃ w ∈ words, w.has r) ∧
        ∃ w ∈ words, w.has .preposition ∧ w.text ≠ locative) ∧
    ∀ lx, ofListing listing = .ok lx →
      (∀ r, lx.texts r = (words.filter (·.has r)).map (·.text)) ∧
      lx.plainPrepositions = (lx.texts .preposition).filter (· != locative) ∧
      lx.size = words.length := by
  have hget : (Shelves.ofListing listing).get = shelf words := Shelves.get_ofListing_of_listed h
  refine ⟨?missing, ?locative, ?accepted, ?shelved⟩
  case missing =>
    intro r
    simp only [ofListing_eq_error_iff, hget, refusal?_eq_missingRole_iff, shelf_ne_nil_iff,
      shelf_eq_nil_iff]
  case locative =>
    simp only [ofListing_eq_error_iff, hget, refusal?_eq_locativeOnly_iff, shelf_ne_nil_iff,
      forall_mem_shelf]
  case accepted =>
    simp only [exists_ofListing_eq_ok_iff, hget, refusal?_eq_none_iff, shelf_ne_nil_iff,
      exists_mem_shelf]
  case shelved =>
    intro lx hlx
    refine ⟨?_, lx.plainPrepositions_eq, ?_⟩
    · intro r
      rw [texts, shelves_of_ofListing hlx, hget, shelf]
    · rw [size_of_ofListing hlx, h.length_eq]

theorem ofListing_shelved_reversed :
    let words := small ++ [.ofRoles "kama" [.content, .preverb], .ofRoles "moku" [.content],
      .ofRoles "kijetesantakalu" []]
    let listing := words.map fun w => (w.text, w.roles.toList.reverse)
    List.Forall₂ Word.Listed words listing ∧ ∃ lx, ofListing listing = .ok lx ∧
      lx.texts .content = ["moku", "tomo", "kama", "moku"] ∧ lx.plainPrepositions = ["tan"] ∧
      lx.size = 9 := by
  intro words listing
  have hlisted : List.Forall₂ Word.Listed words listing := by
    rw [List.forall₂_map_right_iff, List.forall₂_same]
    exact fun w _ => ⟨rfl, List.reverse_perm _⟩
  obtain ⟨-, -, haccepted, hshelved⟩ := ofListing_shelved hlisted
  obtain ⟨lx, hlx⟩ := haccepted.2 (by decide)
  obtain ⟨htexts, hplain, hsize⟩ := hshelved lx hlx
  refine ⟨hlisted, lx, hlx, ?_, ?_, hsize⟩
  · rw [htexts]
    decide
  · rw [hplain, htexts]
    decide

end Lexicon

end TokiSentences
