import Mathlib.Data.List.Nodup
import TokiSentences.Grammar

namespace TokiSentences

theorem RoleSet.count_toList (s : RoleSet) (r : Role) :
    s.toList.count r = (s.contains r).toNat := by
  obtain ⟨rs, hrs⟩ := s
  have hnodup : rs.Nodup := by
    rw [← hrs]
    exact (by decide : Role.all.Nodup).filter _
  by_cases h : r ∈ rs
  · simp [contains, h, List.count_eq_one_of_mem hnodup h]
  · simp [contains, h, List.count_eq_zero_of_not_mem h]

namespace Shelves

theorem get_putAll (s : Shelves) (text : String) (roles : List Role) (r : Role) :
    (s.putAll text roles).get r = s.get r ++ List.replicate (roles.count r) text := by
  induction roles generalizing s with
  | nil => simp [putAll]
  | cons q roles ih =>
    have h : (s.putAll text (q :: roles)).get r = ((s.put text q).putAll text roles).get r := rfl
    rw [h, ih, get_put, List.count_cons]
    by_cases hq : q = r
    · subst hq
      simp [List.replicate_succ]
    · simp [hq]

theorem get_ofListing (listing : List (String × List Role)) (r : Role) :
    (ofListing listing).get r =
      listing.flatMap fun p => List.replicate (p.2.count r) p.1 := by
  have h : ∀ (s : Shelves), (listing.foldl (fun s p => s.putAll p.1 p.2) s).get r =
      s.get r ++ listing.flatMap fun p => List.replicate (p.2.count r) p.1 := by
    induction listing with
    | nil => simp
    | cons p listing ih =>
      intro s
      simp [ih, get_putAll]
  simpa [ofListing] using h {}

end Shelves

def Spelled (words : List Word) (r : Role) (text : String) : Prop :=
  ∃ w ∈ words, w.has r ∧ w.text = text

instance : Decidable (Spelled words r text) :=
  inferInstanceAs (Decidable (∃ w ∈ words, w.has r ∧ w.text = text))

def shelf (words : List Word) (r : Role) : List String := (words.filter (·.has r)).map (·.text)

theorem shelf_cons (w : Word) (words : List Word) (r : Role) :
    shelf (w :: words) r = if w.has r then w.text :: shelf words r else shelf words r := by
  cases h : w.has r <;> simp [shelf, h]

@[simp] theorem mem_shelf {words : List Word} {r : Role} {text : String} :
    text ∈ shelf words r ↔ Spelled words r text := by
  simp [shelf, Spelled, and_assoc]

theorem Shelves.get_ofWords (words : List Word) (r : Role) :
    (ofListing (words.map fun w => (w.text, w.roles.toList))).get r = shelf words r := by
  rw [get_ofListing, List.flatMap_map]
  induction words with
  | nil => rfl
  | cons w words ih =>
    rw [List.flatMap_cons, ih, RoleSet.count_toList, shelf_cons, Word.has]
    cases w.roles.contains r <;> rfl

structure Stock.Full (st : Stock α) : Prop where
  content : st.content ≠ []
  preverb : st.preverb ≠ []
  plain : st.plain ≠ []
  pronoun : st.pronoun ≠ []

namespace Lexicon

@[simp] theorem stock_content (lx : Lexicon) : lx.stock.content = lx.texts .content := rfl

@[simp] theorem stock_preverb (lx : Lexicon) : lx.stock.preverb = lx.texts .preverb := rfl

@[simp] theorem stock_plain (lx : Lexicon) : lx.stock.plain = lx.plainPrepositions := rfl

@[simp] theorem stock_pronoun (lx : Lexicon) : lx.stock.pronoun = lx.texts .pronoun := rfl

theorem stock_full (lx : Lexicon) : lx.stock.Full where
  content := lx.drawn_ne_nil .content (by decide)
  preverb := lx.drawn_ne_nil .preverb (by decide)
  plain := lx.plain_ne_nil
  pronoun := lx.drawn_ne_nil .pronoun (by decide)

theorem mem_plainPrepositions {lx : Lexicon} {text : String} :
    text ∈ lx.plainPrepositions ↔ text ∈ lx.texts .preposition ∧ text ≠ locative := by
  rw [lx.plain_eq]
  simp [texts, Shelves.get]

theorem shelves_of_ofListing {listing : List (String × List Role)} {lx : Lexicon}
    (h : ofListing listing = .ok lx) : lx.shelves = Shelves.ofListing listing := by
  simp only [ofListing] at h
  split at h
  · cases h
  · split at h <;> cases h
    rfl

theorem size_of_ofListing {listing : List (String × List Role)} {lx : Lexicon}
    (h : ofListing listing = .ok lx) : lx.size = listing.length := by
  simp only [ofListing] at h
  split at h
  · cases h
  · split at h <;> cases h
    rfl

/-- Why no lexicon is made of these texts for each role. -/
def refusal? (texts : Role → List String) : Option LexiconError :=
  match Role.drawn.find? fun r => (texts r).isEmpty with
  | some r => some (.missingRole r)
  | none =>
    if ((texts .preposition).filter (· != locative)).isEmpty then some .locativeOnly else none

theorem refusal?_of_ofListing_eq_error {listing : List (String × List Role)} {e : LexiconError}
    (h : ofListing listing = .error e) : refusal? (Shelves.ofListing listing).get = some e := by
  simp only [ofListing] at h
  split at h
  next r hr =>
    simp only [refusal?, hr]
    simpa using h
  next hr =>
    simp only [refusal?, hr]
    split at h
    next hplain => simpa [Shelves.get, hplain] using h
    next => cases h

theorem refusal?_of_ofListing_eq_ok {listing : List (String × List Role)} {lx : Lexicon}
    (h : ofListing listing = .ok lx) : refusal? (Shelves.ofListing listing).get = none := by
  obtain ⟨shelves, plain, size, hdrawn, rfl, hplain⟩ := lx
  obtain rfl : shelves = Shelves.ofListing listing := shelves_of_ofListing h
  have hfind : (Role.drawn.find? fun r => ((Shelves.ofListing listing).get r).isEmpty) = none := by
    simpa using hdrawn
  simp only [refusal?, hfind]
  simpa [Shelves.get] using hplain

theorem ofListing_eq_error_iff {listing : List (String × List Role)} {e : LexiconError} :
    ofListing listing = .error e ↔ refusal? (Shelves.ofListing listing).get = some e := by
  refine ⟨refusal?_of_ofListing_eq_error, ?_⟩
  intro h
  cases hlx : ofListing listing with
  | error e' =>
    rw [refusal?_of_ofListing_eq_error hlx] at h
    exact congrArg Except.error (Option.some.inj h)
  | ok lx =>
    rw [refusal?_of_ofListing_eq_ok hlx] at h
    cases h

theorem ofWords_eq_error_iff {words : List Word} {e : LexiconError} :
    ofWords words = .error e ↔ refusal? (shelf words) = some e := by
  have hshelves : (Shelves.ofListing _).get = shelf words := funext (Shelves.get_ofWords words)
  rw [← hshelves, ofWords, ofListing_eq_error_iff]

theorem texts_eq_shelf {words : List Word} {lx : Lexicon} (h : ofWords words = .ok lx) :
    lx.texts = shelf words := by
  funext r
  rw [texts, shelves_of_ofListing h, Shelves.get_ofWords]

theorem plainPrepositions_eq (lx : Lexicon) :
    lx.plainPrepositions = (lx.texts .preposition).filter (· != locative) := lx.plain_eq

theorem mem_texts {words : List Word} {lx : Lexicon} (h : ofWords words = .ok lx) {r : Role}
    {text : String} : text ∈ lx.texts r ↔ Spelled words r text := by
  rw [texts_eq_shelf h, mem_shelf]

end Lexicon

end TokiSentences
