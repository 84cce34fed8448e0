import Mathlib.Data.List.Forall2
import TokiSentences.Lexicon.Samples
import TokiSentences.Proofs.Renaming
import TokiSentences.Proofs.Spaces
import TokiSentences.Source.Script

/-!
Sentences drawn by place. A word of a lexicon is told by the role it is listed for and how far down
that list it stands; what is drawn hangs on the places alone, and the words at them are put in
afterwards. So lists that are alike in their roles and in where the locative is spelled make
the same draws, and their sentences differ by the words at the places drawn.
-/

namespace TokiSentences

structure Place where
  role : Role
  index : Nat
  deriving DecidableEq, Repr

namespace Lexicon

def placesOf (lx : Lexicon) (r : Role) : List Place :=
  (List.range (lx.texts r).length).map fun i => ⟨r, i⟩

def wordAt (lx : Lexicon) (p : Place) : String := (lx.texts p.role).getD p.index ""

def places (lx : Lexicon) : Stock Place where
  content := lx.placesOf .content
  preverb := lx.placesOf .preverb
  plain := (lx.placesOf .preposition).filter fun p => lx.wordAt p != locative
  pronoun := lx.placesOf .pronoun

@[simp] theorem map_wordAt_placesOf (lx : Lexicon) (r : Role) :
    (lx.placesOf r).map lx.wordAt = lx.texts r := by
  apply List.ext_getElem
  · simp [placesOf]
  · intro i hi hi'
    simp [placesOf, wordAt, hi']

theorem map_wordAt_places (lx : Lexicon) : lx.places.map lx.wordAt = lx.stock := by
  have hplain : ((lx.placesOf .preposition).filter fun p => lx.wordAt p != locative).map lx.wordAt =
      lx.plainPrepositions := by
    rw [plainPrepositions_eq, ← map_wordAt_placesOf, List.filter_map]
    rfl
  simp only [Stock.map, places, map_wordAt_placesOf, hplain]
  rfl

theorem clause_eq_map_places (lx : Lexicon) :
    lx.stock.clause = Clause.map lx.wordAt <$> lx.places.clause := by
  rw [← Stock.clause_map, map_wordAt_places]

end Lexicon

/-- Words with the same roles, which may be spelled differently unless as the locative. -/
structure Word.Alike (w w' : Word) : Prop where
  roles : w.roles = w'.roles
  locative : w.text = locative ↔ w'.text = locative

instance : Decidable (Word.Alike w w') :=
  decidable_of_iff (w.roles = w'.roles ∧ (w.text = locative ↔ w'.text = locative))
    ⟨fun h => ⟨h.1, h.2⟩, fun h => ⟨h.roles, h.locative⟩⟩

theorem forall₂_shelf {words words' : List Word} (h : List.Forall₂ Word.Alike words words')
    (r : Role) : List.Forall₂ (fun t t' => t = locative ↔ t' = locative) (shelf words r)
      (shelf words' r) := by
  induction h with
  | nil => exact .nil
  | @cons w w' words words' hw _ ih =>
    have hhas : w.has r = w'.has r := congrArg (·.contains r) hw.roles
    rw [shelf_cons, shelf_cons, hhas]
    split
    · exact .cons hw.locative ih
    · exact ih

namespace Lexicon

section

variable {words words' : List Word} (halike : List.Forall₂ Word.Alike words words')
  {lx lx' : Lexicon} (h : ofWords words = .ok lx) (h' : ofWords words' = .ok lx')

include halike h h'

theorem placesOf_of_alike (r : Role) : lx.placesOf r = lx'.placesOf r := by
  have hshelf := forall₂_shelf halike r
  rw [← texts_eq_shelf h, ← texts_eq_shelf h'] at hshelf
  rw [placesOf, placesOf, hshelf.length_eq]

theorem wordAt_eq_locative_iff {p : Place} (hp : p ∈ lx.placesOf r) :
    lx.wordAt p = locative ↔ lx'.wordAt p = locative := by
  obtain ⟨i, hi, rfl⟩ := List.mem_map.1 hp
  have hshelf := forall₂_shelf halike r
  rw [← texts_eq_shelf h, ← texts_eq_shelf h'] at hshelf
  have hi : i < (lx.texts r).length := List.mem_range.1 hi
  have hi' : i < (lx'.texts r).length := hshelf.length_eq ▸ hi
  simpa [wordAt, hi, hi'] using hshelf.get hi hi'

theorem places_of_alike : lx.places = lx'.places := by
  have hplain : ((lx.placesOf .preposition).filter fun p => lx.wordAt p != locative) =
      (lx.placesOf .preposition).filter fun p => lx'.wordAt p != locative := by
    apply List.filter_congr
    intro p hp
    have hlocative := wordAt_eq_locative_iff halike h h' hp
    rw [Bool.eq_iff_iff]
    simp [hlocative]
  rw [places, hplain]
  simp only [places, placesOf_of_alike halike h h']

end

end Lexicon

def Noun.marker (n : Noun String) : List String :=
  if n.text ∈ unmarkedSubjects then [] else [predicateMarker]

/-- The words of a verb, and between them what is written as it is. -/
def Verb.pieces (v : Verb α) : List (α ⊕ String) :=
  v.preverb.elim []
      (fun p => .inl p :: if v.negation = .preverb then [.inr negationParticle] else []) ++
    .inl v.root :: if v.negation = .trailing then [.inr negationParticle] else []

def Preposition.piece : Preposition α → α ⊕ String
  | locative => .inr TokiSentences.locative
  | plain w => .inl w

namespace Clause

def pieces (c : Clause α) (marker : List String) : List (α ⊕ String) :=
  c.subject.words.map .inl ++ marker.map .inr ++ c.verb.pieces ++
    (c.object.toList.flatMap fun o => .inr objectMarker :: o.words.map .inl) ++
      c.phrases.flatMap fun q => q.1.piece :: q.2.words.map .inl

structure SameShape (c d : Clause α) : Prop where
  negation : c.verb.negation = d.verb.negation
  preverb : c.verb.preverb.isSome = d.verb.preverb.isSome
  object : c.object.isSome = d.object.isSome
  phrases : c.phrases.length = d.phrases.length
  locatives : c.phrases.map (·.1.isLocative) = d.phrases.map (·.1.isLocative)

theorem sameShape_map (c : Clause α) (f g : α → β) : (c.map f).SameShape (c.map g) where
  negation := rfl
  preverb := by simp [map, Verb.map]
  object := by simp [map]
  phrases := by simp [map]
  locatives := by simp [map, Function.comp_def]

end Clause

theorem Noun.words_map (f : α → β) (n : Noun α) : (n.map f).words = n.words.map f := by
  cases n <;> rfl

theorem Verb.tokens_map (f : α → String) (v : Verb α) :
    (v.map f).tokens = v.pieces.map (Sum.elim f id) := by
  obtain ⟨root, preverb, negation⟩ := v
  cases preverb <;> cases negation <;> rfl

theorem Preposition.text_map (f : α → String) (p : Preposition α) :
    (p.map f).text = Sum.elim f id p.piece := by
  cases p <;> rfl

theorem Clause.text_map (f : α → String) (c : Clause α) :
    (c.map f).sentence.text =
      " ".intercalate ((c.pieces (c.map f).subject.marker).map (Sum.elim f id)) := by
  rw [text_eq]
  congr 1
  obtain ⟨subject, verb, object, phrases⟩ := c
  cases object <;>
    simp [tokens, rest, additions, objectBlock, phraseBlocks, pieces, map, Noun.marker,
      Noun.words_map, Verb.tokens_map, Preposition.text_map, List.flatMap_def, Function.comp_def,
      List.map_flatten]

theorem Choice.asked_map [Source σ] (f : α → β) (c : Choice α) (s : σ) :
    (f <$> c).asked s = c.asked s := by
  induction c generalizing s with
  | done a => rfl
  | stop e => rfl
  | draw n next ih =>
    simp only [map_eq_pure_bind] at ih ⊢
    simp only [bind_draw, asked]
    split
    · rw [ih]
    · rfl

namespace Lexicon

/-- Lists that are alike word by word make the same draws from any source and leave it in the same
state; they draw the same places of their role lists, and their clauses and texts differ by the
words that stand there, and by the predicate marker where one subject takes it and the other does
not. -/
theorem sentence_of_alike {words words' : List Word}
    (halike : List.Forall₂ Word.Alike words words') {lx lx' : Lexicon}
    (h : ofWords words = .ok lx) (h' : ofWords words' = .ok lx') [Source σ] (s : σ) :
    lx'.places = lx.places ∧
    lx.stock.clause = Clause.map lx.wordAt <$> lx.places.clause ∧
    lx'.stock.clause = Clause.map lx'.wordAt <$> lx.places.clause ∧
    lx'.sentence.asked s = lx.sentence.asked s ∧
    (lx'.sentence.run s).2 = (lx.sentence.run s).2 ∧
    ((∃ e, lx.sentenceFrom s = .error e ∧ lx'.sentenceFrom s = .error e) ∨
      ∃ c : Clause Place, (lx.places.clause.run s).1 = .ok c ∧ c.WordsFrom lx.places ∧
        let d := c.map lx.wordAt
        let d' := c.map lx'.wordAt
        (lx.stock.clause.run s).1 = .ok d ∧ (lx'.stock.clause.run s).1 = .ok d' ∧
        lx.sentenceFrom s = .ok d.sentence ∧ lx'.sentenceFrom s = .ok d'.sentence ∧
        d.SameShape d' ∧
        d.sentence.text =
          " ".intercalate ((c.pieces d.subject.marker).map (Sum.elim lx.wordAt id)) ∧
        d'.sentence.text =
          " ".intercalate ((c.pieces d'.subject.marker).map (Sum.elim lx'.wordAt id))) := by
  have hplaces : lx'.places = lx.places := (places_of_alike halike h h').symm
  have hclause : lx.stock.clause = Clause.map lx.wordAt <$> lx.places.clause :=
    lx.clause_eq_map_places
  have hclause' : lx'.stock.clause = Clause.map lx'.wordAt <$> lx.places.clause := by
    rw [← hplaces]
    exact lx'.clause_eq_map_places
  refine ⟨hplaces, hclause, hclause', ?_, ?_, ?_⟩
  · simp only [sentence, hclause, hclause', Choice.asked_map]
  · simp only [sentence, hclause, hclause', Choice.run_map]
  · simp only [sentenceFrom, sentence, hclause, hclause', Choice.run_map]
    cases hrun : (lx.places.clause.run s).1 with
    | error e => exact .inl ⟨e, rfl, rfl⟩
    | ok c =>
      have hc : c.WordsFrom lx.places := lx.places.every_clause.of_run hrun
      exact .inr ⟨c, rfl, hc, rfl, rfl, rfl, rfl, c.sameShape_map _ _, c.text_map _, c.text_map _⟩

theorem sentence_of_alike_misleading_words :
    let words' := wordsOf .content ["ala", "li"] ++ wordsOf .pronoun ["ona"] ++
      wordsOf .preverb ["e"] ++ wordsOf .preposition ["lon", "mi"]
    let s : Script := { values := [0, 0, 1, 0, 0, 3, 0, 0, 0, 0, 0, 1, 0, 0, 0, 0, 2, 1, 1] }
    List.Forall₂ Word.Alike small words' ∧ ∃ lx lx', ofWords small = .ok lx ∧
      ofWords words' = .ok lx' ∧ lx'.sentence.asked s = lx.sentence.asked s ∧
      ∃ x x', lx.sentenceFrom s = .ok x ∧ lx'.sentenceFrom s = .ok x' ∧
        x.text = "mi ken tomo ala e mi lon mi tan tomo" ∧
        x'.text = "ona li e li ala e ona lon ona mi li" := by
  intro words' s
  have halike : List.Forall₂ Word.Alike small words' := by decide
  obtain ⟨lx, lx', h, h', hx, hx'⟩ : ∃ lx lx', ofWords small = .ok lx ∧ ofWords words' = .ok lx' ∧
      (∃ x, lx.sentenceFrom s = .ok x ∧ x.text = "mi ken tomo ala e mi lon mi tan tomo") ∧
      ∃ x, lx'.sentenceFrom s = .ok x ∧ x.text = "ona li e li ala e ona lon ona mi li" :=
    ⟨_, _, rfl, rfl, ⟨_, rfl, by decide⟩, ⟨_, rfl, by decide⟩⟩
  obtain ⟨x, hx, htext⟩ := hx
  obtain ⟨x', hx', htext'⟩ := hx'
  exact ⟨halike, lx, lx', h, h', (sentence_of_alike halike h h' s).2.2.2.1, x, x', hx, hx', htext,
    htext'⟩

end Lexicon

end TokiSentences
