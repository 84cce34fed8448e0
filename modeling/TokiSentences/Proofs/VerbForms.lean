import TokiSentences.Proofs.Places

namespace TokiSentences

structure VerbForm where
  text : String
  preverb : Option String
  negation : Negation
  deriving DecidableEq, Repr

def Verb.form (v : Verb String) : VerbForm := ⟨v.text, v.modal, v.negation⟩

inductive VerbForm.Of (words : List Word) : VerbForm → Prop
  | bare : Spelled words .content r → Of words ⟨r, none, .none⟩
  | bareNegated : Spelled words .content r →
      Of words ⟨r ++ " " ++ negationParticle, none, .trailing⟩
  | led : Spelled words .preverb p → Spelled words .content r →
      Of words ⟨p ++ " " ++ r, some p, .none⟩
  | ledNegated : Spelled words .preverb p → Spelled words .content r →
      Of words ⟨p ++ " " ++ r ++ " " ++ negationParticle, some p, .trailing⟩
  | preverbNegated : Spelled words .preverb p → Spelled words .content r →
      Of words ⟨p ++ " " ++ negationParticle ++ " " ++ r, some (p ++ " " ++ negationParticle),
        .preverb⟩

namespace Verb

theorem text_eq_pieces (v : Verb String) :
    v.text = " ".intercalate (v.pieces.map (Sum.elim id id)) := by
  have hmap : v.map id = v := by simp [map]
  rw [← tokens_map, hmap, text_eq]

theorem From.filter_pieces {st : Stock α} {v : Verb α} (hv : v.From st) :
    v.pieces.filter Sum.isRight = if v.negation = .none then [] else [.inr negationParticle] := by
  obtain ⟨root, preverb, negation⟩ := v
  have hnegated := hv.negated
  cases preverb <;> cases negation <;> simp_all [pieces, List.filter_cons]

end Verb

section

variable {words : List Word} {lx : Lexicon} (h : Lexicon.ofWords words = .ok lx)

include h

theorem VerbForm.of_iff {f : VerbForm} :
    f.Of words ↔ ∃ v : Verb String, v.From lx.stock ∧ v.form = f := by
  have hspelled {r : Role} {t : String} : Spelled words r t ↔ t ∈ lx.texts r :=
    (Lexicon.mem_texts h).symm
  constructor
  · intro hf
    cases hf with
    | bare hr => exact ⟨⟨_, none, .none⟩, Verb.from_bare (hspelled.1 hr) (by simp), rfl⟩
    | bareNegated hr => exact ⟨⟨_, none, .trailing⟩, Verb.from_bare (hspelled.1 hr) (by simp), rfl⟩
    | led hp hr => exact ⟨_, Verb.from_modal (hspelled.1 hp) (hspelled.1 hr) .none, rfl⟩
    | ledNegated hp hr => exact ⟨_, Verb.from_modal (hspelled.1 hp) (hspelled.1 hr) .trailing, rfl⟩
    | preverbNegated hp hr =>
      exact ⟨_, Verb.from_modal (hspelled.1 hp) (hspelled.1 hr) .preverb, rfl⟩
  · rintro ⟨⟨root, preverb, negation⟩, hv, rfl⟩
    have hroot : Spelled words .content root := hspelled.2 hv.root
    cases preverb with
    | none =>
      cases negation with
      | none => exact .bare hroot
      | preverb => exact absurd (hv.negated rfl) (by simp)
      | trailing => exact .bareNegated hroot
    | some p =>
      have hp : Spelled words .preverb p := hspelled.2 (hv.preverb p rfl)
      cases negation with
      | none => exact .led hp hroot
      | preverb => exact .preverbNegated hp hroot
      | trailing => exact .ledNegated hp hroot

/-- The verbs that sources in range make have just the forms there are over the words of the list,
and a script will do for each of these. In a verb the negation is put in once where it has a place,
and not at all where it has none, however the words are spelled; only a preverb has it negated. -/
theorem verb_form_iff (f : VerbForm) :
    ((∃ (σ : Type) (_ : Source σ) (s : σ) (v : Verb String), Source.InRange σ ∧
      (lx.verb.run s).1 = .ok v ∧ v.form = f) ↔ f.Of words) ∧
    (f.Of words → ∃ (values : List Nat) (v : Verb String),
      (lx.verb.run ({ values } : Script)).1 = .ok v ∧ v.form = f) ∧
    ∀ (σ : Type) [Source σ] (s : σ) (v : Verb String), (lx.verb.run s).1 = .ok v →
      v.text = " ".intercalate (v.pieces.map (Sum.elim id id)) ∧
      v.pieces.filter Sum.isRight =
        (if v.negation = .none then [] else [.inr negationParticle]) ∧
      (v.negation = .preverb → v.modal.isSome) := by
  have hscript : f.Of words → ∃ (values : List Nat) (v : Verb String),
      (lx.verb.run ({ values } : Script)).1 = .ok v ∧ v.form = f := by
    intro hf
    obtain ⟨v, hv, rfl⟩ := (VerbForm.of_iff h).1 hf
    obtain ⟨values, hrun⟩ := Choice.exists_script_of_mem_support (Stock.mem_support_verb.2 hv)
    exact ⟨values, v, hrun, rfl⟩
  refine ⟨⟨?sound, ?complete⟩, hscript, ?marker⟩
  case sound =>
    rintro ⟨σ, _, s, v, -, hrun, rfl⟩
    exact (VerbForm.of_iff h).2 ⟨v, lx.stock.every_verb.of_run hrun, rfl⟩
  case complete =>
    intro hf
    obtain ⟨values, v, hrun, hv⟩ := hscript hf
    exact ⟨Script, inferInstance, { values }, v, Script.inRange, hrun, hv⟩
  case marker =>
    intro σ _ s v hrun
    have hv : v.From lx.stock := lx.stock.every_verb.of_run hrun
    refine ⟨v.text_eq_pieces, hv.filter_pieces, ?_⟩
    intro hnegation
    simpa [Verb.modal] using hv.negated hnegation

end

theorem verb_form_iff_negation_word :
    let words := Lexicon.small ++ [.ofRoles negationParticle [.content, .preverb]]
    ∃ lx, Lexicon.ofWords words = .ok lx ∧
      ∃ (values values' : List Nat) (v v' : Verb String),
        (lx.verb.run ({ values } : Script)).1 = .ok v ∧
        (lx.verb.run ({ values := values' } : Script)).1 = .ok v' ∧
        v.form = ⟨"ala ala ala", some "ala", .trailing⟩ ∧
        v'.form = ⟨"ala ala ala", some "ala ala", .preverb⟩ := by
  intro words
  refine ⟨_, rfl, ?_⟩
  have hcontent : Spelled words .content "ala" := by decide
  have hpreverb : Spelled words .preverb "ala" := by decide
  obtain ⟨values, v, hrun, hv⟩ := (verb_form_iff rfl _).2.1 (.ledNegated hpreverb hcontent)
  obtain ⟨values', v', hrun', hv'⟩ := (verb_form_iff rfl _).2.1 (.preverbNegated hpreverb hcontent)
  exact ⟨values, values', v, v', hrun, hrun', by rw [hv]; decide, by rw [hv']; decide⟩

end TokiSentences
