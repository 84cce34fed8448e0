import TokiSentences.Lexicon.Samples
import TokiSentences.Proofs.AnyAnswers
import TokiSentences.Proofs.Spaces
import TokiSentences.Source.Script

namespace TokiSentences

namespace Sentence

/-- The components with their markers: one behind a subject that does not go without, one before an
object. -/
def marked (components : List String) (hasObject : Bool) : List String :=
  let opened := if hasObject then components.insertIdx 2 "e" else components
  if components.head? ∈ [some "mi", some "sina"] then opened else opened.insertIdx 1 "li"

def pushed (text phrase : String) : String := text ++ " " ++ phrase

/-- Puts a text together from one component after the other. There has to be a subject and a verb,
and the object where one is expected. -/
def joined? (components : List String) (object : Option String) : Option String :=
  match components with
  | subject :: verb :: rest =>
    let opened := subject ++ (if subject = "mi" ∨ subject = "sina" then " " else " li ") ++ verb
    match object, rest with
    | none, phrases => some (phrases.foldl pushed opened)
    | some o, next :: phrases =>
      if next = o then some (phrases.foldl pushed (opened ++ " e " ++ o)) else none
    | some _, [] => none
  | _ => none

theorem foldl_pushed (text : String) (phrases : List String) :
    phrases.foldl pushed text = text ++ String.join (phrases.map (" " ++ ·)) := by
  induction phrases generalizing text with
  | nil => simp
  | cons phrase phrases ih =>
    rw [List.foldl_cons, ih]
    simp [pushed, String.append_assoc]

theorem predicate_eq_append (subject verb : String) : predicate subject verb =
    subject ++ (if subject = "mi" ∨ subject = "sina" then " " else " li ") ++ verb := by
  simp only [predicate, unmarkedSubjects, predicateMarker, List.mem_cons, List.not_mem_nil,
    or_false]
  split <;> simp [String.append_assoc]

variable (subject verb : String) (object : Option String) (phrases : List String)

theorem joined?_ofParts : let s := ofParts subject verb object phrases
    joined? s.components s.object = some s.text := by
  simp only [ofParts, predicate_eq_append]
  cases object <;> simp [joined?, foldl_pushed, objectText, objectMarker, String.append_assoc]

theorem marked_ofParts : let s := ofParts subject verb object phrases
    marked s.components s.hasObject =
      subject :: ((if subject ∈ unmarkedSubjects then [] else [predicateMarker]) ++
        verb :: (object.toList.flatMap ([objectMarker, ·]) ++ phrases)) := by
  simp only [ofParts, marked, hasObject]
  cases object <;> by_cases h : subject ∈ unmarkedSubjects <;>
    simp_all [unmarkedSubjects, predicateMarker, objectMarker]

theorem intercalate_space_cons (t : String) (ts : List String) :
    " ".intercalate (t :: ts) = t ++ String.join (ts.map (" " ++ ·)) := by
  have hblocks : ∀ b ∈ ts.map ([·]), b ≠ [] := by simp
  have hjoin := Text.intercalate_append_flatten (List.cons_ne_nil t []) hblocks
  rw [← List.flatMap_def, List.flatMap_singleton'] at hjoin
  simpa [Function.comp_def] using hjoin

theorem text_ofParts_eq_intercalate : let s := ofParts subject verb object phrases
    s.text = " ".intercalate (marked s.components s.hasObject) := by
  intro s
  have hmarked : marked s.components s.hasObject = _ := marked_ofParts subject verb object phrases
  rw [hmarked, intercalate_space_cons]
  simp only [s, ofParts, predicate]
  cases object <;> split <;> simp [objectText, String.append_assoc]

end Sentence

namespace Parts

def sentence (p : Parts) : Sentence := .ofParts p.subject p.verb p.object p.prepositions

def ofComponents? : List String → Bool → Option Parts
  | subject :: verb :: object :: prepositions, true =>
    some ⟨subject, verb, some object, prepositions⟩
  | subject :: verb :: prepositions, false => some ⟨subject, verb, none, prepositions⟩
  | _, _ => none

theorem ofComponents?_eq_some_iff {components : List String} {hasObject : Bool} {p : Parts} :
    ofComponents? components hasObject = some p ↔
      p.sentence.components = components ∧ p.sentence.hasObject = hasObject := by
  constructor
  · intro h
    unfold ofComponents? at h
    split at h <;> cases h <;> exact ⟨rfl, rfl⟩
  · rintro ⟨rfl, rfl⟩
    obtain ⟨subject, verb, object, prepositions⟩ := p
    cases object <;> cases prepositions <;> rfl

theorem components_inj {p q : Parts} : p.sentence.components = q.sentence.components ∧
    p.sentence.hasObject = q.sentence.hasObject ↔ p = q := by
  have hq : ofComponents? q.sentence.components q.sentence.hasObject = some q :=
    ofComponents?_eq_some_iff.2 ⟨rfl, rfl⟩
  rw [← ofComponents?_eq_some_iff, hq, Option.some.injEq, eq_comm]

end Parts

theorem Lexicon.ofParts_of_sentenceFrom [Source σ] {lx : Lexicon} {s : σ} {x : Sentence}
    (h : lx.sentenceFrom s = .ok x) :
    Sentence.ofParts x.subject x.verb x.object x.prepositionalPhrases = x := by
  obtain ⟨c, -, rfl⟩ := sentenceFrom_eq_ok_iff.1 h
  rfl

namespace Sentence

/-- The components of a sentence are its parts in order, and with whether there is an object they
tell everything of it: its text, however that is put together, and which parts it is made of, so
that no other parts have the same components. Sentences of a lexicon are put together no other
way. -/
theorem components_tell_sentence (subject verb : String) (object : Option String)
    (phrases : List String) :
    let s := ofParts subject verb object phrases
    s.components = [subject, verb] ++ object.toList ++ phrases ∧
    s.text = " ".intercalate (marked s.components s.hasObject) ∧
    joined? s.components s.object = some s.text ∧
    ofParts s.subject s.verb s.object s.prepositionalPhrases = s ∧
    Parts.ofComponents? s.components s.hasObject = some ⟨subject, verb, object, phrases⟩ ∧
    (∀ subject' verb' object' phrases',
      let s' := ofParts subject' verb' object' phrases'
      s'.components = s.components ∧ s'.hasObject = s.hasObject ↔
        subject' = subject ∧ verb' = verb ∧ object' = object ∧ phrases' = phrases) ∧
    ∀ (σ : Type) [Source σ] (lx : Lexicon) (source : σ) x, lx.sentenceFrom source = .ok x →
      ofParts x.subject x.verb x.object x.prepositionalPhrases = x := by
  intro s
  refine ⟨rfl, text_ofParts_eq_intercalate .., joined?_ofParts .., rfl,
    Parts.ofComponents?_eq_some_iff.2 ⟨rfl, rfl⟩, ?_,
    fun _ _ _ _ _ => Lexicon.ofParts_of_sentenceFrom⟩
  intro subject' verb' object' phrases' s'
  let p : Parts := ⟨subject, verb, object, phrases⟩
  let p' : Parts := ⟨subject', verb', object', phrases'⟩
  calc
    s'.components = s.components ∧ s'.hasObject = s.hasObject ↔ p' = p :=
      @Parts.components_inj p' p
    _ ↔ subject' = subject ∧ verb' = verb ∧ object' = object ∧ phrases' = phrases := by
      simp only [p, p', Parts.mk.injEq]

theorem components_tell_sentence_two_readings :
    let s := ofParts "Mi" "moku e kili" none ["lon tomo"]
    let s' := ofParts "Mi" "moku e kili" (some "lon tomo") []
    s.components = s'.components ∧ s.text = "Mi li moku e kili lon tomo" ∧
    s'.text = "Mi li moku e kili e lon tomo" ∧
    ¬ (s'.components = s.components ∧ s'.hasObject = s.hasObject) ∧
    ∃ lx x, Lexicon.ofWords Lexicon.small = .ok lx ∧
      lx.sentenceFrom ({ values := [2, 1, 1, 0, 2, 3, 2, 2] } : Script) = .ok x ∧
      ofParts x.subject x.verb x.object x.prepositionalPhrases = x := by
  intro s s'
  obtain ⟨-, -, -, -, -, hinj, hmade⟩ :=
    components_tell_sentence "Mi" "moku e kili" none ["lon tomo"]
  refine ⟨rfl, by decide +kernel, by decide +kernel, ?_, ?_⟩
  · intro hsame
    have hobject := ((hinj "Mi" "moku e kili" (some "lon tomo") []).1 hsame).2.2.1
    cases hobject
  · obtain ⟨lx, hlx, x, hx⟩ : ∃ lx, Lexicon.ofWords Lexicon.small = .ok lx ∧ ∃ x,
        lx.sentenceFrom ({ values := [2, 1, 1, 0, 2, 3, 2, 2] } : Script) = .ok x :=
      ⟨_, rfl, _, rfl⟩
    exact ⟨lx, x, hlx, hx, hmade Script lx _ x hx⟩

end Sentence

end TokiSentences
