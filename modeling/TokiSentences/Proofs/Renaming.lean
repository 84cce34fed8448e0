import TokiSentences.Proofs.Lexicon

/-!
A stock draws its clauses without a look at its words: a stock of other words, put in place of
these one by one, makes the same draws, and its clauses are the same but for the words.
-/

namespace TokiSentences

@[simp] theorem Choice.map_done (f : α → β) (a : α) : f <$> done a = done (f a) := rfl

def Noun.map (f : α → β) : Noun α → Noun β
  | pronoun w => pronoun (f w)
  | single w => single (f w)
  | compound head tail => compound (f head) (f tail)

def Verb.map (f : α → β) (v : Verb α) : Verb β := ⟨f v.root, v.preverb.map f, v.negation⟩

def Preposition.map (f : α → β) : Preposition α → Preposition β
  | locative => locative
  | plain w => plain (f w)

@[simp] theorem Preposition.isLocative_locative :
    (locative : Preposition α).isLocative = true := rfl

@[simp] theorem Preposition.isLocative_plain (w : α) : (plain w).isLocative = false := rfl

@[simp] theorem Preposition.isLocative_map (f : α → β) (p : Preposition α) :
    (p.map f).isLocative = p.isLocative := by
  cases p <;> rfl

def Clause.map (f : α → β) (c : Clause α) : Clause β where
  subject := c.subject.map f
  verb := c.verb.map f
  object := c.object.map (Noun.map f)
  phrases := c.phrases.map fun p => (p.1.map f, p.2.map f)

namespace Stock

open Choice

def map (f : α → β) (st : Stock α) : Stock β :=
  ⟨st.content.map f, st.preverb.map f, st.plain.map f, st.pronoun.map f⟩

/-- Each word with its place, by which words that are spelled alike are told apart. -/
def numbered (st : Stock α) : Stock (α × Nat) :=
  ⟨st.content.zipIdx, st.preverb.zipIdx, st.plain.zipIdx, st.pronoun.zipIdx⟩

theorem map_fst_numbered (st : Stock α) : st.numbered.map Prod.fst = st := by
  simp [map, numbered]

theorem Full.numbered {st : Stock α} (h : st.Full) : st.numbered.Full := by
  obtain ⟨hcontent, hpreverb, hplain, hpronoun⟩ := h
  constructor <;> simpa [Stock.numbered]

theorem among_map (f : α → β) (items : List α) : among (items.map f) = f <$> among items := by
  cases items with
  | nil => rfl
  | cons a items =>
    simp only [among, List.map_cons, List.isEmpty_cons, List.length_cons, List.length_map,
      map_eq_pure_bind, bind_draw, Bool.false_eq_true, if_false]
    congr 1
    funext i
    rw [← List.map_cons, List.getElem?_map]
    cases (a :: items)[i]? <;> rfl

variable (f : α → β) (st : Stock α)

theorem noun_map : (st.map f).noun = Noun.map f <$> st.noun := by
  simp only [noun, map, among_map, map_bind, bind_map_left]
  congr 1
  funext b
  cases b with
  | true => simp [Noun.map]
  | false =>
    simp only [Bool.false_eq_true, if_false, map_bind]
    congr 1
    funext head
    congr 1
    funext b
    cases b <;> simp [Noun.map]

theorem verb_map : (st.map f).verb = Verb.map f <$> st.verb := by
  simp only [verb, map, among_map, map_bind, bind_map_left]
  congr 1
  funext root
  congr 1
  funext b
  cases b with
  | true =>
    simp only [if_true, map_bind]
    congr 1
    funext preverb
    congr 1
    funext b
    cases b <;> simp [Verb.map]
  | false => simp [Verb.map]

theorem preposition_map (fresh : Bool) :
    (st.map f).preposition fresh = Preposition.map f <$> st.preposition fresh := by
  simp only [preposition, map, among_map, map_bind, bind_map_left]
  congr 1
  funext b
  cases b <;> simp [Preposition.map]

theorem phrases_map (fresh : Bool) (n : Nat) :
    (st.map f).phrases fresh n =
      List.map (fun p => (p.1.map f, p.2.map f)) <$> st.phrases fresh n := by
  induction n generalizing fresh with
  | zero => rfl
  | succ n ih =>
    simp only [phrases, preposition_map, noun_map, ih, map_bind, bind_map_left,
      Preposition.isLocative_map]
    rfl

theorem somePhrases_map :
    (st.map f).somePhrases = List.map (fun p => (p.1.map f, p.2.map f)) <$> st.somePhrases := by
  simp only [somePhrases, phrases_map, map_bind]
  congr 1
  funext b
  cases b <;> simp

theorem clause_map : (st.map f).clause = Clause.map f <$> st.clause := by
  simp only [clause, noun_map, verb_map, somePhrases_map, map_bind, bind_map_left]
  congr 1
  funext subject
  congr 1
  funext verb
  simp only [bind_assoc]
  congr 1
  funext b
  cases b <;> simp [Clause.map]

end Stock

end TokiSentences
