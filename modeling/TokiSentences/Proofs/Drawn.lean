import TokiSentences.Proofs.Callers

namespace TokiSentences

/-- The same texts, in the same order, for each role that is drawn from. -/
def SameDrawn (words words' : List Word) : Prop :=
  ∀ r ∈ Role.drawn, shelf words r = shelf words' r

instance : Decidable (SameDrawn words words') :=
  inferInstanceAs (Decidable (∀ r ∈ Role.drawn, shelf words r = shelf words' r))

namespace Lexicon

theorem refusal?_congr {texts texts' : Role → List String}
    (h : ∀ r ∈ Role.drawn, texts r = texts' r) : refusal? texts = refusal? texts' := by
  simp only [Role.drawn, List.forall_mem_cons] at h
  obtain ⟨hcontent, hpreverb, hpreposition, hpronoun, -⟩ := h
  simp only [refusal?, Role.drawn, List.find?_cons, List.find?_nil, hcontent, hpreverb,
    hpreposition, hpronoun]

theorem stock_congr {lx lx' : Lexicon} (h : ∀ r ∈ Role.drawn, lx.texts r = lx'.texts r) :
    lx.stock = lx'.stock := by
  simp only [Role.drawn, List.forall_mem_cons] at h
  obtain ⟨hcontent, hpreverb, hpreposition, hpronoun, -⟩ := h
  simp only [stock, plainPrepositions_eq, hcontent, hpreverb, hpreposition, hpronoun]

end Lexicon

section

variable [Source σ] {lx lx' : Lexicon} (h : lx.stock = lx'.stock)

include h

theorem Lexicon.sentenceFrom_congr (s : σ) : lx.sentenceFrom s = lx'.sentenceFrom s := by
  rw [sentenceFrom, sentenceFrom, sentence, sentence, h]

theorem Pool.step_congr : (step lx : Pool σ → Turn → Pool σ) = step lx' := by
  funext p t
  cases t with
  | owner => rfl
  | worker i => simp only [step, stepWorker, Lexicon.sentenceFrom_congr h]

theorem Pool.finish_congr (p : Pool σ) (turns : List Turn) :
    p.finish lx turns = p.finish lx' turns := by
  simp only [finish, advance, remaining, step_congr h]

theorem Task.finish_congr : (Task.finish lx : List Pool.Turn → Task σ → _) = Task.finish lx' := by
  funext turns task
  cases task with
  | single s => simp only [finish, Lexicon.sentenceFrom_congr h]
  | batch p => simp only [finish, Pool.finish_congr h]

theorem Caller.proceed_congr (k : Caller σ) (task : Task σ) (t : Pool.Turn) :
    k.proceed lx task t = k.proceed lx' task t := by
  cases task with
  | single s => cases t <;> simp only [proceed, Lexicon.sentenceFrom_congr h]
  | batch p => simp only [proceed, Pool.step_congr h]

end

namespace Generator

def withLexicon (g : Generator σ) (lx : Lexicon) : Generator σ := { g with lexicon := lx }

@[simp] theorem lexicon_withLexicon (g : Generator σ) (lx : Lexicon) :
    (g.withLexicon lx).lexicon = lx := rfl

variable [Source σ]

theorem lexicon_of_reserve {g g' : Generator σ} {r : Request} {result : Except Stop (Task σ)}
    (h : g.reserve r = (result, g')) : g'.lexicon = g.lexicon := by
  rw [← lexicon_reserve g r, h]

theorem reserve_withLexicon (g : Generator σ) (lx : Lexicon) (r : Request) :
    (g.withLexicon lx).reserve r = ((g.reserve r).1, (g.reserve r).2.withLexicon lx) := by
  cases r <;> rfl

section

variable {g : Generator σ} {lx : Lexicon} (h : g.lexicon.stock = lx.stock)

include h

theorem answer_withLexicon (r : Request) (turns : List Pool.Turn) :
    (g.withLexicon lx).answer r turns =
      ((g.answer r turns).1, (g.answer r turns).2.withLexicon lx) := by
  simp only [answer_eq, reserve_withLexicon, Task.finish_congr h]
  rfl

theorem perform_withLexicon (op : Operation) (turns : List Pool.Turn) :
    ((g.withLexicon lx).perform turns op).2 = (g.perform turns op).2.withLexicon lx := by
  cases op with
  | request r => simp only [perform, answer_withLexicon h]
  | query q => rfl

end

theorem performAll_withLexicon {g : Generator σ} {lx : Lexicon} (h : g.lexicon.stock = lx.stock)
    (ops : List (Operation × List Pool.Turn)) :
    (g.withLexicon lx).performAll ops = (g.performAll ops).withLexicon lx := by
  induction ops generalizing g with
  | nil => rfl
  | cons op ops ih =>
    have hop : (g.perform op.2 op.1).2.lexicon.stock = lx.stock := by rw [lexicon_perform, h]
    calc
      (g.withLexicon lx).performAll (op :: ops) =
          ((g.perform op.2 op.1).2.withLexicon lx).performAll ops := by
        rw [← perform_withLexicon h]
        rfl
      _ = ((g.perform op.2 op.1).2.performAll ops).withLexicon lx := ih hop

end Generator

namespace Callers

def withLexicon (c : Callers σ) (lx : Lexicon) : Callers σ :=
  { c with generator := c.generator.withLexicon lx }

@[simp] theorem generator_withLexicon (c : Callers σ) (lx : Lexicon) :
    (c.withLexicon lx).generator = c.generator.withLexicon lx := rfl

@[simp] theorem callers_withLexicon (c : Callers σ) (lx : Lexicon) :
    (c.withLexicon lx).callers = c.callers := rfl

variable [Source σ]

theorem step_withLexicon {c : Callers σ} {lx : Lexicon} (h : c.generator.lexicon.stock = lx.stock)
    (t : Turn) : (c.withLexicon lx).step t = (c.step t).withLexicon lx := by
  obtain ⟨caller, pool⟩ := t
  simp only [step, callers_withLexicon, generator_withLexicon]
  cases c.callers[caller]? with
  | none => rfl
  | some k =>
    obtain ⟨queue, task, answers⟩ := k
    cases task with
    | some task =>
      simp only [Generator.lexicon_withLexicon, ← Caller.proceed_congr h]
      rfl
    | none =>
      cases queue with
      | nil => rfl
      | cons request queue =>
        cases pool with
        | worker i => rfl
        | owner =>
          simp only [Generator.reserve_withLexicon]
          cases c.generator.reserve request with
          | mk result g => cases result <;> rfl

theorem lexicon_step (c : Callers σ) (t : Turn) :
    (c.step t).generator.lexicon = c.generator.lexicon := by
  have hmove := c.move_step t
  generalize c.step t = c' at hmove ⊢
  cases hmove with
  | stay => rfl
  | proceed => rfl
  | reserve _ _ _ hr => exact Generator.lexicon_of_reserve hr
  | refuse _ _ _ hr => exact Generator.lexicon_of_reserve hr

theorem lexicon_advance (c : Callers σ) (turns : List Turn) :
    (c.advance turns).generator.lexicon = c.generator.lexicon := by
  induction turns generalizing c with
  | nil => rfl
  | cons t turns ih => exact (ih (c.step t)).trans (lexicon_step c t)

theorem advance_withLexicon {c : Callers σ} {lx : Lexicon}
    (h : c.generator.lexicon.stock = lx.stock) (turns : List Turn) :
    (c.withLexicon lx).advance turns = (c.advance turns).withLexicon lx := by
  induction turns generalizing c with
  | nil => rfl
  | cons t turns ih =>
    calc
      (c.withLexicon lx).advance (t :: turns) = ((c.step t).withLexicon lx).advance turns := by
        rw [← step_withLexicon h]
        rfl
      _ = ((c.step t).advance turns).withLexicon lx := ih (by rw [lexicon_step, h])

theorem remaining_withLexicon {c : Callers σ} {lx : Lexicon}
    (h : c.generator.lexicon.stock = lx.stock) : (c.withLexicon lx).remaining = c.remaining := by
  have hturns (n : Nat) : turnsFor step next? n (c.withLexicon lx) = turnsFor step next? n c := by
    induction n generalizing c with
    | zero => rfl
    | succ n ih =>
      have hnext : (c.withLexicon lx).next? = c.next? := rfl
      simp only [turnsFor, hnext]
      cases c.next? with
      | none => rfl
      | some t => simp only [step_withLexicon h, ih (c := c.step t) (by rw [lexicon_step, h])]
  exact hturns c.work

theorem serve_withLexicon {c : Callers σ} {lx : Lexicon} (h : c.generator.lexicon.stock = lx.stock)
    (turns : List Turn) : (c.withLexicon lx).serve turns = (c.serve turns).withLexicon lx := by
  have hadvance : (c.advance turns).generator.lexicon.stock = lx.stock := by
    rw [lexicon_advance, h]
  simp only [serve, advance_withLexicon h, remaining_withLexicon hadvance,
    advance_withLexicon hadvance]

end Callers

namespace Lexicon

/-- Lists with the same words to draw from are refused for one reason, or accepted both; then only
their sizes and their particles tell the lexicons apart. Nouns, verbs and sentences are the same
choices, and a generator with the one lexicon in place of the other gives the same answers and is
left with the same source, whatever operations are done and whatever turns several callers take. -/
theorem ofWords_of_sameDrawn {words words' : List Word} (h : SameDrawn words words') :
    (∀ e, ofWords words = .error e ↔ ofWords words' = .error e) ∧
    ∀ lx, ofWords words = .ok lx → ∃ lx', ofWords words' = .ok lx' ∧
      (∀ r ∈ Role.drawn, lx'.texts r = lx.texts r) ∧
      lx'.plainPrepositions = lx.plainPrepositions ∧
      lx'.noun = lx.noun ∧ lx'.verb = lx.verb ∧ lx'.sentence = lx.sentence ∧
      ∀ (σ : Type) [Source σ] (g : Generator σ), g.lexicon = lx →
        (∀ (ops : List (Operation × List Pool.Turn)) (op : Operation) (turns : List Pool.Turn),
          let before := g.performAll ops
          let before' := (g.withLexicon lx').performAll ops
          before' = before.withLexicon lx' ∧
          (before'.perform turns op).2 = (before.perform turns op).2.withLexicon lx' ∧
          (op ≠ .query .size → op ≠ .query .lexicon →
            (before'.perform turns op).1 = (before.perform turns op).1)) ∧
        ∀ (queues : List (List Request)) (turns : List Turn),
          (Callers.start (g.withLexicon lx') queues).serve turns =
            ((Callers.start g queues).serve turns).withLexicon lx' := by
  have herror (e : LexiconError) : ofWords words = .error e ↔ ofWords words' = .error e := by
    rw [ofWords_eq_error_iff, ofWords_eq_error_iff, refusal?_congr h]
  refine ⟨herror, ?_⟩
  intro lx hlx
  obtain ⟨lx', hlx'⟩ : ∃ lx', ofWords words' = .ok lx' := by
    cases hlx' : ofWords words' with
    | ok lx' => exact ⟨lx', rfl⟩
    | error e => simp [(herror e).2 hlx'] at hlx
  have htexts : ∀ r ∈ Role.drawn, lx'.texts r = lx.texts r := by
    intro r hr
    rw [texts_eq_shelf hlx', texts_eq_shelf hlx, h r hr]
  have hstock : lx.stock = lx'.stock := stock_congr fun r hr => (htexts r hr).symm
  refine ⟨lx', hlx', htexts, (congrArg Stock.plain hstock).symm, ?_, ?_, ?_, ?_⟩
  · rw [noun, noun, hstock]
  · rw [verb, verb, hstock]
  · rw [sentence, sentence, hstock]
  · rintro σ _ g rfl
    refine ⟨?_, fun queues turns =>
      Callers.serve_withLexicon (c := Callers.start g queues) hstock turns⟩
    intro ops op turns before before'
    have hbefore' : before' = before.withLexicon lx' := Generator.performAll_withLexicon hstock ops
    have hbefore : before.lexicon.stock = lx'.stock := by
      rw [(Generator.performAll_keeps g ops).1, hstock]
    refine ⟨hbefore', ?_, ?_⟩
    · rw [hbefore', Generator.perform_withLexicon hbefore]
    · intro hsize hlexicon
      rw [hbefore']
      cases op with
      | request r => simp only [Generator.perform, Generator.answer_withLexicon hbefore]
      | query q =>
        cases q with
        | size => exact absurd rfl hsize
        | workers => rfl
        | lexicon => exact absurd rfl hlexicon

theorem ofWords_of_sameDrawn_reordered :
    let words := small ++ [.ofRoles "kama" [.content, .preverb]]
    let words' := wordsOf .particle ["pi"] ++ wordsOf .preposition ["lon", "tan"] ++
      wordsOf .preverb ["ken", "kama"] ++ [.ofRoles "kijetesantakalu" []] ++
      wordsOf .pronoun ["mi"] ++ wordsOf .content ["moku", "tomo", "kama"]
    SameDrawn words words' ∧ ∃ lx lx', ofWords words = .ok lx ∧ ofWords words' = .ok lx' ∧
      lx.size = 7 ∧ lx'.size = 10 ∧ lx'.sentence = lx.sentence ∧
      let s : Script := { values := [2, 2, 1, 0, 0, 1, 1, 2, 0, 0] }
      let g : Generator Script := ⟨lx, ⟨s, false⟩, 2⟩
      let turns : List Pool.Turn := [.owner, .owner, .worker 1]
      ((g.withLexicon lx').perform turns (.request (.batch 3))).1 =
        (g.perform turns (.request (.batch 3))).1 := by
  intro words words'
  have hsame : SameDrawn words words' := by decide
  obtain ⟨-, haccepted⟩ := ofWords_of_sameDrawn hsame
  obtain ⟨lx, hlx, hsize⟩ : ∃ lx, ofWords words = .ok lx ∧ lx.size = 7 := ⟨_, rfl, rfl⟩
  obtain ⟨lx', hlx', -, -, -, -, hsentence, hgenerator⟩ := haccepted lx hlx
  refine ⟨hsame, lx, lx', hlx, hlx', hsize, size_of_ofListing hlx', hsentence, ?_⟩
  intro s g turns
  exact ((hgenerator Script g rfl).1 [] (.request (.batch 3)) turns).2.2 (by simp) (by simp)

end Lexicon

end TokiSentences
