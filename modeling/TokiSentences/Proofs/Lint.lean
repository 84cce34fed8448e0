import TokiSentences.Lexicon.Samples
import TokiSentences.Lint.Finding
import TokiSentences.Proofs.Tokens
import TokiSentences.Source.Script

namespace TokiSentences

namespace Lint

theorem hasWord_iff {words : List Word} {text : String} {r : Role} :
    hasWord words text r ↔ Spelled words r text := by
  simp [hasWord, Spelled, and_comm]

theorem mem_ofLexicon {f : Finding} {words : List Word} :
    f ∈ ofLexicon words ↔ ∃ e, Lexicon.ofWords words = .error e ∧ f = .refused e := by
  unfold ofLexicon
  split <;> simp [*]

theorem mem_ofWord {f : Finding} {seen : List String} {w : Word} : f ∈ ofWord seen w ↔
    (w.text ∈ seen ∧ f = .repeated w.text) ∨ (w.roles.isEmpty ∧ f = .roleless w.text) ∨
      (Text.hasBlank w.text ∧ f = .blank w.text) := by
  simp [ofWord]

theorem exists_mem_ofWord_of_mem_ofEach {f : Finding} {seen : List String} {words : List Word}
    (h : f ∈ ofEach seen words) : ∃ w ∈ words, ∃ seen', f ∈ ofWord seen' w := by
  induction words generalizing seen with
  | nil => cases h
  | cons w words ih =>
    rcases List.mem_append.1 h with h | h
    · exact ⟨w, List.mem_cons_self, seen, h⟩
    · obtain ⟨w', hw', hf⟩ := ih h
      exact ⟨w', List.mem_cons_of_mem w hw', hf⟩

theorem blank_mem_ofEach {seen : List String} {words : List Word} {w : Word} (hw : w ∈ words)
    (h : Text.hasBlank w.text) : .blank w.text ∈ ofEach seen words := by
  induction words generalizing seen with
  | nil => cases hw
  | cons v words ih =>
    rcases List.mem_cons.1 hw with rfl | hw
    · exact List.mem_append_left _ (mem_ofWord.2 (.inr (.inr ⟨h, rfl⟩)))
    · exact List.mem_append_right _ (ih hw)

theorem mem_findings {f : Finding} {words : List Word} : f ∈ findings words ↔
    f ∈ ofLexicon words ∨ f ∈ ofEach [] words ∨
      (¬ Spelled words .preposition locative ∧ f = .noLocative) ∨
        (Spelled words .content negationParticle ∧ f = .negationContent) := by
  simp [findings, ← hasWord_iff]

theorem noLocative_mem_findings {words : List Word} :
    .noLocative ∈ findings words ↔ ¬ Spelled words .preposition locative := by
  have heach : .noLocative ∉ ofEach [] words := by
    intro h
    obtain ⟨w, -, seen, hw⟩ := exists_mem_ofWord_of_mem_ofEach h
    simp [mem_ofWord] at hw
  simp [mem_findings, mem_ofLexicon, heach]

theorem errors_eq_nil_iff {words : List Word} : errors words = [] ↔
    (∃ lx, Lexicon.ofWords words = .ok lx) ∧ ∀ w ∈ words, Text.hasBlank w.text = false := by
  rw [errors, List.filter_eq_nil_iff]
  constructor
  · intro h
    refine ⟨?_, ?_⟩
    · cases hlx : Lexicon.ofWords words with
      | ok lx => exact ⟨lx, rfl⟩
      | error e =>
        have hrefused := mem_findings.2 (.inl (mem_ofLexicon.2 ⟨e, hlx, rfl⟩))
        exact absurd rfl (h _ hrefused)
    · intro w hw
      rw [← Bool.not_eq_true]
      intro hblank
      exact absurd rfl (h _ (mem_findings.2 (.inr (.inl (blank_mem_ofEach hw hblank)))))
  · rintro ⟨⟨lx, hlx⟩, hblank⟩ f hf
    rcases mem_findings.1 hf with hf | hf | ⟨-, rfl⟩ | ⟨-, rfl⟩
    · obtain ⟨e, he, -⟩ := mem_ofLexicon.1 hf
      cases hlx.symm.trans he
    · obtain ⟨w, hw, seen, hf⟩ := exists_mem_ofWord_of_mem_ofEach hf
      rcases mem_ofWord.1 hf with ⟨-, rfl⟩ | ⟨-, rfl⟩ | ⟨h, -⟩
      · simp [Finding.isError]
      · simp [Finding.isError]
      · simp [hblank w hw] at h
    · simp [Finding.isError]
    · simp [Finding.isError]

theorem not_spelled_content_of_warnings_eq_nil {words : List Word} (h : warnings words = []) :
    ¬ Spelled words .content negationParticle := by
  intro hspelled
  have hmem : .negationContent ∈ findings words :=
    mem_findings.2 (.inr (.inr (.inr ⟨hspelled, rfl⟩)))
  exact List.filter_eq_nil_iff.1 h _ hmem rfl

end Lint

namespace Lexicon

theorem exists_script_locative (lx : Lexicon) : ∃ (values : List Nat) (c : Clause String),
    (lx.stock.clause.run { values : Script }).1 = .ok c ∧ ∃ q ∈ c.phrases, q.1 = .locative := by
  obtain ⟨content, hcontent⟩ := List.exists_mem_of_ne_nil _ lx.stock_full.content
  obtain ⟨pronoun, hpronoun⟩ := List.exists_mem_of_ne_nil _ lx.stock_full.pronoun
  let c : Clause String :=
    ⟨.pronoun pronoun, ⟨content, none, .none⟩, none, [(.locative, .pronoun pronoun)]⟩
  have hc : c ∈ lx.stock.clause.support := by
    have hverb : c.verb.From lx.stock := Verb.from_bare hcontent (by decide)
    refine Stock.mem_support_clause.2 ⟨hpronoun, hverb, by simp [c], ?_, ?_, ?_⟩
    · simp [c, maxPhrases]
    · simpa [c] using! hpronoun
    · simp [c, Preposition.isLocative]
  obtain ⟨values, hrun⟩ := Choice.exists_script_of_mem_support hc
  exact ⟨values, c, hrun, _, List.mem_singleton_self _, rfl⟩

/-- A phrase opens with the locative or with a preposition of the list, and so with nothing but
words of the list just when the linter does not warn that the locative is missing. -/
theorem preposition_spelled_iff {words : List Word} {lx : Lexicon} (h : ofWords words = .ok lx) :
    (∀ (σ : Type) [Source σ] (s : σ) (x : Sentence), lx.sentenceFrom s = .ok x →
      ∃ c, (lx.stock.clause.run s).1 = .ok c ∧ c.sentence = x ∧
        ∀ q ∈ c.phrases, q.1.text = locative ∨ Spelled words .preposition q.1.text) ∧
    ((∀ (σ : Type) [Source σ] (s : σ) c, (lx.stock.clause.run s).1 = .ok c →
        ∀ q ∈ c.phrases, Spelled words .preposition q.1.text) ↔
      .noLocative ∉ Lint.findings words) := by
  have hopen {σ : Type} [Source σ] {s : σ} {c : Clause String}
      (hc : (lx.stock.clause.run s).1 = .ok c) :
      ∀ q ∈ c.phrases, q.1.text = locative ∨ Spelled words .preposition q.1.text := by
    intro q hq
    have hfrom : q.1.From lx.stock := ((lx.stock.every_clause.of_run hc).phrases q hq).1
    rcases hfrom.text_eq_or_mem with hlocative | hplain
    · exact .inl hlocative
    · exact .inr ((mem_texts h).1 (mem_plainPrepositions.1 hplain).1)
  refine ⟨?_, ?_⟩
  · intro σ _ s x hx
    obtain ⟨c, hc, rfl⟩ := sentenceFrom_eq_ok_iff.1 hx
    exact ⟨c, hc, rfl, hopen hc⟩
  · rw [Lint.noLocative_mem_findings, not_not]
    constructor
    · intro hspelled
      obtain ⟨values, c, hrun, q, hq, hlocative⟩ := lx.exists_script_locative
      have := hspelled Script { values } c hrun q hq
      rwa [hlocative] at this
    · intro hlocative σ _ s c hc q hq
      rcases hopen hc q hq with heq | hspelled
      · rwa [heq]
      · exact hspelled

theorem preposition_not_spelled :
    let words := small.filter (·.text != locative)
    ∃ lx x, ofWords words = .ok lx ∧ .noLocative ∈ Lint.findings words ∧
      lx.sentenceFrom ({ values := [0, 0, 1, 2, 3, 2, 0, 0, 0, 0, 0] } : Script) = .ok x ∧
      x.prepositionalPhrases = ["lon mi"] ∧ ¬ Spelled words .preposition "lon" :=
  ⟨_, _, rfl, by decide, rfl, by decide, by decide⟩

theorem preposition_spelled_iff_without_locative :
    let words := small.filter (·.text != locative)
    ∃ lx, ofWords words = .ok lx ∧
      ¬ ∀ (σ : Type) [Source σ] (s : σ) c, (lx.stock.clause.run s).1 = .ok c →
        ∀ q ∈ c.phrases, Spelled words .preposition q.1.text := by
  intro words
  have hwarning : .noLocative ∈ Lint.findings words := by decide
  exact ⟨_, rfl, fun hspelled => (preposition_spelled_iff rfl).2.1 hspelled hwarning⟩

end Lexicon

end TokiSentences
