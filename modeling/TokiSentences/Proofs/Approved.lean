import TokiSentences.Proofs.Lint
import TokiSentences.Proofs.Spaces

namespace TokiSentences

theorem Text.space_not_mem {s : String} (h : hasBlank s = false) : ' ' ∉ s.toList := by
  intro hmem
  have hblank : ∀ c ∈ s.toList, isBlank c = false := by simpa [hasBlank] using h
  exact absurd (hblank ' ' hmem) (by decide)

theorem Lint.hasBlank_of_mem_stock {words : List Word} {lx : Lexicon} (h : errors words = [])
    (hlx : Lexicon.ofWords words = .ok lx) : ∀ w ∈ lx.stock.words, Text.hasBlank w = false := by
  intro w hw
  obtain ⟨r, -, v, hv, -, rfl⟩ := Lexicon.spelled_of_mem_words hlx hw
  exact (errors_eq_nil_iff.1 h).2 v hv

namespace Verb

variable {st : Stock String} {v : Verb String}

theorem From.count_negationParticle (hv : v.From st) (hroot : v.root ≠ negationParticle) :
    v.tokens.count negationParticle =
      (if v.negation = .none then 0 else 1) +
        if v.preverb = some negationParticle then 1 else 0 := by
  obtain ⟨root, preverb, negation⟩ := v
  have hnegated := hv.negated
  cases preverb with
  | none => cases negation <;> simp_all [tokens]
  | some p => cases negation <;> by_cases hp : p = negationParticle <;> simp_all [tokens]

def negations (v : Verb String) : Nat := (Text.cut v.text).count negationParticle

theorem negations_eq (h : ∀ w ∈ v.tokens, ' ' ∉ w.toList) :
    v.negations = v.tokens.count negationParticle := by
  rw [negations, text_eq, Text.cut_intercalate v.tokens_ne_nil h]

end Verb

namespace Lexicon

/-- Where the linter finds nothing, a verb shows its negation once, and once more if its preverb is
spelled like it. The linter does not look for such a preverb; that no verb shows the negation twice
comes to there being none. -/
theorem verb_negations_iff {words : List Word} (herrors : Lint.errors words = [])
    (hwarnings : Lint.warnings words = []) : ∃ lx, ofWords words = .ok lx ∧
      (∀ (σ : Type) [Source σ] (s : σ) v, (lx.verb.run s).1 = .ok v →
        v.negations = (if v.negation = .none then 0 else 1) +
          if v.preverb = some negationParticle then 1 else 0) ∧
      ((∀ (σ : Type) [Source σ] (s : σ) v, (lx.verb.run s).1 = .ok v →
          v.negations ≤ 1 ∧ (v.negations = 1 ↔ v.negation ≠ .none)) ↔
        ¬ Spelled words .preverb negationParticle) := by
  obtain ⟨⟨lx, hlx⟩, -⟩ := Lint.errors_eq_nil_iff.1 herrors
  have hspace : ∀ w ∈ lx.stock.words, ' ' ∉ w.toList := fun w hw =>
    Text.space_not_mem (Lint.hasBlank_of_mem_stock herrors hlx w hw)
  have hcontent : negationParticle ∉ lx.stock.content := fun hmem =>
    Lint.not_spelled_content_of_warnings_eq_nil hwarnings ((mem_texts hlx).1 hmem)
  have hcount {σ : Type} [Source σ] {s : σ} {v : Verb String} (hv : (lx.verb.run s).1 = .ok v) :
      v.From lx.stock ∧ v.negations = (if v.negation = .none then 0 else 1) +
        if v.preverb = some negationParticle then 1 else 0 := by
    have hfrom : v.From lx.stock := lx.stock.every_verb.of_run hv
    have hroot : v.root ≠ negationParticle := fun h => hcontent (h ▸ hfrom.root)
    refine ⟨hfrom, ?_⟩
    rw [Verb.negations_eq (hfrom.forall_mem_tokens hspace (by decide)),
      hfrom.count_negationParticle hroot]
  refine ⟨lx, hlx, fun σ _ s v hv => (hcount hv).2, ?_⟩
  rw [← mem_texts hlx]
  constructor
  · intro hall hmem
    -- Any root will do after that preverb when the preverb is negated too.
    obtain ⟨root, hroot⟩ := List.exists_mem_of_ne_nil _ lx.stock_full.content
    have hv : Verb.From lx.stock ⟨root, some negationParticle, .preverb⟩ :=
      Verb.from_modal hmem hroot _
    obtain ⟨values, hrun⟩ := Choice.exists_script_of_mem_support (Stock.mem_support_verb.2 hv)
    have htwice : Verb.negations ⟨root, some negationParticle, .preverb⟩ = 2 := by
      simpa using (hcount hrun).2
    have honce := (hall Script { values } _ hrun).1
    omega
  · intro hmem σ _ s v hv
    obtain ⟨hfrom, hnegations⟩ := hcount hv
    have hpreverb : v.preverb ≠ some negationParticle := fun h => hmem (hfrom.preverb _ h)
    rw [hnegations, if_neg hpreverb]
    by_cases hnone : v.negation = .none <;> simp [hnone]

theorem verb_negated_twice :
    let words := small ++ wordsOf .preverb [negationParticle]
    ∃ lx v, ofWords words = .ok lx ∧ Lint.errors words = [] ∧ Lint.warnings words = [] ∧
      (lx.verb.run ({ values := [0, 0, 1, 0] } : Script)).1 = .ok v ∧
      v.text = "ala ala moku" ∧ v.negations = 2 :=
  ⟨_, _, rfl, by decide, by decide, rfl, by decide, by decide⟩

theorem verb_negations_iff_negation_preverb :
    let words := small ++ wordsOf .preverb [negationParticle]
    ∃ lx, ofWords words = .ok lx ∧
      ¬ ∀ (σ : Type) [Source σ] (s : σ) v, (lx.verb.run s).1 = .ok v →
        v.negations ≤ 1 ∧ (v.negations = 1 ↔ v.negation ≠ .none) := by
  intro words
  have hspelled : Spelled words .preverb negationParticle := by decide
  obtain ⟨lx, hlx, -, hiff⟩ := @verb_negations_iff words (by decide) (by decide)
  exact ⟨lx, hlx, fun hall => hiff.1 hall hspelled⟩

end Lexicon

/-- No space is out of place, and each part has as many tokens as are meant for it. -/
structure Sentence.Bounded (x : Sentence) : Prop where
  text : Text.Tidy x.text
  subject : (Text.tokens x.subject).length ∈ [1, 2]
  verb : (Text.tokens x.verb).length ∈ [1, 2, 3]
  object : ∀ o ∈ x.object, (Text.tokens o).length ∈ [1, 2]
  phrases : ∀ p ∈ x.prepositionalPhrases, (Text.tokens p).length ∈ [2, 3]

namespace Clause

variable {st : Stock String} {c : Clause String}

theorem text_ne_empty (c : Clause String) : c.sentence.text ≠ "" := by
  simp only [sentence, Sentence.ofParts, Sentence.predicate]
  split <;> simp

theorem tidy_text_iff (h : ∀ w ∈ c.tokens, ' ' ∉ w.toList) :
    Text.Tidy c.sentence.text ↔ "" ∉ c.tokens := by
  have hne := c.text_ne_empty
  rw [text_eq] at hne ⊢
  exact Text.tidy_intercalate_iff hne h

theorem WordsFrom.bounded (hst : ∀ w ∈ st.words, Text.IsWord w) (hc : c.WordsFrom st) :
    c.sentence.Bounded := by
  have htokens : ∀ w ∈ c.tokens, Text.IsWord w := hc.isWord_of_mem_tokens hst
  have hnoun {n : Noun String} (hn : n.From st) : Text.tokens n.text = n.words :=
    Noun.tokens_text fun w hw => hst w (hn.mem_stock w hw)
  refine ⟨?text, ?subject, ?verb, ?object, ?phrases⟩
  case text =>
    rw [tidy_text_iff fun w hw => Text.space_not_mem (htokens w hw).2]
    exact fun hempty => (htokens "" hempty).1 rfl
  case subject =>
    have hsubject : Text.tokens c.sentence.subject = c.subject.words := hnoun hc.subject
    rw [hsubject]
    exact c.subject.length_words
  case verb =>
    have hverb : Text.tokens c.sentence.verb = c.verb.tokens :=
      Verb.tokens_text (hc.verb.forall_mem_tokens hst (by decide))
    rw [hverb]
    exact c.verb.length_tokens
  case object =>
    intro o ho
    obtain ⟨n, hn, rfl⟩ := Option.map_eq_some_iff.1 ho
    rw [hnoun (hc.object n hn)]
    exact n.length_words
  case phrases =>
    intro p hp
    obtain ⟨q, hq, rfl⟩ := List.mem_map.1 hp
    obtain ⟨hprep, hn⟩ := hc.phrases q hq
    have hword : Text.IsWord q.1.text := by
      rcases hprep.text_eq_or_mem with h | h
      · rw [h]
        decide
      · exact hst _ (by simp [h])
    rw [Text.tokens_append_blank, hword.tokens_eq, hnoun hn]
    simpa using! q.2.length_words

end Clause

theorem Stock.Full.exists_clause {st : Stock String} (hf : st.Full) {w : String}
    (hw : w ∈ st.words) : ∃ c ∈ st.clause.support, w ∈ c.tokens := by
  -- One clause has a word from each of the four lists; `w` takes the place of one of them.
  have hclause {content preverb plain pronoun : String} (hcontent : content ∈ st.content)
      (hpreverb : preverb ∈ st.preverb) (hplain : plain ∈ st.plain)
      (hpronoun : pronoun ∈ st.pronoun) (hw : w ∈ [content, preverb, plain, pronoun]) :
      ∃ c ∈ st.clause.support, w ∈ c.tokens := by
    let c : Clause String :=
      ⟨.pronoun pronoun, ⟨content, some preverb, .none⟩, none, [(.plain plain, .single content)]⟩
    have hc : c.From st :=
      { subject := hpronoun
        verb := Verb.from_modal hpreverb hcontent _
        object := by simp [c]
        phrases_length := by simp [c, maxPhrases]
        phrases := by simpa [c] using! ⟨hplain, hcontent⟩
        locatives := by simp [c, Preposition.isLocative] }
    have hmem : ∀ w ∈ [content, preverb, plain, pronoun], w ∈ c.tokens := by
      simp [c, Clause.tokens, Clause.rest, Clause.additions, Clause.phraseBlocks, Verb.tokens,
        Noun.words, Preposition.text]
    exact ⟨c, mem_support_clause.2 hc, hmem w hw⟩
  obtain ⟨content, hcontent⟩ := List.exists_mem_of_ne_nil _ hf.content
  obtain ⟨preverb, hpreverb⟩ := List.exists_mem_of_ne_nil _ hf.preverb
  obtain ⟨plain, hplain⟩ := List.exists_mem_of_ne_nil _ hf.plain
  obtain ⟨pronoun, hpronoun⟩ := List.exists_mem_of_ne_nil _ hf.pronoun
  rcases mem_words.1 hw with hw | hw | hw | hw
  · exact hclause hw hpreverb hplain hpronoun (by simp)
  · exact hclause hcontent hw hplain hpronoun (by simp)
  · exact hclause hcontent hpreverb hw hpronoun (by simp)
  · exact hclause hcontent hpreverb hplain hw (by simp)

namespace Lexicon

/-- The tokens of a sentence are those of its parts and the markers. The linter does not look for
empty words; where it finds no error, that no space is out of place and no part too short comes to
there being none to draw. -/
theorem sentence_bounded_iff {words : List Word} (herrors : Lint.errors words = []) :
    ∃ lx, ofWords words = .ok lx ∧
      (∀ (σ : Type) [Source σ] (s : σ) x, lx.sentenceFrom s = .ok x →
        Text.tokens x.text = Text.tokens x.subject ++
          (if x.subject ∈ unmarkedSubjects then [] else [predicateMarker]) ++ Text.tokens x.verb ++
            (x.object.elim [] fun o => objectMarker :: Text.tokens o) ++
              x.prepositionalPhrases.flatMap Text.tokens) ∧
      ((∀ (σ : Type) [Source σ] (s : σ) x, lx.sentenceFrom s = .ok x → x.Bounded) ↔
        ∀ r ∈ Role.drawn, ¬ Spelled words r "") := by
  obtain ⟨⟨lx, hlx⟩, -⟩ := Lint.errors_eq_nil_iff.1 herrors
  have hblank : ∀ w ∈ lx.stock.words, Text.hasBlank w = false :=
    Lint.hasBlank_of_mem_stock herrors hlx
  refine ⟨lx, hlx, ?tokens, ?needed, ?enough⟩
  case tokens =>
    intro σ _ s x hx
    obtain ⟨c, -, rfl⟩ := exists_clause_of_sentenceFrom hx
    exact Sentence.tokens_text_ofParts ..
  case needed =>
    intro hall r hr hspelled
    have hmem : "" ∈ lx.stock.words := (mem_stock_words hlx (by decide)).2 ⟨r, hr, hspelled⟩
    obtain ⟨c, hc, hempty⟩ := lx.stock_full.exists_clause hmem
    obtain ⟨values, hrun⟩ := Choice.exists_script_of_mem_support hc
    have hspace : ∀ w ∈ c.tokens, ' ' ∉ w.toList :=
      (lx.stock.every_clause.of_run hrun).forall_mem_tokens
        (fun w hw => Text.space_not_mem (hblank w hw)) (by decide)
    have hbounded := hall Script { values } c.sentence (sentenceFrom_eq_ok_iff.2 ⟨c, hrun, rfl⟩)
    exact (Clause.tidy_text_iff hspace).1 hbounded.text hempty
  case enough =>
    intro hempty σ _ s x hx
    obtain ⟨c, hc, rfl⟩ := exists_clause_of_sentenceFrom hx
    apply hc.bounded
    intro w hw
    refine ⟨?_, hblank w hw⟩
    rintro rfl
    obtain ⟨r, hr, hspelled⟩ := spelled_of_mem_words hlx hw
    exact hempty r hr hspelled

theorem sentence_not_bounded :
    let words := small ++ wordsOf .content [""]
    ∃ lx x, ofWords words = .ok lx ∧ Lint.errors words = [] ∧
      lx.sentenceFrom ({ values := [2, 2, 1, 0, 2, 1, 2, 2] } : Script) = .ok x ∧
      x.text = " li moku" ∧ Text.tokens x.subject = [] ∧ ¬ x.Bounded := by
  refine ⟨_, _, rfl, by decide, rfl, by decide, by decide, ?_⟩
  intro hbounded
  exact absurd hbounded.subject (by decide)

theorem sentence_bounded_iff_sample : ∃ lx, ofWords sample = .ok lx ∧
    ∀ (σ : Type) [Source σ] (s : σ) x, lx.sentenceFrom s = .ok x → x.Bounded := by
  obtain ⟨lx, hlx, -, hiff⟩ := @sentence_bounded_iff sample (by decide)
  exact ⟨lx, hlx, hiff.2 (by decide)⟩

end Lexicon

end TokiSentences
