import TokiSentences.Lexicon.Samples
import TokiSentences.Proofs.Tokens
import TokiSentences.Source.Script

namespace TokiSentences

section

variable {p : α → Prop}

theorem append_inj_of_head {xs ys rs ts : List α} (hxs : ∀ x ∈ xs, ¬ p x)
    (hys : ∀ y ∈ ys, ¬ p y) (hrs : ∀ r ∈ rs.head?, p r) (hts : ∀ t ∈ ts.head?, p t)
    (h : xs ++ rs = ys ++ ts) : xs = ys ∧ rs = ts := by
  classical
  have htake {xs rs : List α} (hxs : ∀ x ∈ xs, ¬ p x) (hrs : ∀ r ∈ rs.head?, p r) :
      (xs ++ rs).takeWhile (fun x => ¬ p x) = xs := by
    rw [List.takeWhile_append_of_pos (by simpa using hxs)]
    cases rs with
    | nil => simp
    | cons r rs =>
      have hr : p r := hrs r rfl
      simp [hr]
  obtain rfl : xs = ys := by rw [← htake hxs hrs, h, htake hys hts]
  exact ⟨rfl, List.append_cancel_left h⟩

/-- A member with the property opens a block; no other in it has the property. -/
def IsBlock (p : α → Prop) (b : List α) : Prop :=
  ∃ x xs, b = x :: xs ∧ p x ∧ ∀ y ∈ xs, ¬ p y

theorem head_flatten_of_isBlock {bs : List (List α)} (h : ∀ b ∈ bs, IsBlock p b) :
    ∀ x ∈ bs.flatten.head?, p x := by
  cases bs with
  | nil => simp
  | cons b bs =>
    obtain ⟨x, xs, rfl, hx, -⟩ := h b List.mem_cons_self
    simpa using hx

theorem flatten_inj_of_isBlock {bs cs : List (List α)} (hbs : ∀ b ∈ bs, IsBlock p b)
    (hcs : ∀ c ∈ cs, IsBlock p c) (h : bs.flatten = cs.flatten) : bs = cs := by
  induction bs generalizing cs with
  | nil =>
    cases cs with
    | nil => rfl
    | cons c cs =>
      obtain ⟨y, ys, rfl, -⟩ := hcs c List.mem_cons_self
      simp at h
  | cons b bs ih =>
    obtain ⟨⟨x, xs, rfl, -, hxs⟩, hbs'⟩ := List.forall_mem_cons.1 hbs
    cases cs with
    | nil => simp at h
    | cons c cs =>
      obtain ⟨⟨y, ys, rfl, -, hys⟩, hcs'⟩ := List.forall_mem_cons.1 hcs
      simp only [List.flatten_cons, List.cons_append, List.cons.injEq] at h
      obtain ⟨rfl, hrest⟩ := h
      obtain ⟨rfl, hflatten⟩ := append_inj_of_head hxs hys (head_flatten_of_isBlock hbs')
        (head_flatten_of_isBlock hcs') hrest
      rw [ih hbs' hcs' hflatten]

end

def particles : List String := [predicateMarker, objectMarker, negationParticle]

/-- No word is taken for a particle, nor any but a preposition for what opens a phrase. -/
structure Stock.Separated (st : Stock String) : Prop where
  isWord : ∀ w ∈ st.words, Text.IsWord w
  not_particle : ∀ w ∈ st.words, w ∉ particles
  inner : ∀ w ∈ st.content ++ st.preverb ++ st.pronoun, w ≠ locative ∧ w ∉ st.plain

def Stock.Opens (st : Stock String) (w : String) : Prop :=
  w = objectMarker ∨ w = locative ∨ w ∈ st.plain

section

variable {st : Stock String} (hst : st.Separated)

include hst

theorem Stock.Separated.not_opens {w : String} (hw : w ∈ st.content ++ st.preverb ++ st.pronoun) :
    ¬ st.Opens w := by
  have hwords : w ∈ st.words := by
    simp only [List.mem_append, Stock.mem_words] at hw ⊢
    tauto
  rintro (rfl | hopens)
  · exact hst.not_particle _ hwords (by decide)
  · exact hopens.elim (hst.inner w hw).1 (hst.inner w hw).2

theorem Noun.From.not_opens {n : Noun String} (hn : n.From st) : ∀ w ∈ n.words, ¬ st.Opens w := by
  intro w hw
  apply hst.not_opens
  rcases hn.mem_words w hw with hw | hw <;> simp [hw]

theorem Verb.From.not_opens {v : Verb String} (hv : v.From st) : ∀ w ∈ v.tokens, ¬ st.Opens w := by
  intro w hw
  rcases hv.mem_tokens w hw with hw | hw | rfl
  · exact hst.not_opens (by simp [hw])
  · exact hst.not_opens (by simp [hw])
  · rintro (h | h | h)
    · exact absurd h (by decide)
    · exact absurd h (by decide)
    · exact hst.not_particle negationParticle (by simp [h]) (by decide)

theorem Noun.From.ne_predicateMarker {n : Noun String} (hn : n.From st) :
    ∀ w ∈ n.words, w ≠ predicateMarker := by
  rintro w hw rfl
  exact hst.not_particle _ (hn.mem_stock _ hw) (by decide)

theorem Noun.From.words_of_unmarked {n : Noun String} (hn : n.From st)
    (h : n.text ∈ unmarkedSubjects) : n.words = [n.text] := by
  have hunmarked : ∀ w ∈ unmarkedSubjects, Text.IsWord w := by decide
  rw [← (hunmarked _ h).tokens_eq, tokens_text]
  exact fun w hw => hst.isWord w (hn.mem_stock w hw)

namespace Clause

variable {c d : Clause String} (hc : c.WordsFrom st) (hd : d.WordsFrom st)

include hc

theorem WordsFrom.ne_predicateMarker : ∀ w ∈ c.rest, w ≠ predicateMarker := by
  rintro w hw rfl
  rcases hc.mem_rest _ hw with hw | hw
  · exact hst.not_particle _ hw (by decide)
  · exact absurd hw (by decide)

theorem WordsFrom.predicateMarker_mem_tokens :
    predicateMarker ∈ c.tokens ↔ c.subject.text ∉ unmarkedSubjects := by
  have hsubject : predicateMarker ∉ c.subject.words := fun h =>
    hc.subject.ne_predicateMarker hst _ h rfl
  have hrest : predicateMarker ∉ c.rest := fun h => hc.ne_predicateMarker hst _ h rfl
  rw [tokens, List.mem_append, List.mem_append]
  by_cases h : c.subject.text ∈ unmarkedSubjects <;> simp [h, hsubject, hrest]

theorem WordsFrom.isBlock_of_mem_additions : ∀ b ∈ c.additions, IsBlock st.Opens b := by
  intro b hb
  rcases mem_additions.1 hb with ⟨o, ho, rfl⟩ | ⟨q, hq, rfl⟩
  · exact ⟨_, _, rfl, .inl rfl, (hc.object o ho).not_opens hst⟩
  · obtain ⟨hp, hn⟩ := hc.phrases q hq
    exact ⟨_, _, rfl, .inr hp.text_eq_or_mem, hn.not_opens hst⟩

include hd

theorem subject_words_inj (h : c.tokens = d.tokens) :
    c.subject.words = d.subject.words ∧ c.rest = d.rest := by
  have hmarked : c.subject.text ∉ unmarkedSubjects ↔ d.subject.text ∉ unmarkedSubjects := by
    rw [← hc.predicateMarker_mem_tokens hst, ← hd.predicateMarker_mem_tokens hst, h]
  simp only [tokens, List.append_assoc] at h
  by_cases hunmarked : c.subject.text ∈ unmarkedSubjects
  · have hunmarked' : d.subject.text ∈ unmarkedSubjects := by simpa [hunmarked] using hmarked
    rw [hc.subject.words_of_unmarked hst hunmarked,
      hd.subject.words_of_unmarked hst hunmarked'] at h ⊢
    simpa [hunmarked, hunmarked'] using h
  · rw [if_neg hunmarked, if_neg (hmarked.1 hunmarked)] at h
    obtain ⟨hwords, hrest⟩ := append_inj_of_head (p := (· = predicateMarker))
      (hc.subject.ne_predicateMarker hst) (hd.subject.ne_predicateMarker hst) (by simp) (by simp) h
    exact ⟨hwords, by simpa using hrest⟩

theorem additions_inj (h : c.tokens = d.tokens) :
    c.verb.tokens = d.verb.tokens ∧ c.additions = d.additions := by
  obtain ⟨-, hrest⟩ := subject_words_inj hst hc hd h
  have hc' := hc.isBlock_of_mem_additions hst
  have hd' := hd.isBlock_of_mem_additions hst
  obtain ⟨hverb, hflatten⟩ := append_inj_of_head (hc.verb.not_opens hst) (hd.verb.not_opens hst)
    (head_flatten_of_isBlock hc') (head_flatten_of_isBlock hd') hrest
  exact ⟨hverb, flatten_inj_of_isBlock hc' hd' hflatten⟩

theorem blocks_inj (h : c.additions = d.additions) :
    c.objectBlock = d.objectBlock ∧ c.phraseBlocks = d.phraseBlocks := by
  have hphrases {e : Clause String} (he : e.WordsFrom st) :
      ∀ b ∈ e.phraseBlocks.head?, b.head? ≠ some objectMarker := by
    intro b hb
    obtain ⟨q, hq, rfl⟩ := List.mem_map.1 (List.mem_of_mem_head? hb)
    have hprep : q.1.text ≠ objectMarker := by
      rcases (he.phrases q hq).1.text_eq_or_mem with hw | hw
      · rw [hw]
        decide
      · rintro heq
        exact hst.not_particle q.1.text (by simp [hw]) (by rw [heq]; decide)
    simpa using hprep
  have hobject (e : Clause String) :
      ∀ b ∈ e.objectBlock.toList, ¬ b.head? ≠ some objectMarker := by
    simp [objectBlock]
  obtain ⟨hobjects, hphrases⟩ := append_inj_of_head (hobject c) (hobject d) (hphrases hc)
    (hphrases hd) h
  exact ⟨by simpa using congrArg List.head? hobjects, hphrases⟩

theorem sentence_eq_of_text_eq (h : c.sentence.text = d.sentence.text) :
    c.sentence = d.sentence := by
  have htokens : c.tokens = d.tokens := by
    rw [← tokens_text (hc.isWord_of_mem_tokens hst.isWord),
      ← tokens_text (hd.isWord_of_mem_tokens hst.isWord), h]
  obtain ⟨hsubject, -⟩ := subject_words_inj hst hc hd htokens
  obtain ⟨hverb, hadditions⟩ := additions_inj hst hc hd htokens
  obtain ⟨hobject, hphrases⟩ := blocks_inj hst hc hd hadditions
  have hsubject' : c.subject.text = d.subject.text := by
    rw [Noun.text_eq, Noun.text_eq, hsubject]
  have hverb' : c.verb.text = d.verb.text := by rw [Verb.text_eq, Verb.text_eq, hverb]
  have hobject' : c.object.map Noun.text = d.object.map Noun.text := by
    have := congrArg (Option.map fun b => " ".intercalate b.tail) hobject
    simpa [objectBlock, Function.comp_def, ← Noun.text_eq] using this
  have hphrases' : (c.phrases.map fun q => q.1.text ++ " " ++ q.2.text) =
      d.phrases.map fun q => q.1.text ++ " " ++ q.2.text := by
    have := congrArg (List.map (" ".intercalate ·)) hphrases
    simpa [phraseBlocks, Function.comp_def, ← phrase_text_eq] using this
  rw [sentence, sentence, hsubject', hverb', hobject', hphrases']

end Clause

end

/-- A list of words none of which is taken for a particle, nor any but a preposition for what opens
a phrase. The subjects that go without the marker may be content words. -/
structure WellSeparated (words : List Word) : Prop where
  word : ∀ w ∈ words, ∀ r ∈ Role.drawn, w.has r → Text.IsWord w.text ∧ w.text ∉ particles
  inner : ∀ w ∈ words, ∀ r ∈ [Role.content, .preverb, .pronoun], w.has r →
    w.text ≠ locative ∧ ¬ Spelled words .preposition w.text

theorem WellSeparated.stock {words : List Word} {lx : Lexicon}
    (h : Lexicon.ofWords words = .ok lx) (hw : WellSeparated words) : lx.stock.Separated := by
  have hword : ∀ t ∈ lx.stock.words, Text.IsWord t ∧ t ∉ particles :=
    Lexicon.forall_mem_stock_words h hw.word
  refine ⟨fun t ht => (hword t ht).1, fun t ht => (hword t ht).2, ?_⟩
  intro t ht
  have hspelled : ∃ r ∈ [Role.content, .preverb, .pronoun], Spelled words r t := by
    simp only [List.mem_append, or_assoc] at ht
    rcases ht with ht | ht | ht
    · exact ⟨.content, by decide, (Lexicon.mem_texts h).1 ht⟩
    · exact ⟨.preverb, by decide, (Lexicon.mem_texts h).1 ht⟩
    · exact ⟨.pronoun, by decide, (Lexicon.mem_texts h).1 ht⟩
  obtain ⟨r, hr, w, hmem, hhas, rfl⟩ := hspelled
  obtain ⟨hlocative, hpreposition⟩ := hw.inner w hmem r hr hhas
  refine ⟨hlocative, fun hplain => hpreposition ?_⟩
  exact (Lexicon.mem_texts h).1 (Lexicon.mem_plainPrepositions.1 hplain).1

namespace Lexicon

/-- Sentences with the same text are the same sentence in all their parts, whatever sources they
are from. -/
theorem sentenceFrom_text_inj {words : List Word} {lx : Lexicon} (h : ofWords words = .ok lx)
    (hw : WellSeparated words) [Source σ] [Source τ] {s : σ} {t : τ} {x y : Sentence}
    (hx : lx.sentenceFrom s = .ok x) (hy : lx.sentenceFrom t = .ok y) (htext : x.text = y.text) :
    x = y := by
  obtain ⟨c, hc, rfl⟩ := exists_clause_of_sentenceFrom hx
  obtain ⟨d, hd, rfl⟩ := exists_clause_of_sentenceFrom hy
  exact Clause.sentence_eq_of_text_eq (hw.stock h) hc hd htext

theorem sentenceFrom_text_inj_two_scripts :
    let s : Script := { values := [0, 0, 1, 2, 3, 0, 0, 0, 0, 1, 0, 0, 0, 0, 1, 1, 1] }
    let t : Script := { values := [0, 0, 1, 1, 2, 1, 0, 0, 0, 1, 0, 0, 0, 0, 2, 1, 1] }
    ∃ lx x y, ofWords small = .ok lx ∧ WellSeparated small ∧ lx.sentenceFrom s = .ok x ∧
      lx.sentenceFrom t = .ok y ∧ x.text = "mi tomo e mi lon mi tan tomo" ∧ y.text = x.text ∧
      x = y := by
  intro s t
  have hsmall : WellSeparated small := ⟨by decide, by decide⟩
  obtain ⟨lx, x, y, h, hs, ht, hx, hy⟩ : ∃ lx x y, ofWords small = .ok lx ∧
      lx.sentenceFrom s = .ok x ∧ lx.sentenceFrom t = .ok y ∧
      x.text = "mi tomo e mi lon mi tan tomo" ∧ y.text = x.text :=
    ⟨_, _, _, rfl, rfl, rfl, by decide, by decide⟩
  exact ⟨lx, x, y, h, hsmall, hs, ht, hx, hy, sentenceFrom_text_inj h hsmall hs ht hy.symm⟩

end Lexicon

end TokiSentences
