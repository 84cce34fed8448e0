import TokiSentences.Proofs.Approved
import TokiSentences.Proofs.Reading

/-!
Where the markers of a sentence stand. When no word to draw from is empty, has a blank in it or is
a particle, the parts of a sentence are its tokens, and every particle among them is a marker: each
stands where the structure of the clause asks for it, and nowhere else.
-/

namespace TokiSentences

namespace Stock

open Choice

variable (st : Stock α)

theorem every_preposition_fresh (fresh : Bool) :
    (st.preposition fresh).Every fun p => p.isLocative.toNat ≤ fresh.toNat := by
  have hplain : (Preposition.plain <$> among st.plain).Every fun p =>
      p.isLocative.toNat ≤ fresh.toNat := every_bind fun w => Nat.zero_le _
  cases fresh with
  | true =>
    apply every_bind
    intro b
    cases b with
    | true => exact Nat.le_refl 1
    | false => exact hplain
  | false => exact hplain

theorem every_phrases_locatives (fresh : Bool) (n : Nat) :
    (st.phrases fresh n).Every fun ps => locatives ps ≤ fresh.toNat := by
  induction n generalizing fresh with
  | zero => exact Nat.zero_le _
  | succ n ih =>
    apply (st.every_preposition_fresh fresh).bind
    intro p hp
    apply every_bind
    intro noun
    apply (ih _).bind
    intro more hmore
    rw [pure_eq_done, Every, locatives_cons]
    revert hp hmore
    cases fresh <;> cases p.isLocative <;> simp

theorem every_clause_locatives : st.clause.Every fun c => locatives c.phrases ≤ 1 := by
  have hphrases : st.somePhrases.Every fun ps => locatives ps ≤ 1 := by
    apply every_bind
    intro b
    cases b with
    | true => exact every_bind fun extra => st.every_phrases_locatives true (extra + 1)
    | false => exact Nat.zero_le _
  refine every_bind fun subject => every_bind fun verb => every_bind fun object => ?_
  exact hphrases.bind fun phrases h => h

end Stock

structure Stock.Unmistaken (st : Stock String) : Prop where
  isWord : ∀ w ∈ st.words, Text.IsWord w
  not_particle : ∀ w ∈ st.words, w ∉ particles

section

variable {st : Stock String} (hst : st.Unmistaken)

include hst

theorem Noun.From.cut_text {n : Noun String} (hn : n.From st) : Text.cut n.text = n.words := by
  rw [n.text_eq]
  apply Text.cut_intercalate n.words_ne_nil
  exact fun w hw => Text.space_not_mem (hst.isWord w (hn.mem_stock w hw)).2

theorem Verb.From.cut_text {v : Verb String} (hv : v.From st) : Text.cut v.text = v.tokens := by
  rw [v.text_eq]
  apply Text.cut_intercalate v.tokens_ne_nil
  exact fun w hw => Text.space_not_mem (hv.forall_mem_tokens hst.isWord (by decide) w hw).2

theorem Preposition.From.isWord_text {p : Preposition String} (hp : p.From st) :
    Text.IsWord p.text := by
  rcases hp.text_eq_or_mem with h | h
  · rw [h]
    decide
  · exact hst.isWord _ (by simp [h])

theorem cut_phrase {q : Preposition String × Noun String} (hp : q.1.From st) (hn : q.2.From st) :
    Text.cut (q.1.text ++ " " ++ q.2.text) = q.1.text :: q.2.words := by
  rw [phrase_text_eq]
  apply Text.cut_intercalate (by simp)
  refine List.forall_mem_cons.2 ⟨Text.space_not_mem (hp.isWord_text hst).2, ?_⟩
  exact fun w hw => Text.space_not_mem (hst.isWord w (hn.mem_stock w hw)).2

theorem Noun.From.particle_not_mem {n : Noun String} (hn : n.From st) {m : String}
    (hm : m ∈ particles) : m ∉ n.words :=
  fun h => hst.not_particle m (hn.mem_stock m h) hm

theorem Verb.From.particle_not_mem {v : Verb String} (hv : v.From st) {m : String}
    (hm : m ∈ particles) (hne : m ≠ negationParticle) : m ∉ v.tokens := by
  intro h
  rcases hv.mem_tokens m h with h | h | h
  · exact hst.not_particle m (by simp [h]) hm
  · exact hst.not_particle m (by simp [h]) hm
  · exact hne h

theorem Verb.From.count_negation {v : Verb String} (hv : v.From st) :
    v.tokens.count negationParticle = if v.negation = .none then 0 else 1 := by
  have hnot : negationParticle ∉ st.words := fun h =>
    hst.not_particle negationParticle h (by decide)
  have hroot : v.root ≠ negationParticle := fun h => hnot (h ▸ by simp [hv.root])
  have hpreverb : v.preverb ≠ some negationParticle := fun h =>
    hnot (by simp [hv.preverb _ h])
  rw [hv.count_negationParticle hroot, if_neg hpreverb, Nat.add_zero]

namespace Clause

variable {c : Clause String} (hc : c.WordsFrom st)

include hc

theorem WordsFrom.particle_not_mem_phraseBlocks {m : String} (hm : m ∈ particles) :
    m ∉ c.phraseBlocks.flatten := by
  intro h
  obtain ⟨b, hb, hmem⟩ := List.mem_flatten.1 h
  obtain ⟨q, hq, rfl⟩ := List.mem_map.1 hb
  obtain ⟨hp, hn⟩ := hc.phrases q hq
  rcases List.mem_cons.1 hmem with rfl | hmem
  · rcases hp.text_eq_or_mem with hw | hw
    · rw [hw] at hm
      exact absurd hm (by decide)
    · exact hst.not_particle _ (by simp [hw]) hm
  · exact hn.particle_not_mem hst hm hmem

theorem WordsFrom.count_particle {m : String} (hm : m ∈ particles) : c.tokens.count m =
    (if c.subject.text ∉ unmarkedSubjects ∧ predicateMarker = m then 1 else 0) +
      c.verb.tokens.count m + if c.object.isSome ∧ objectMarker = m then 1 else 0 := by
  have hsubject : c.subject.words.count m = 0 :=
    List.count_eq_zero_of_not_mem (hc.subject.particle_not_mem hst hm)
  have hmarker : (if c.subject.text ∈ unmarkedSubjects then [] else [predicateMarker]).count m =
      if c.subject.text ∉ unmarkedSubjects ∧ predicateMarker = m then 1 else 0 := by
    by_cases h : c.subject.text ∈ unmarkedSubjects <;> simp [h, List.count_singleton]
  have hobject : c.objectBlock.toList.flatten.count m =
      if c.object.isSome ∧ objectMarker = m then 1 else 0 := by
    cases ho : c.object with
    | none => simp [objectBlock, ho]
    | some o =>
      have hwords : o.words.count m = 0 :=
        List.count_eq_zero_of_not_mem ((hc.object o ho).particle_not_mem hst hm)
      simp [objectBlock, ho, List.count_cons, hwords]
  have hphrases : c.phraseBlocks.flatten.count m = 0 :=
    List.count_eq_zero_of_not_mem (hc.particle_not_mem_phraseBlocks hst hm)
  simp only [tokens, rest, additions, List.flatten_append, List.count_append, hsubject, hmarker,
    hobject, hphrases]
  omega

theorem WordsFrom.count_predicateMarker : c.tokens.count predicateMarker =
    if c.subject.text ∈ unmarkedSubjects then 0 else 1 := by
  have hverb : c.verb.tokens.count predicateMarker = 0 :=
    List.count_eq_zero_of_not_mem (hc.verb.particle_not_mem hst (by decide) (by decide))
  have hobject : objectMarker ≠ predicateMarker := by decide
  rw [hc.count_particle hst (by decide), hverb]
  simp [hobject]

theorem WordsFrom.count_objectMarker : c.tokens.count objectMarker =
    if c.object.isSome then 1 else 0 := by
  have hverb : c.verb.tokens.count objectMarker = 0 :=
    List.count_eq_zero_of_not_mem (hc.verb.particle_not_mem hst (by decide) (by decide))
  have hsubject : predicateMarker ≠ objectMarker := by decide
  rw [hc.count_particle hst (by decide), hverb]
  simp [hsubject]

theorem WordsFrom.count_negationParticle : c.tokens.count negationParticle =
    if c.verb.negation = .none then 0 else 1 := by
  have hsubject : predicateMarker ≠ negationParticle := by decide
  have hobject : objectMarker ≠ negationParticle := by decide
  rw [hc.count_particle hst (by decide), hc.verb.count_negation hst]
  simp [hsubject, hobject]

theorem WordsFrom.tokens_eq : c.tokens =
    Text.cut c.subject.text ++
      (if c.subject.text ∈ unmarkedSubjects then [] else [predicateMarker]) ++
      Text.cut c.verb.text ++ (c.object.elim [] fun o => objectMarker :: Text.cut o.text) ++
      c.phrases.flatMap fun q => Text.cut (q.1.text ++ " " ++ q.2.text) := by
  have hobject : (c.object.elim [] fun o => objectMarker :: Text.cut o.text) =
      c.objectBlock.toList.flatten := by
    cases ho : c.object with
    | none => simp [objectBlock, ho]
    | some o => simp [objectBlock, ho, (hc.object o ho).cut_text hst]
  have hphrases : (c.phrases.flatMap fun q => Text.cut (q.1.text ++ " " ++ q.2.text)) =
      c.phraseBlocks.flatten := by
    rw [List.flatMap_def, phraseBlocks]
    congr 1
    apply List.map_congr_left
    intro q hq
    obtain ⟨hp, hn⟩ := hc.phrases q hq
    exact cut_phrase hst hp hn
  rw [hc.subject.cut_text hst, hc.verb.cut_text hst, hobject, hphrases, tokens, rest, additions,
    List.flatten_append]
  simp only [List.append_assoc]

theorem WordsFrom.cut_text : Text.cut c.sentence.text = c.tokens := by
  rw [text_eq]
  apply Text.cut_intercalate
  · simp [tokens, rest, Verb.tokens_ne_nil]
  · intro w hw
    exact Text.space_not_mem (hc.isWord_of_mem_tokens hst.isWord w hw).2

theorem WordsFrom.head_cut_phrase_iff (hplain : locative ∉ st.plain)
    {q : Preposition String × Noun String} (hq : q ∈ c.phrases) :
    (Text.cut (q.1.text ++ " " ++ q.2.text)).head? = some locative ↔ q.1.isLocative := by
  obtain ⟨hp, hn⟩ := hc.phrases q hq
  rw [cut_phrase hst hp hn, List.head?_cons, Option.some.injEq]
  cases hprep : q.1 with
  | locative => simp [Preposition.text, Preposition.isLocative]
  | plain w =>
    rw [hprep] at hp
    have hw : w ≠ locative := fun h => hplain (h ▸ hp)
    simp [Preposition.text, Preposition.isLocative, hw]

end Clause

end

/-- Words to draw from that are tokens of their own, and none of which is taken for a particle. -/
def Unmistaken (words : List Word) : Prop :=
  ∀ w ∈ words, ∀ r ∈ Role.drawn, w.has r → Text.IsWord w.text ∧ w.text ∉ particles

theorem Unmistaken.stock {words : List Word} {lx : Lexicon} (hw : Unmistaken words)
    (h : Lexicon.ofWords words = .ok lx) : lx.stock.Unmistaken := by
  have hword : ∀ t ∈ lx.stock.words, Text.IsWord t ∧ t ∉ particles :=
    Lexicon.forall_mem_stock_words h hw
  exact ⟨fun t ht => (hword t ht).1, fun t ht => (hword t ht).2⟩

namespace Lexicon

/-- The text of a sentence, cut at its spaces, shows the structure: no token is empty, the predicate
marker and the object marker stand once each between the tokens of the parts where the subject and
the object ask for them, the negation stands once in a negated verb, and no particle is elsewhere.
The locative opens one phrase at most, and there are no more than two phrases while draws are
answered in range. -/
theorem sentence_markers {words : List Word} {lx : Lexicon} (h : ofWords words = .ok lx)
    (hw : Unmistaken words) [Source σ] {s : σ} (hs : lx.sentenceFrom s ≠ .error .broken) :
    ∃ c : Clause String, (lx.stock.clause.run s).1 = .ok c ∧
      let x := c.sentence
      let tokens := Text.cut x.text
      lx.sentenceFrom s = .ok x ∧ "" ∉ tokens ∧
      tokens = Text.cut x.subject ++
        (if x.subject ∈ unmarkedSubjects then [] else [predicateMarker]) ++ Text.cut x.verb ++
          (x.object.elim [] fun o => objectMarker :: Text.cut o) ++
            x.prepositionalPhrases.flatMap Text.cut ∧
      tokens.count predicateMarker = (if x.subject ∈ unmarkedSubjects then 0 else 1) ∧
      tokens.count objectMarker = (if x.hasObject then 1 else 0) ∧
      tokens.count negationParticle = (if c.verb.negation = .none then 0 else 1) ∧
      x.prepositionalPhrases.countP (fun p => (Text.cut p).head? = some locative) ≤ 1 ∧
      (Source.InRange σ → x.prepositionalPhrases.length ≤ 2) := by
  obtain ⟨x, hx⟩ := sentenceFrom_eq_ok hs
  obtain ⟨c, hrun, rfl⟩ := sentenceFrom_eq_ok_iff.1 hx
  have hst : lx.stock.Unmistaken := hw.stock h
  have hc : c.WordsFrom lx.stock := lx.stock.every_clause.of_run hrun
  have hplain : locative ∉ lx.stock.plain := fun hmem => (mem_plainPrepositions.1 hmem).2 rfl
  refine ⟨c, hrun, hx, ?_⟩
  simp only [hc.cut_text hst]
  refine ⟨?empty, ?tokens, hc.count_predicateMarker hst, ?object, hc.count_negationParticle hst,
    ?locative, ?length⟩
  case empty => exact fun hmem => (hc.isWord_of_mem_tokens hst.isWord "" hmem).1 rfl
  case tokens =>
    rw [hc.tokens_eq hst]
    simp [Clause.sentence, Sentence.ofParts, List.flatMap_map, Option.elim_map, Function.comp_def]
  case object =>
    rw [hc.count_objectMarker hst]
    simp [Clause.sentence, Sentence.ofParts, Sentence.hasObject]
  case locative =>
    have honce : locatives c.phrases ≤ 1 := lx.stock.every_clause_locatives.of_run hrun
    refine le_trans (le_of_eq ?_) honce
    simp only [Clause.sentence, Sentence.ofParts, List.countP_map, locatives]
    apply List.countP_congr
    intro q hq
    simpa using hc.head_cut_phrase_iff hst hplain hq
  case length =>
    intro hσ
    simpa [Clause.sentence, Sentence.ofParts, maxPhrases] using
      (clause_from_of_run hσ hrun).phrases_length

theorem sentence_markers_every_part :
    let s : Script := { values := [2, 0, 0, 1, 0, 0, 0, 0, 0, 0, 0, 0, 1, 0, 0, 0, 0, 2, 1, 1] }
    Unmistaken small ∧ ∃ lx x, ofWords small = .ok lx ∧ lx.sentenceFrom s = .ok x ∧
      x.text = "moku tomo li ken ala moku e mi lon mi tan tomo" ∧
      (Text.cut x.text).count predicateMarker = 1 ∧ (Text.cut x.text).count objectMarker = 1 ∧
      x.prepositionalPhrases.length ≤ 2 := by
  intro s
  have hsmall : Unmistaken small := by unfold Unmistaken; decide
  obtain ⟨lx, x, hlx, hx, htext, hsubject, hhas⟩ : ∃ lx x, ofWords small = .ok lx ∧
      lx.sentenceFrom s = .ok x ∧ x.text = "moku tomo li ken ala moku e mi lon mi tan tomo" ∧
      x.subject ∉ unmarkedSubjects ∧ x.hasObject := ⟨_, _, rfl, rfl, by decide⟩
  obtain ⟨c, -, hfrom, -, -, hpredicate, hobject, -, -, hlength⟩ :=
    sentence_markers hlx hsmall (s := s) (by simp [hx])
  obtain rfl : c.sentence = x := by simpa [hx] using hfrom.symm
  refine ⟨hsmall, lx, c.sentence, hlx, hx, htext, ?_, ?_, hlength Script.inRange⟩
  · simpa [hsubject] using hpredicate
  · simpa [hhas] using hobject

end Lexicon

end TokiSentences
