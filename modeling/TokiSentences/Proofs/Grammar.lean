import TokiSentences.Lexicon.Samples
import TokiSentences.Proofs.VerbForms

namespace TokiSentences

inductive NounPhrase (words : List Word) : String → Prop
  | pronoun : Spelled words .pronoun t → NounPhrase words t
  | single : Spelled words .content t → NounPhrase words t
  | compound : Spelled words .content t → Spelled words .content u →
      NounPhrase words (t ++ " " ++ u)

inductive VerbPhrase (words : List Word) : String → Prop
  | plain : Spelled words .content t → VerbPhrase words t
  | trailing : Spelled words .content t → VerbPhrase words (t ++ " " ++ negationParticle)
  | preverb : Spelled words .preverb m → Spelled words .content t →
      VerbPhrase words (m ++ " " ++ t)
  | preverbNegated : Spelled words .preverb m → Spelled words .content t →
      VerbPhrase words (m ++ " " ++ negationParticle ++ " " ++ t)
  | preverbTrailing : Spelled words .preverb m → Spelled words .content t →
      VerbPhrase words (m ++ " " ++ t ++ " " ++ negationParticle)

structure Prepositional (words : List Word) (lx : Lexicon) (ps : List (String × String)) :
    Prop where
  length_le : ps.length ≤ 2
  preposition : ∀ p ∈ ps, p.1 = locative ∨ p.1 ∈ lx.plainPrepositions
  noun : ∀ p ∈ ps, NounPhrase words p.2
  locative_once : (ps.map Prod.fst).count locative ≤ 1

inductive Grammatical (words : List Word) (lx : Lexicon) : Sentence → Prop
  | ofParts {subject verb : String} {object : Option String} {ps : List (String × String)} :
      NounPhrase words subject → VerbPhrase words verb → (∀ o ∈ object, NounPhrase words o) →
      Prepositional words lx ps →
      Grammatical words lx (.ofParts subject verb object (ps.map fun p => p.1 ++ " " ++ p.2))

section

variable {words : List Word} {lx : Lexicon} (h : Lexicon.ofWords words = .ok lx)

include h

theorem nounPhrase_iff {t : String} :
    NounPhrase words t ↔ ∃ n : Noun String, n.From lx.stock ∧ n.text = t := by
  have hspelled (r : Role) (t : String) : Spelled words r t ↔ t ∈ lx.texts r :=
    (Lexicon.mem_texts h).symm
  constructor
  · intro ht
    cases ht with
    | pronoun hw => exact ⟨.pronoun _, (hspelled _ _).1 hw, rfl⟩
    | single hw => exact ⟨.single _, (hspelled _ _).1 hw, rfl⟩
    | compound hv hw => exact ⟨.compound _ _, ⟨(hspelled _ _).1 hv, (hspelled _ _).1 hw⟩, rfl⟩
  · rintro ⟨n, hn, rfl⟩
    cases n with
    | pronoun w => exact .pronoun ((hspelled _ _).2 hn)
    | single w => exact .single ((hspelled _ _).2 hn)
    | compound v w => exact .compound ((hspelled _ _).2 hn.1) ((hspelled _ _).2 hn.2)

omit h in
theorem verbPhrase_iff_exists_form {t : String} :
    VerbPhrase words t ↔ ∃ f : VerbForm, f.Of words ∧ f.text = t := by
  constructor
  · intro ht
    cases ht with
    | plain hr => exact ⟨_, .bare hr, rfl⟩
    | trailing hr => exact ⟨_, .bareNegated hr, rfl⟩
    | preverb hp hr => exact ⟨_, .led hp hr, rfl⟩
    | preverbNegated hp hr => exact ⟨_, .preverbNegated hp hr, rfl⟩
    | preverbTrailing hp hr => exact ⟨_, .ledNegated hp hr, rfl⟩
  · rintro ⟨f, hf, rfl⟩
    cases hf with
    | bare hr => exact .plain hr
    | bareNegated hr => exact .trailing hr
    | led hp hr => exact .preverb hp hr
    | ledNegated hp hr => exact .preverbTrailing hp hr
    | preverbNegated hp hr => exact .preverbNegated hp hr

theorem verbPhrase_iff {t : String} :
    VerbPhrase words t ↔ ∃ v : Verb String, v.From lx.stock ∧ v.text = t := by
  simp only [verbPhrase_iff_exists_form, VerbForm.of_iff h, exists_exists_and_eq_and, Verb.form]

omit h in
theorem count_locative {ps : List (Preposition String × Noun String)}
    (hps : PhrasesFrom lx.stock ps) :
    (ps.map fun p => p.1.text).count locative = locatives ps := by
  induction ps with
  | nil => rfl
  | cons p ps ih =>
    obtain ⟨⟨hp, -⟩, hps⟩ := (phrasesFrom_cons ..).1 hps
    rw [List.map_cons, List.count_cons, ih hps, locatives_cons]
    cases hprep : p.1 with
    | locative => rfl
    | plain w =>
      have hw : w ≠ locative := (Lexicon.mem_plainPrepositions.1 (by simpa [hprep] using hp)).2
      simp [Preposition.text, Preposition.isLocative, hw]

theorem prepositional_iff {ps : List (String × String)} :
    Prepositional words lx ps ↔ ∃ qs : List (Preposition String × Noun String),
      qs.length ≤ maxPhrases ∧ PhrasesFrom lx.stock qs ∧ locatives qs ≤ 1 ∧
        (qs.map fun q => (q.1.text, q.2.text)) = ps := by
  constructor
  · rintro ⟨hlen, hprep, hnoun, honce⟩
    have hqs : ∃ qs : List (Preposition String × Noun String), PhrasesFrom lx.stock qs ∧
        (qs.map fun q => (q.1.text, q.2.text)) = ps := by
      clear hlen honce
      induction ps with
      | nil => exact ⟨[], by simp⟩
      | cons p ps ih =>
        obtain ⟨qs, hqs, rfl⟩ := ih (fun q hq => hprep q (by simp [hq]))
          (fun q hq => hnoun q (by simp [hq]))
        obtain ⟨n, hn, hnt⟩ := (nounPhrase_iff h).1 (hnoun p (by simp))
        rcases hprep p (by simp) with hp | hp
        · exact ⟨(.locative, n) :: qs, by simp [hqs, hn],
            by simp [Preposition.text, ← hp, hnt]⟩
        · exact ⟨(.plain p.1, n) :: qs, by simpa [hqs, hn] using hp,
            by simp [Preposition.text, hnt]⟩
    obtain ⟨qs, hqs, rfl⟩ := hqs
    refine ⟨qs, by simpa [maxPhrases] using hlen, hqs, ?_, rfl⟩
    rw [← count_locative hqs]
    simpa [Function.comp_def] using honce
  · rintro ⟨qs, hlen, hqs, honce, rfl⟩
    refine ⟨by simpa [maxPhrases] using hlen, ?_, ?_, ?_⟩
    · intro p hp
      obtain ⟨q, hq, rfl⟩ := List.mem_map.1 hp
      have hfrom : q.1.From lx.stock := (hqs q hq).1
      cases hprep : q.1 with
      | locative => exact .inl rfl
      | plain w => exact .inr (by simpa [hprep] using! hfrom)
    · intro p hp
      obtain ⟨q, hq, rfl⟩ := List.mem_map.1 hp
      exact (nounPhrase_iff h).2 ⟨q.2, (hqs q hq).2, rfl⟩
    · rw [← count_locative hqs] at honce
      simpa [Function.comp_def] using honce

theorem mem_support_sentence {x : Sentence} :
    x ∈ lx.sentence.support ↔ Grammatical words lx x := by
  simp only [Lexicon.sentence, Choice.mem_support_map, Stock.mem_support_clause]
  constructor
  · rintro ⟨c, hc, rfl⟩
    have hps : Prepositional words lx (c.phrases.map fun q => (q.1.text, q.2.text)) :=
      (prepositional_iff h).2 ⟨c.phrases, hc.phrases_length, hc.phrases, hc.locatives, rfl⟩
    have hobject : ∀ o ∈ c.object.map Noun.text, NounPhrase words o := by
      intro o ho
      obtain ⟨n, hn, rfl⟩ := Option.map_eq_some_iff.1 ho
      exact (nounPhrase_iff h).2 ⟨n, hc.object n hn, rfl⟩
    have hsentence := Grammatical.ofParts ((nounPhrase_iff h).2 ⟨_, hc.subject, rfl⟩)
      ((verbPhrase_iff h).2 ⟨_, hc.verb, rfl⟩) hobject hps
    rwa [List.map_map] at hsentence
  · rintro @⟨_, _, object, _, hsubject, hverb, hobject, hps⟩
    obtain ⟨subject, hs, rfl⟩ := (nounPhrase_iff h).1 hsubject
    obtain ⟨verb, hv, rfl⟩ := (verbPhrase_iff h).1 hverb
    obtain ⟨phrases, hlen, hfrom, honce, rfl⟩ := (prepositional_iff h).1 hps
    have hobject : ∃ o : Option (Noun String), (∀ n ∈ o, n.From lx.stock) ∧
        o.map Noun.text = object := by
      cases object with
      | none => exact ⟨none, by simp⟩
      | some o =>
        obtain ⟨n, hn, rfl⟩ := (nounPhrase_iff h).1 (hobject o rfl)
        exact ⟨some n, by simpa using hn, rfl⟩
    obtain ⟨object, ho, rfl⟩ := hobject
    refine ⟨⟨subject, verb, object, phrases⟩, ⟨hs, hv, ho, hlen, hfrom, honce⟩, ?_⟩
    rw [List.map_map]
    rfl

/-- The sentences that sources in range make are those of the grammar, and a script will do for
each of them. -/
theorem sentenceFrom_eq_ok_iff_grammatical (x : Sentence) :
    ((∃ (σ : Type) (_ : Source σ) (s : σ), Source.InRange σ ∧ lx.sentenceFrom s = .ok x) ↔
      Grammatical words lx x) ∧
    (Grammatical words lx x →
      ∃ values : List Nat, lx.sentenceFrom { values : Script } = .ok x) := by
  have hscript : Grammatical words lx x →
      ∃ values : List Nat, lx.sentenceFrom { values : Script } = .ok x := fun hx =>
    Choice.exists_script_of_mem_support ((mem_support_sentence h).2 hx)
  refine ⟨⟨?_, ?_⟩, hscript⟩
  · rintro ⟨σ, _, s, hs, hx⟩
    have hw : lx.sentence.Within (fun n i => i < n) fun _ => False :=
      lx.within_sentence fun _ _ hi => .inl hi
    have hrun : lx.sentence.run s = (.ok x, (lx.sentence.run s).2) := by
      rw [← hx]
      rfl
    exact (mem_support_sentence h).1 (hw.mem_support_of_run hs hrun)
  · intro hx
    obtain ⟨values, hrun⟩ := hscript hx
    exact ⟨Script, inferInstance, { values }, Script.inRange, hrun⟩

end

theorem sentenceFrom_eq_ok_every_part :
    let ps := [("lon", "mi"), ("tan", "tomo")]
    let x : Sentence :=
      .ofParts "moku tomo" "ken ala moku" (some "mi") (ps.map fun p => p.1 ++ " " ++ p.2)
    ∃ lx, Lexicon.ofWords Lexicon.small = .ok lx ∧ Grammatical Lexicon.small lx x ∧
      ∃ values : List Nat, lx.sentenceFrom { values : Script } = .ok x := by
  intro ps x
  refine ⟨_, rfl, ?sound, (sentenceFrom_eq_ok_iff_grammatical rfl x).2 ?sound⟩
  have hmi : NounPhrase Lexicon.small "mi" := .pronoun (by decide)
  have hsubject : NounPhrase Lexicon.small "moku tomo" :=
    .compound (t := "moku") (u := "tomo") (by decide) (by decide)
  have hverb : VerbPhrase Lexicon.small "ken ala moku" :=
    .preverbNegated (m := "ken") (t := "moku") (by decide) (by decide)
  refine .ofParts hsubject hverb (by simpa using hmi) ?_
  exact ⟨by decide, by decide, by simpa [ps] using ⟨hmi, .single (by decide)⟩, by decide⟩

end TokiSentences
