import TokiSentences.Proofs.AnyAnswers
import TokiSentences.Text.Blank

namespace TokiSentences

namespace Text

def IsWord (s : String) : Prop := s ≠ "" ∧ hasBlank s = false

instance (s : String) : Decidable (IsWord s) :=
  inferInstanceAs (Decidable (s ≠ "" ∧ hasBlank s = false))

@[simp] theorem splitBlanks_nil : splitBlanks [] = [] := rfl

theorem splitBlanks_blank {c : Char} (hc : isBlank c) (cs : List Char) :
    splitBlanks (c :: cs) = splitBlanks cs := by
  rw [splitBlanks.eq_def]
  exact if_pos hc

theorem splitBlanks_singleton {c : Char} (hc : isBlank c = false) : splitBlanks [c] = [[c]] := by
  rw [splitBlanks.eq_def]
  simp [hc]

theorem splitBlanks_cons {c d : Char} (hc : isBlank c = false) (cs : List Char) :
    splitBlanks (c :: d :: cs) =
      if isBlank d then [c] :: splitBlanks (d :: cs)
      else match splitBlanks (d :: cs) with
        | t :: ts => (c :: t) :: ts
        | [] => [[c]] := by
  rw [splitBlanks.eq_def]
  cases hts : splitBlanks (d :: cs) <;> cases hd : isBlank d <;> simp [hc, hts, hd]

theorem splitBlanks_ne_nil {c : Char} (hc : isBlank c = false) (cs : List Char) :
    splitBlanks (c :: cs) ≠ [] := by
  cases cs with
  | nil => simp [splitBlanks_singleton hc]
  | cons d cs =>
    rw [splitBlanks_cons hc]
    cases splitBlanks (d :: cs) <;> cases isBlank d <;> simp

theorem splitBlanks_append {c : Char} (hc : isBlank c) (a b : List Char) :
    splitBlanks (a ++ c :: b) = splitBlanks a ++ splitBlanks b := by
  induction a with
  | nil => exact splitBlanks_blank hc b
  | cons d a ih =>
    cases hd : isBlank d with
    | true => rw [List.cons_append, splitBlanks_blank hd, splitBlanks_blank hd, ih]
    | false =>
      cases a with
      | nil =>
        rw [List.cons_append, List.nil_append, splitBlanks_cons hd, if_pos hc,
          splitBlanks_blank hc, splitBlanks_singleton hd, List.singleton_append]
      | cons e a =>
        rw [List.cons_append] at ih
        rw [List.cons_append, List.cons_append, splitBlanks_cons hd, splitBlanks_cons hd, ih]
        cases he : isBlank e with
        | true => simp
        | false =>
          obtain ⟨t, ts, hts⟩ := List.exists_cons_of_ne_nil (splitBlanks_ne_nil he a)
          simp [hts]

theorem splitBlanks_of_not_blank {cs : List Char} (hne : cs ≠ [])
    (h : ∀ c ∈ cs, isBlank c = false) : splitBlanks cs = [cs] := by
  induction cs with
  | nil => exact absurd rfl hne
  | cons c cs ih =>
    obtain ⟨hc, hcs⟩ := List.forall_mem_cons.1 h
    cases cs with
    | nil => exact splitBlanks_singleton hc
    | cons d cs => simp [splitBlanks_cons hc, ih (List.cons_ne_nil d cs) hcs, hcs d]

@[simp] theorem tokens_append_blank (a b : String) :
    tokens (a ++ " " ++ b) = tokens a ++ tokens b := by
  have hlist : (a ++ " " ++ b).toList = a.toList ++ ' ' :: b.toList := by simp
  rw [tokens, hlist, splitBlanks_append rfl, List.map_append, tokens, tokens]

theorem IsWord.tokens_eq {w : String} (h : IsWord w) : tokens w = [w] := by
  have hne : w.toList ≠ [] := by simpa using h.1
  have hblank : ∀ c ∈ w.toList, isBlank c = false := by simpa [hasBlank] using h.2
  simp [tokens, splitBlanks_of_not_blank hne hblank]

end Text

namespace Sentence

open Text

theorem tokens_predicate (subject verb : String) : tokens (predicate subject verb) =
    tokens subject ++ (if subject ∈ unmarkedSubjects then [] else [predicateMarker]) ++
      tokens verb := by
  have hmarker : tokens predicateMarker = [predicateMarker] := IsWord.tokens_eq (by decide)
  unfold predicate
  split
  · simp
  · simp [hmarker]

theorem tokens_append_objectText (text : String) (object : Option String) :
    tokens (text ++ objectText object) =
      tokens text ++ object.elim [] fun o => objectMarker :: tokens o := by
  cases object with
  | none => simp [objectText]
  | some o =>
    have hassoc : text ++ objectText (some o) = text ++ " " ++ objectMarker ++ " " ++ o := by
      simp only [objectText, String.append_assoc]
    have hmarker : tokens objectMarker = [objectMarker] := IsWord.tokens_eq (by decide)
    rw [hassoc]
    simp [hmarker]

theorem tokens_append_phrases (text : String) (phrases : List String) :
    tokens (text ++ String.join (phrases.map (" " ++ ·))) =
      tokens text ++ phrases.flatMap tokens := by
  induction phrases generalizing text with
  | nil => simp
  | cons p phrases ih =>
    have hassoc : text ++ String.join ((p :: phrases).map (" " ++ ·)) =
        text ++ " " ++ p ++ String.join (phrases.map (" " ++ ·)) := by
      simp [String.append_assoc]
    rw [hassoc, ih]
    simp

theorem tokens_text_ofParts (subject verb : String) (object : Option String)
    (phrases : List String) : tokens (ofParts subject verb object phrases).text =
      tokens subject ++ (if subject ∈ unmarkedSubjects then [] else [predicateMarker]) ++
        tokens verb ++ (object.elim [] fun o => objectMarker :: tokens o) ++
          phrases.flatMap tokens := by
  rw [ofParts, tokens_append_phrases, tokens_append_objectText, tokens_predicate]

end Sentence

def Noun.words : Noun α → List α
  | pronoun w => [w]
  | single w => [w]
  | compound head tail => [head, tail]

def Verb.tokens (v : Verb String) : List String :=
  v.preverb.elim [] (fun p => p :: if v.negation = .preverb then [negationParticle] else []) ++
    v.root :: if v.negation = .trailing then [negationParticle] else []

namespace Clause

def objectBlock (c : Clause String) : Option (List String) :=
  c.object.map fun o => objectMarker :: o.words

def phraseBlocks (c : Clause String) : List (List String) :=
  c.phrases.map fun q => q.1.text :: q.2.words

def additions (c : Clause String) : List (List String) := c.objectBlock.toList ++ c.phraseBlocks

def rest (c : Clause String) : List String := c.verb.tokens ++ c.additions.flatten

def tokens (c : Clause String) : List String :=
  c.subject.words ++ (if c.subject.text ∈ unmarkedSubjects then [] else [predicateMarker]) ++ c.rest

theorem mem_additions {c : Clause String} {b : List String} : b ∈ c.additions ↔
    (∃ o ∈ c.object, objectMarker :: o.words = b) ∨
      ∃ q ∈ c.phrases, q.1.text :: q.2.words = b := by
  simp [additions, objectBlock, phraseBlocks]

end Clause

theorem Noun.length_words (n : Noun α) : n.words.length ∈ [1, 2] := by
  cases n <;> simp [words]

theorem Noun.words_ne_nil (n : Noun α) : n.words ≠ [] := by
  cases n <;> simp [words]

theorem Verb.length_tokens (v : Verb String) : v.tokens.length ∈ [1, 2, 3] := by
  obtain ⟨root, preverb, negation⟩ := v
  cases preverb <;> cases negation <;> simp [tokens]

theorem Verb.tokens_ne_nil (v : Verb String) : v.tokens ≠ [] := by
  simp [tokens]

theorem Noun.tokens_text {n : Noun String} (h : ∀ w ∈ n.words, Text.IsWord w) :
    Text.tokens n.text = n.words := by
  cases n with
  | pronoun w => exact (h w (by simp [words])).tokens_eq
  | single w => exact (h w (by simp [words])).tokens_eq
  | compound head tail =>
    rw [text, Text.tokens_append_blank, (h head (by simp [words])).tokens_eq,
      (h tail (by simp [words])).tokens_eq]
    rfl

theorem Verb.tokens_text {v : Verb String} (h : ∀ w ∈ v.tokens, Text.IsWord w) :
    Text.tokens v.text = v.tokens := by
  obtain ⟨root, preverb, negation⟩ := v
  have hroot : Text.tokens root = [root] := (h root (by simp [tokens])).tokens_eq
  have hnegation : Text.tokens negationParticle = [negationParticle] :=
    Text.IsWord.tokens_eq (by decide)
  cases preverb with
  | none => cases negation <;> simp [text, tokens, modal, hroot, hnegation]
  | some m =>
    have hm : Text.tokens m = [m] := (h m (by simp [tokens])).tokens_eq
    cases negation <;> simp [text, tokens, modal, hroot, hm, hnegation]

theorem Clause.tokens_text {c : Clause String} (h : ∀ w ∈ c.tokens, Text.IsWord w) :
    Text.tokens c.sentence.text = c.tokens := by
  obtain ⟨subject, verb, object, phrases⟩ := c
  simp only [tokens, rest, additions, objectBlock, phraseBlocks, List.forall_mem_append,
    List.flatten_append] at h
  obtain ⟨⟨hsubject, -⟩, hverb, hobject, hphrases⟩ := h
  have hobject' : ((object.map Noun.text).elim [] fun o => objectMarker :: Text.tokens o) =
      (object.map fun o => objectMarker :: o.words).toList.flatten := by
    cases object with
    | none => rfl
    | some o =>
      have ho : ∀ w ∈ o.words, Text.IsWord w := fun w hw => hobject w (by simp [hw])
      simp [Noun.tokens_text ho]
  have hphrases' : (phrases.map fun p => p.1.text ++ " " ++ p.2.text).flatMap Text.tokens =
      (phrases.map fun p => p.1.text :: p.2.words).flatten := by
    rw [List.flatMap_def, List.map_map]
    congr 1
    apply List.map_congr_left
    intro p hp
    have hwords : ∀ w ∈ p.1.text :: p.2.words, Text.IsWord w := fun w hw =>
      hphrases w (List.mem_flatten.2 ⟨_, List.mem_map_of_mem hp, hw⟩)
    obtain ⟨hprep, hnoun⟩ := List.forall_mem_cons.1 hwords
    simp [hprep.tokens_eq, Noun.tokens_text hnoun]
  simp only [sentence, Sentence.tokens_text_ofParts, Noun.tokens_text hsubject,
    Verb.tokens_text hverb, hobject', hphrases', tokens, rest, additions, objectBlock, phraseBlocks,
    List.flatten_append, List.append_assoc]

theorem Noun.text_eq (n : Noun String) : n.text = " ".intercalate n.words := by
  cases n <;> simp [text, words]

theorem phrase_text_eq (w : String) (n : Noun String) :
    w ++ " " ++ n.text = " ".intercalate (w :: n.words) := by
  cases n <;> simp [Noun.text, Noun.words, String.append_assoc]

theorem Verb.text_eq (v : Verb String) : v.text = " ".intercalate v.tokens := by
  obtain ⟨root, preverb, negation⟩ := v
  cases preverb <;> cases negation <;>
    simp [text, tokens, modal, String.append_assoc]

def Stock.words (st : Stock α) : List α := st.content ++ st.preverb ++ st.plain ++ st.pronoun

@[simp] theorem Stock.mem_words {st : Stock α} {w : α} : w ∈ st.words ↔
    w ∈ st.content ∨ w ∈ st.preverb ∨ w ∈ st.plain ∨ w ∈ st.pronoun := by
  simp [words]

namespace Lexicon

theorem spelled_of_mem_words {words : List Word} {lx : Lexicon} (h : ofWords words = .ok lx)
    {t : String} (ht : t ∈ lx.stock.words) :
    ∃ r ∈ Role.drawn, Spelled words r t := by
  rcases Stock.mem_words.1 ht with ht | ht | ht | ht
  · exact ⟨.content, by decide, (mem_texts h).1 ht⟩
  · exact ⟨.preverb, by decide, (mem_texts h).1 ht⟩
  · exact ⟨.preposition, by decide, (mem_texts h).1 (mem_plainPrepositions.1 ht).1⟩
  · exact ⟨.pronoun, by decide, (mem_texts h).1 ht⟩

theorem forall_mem_stock_words {words : List Word} {lx : Lexicon} (h : ofWords words = .ok lx)
    {p : String → Prop} (hp : ∀ w ∈ words, ∀ r ∈ Role.drawn, w.has r → p w.text) :
    ∀ t ∈ lx.stock.words, p t := by
  intro t ht
  obtain ⟨r, hr, w, hw, hhas, rfl⟩ := spelled_of_mem_words h ht
  exact hp w hw r hr hhas

theorem mem_stock_words {words : List Word} {lx : Lexicon} (h : ofWords words = .ok lx) {t : String}
    (ht : t ≠ locative) : t ∈ lx.stock.words ↔ ∃ r ∈ Role.drawn, Spelled words r t := by
  refine ⟨spelled_of_mem_words h, ?_⟩
  rintro ⟨r, hr, hspelled⟩
  rw [← mem_texts h] at hspelled
  cases r with
  | particle => exact absurd hr (by decide)
  | content => simp [hspelled]
  | preverb => simp [hspelled]
  | preposition => simp [mem_plainPrepositions, hspelled, ht]
  | pronoun => simp [hspelled]

end Lexicon

theorem Noun.From.mem_words {st : Stock α} {n : Noun α} (h : n.From st) :
    ∀ w ∈ n.words, w ∈ st.content ∨ w ∈ st.pronoun := by
  cases n with
  | pronoun w => simpa [words] using! Or.inr h
  | single w => simpa [words] using! Or.inl h
  | compound head tail => simpa [words] using! ⟨.inl h.1, .inl h.2⟩

theorem Noun.From.mem_stock {st : Stock α} {n : Noun α} (h : n.From st) :
    ∀ w ∈ n.words, w ∈ st.words := by
  intro w hw
  rcases h.mem_words w hw with hw | hw <;> simp [hw]

theorem Verb.From.mem_tokens {st : Stock String} {v : Verb String} (h : v.From st) :
    ∀ w ∈ v.tokens, w ∈ st.content ∨ w ∈ st.preverb ∨ w = negationParticle := by
  obtain ⟨root, preverb, negation⟩ := v
  obtain ⟨hroot, hpreverb, -⟩ := h
  cases preverb <;> cases negation <;> simp_all [tokens]

theorem Verb.From.forall_mem_tokens {st : Stock String} {v : Verb String} {p : String → Prop}
    (hst : ∀ w ∈ st.words, p w) (hnegation : p negationParticle) (hv : v.From st) :
    ∀ w ∈ v.tokens, p w := by
  intro w hw
  rcases hv.mem_tokens w hw with hw | hw | rfl
  · exact hst w (by simp [hw])
  · exact hst w (by simp [hw])
  · exact hnegation

theorem Preposition.From.text_eq_or_mem {st : Stock String} {p : Preposition String}
    (h : p.From st) : p.text = TokiSentences.locative ∨ p.text ∈ st.plain := by
  cases p with
  | locative => exact .inl rfl
  | plain w => exact .inr h

namespace Clause

variable {st : Stock String} {c : Clause String}

theorem WordsFrom.mem_rest (hc : c.WordsFrom st) :
    ∀ w ∈ c.rest, w ∈ st.words ∨ w ∈ [negationParticle, objectMarker, locative] := by
  intro w hw
  simp only [rest, List.mem_append, List.mem_flatten, mem_additions] at hw
  rcases hw with hw | ⟨_, ⟨o, ho, rfl⟩ | ⟨p, hp, rfl⟩, hw⟩
  · rcases hc.verb.mem_tokens w hw with hw | hw | hw <;> simp [hw]
  · rcases List.mem_cons.1 hw with hw | hw
    · simp [hw]
    · exact .inl ((hc.object o ho).mem_stock w hw)
  · obtain ⟨hp, hn⟩ := hc.phrases p hp
    rcases List.mem_cons.1 hw with rfl | hw
    · rcases hp.text_eq_or_mem with hw | hw <;> simp [hw]
    · exact .inl (hn.mem_stock w hw)

theorem WordsFrom.forall_mem_tokens {p : String → Prop} (hst : ∀ w ∈ st.words, p w)
    (hmarkers : ∀ w ∈ [predicateMarker, negationParticle, objectMarker, locative], p w)
    (hc : c.WordsFrom st) : ∀ w ∈ c.tokens, p w := by
  intro w hw
  simp only [tokens, List.mem_append] at hw
  rcases hw with (hw | hw) | hw
  · exact hst w (hc.subject.mem_stock w hw)
  · split at hw
    · cases hw
    · exact hmarkers w (by simp [List.mem_singleton.1 hw])
  · rcases hc.mem_rest w hw with hw | hw
    · exact hst w hw
    · exact hmarkers w (List.mem_cons_of_mem _ hw)

theorem WordsFrom.isWord_of_mem_tokens (hst : ∀ w ∈ st.words, Text.IsWord w)
    (hc : c.WordsFrom st) : ∀ w ∈ c.tokens, Text.IsWord w :=
  hc.forall_mem_tokens hst (by decide)

end Clause

end TokiSentences
