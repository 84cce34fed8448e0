import Mathlib.Data.List.Destutter
import Mathlib.Data.List.Sort
import TokiSentences.Dictionary.Definition
import TokiSentences.Proofs.Shelving

namespace TokiSentences

namespace Role

def rank (r : Role) : Nat := all.idxOf r

theorem rank_injective : Function.Injective rank :=
  fun q _ h => (List.idxOf_inj (mem_all q)).1 h

def Before (q r : Role) : Prop := q.rank < r.rank

instance (q r : Role) : Decidable (Before q r) := inferInstanceAs (Decidable (q.rank < r.rank))

instance : Std.Irrefl Before := ⟨fun r => Nat.lt_irrefl r.rank⟩

instance : Std.Antisymm Before := ⟨fun _ _ h h' => absurd h (Nat.lt_asymm h')⟩

theorem pairwise_sorted (rs : List Role) : (sorted rs).Pairwise Before :=
  (by decide : all.Pairwise Before).filter _

theorem eq_sorted {rs qs : List Role} (h : rs.Pairwise Before) (hmem : ∀ r, r ∈ rs ↔ r ∈ qs) :
    rs = sorted qs :=
  h.eq_of_mem_iff (pairwise_sorted qs) fun r => (hmem r).trans mem_sorted.symm

def arrange (rs : List Role) : List Role := rs.mergeSort fun q r => q.rank ≤ r.rank

theorem arrange_perm (rs : List Role) : (arrange rs).Perm rs := List.mergeSort_perm rs _

theorem pairwise_arrange (rs : List Role) : (arrange rs).Pairwise fun q r => q.rank ≤ r.rank := by
  have h : (arrange rs).Pairwise fun q r => decide (q.rank ≤ r.rank) = true := by
    apply List.pairwise_mergeSort
    · intro p q r hpq hqr
      simp only [decide_eq_true_eq] at *
      omega
    · intro q r
      simp only [Bool.or_eq_true, decide_eq_true_eq]
      omega
  simpa using h

instance : Std.Antisymm fun q r : Role => q.rank ≤ r.rank :=
  ⟨fun _ _ h h' => rank_injective (Nat.le_antisymm h h')⟩

theorem sorted_eq_destutter (rs : List Role) : sorted rs = (arrange rs).destutter (· ≠ ·) := by
  rw [(pairwise_arrange rs).destutter_eq_dedup]
  symm
  apply eq_sorted
  · have hle : (arrange rs).dedup.Pairwise fun q r => q.rank ≤ r.rank :=
      (pairwise_arrange rs).sublist (List.dedup_sublist _)
    exact (hle.and (List.nodup_dedup _)).imp fun h => Nat.lt_of_le_of_ne h.1 (rank_injective.ne h.2)
  · intro r
    rw [List.mem_dedup, (arrange_perm rs).mem_iff]

theorem arrange_of_perm {rs qs : List Role} (h : rs.Perm qs) (hqs : qs.Pairwise Before) :
    arrange rs = qs := by
  apply ((arrange_perm rs).trans h).eq_of_pairwise
  · intro q r _ _ hqr hrq
    exact rank_injective (Nat.le_antisymm hqr hrq)
  · exact pairwise_arrange rs
  · exact hqs.imp Nat.le_of_lt

end Role

namespace Dictionary

open Text (isBlank dropBlanks)

def Blanks (s : String) : Prop := ∀ c ∈ s.toList, isBlank c

def Opens (tag definition : String) : Prop :=
  ∃ blanks rest, Blanks blanks ∧ definition = blanks ++ tag ++ rest

inductive Tells (definition : String) : Role → Prop
  | particle : Opens "(particle)" definition → Tells definition .particle
  | interjection : Opens "(interjection)" definition → Tells definition .particle
  | preverb : Opens "(preverb)" definition → Tells definition .preverb
  | preposition : Opens "(preposition)" definition → Tells definition .preposition
  | content : (∀ tag ∈ ["(particle)", "(interjection)", "(preverb)", "(preposition)"],
      ¬Opens tag definition) → Tells definition .content

/-- The same definition behind more blanks, or another one with the same tag. -/
inductive Reworded : String → String → Prop
  | padded : Blanks blanks → Reworded definition (blanks ++ definition)
  | retold : (tag, r) ∈ tags → Blanks blanks →
      Reworded (blanks ++ tag ++ rest) (blanks ++ tag ++ rest')

theorem dropBlanks_append {blanks : String} (h : Blanks blanks) (cs : List Char) :
    dropBlanks (blanks.toList ++ cs) = dropBlanks cs :=
  List.dropWhile_append_of_pos h

theorem opens_iff {tag : String} (htag : tag.toList.head? = some '(') {definition : String} :
    Opens tag definition ↔ tag.toList <+: dropBlanks definition.toList := by
  obtain ⟨cs, hcs⟩ := List.head?_eq_some_iff.1 htag
  have hkeep (more : List Char) : dropBlanks (tag.toList ++ more) = tag.toList ++ more := by
    rw [hcs]
    rfl
  constructor
  · rintro ⟨blanks, rest, hblanks, rfl⟩
    refine ⟨rest.toList, ?_⟩
    rw [String.append_assoc, String.toList_append, dropBlanks_append hblanks,
      String.toList_append, hkeep]
  · rintro ⟨rest, hrest⟩
    refine ⟨.ofList (definition.toList.takeWhile isBlank), .ofList rest, ?_, ?_⟩
    · intro c hc
      rw [String.toList_ofList] at hc
      exact List.all_eq_true.1 List.all_takeWhile c hc
    · apply String.toList_injective
      simp only [String.toList_append, String.toList_ofList]
      rw [List.append_assoc, hrest]
      exact List.takeWhile_append_dropWhile.symm

theorem head_of_mem_tags {tag : String} {r : Role} (h : (tag, r) ∈ tags) :
    tag.toList.head? = some '(' := by
  have hall : ∀ t ∈ tags, t.1.toList.head? = some '(' := by decide
  exact hall _ h

theorem Opens.unique {s t definition : String} {q r : Role} (hs : (s, q) ∈ tags)
    (ht : (t, r) ∈ tags) (h : Opens s definition) (h' : Opens t definition) : q = r := by
  rw [opens_iff (head_of_mem_tags hs)] at h
  rw [opens_iff (head_of_mem_tags ht)] at h'
  have hprefix : s.toList <+: t.toList ∨ t.toList <+: s.toList :=
    List.prefix_or_prefix_of_prefix h h'
  have hall : ∀ s ∈ tags, ∀ t ∈ tags, s.1.toList <+: t.1.toList ∨ t.1.toList <+: s.1.toList →
      s.2 = t.2 := by decide
  exact hall _ hs _ ht hprefix

theorem roleOf_of_opens {tag definition : String} {r : Role} (ht : (tag, r) ∈ tags)
    (h : Opens tag definition) : roleOf definition = r := by
  cases hfind : tags.find? fun t => opensWith (dropBlanks definition.toList) t.1 with
  | none =>
    have hnot := List.find?_eq_none.1 hfind (tag, r) ht
    rw [opens_iff (head_of_mem_tags ht)] at h
    exact absurd (List.isPrefixOf_iff_prefix.2 h) hnot
  | some t =>
    obtain ⟨s, q⟩ := t
    have hs : (s, q) ∈ tags := List.mem_of_find?_eq_some hfind
    have hfound : opensWith (dropBlanks definition.toList) s :=
      List.find?_some (p := fun t : String × Role => opensWith _ t.1) hfind
    have hopens : Opens s definition :=
      (opens_iff (head_of_mem_tags hs)).2 (List.isPrefixOf_iff_prefix.1 hfound)
    simpa [roleOf, hfind] using hopens.unique hs ht h

theorem roleOf_of_not_opens {definition : String}
    (h : ∀ t ∈ tags, ¬Opens t.1 definition) : roleOf definition = .content := by
  have hfind : (tags.find? fun t => opensWith (dropBlanks definition.toList) t.1) = none := by
    rw [List.find?_eq_none]
    intro t ht hopens
    exact h t ht ((opens_iff (head_of_mem_tags ht)).2 (List.isPrefixOf_iff_prefix.1 hopens))
  rw [roleOf, hfind]
  rfl

theorem tells_iff {definition : String} {r : Role} :
    Tells definition r ↔ roleOf definition = r := by
  constructor
  · intro h
    cases h with
    | particle h => exact roleOf_of_opens (by decide) h
    | interjection h => exact roleOf_of_opens (by decide) h
    | preverb h => exact roleOf_of_opens (by decide) h
    | preposition h => exact roleOf_of_opens (by decide) h
    | content h => exact roleOf_of_not_opens (by simpa [tags] using h)
  · rintro rfl
    by_cases h : ∀ t ∈ tags, ¬Opens t.1 definition
    · rw [roleOf_of_not_opens h]
      exact .content (by simpa [tags] using h)
    · obtain ⟨⟨tag, r⟩, ht, hopens⟩ : ∃ t ∈ tags, Opens t.1 definition := by simpa using h
      rw [roleOf_of_opens ht hopens]
      simp only [tags, List.mem_cons, List.not_mem_nil, or_false, Prod.mk.injEq] at ht
      rcases ht with ⟨rfl, rfl⟩ | ⟨rfl, rfl⟩ | ⟨rfl, rfl⟩ | ⟨rfl, rfl⟩
      · exact .particle hopens
      · exact .interjection hopens
      · exact .preverb hopens
      · exact .preposition hopens

theorem Reworded.roleOf_eq {d d' : String} (h : Reworded d d') : roleOf d' = roleOf d := by
  cases h with
  | padded hblanks => rw [roleOf, String.toList_append, dropBlanks_append hblanks, roleOf]
  | retold ht hblanks =>
    rw [roleOf_of_opens ht ⟨_, _, hblanks, rfl⟩, roleOf_of_opens ht ⟨_, _, hblanks, rfl⟩]

theorem rolesOf_cases (word : String) : (∃ r, ∀ definitions, rolesOf word definitions = [r]) ∨
    ∀ definitions, rolesOf word definitions = Role.sorted (definitions.map roleOf) := by
  unfold rolesOf
  split
  · exact .inl ⟨.pronoun, fun _ => rfl⟩
  · split
    · exact .inl ⟨.particle, fun _ => rfl⟩
    · exact .inr fun _ => rfl

theorem pairwise_rolesOf (word : String) (definitions : List String) :
    (rolesOf word definitions).Pairwise Role.Before := by
  rcases rolesOf_cases word with ⟨r, h⟩ | h
  · rw [h]
    exact List.pairwise_singleton _ _
  · rw [h]
    exact Role.pairwise_sorted _

theorem rolesOf_congr (word : String) {definitions definitions' : List String}
    (h : ∀ r, r ∈ definitions'.map roleOf ↔ r ∈ definitions.map roleOf) :
    rolesOf word definitions' = rolesOf word definitions := by
  rcases rolesOf_cases word with ⟨r, hr⟩ | hr
  · rw [hr, hr]
  · rw [hr, hr, Role.sorted_congr h]

theorem rolesOf_append (word : String) (definitions more : List String) :
    rolesOf word (definitions ++ more) =
      Role.sorted (rolesOf word definitions ++ rolesOf word more) := by
  apply Role.eq_sorted (pairwise_rolesOf word _)
  intro r
  rcases rolesOf_cases word with ⟨q, h⟩ | h <;> simp [h]

theorem map_roleOf_of_reworded {definitions definitions' : List String}
    (h : List.Forall₂ Reworded definitions definitions') :
    definitions'.map roleOf = definitions.map roleOf := by
  induction h with
  | nil => rfl
  | cons h _ ih => rw [List.map_cons, List.map_cons, h.roleOf_eq, ih]

/-- The roles of a word come each once and in their order. Pronouns and the forced particle have the
one role that they stand for; any other word has the roles that its definitions tell of, and is
never a pronoun. What is done to the definitions makes no difference as long as the same roles are
told of: they may be exchanged or repeated, stand behind blanks, or go on otherwise after a tag.
More definitions add their roles, and a word with these roles has them again, in whatever order it
goes through its set. -/
theorem rolesOf_canonical (word : String) (definitions : List String) :
    let rs := rolesOf word definitions
    rs.Pairwise Role.Before ∧
    (word ∈ ["mi", "sina", "ona", "ni"] → rs = [.pronoun]) ∧
    (word = "seme" → rs = [.particle]) ∧
    (word ∉ ["mi", "sina", "ona", "ni"] → word ≠ "seme" →
      rs = (Role.arrange (definitions.map roleOf)).destutter (· ≠ ·) ∧
      (∀ r, r ∈ rs ↔ ∃ d ∈ definitions, Tells d r) ∧ .pronoun ∉ rs) ∧
    (∀ definitions', (∀ d, d ∈ definitions' ↔ d ∈ definitions) →
      rolesOf word definitions' = rs) ∧
    (∀ definitions', List.Forall₂ Reworded definitions definitions' →
      rolesOf word definitions' = rs) ∧
    (∀ more, rolesOf word (definitions ++ more) =
      (Role.arrange (rs ++ rolesOf word more)).destutter (· ≠ ·)) ∧
    ∀ p, (Word.ofRoles word rs).Listed p → Role.arrange p.2 = rs := by
  intro rs
  have hordered : rs.Pairwise Role.Before := pairwise_rolesOf word definitions
  refine ⟨hordered, ?pronoun, ?forced, ?told, ?relisted, ?reworded, ?more, ?listed⟩
  case pronoun => exact fun h => if_pos h
  case forced =>
    rintro rfl
    rfl
  case told =>
    intro hpronoun hforced
    have hrs : rs = Role.sorted (definitions.map roleOf) := by
      simp [rs, rolesOf, pronouns, forcedParticles, hforced, hpronoun]
    have hmem (r : Role) : r ∈ rs ↔ ∃ d ∈ definitions, Tells d r := by
      simp [hrs, tells_iff]
    refine ⟨hrs.trans (Role.sorted_eq_destutter _), hmem, ?_⟩
    rw [hmem]
    rintro ⟨d, -, h⟩
    cases h
  case relisted =>
    intro definitions' h
    apply rolesOf_congr
    simp [h]
  case reworded =>
    intro definitions' h
    apply rolesOf_congr
    simp [map_roleOf_of_reworded h]
  case more =>
    intro more
    rw [rolesOf_append, Role.sorted_eq_destutter]
  case listed =>
    intro p hp
    have hperm : p.2.Perm (Role.sorted rs) := hp.roles
    rw [Role.arrange_of_perm hperm (Role.pairwise_sorted rs)]
    exact (Role.eq_sorted hordered fun _ => Iff.rfl).symm

theorem rolesOf_canonical_lon :
    let definitions := ["(preposition) located at", "(noun) truth", "(verb) to exist"]
    let definitions' := ["(preposition)", "\u2003(noun) truth", "(verb) to exist"]
    rolesOf "lon" definitions = [.content, .preposition] ∧
    rolesOf "lon" definitions' = rolesOf "lon" definitions ∧
    rolesOf "lon" definitions.reverse = rolesOf "lon" definitions ∧
    Role.arrange [.preposition, .content] = rolesOf "lon" definitions ∧
    rolesOf "sina" definitions = [.pronoun] ∧ rolesOf "seme" definitions = [.particle] ∧
    .pronoun ∉ rolesOf "lon" definitions := by
  intro definitions definitions'
  obtain ⟨-, -, -, htold, hrelisted, hreworded, -, hlisted⟩ := rolesOf_canonical "lon" definitions
  have hroles : rolesOf "lon" definitions = [.content, .preposition] := by decide
  have hblank : Blanks "" := by simp [Blanks]
  have hwide : Blanks "\u2003" := by simp [Blanks, isBlank]
  have hshorter : Reworded "(preposition) located at" "(preposition)" :=
    @Reworded.retold "(preposition)" .preposition "" " located at" "" (by decide) hblank
  have hpadded : Reworded "(noun) truth" "\u2003(noun) truth" := .padded hwide
  have hsame : Reworded "(verb) to exist" "(verb) to exist" := .padded hblank
  refine ⟨hroles, hreworded _ (.cons hshorter (.cons hpadded (.cons hsame .nil))),
    hrelisted _ (by simp), ?_, (rolesOf_canonical "sina" definitions).2.1 (by decide),
    (rolesOf_canonical "seme" definitions).2.2.1 rfl, (htold (by decide) (by decide)).2.2⟩
  exact hlisted ("lon", [.preposition, .content]) ⟨rfl, by decide⟩

end Dictionary

end TokiSentences
