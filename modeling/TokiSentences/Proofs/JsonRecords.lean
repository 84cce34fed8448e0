import TokiSentences.Json.Sentence
import TokiSentences.Json.Word
import TokiSentences.Proofs.JsonText

namespace TokiSentences

namespace Json

@[simp] theorem plain_ofText (s : String) : Plain (ofText s) := .text s

@[simp] theorem plain_ofTexts (ss : List String) : Plain (ofTexts ss) := by
  apply Plain.list
  intro j hj
  obtain ⟨s, -, rfl⟩ := List.mem_map.1 hj
  exact .text s

@[simp] theorem plain_ofOption (o : Option String) : Plain (ofOption o) := by
  cases o with
  | none => exact .null
  | some s => exact .text s

theorem plain_ofFields {fields : List (String × Json)} (h : ∀ f ∈ fields, Plain f.2) :
    Plain (ofFields fields) := by
  apply Plain.object
  · intro m hm
    obtain ⟨f, -, rfl⟩ := List.mem_map.1 hm
    rfl
  · intro m hm
    obtain ⟨f, hf, rfl⟩ := List.mem_map.1 hm
    exact h f hf

theorem mapM_map {f : α → β} {g : β → Option α} (h : ∀ a, g (f a) = some a) (as : List α) :
    (as.map f).mapM g = some as := by
  induction as with
  | nil => rfl
  | cons a as ih => simp [h, ih]

@[simp] theorem text?_ofText (s : String) : (ofText s).text? = some s := rfl

@[simp] theorem texts?_ofTexts (ss : List String) : (ofTexts ss).texts? = some ss :=
  mapM_map (f := ofText) (fun _ => rfl) ss

theorem names?_map (fields : List (String × Json)) :
    names? (fields.map fun f => (some f.1, f.2)) = some fields :=
  mapM_map (f := fun f : String × Json => (some f.1, f.2)) (fun _ => rfl) fields

theorem filter_eq_nil_of_not_mem {fields : List (String × Json)} {name : String}
    (h : name ∉ fields.map (·.1)) : fields.filter (·.1 == name) = [] := by
  rw [List.filter_eq_nil_iff]
  intro f hf heq
  obtain rfl : f.1 = name := by simpa using heq
  exact h (List.mem_map_of_mem hf)

theorem filter_eq_singleton {fields : List (String × Json)} {f : String × Json}
    (hnames : (fields.map (·.1)).Nodup) (hf : f ∈ fields) :
    fields.filter (·.1 == f.1) = [f] := by
  induction fields with
  | nil => cases hf
  | cons g fields ih =>
    rw [List.map_cons, List.nodup_cons] at hnames
    rcases List.mem_cons.1 hf with rfl | hf
    · rw [List.filter_cons_of_pos (by simp), filter_eq_nil_of_not_mem hnames.1]
    · have hne : g.1 ≠ f.1 := by
        intro heq
        exact hnames.1 (heq ▸ List.mem_map_of_mem hf)
      rw [List.filter_cons_of_neg (by simpa using hne), ih hnames.2 hf]

theorem member?_of_mem {fields : List (String × Json)} {f : String × Json}
    (hnames : (fields.map (·.1)).Nodup) (hf : f ∈ fields) (p : Presence) :
    member? fields (f.1, p) = some (some f.2) := by
  rw [member?, filter_eq_singleton hnames hf]

theorem member?_of_not_mem {fields : List (String × Json)} {name : String}
    (h : name ∉ fields.map (·.1)) (p : Presence) : member? fields (name, p) = p.absent? := by
  rw [member?, filter_eq_nil_of_not_mem h]

theorem mapM_member? {fields written : List (String × Json)} {present : List (String × Presence)}
    (hnames : (fields.map (·.1)).Nodup) (hwritten : ∀ f ∈ written, f ∈ fields)
    (hpresent : present.map (·.1) = written.map (·.1)) :
    present.mapM (member? fields) = some (written.map fun f => some f.2) := by
  induction written generalizing present with
  | nil =>
    obtain rfl : present = [] := by simpa using hpresent
    rfl
  | cons f written ih =>
    cases present with
    | nil => simp at hpresent
    | cons p present =>
      obtain ⟨name, p⟩ := p
      obtain ⟨rfl, hrest⟩ : name = f.1 ∧ present.map (·.1) = written.map (·.1) := by
        simpa using hpresent
      have hf := member?_of_mem hnames (hwritten f List.mem_cons_self) p
      have hmore := ih (fun g hg => hwritten g (List.mem_cons_of_mem f hg)) hrest
      simp [hf, hmore]

theorem record?_ofFields {fields : List (String × Json)} {ps : List (String × Presence)}
    (hnames : (fields.map (·.1)).Nodup) (hps : ps.map (·.1) = fields.map (·.1)) :
    record? ps (ofFields fields) = some (fields.map fun f => some f.2) := by
  have hfields := mapM_member? hnames (fun _ hf => hf) hps
  simp [record?, ofFields, names?_map, hfields]

theorem record?_ofFields_defaulted (fields : List (String × Json))
    (ps : List (String × Presence)) (name : String) (hnames : (fields.map (·.1)).Nodup)
    (hps : ps.map (·.1) = fields.map (·.1)) (hname : name ∉ fields.map (·.1)) :
    record? (ps ++ [(name, .defaulted)]) (ofFields fields) =
      some (fields.map (fun f => some f.2) ++ [none]) := by
  have hfields := mapM_member? hnames (fun _ hf => hf) hps
  have habsent := member?_of_not_mem hname .defaulted
  simp [record?, ofFields, names?_map, hfields, habsent, Presence.absent?]

end Json

theorem Role.ofJson?_toJson (r : Role) : ofJson? r.toJson = some r := by
  simp [ofJson?, toJson, Json.ofText]

@[simp] theorem objectOfJson?_ofOption (o : Option String) :
    objectOfJson? (.ofOption o) = some o := by
  cases o <;> rfl

namespace Sentence

theorem plain_toJson (s : Sentence) : s.toJson.Plain := by
  apply Json.plain_ofFields
  simp

theorem ofJson?_toJson (s : Sentence) : ofJson? s.toJson = some s := by
  rw [ofJson?, toJson, Json.record?_ofFields (by simp) rfl]
  simp

end Sentence

namespace Parts

theorem plain_toJson (p : Parts) : p.toJson.Plain := by
  apply Json.plain_ofFields
  intro f hf
  rcases List.mem_append.1 hf with hf | hf
  · revert f
    simp
  · split at hf
    · cases hf
    · obtain rfl := List.mem_singleton.1 hf
      exact Json.plain_ofTexts p.prepositions

theorem ofJson?_toJson (p : Parts) : ofJson? p.toJson = some p := by
  obtain ⟨subject, verb, object, prepositions⟩ := p
  cases prepositions with
  | nil =>
    have hread := Json.record?_ofFields_defaulted
      [("subject", .ofText subject), ("verb", .ofText verb), ("object", .ofOption object)]
      [("subject", .needed), ("verb", .needed), ("object", .nullable)]
      "prepositions" (by simp) rfl (by simp)
    simp only [List.cons_append, List.nil_append] at hread
    simp [ofJson?, toJson, hread]
  | cons p ps =>
    rw [ofJson?, toJson, Json.record?_ofFields (by simp) rfl]
    simp

end Parts

namespace Breakdown

theorem plain_toJson (b : Breakdown) : b.toJson.Plain := by
  apply Json.plain_ofFields
  simp [Parts.plain_toJson]

theorem ofJson?_toJson (b : Breakdown) : ofJson? b.toJson = some b := by
  rw [ofJson?, toJson, Json.record?_ofFields (by simp) rfl]
  simp [Parts.ofJson?_toJson]

theorem plain_prettyList (bs : List Breakdown) : (prettyList bs).Plain := by
  apply Json.Plain.list
  intro j hj
  obtain ⟨b, -, rfl⟩ := List.mem_map.1 hj
  exact b.plain_toJson

theorem listOfJson?_prettyList (bs : List Breakdown) : listOfJson? (prettyList bs) = some bs :=
  Json.mapM_map ofJson?_toJson bs

end Breakdown

theorem Sentence.breakdown_injective {s t : Sentence} (h : s.breakdown = t.breakdown) : s = t := by
  cases s
  cases t
  simp_all [breakdown]

namespace Word

theorem plain_toJson (text : String) (roles : List Role) : (toJson text roles).Plain := by
  apply Json.plain_ofFields
  have hroles : (Json.list (roles.map Role.toJson)).Plain := by
    apply Json.Plain.list
    intro j hj
    obtain ⟨r, -, rfl⟩ := List.mem_map.1 hj
    exact .text r.title
  simp [hroles]

theorem ofJson?_toJson {w : Word} {roles : List Role} (h : ∀ r, r ∈ roles ↔ w.has r) :
    ofJson? (toJson w.text roles) = some w := by
  have hroles : rolesOfJson? (.list (roles.map Role.toJson)) = some roles :=
    Json.mapM_map Role.ofJson?_toJson roles
  have hset : RoleSet.ofList roles = w.roles := by
    apply RoleSet.ext
    intro r
    rw [RoleSet.contains_ofList, Bool.eq_iff_iff, decide_eq_true_iff]
    exact h r
  rw [ofJson?, toJson, Json.record?_ofFields (by simp) rfl]
  simp [hroles, ofRoles, hset]

end Word

/-- Sentences, breakdowns and their parts are read back from one line of JSON, and a list of
breakdowns from the lines it is spread out on. So no two sentences have the same JSON for their
breakdowns. A word is read back in whatever order its roles are listed. -/
theorem records_read_back :
    (∀ s : Sentence, (Json.read? s.toJson.compact).bind Sentence.ofJson? = some s) ∧
    (∀ p : Parts, (Json.read? p.toJson.compact).bind Parts.ofJson? = some p) ∧
    (∀ b : Breakdown, (Json.read? b.toJson.compact).bind Breakdown.ofJson? = some b) ∧
    (∀ bs : List Breakdown,
      (Json.read? (Breakdown.prettyList bs).pretty).bind Breakdown.listOfJson? = some bs) ∧
    (∀ s t : Sentence, s.breakdown.toJson.compact = t.breakdown.toJson.compact → s = t) ∧
    (∀ ss ts : List Sentence, (Breakdown.prettyList (ss.map (·.breakdown))).pretty =
      (Breakdown.prettyList (ts.map (·.breakdown))).pretty → ss = ts) ∧
    ∀ (w : Word) (roles : List Role), (∀ r, r ∈ roles ↔ w.has r) →
      (Json.read? (Word.toJson w.text roles).compact).bind Word.ofJson? = some w := by
  have hbreakdown (b : Breakdown) :
      (Json.read? b.toJson.compact).bind Breakdown.ofJson? = some b := by
    rw [b.plain_toJson.read?_compact, Option.bind_some, Breakdown.ofJson?_toJson]
  have hlist (bs : List Breakdown) :
      (Json.read? (Breakdown.prettyList bs).pretty).bind Breakdown.listOfJson? = some bs := by
    rw [(Breakdown.plain_prettyList bs).read?_pretty, Option.bind_some,
      Breakdown.listOfJson?_prettyList]
  refine ⟨?_, ?_, hbreakdown, hlist, ?_, ?_, ?_⟩
  · intro s
    rw [s.plain_toJson.read?_compact, Option.bind_some, Sentence.ofJson?_toJson]
  · intro p
    rw [p.plain_toJson.read?_compact, Option.bind_some, Parts.ofJson?_toJson]
  · intro s t h
    have hread := hbreakdown s.breakdown
    rw [h, hbreakdown t.breakdown] at hread
    exact (Sentence.breakdown_injective (Option.some.inj hread)).symm
  · intro ss ts h
    have hread := hlist (ss.map (·.breakdown))
    rw [h, hlist (ts.map (·.breakdown))] at hread
    exact ((List.map_inj_right fun _ _ => Sentence.breakdown_injective).1
      (Option.some.inj hread)).symm
  · intro w roles h
    rw [(Word.plain_toJson w.text roles).read?_compact, Option.bind_some, Word.ofJson?_toJson h]

theorem records_read_back_escaped :
    let s : Sentence := .ofParts "\"mi\"" "ala\\\x01" none []
    let w : Word := .ofRoles "lon" [.content, .preposition]
    (Json.read? s.breakdown.toJson.compact).bind Breakdown.ofJson? = some s.breakdown ∧
      (Json.read? (Word.toJson "lon" [.preposition, .content]).compact).bind Word.ofJson? =
        some w := by
  intro s w
  obtain ⟨-, -, hbreakdown, -, -, -, hword⟩ := records_read_back
  refine ⟨hbreakdown s.breakdown, hword w [.preposition, .content] ?_⟩
  intro r
  cases r <;> decide

end TokiSentences
