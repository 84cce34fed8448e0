namespace TokiSentences

inductive Role
  | particle
  | content
  | preverb
  | preposition
  | pronoun
  deriving DecidableEq, Repr

namespace Role

def all : List Role := [.particle, .content, .preverb, .preposition, .pronoun]

def drawn : List Role := [.content, .preverb, .preposition, .pronoun]

def name : Role → String
  | .particle => "particle"
  | .content => "content"
  | .preverb => "preverb"
  | .preposition => "preposition"
  | .pronoun => "pronoun"

def title : Role → String
  | .particle => "Particle"
  | .content => "Content"
  | .preverb => "Preverb"
  | .preposition => "Preposition"
  | .pronoun => "Pronoun"

def ofName? (s : String) : Option Role := all.find? (·.name == s)

def ofTitle? (s : String) : Option Role := all.find? (·.title == s)

@[simp] theorem mem_all (r : Role) : r ∈ all := by cases r <;> decide

@[simp] theorem ofName?_name (r : Role) : ofName? r.name = some r := by cases r <;> rfl

@[simp] theorem ofTitle?_title (r : Role) : ofTitle? r.title = some r := by cases r <;> rfl

def sorted (rs : List Role) : List Role := all.filter (· ∈ rs)

@[simp] theorem mem_sorted {r : Role} {rs : List Role} : r ∈ sorted rs ↔ r ∈ rs := by
  simp [sorted]

theorem sorted_congr {rs qs : List Role} (h : ∀ r, r ∈ rs ↔ r ∈ qs) : sorted rs = sorted qs := by
  simp [sorted, h]

@[simp] theorem sorted_sorted (rs : List Role) : sorted (sorted rs) = sorted rs :=
  sorted_congr fun _ => mem_sorted

end Role

structure RoleSet where
  toList : List Role
  sorted_toList : Role.sorted toList = toList
  deriving DecidableEq

namespace RoleSet

def ofList (rs : List Role) : RoleSet := ⟨Role.sorted rs, Role.sorted_sorted rs⟩

def contains (s : RoleSet) (r : Role) : Bool := decide (r ∈ s.toList)

def size (s : RoleSet) : Nat := s.toList.length

def isEmpty (s : RoleSet) : Bool := s.toList.isEmpty

@[simp] theorem contains_ofList {rs : List Role} {r : Role} :
    (ofList rs).contains r = decide (r ∈ rs) := by
  simp [contains, ofList]

theorem ext {s t : RoleSet} (h : ∀ r, s.contains r = t.contains r) : s = t := by
  obtain ⟨rs, hr⟩ := s
  obtain ⟨qs, hq⟩ := t
  have : rs = qs := by
    rw [← hr, ← hq]
    exact Role.sorted_congr fun r => by simpa [contains] using h r
  subst this
  rfl

end RoleSet

end TokiSentences
