import Mathlib.Data.List.TakeWhile
import TokiSentences.Proofs.Numerals
import TokiSentences.Proofs.Tokens
import TokiSentences.Shell.Command

namespace TokiSentences

namespace Text

theorem splitBlanks_eq_nil_iff {cs : List Char} : splitBlanks cs = [] ↔ ∀ c ∈ cs, isBlank c := by
  induction cs with
  | nil => simp
  | cons c cs ih =>
    cases hc : isBlank c with
    | true => simp [splitBlanks_blank hc, hc, ih]
    | false => simp [splitBlanks_ne_nil hc, hc]

theorem splitBlanks_dropBlanks (cs : List Char) : splitBlanks (dropBlanks cs) = splitBlanks cs := by
  induction cs with
  | nil => rfl
  | cons c cs ih =>
    cases hc : isBlank c with
    | true =>
      rw [splitBlanks_blank hc, ← ih, dropBlanks, List.dropWhile_cons_of_pos hc]
      rfl
    | false => rw [dropBlanks, List.dropWhile_cons_of_neg (by simp [hc])]

theorem splitBlanks_append_blanks (cs : List Char) {blanks : List Char}
    (h : ∀ c ∈ blanks, isBlank c) : splitBlanks (cs ++ blanks) = splitBlanks cs := by
  cases blanks with
  | nil => rw [List.append_nil]
  | cons b blanks =>
    obtain ⟨hb, hblanks⟩ := List.forall_mem_cons.1 h
    rw [splitBlanks_append hb, splitBlanks_eq_nil_iff.2 hblanks, List.append_nil]

theorem splitBlanks_trimBlanks (cs : List Char) : splitBlanks (trimBlanks cs) = splitBlanks cs := by
  let ending := (dropBlanks cs).reverse
  have hends : dropBlanks cs = trimBlanks cs ++ (ending.takeWhile isBlank).reverse := calc
    dropBlanks cs = ending.reverse := (List.reverse_reverse _).symm
    _ = (ending.takeWhile isBlank ++ ending.dropWhile isBlank).reverse := by
      rw [List.takeWhile_append_dropWhile]
    _ = trimBlanks cs ++ (ending.takeWhile isBlank).reverse := List.reverse_append
  have hblanks : ∀ c ∈ (ending.takeWhile isBlank).reverse, isBlank c := by
    intro c hc
    exact List.mem_takeWhile_imp (List.mem_reverse.1 hc)
  rw [← splitBlanks_dropBlanks cs, hends, splitBlanks_append_blanks _ hblanks]

@[simp] theorem tokens_trim (s : String) : tokens (trim s) = tokens s := by
  rw [tokens, trim, String.toList_ofList, splitBlanks_trimBlanks, tokens]

theorem trim_eq_empty_iff {s : String} : trim s = "" ↔ tokens s = [] := by
  have hblank : trimBlanks s.toList = [] ↔ splitBlanks s.toList = [] := by
    rw [trimBlanks, List.reverse_eq_nil_iff, dropBlanks, List.dropWhile_eq_nil_iff,
      ← splitBlanks_dropBlanks, splitBlanks_eq_nil_iff]
    simp
  rw [trim, tokens, List.map_eq_nil_iff, ← hblank, ← String.toList_inj, String.toList_ofList]
  rfl

end Text

namespace Shell

def Style.name : Style → String
  | brief => "gen"
  | verbose => "verbose"

theorem Style.name_inj {style style' : Style} : style.name = style'.name ↔ style = style' := by
  cases style <;> cases style' <;> simp [name]

theorem Line.read_eq (line : String) : Line.read line = match Text.tokens line with
    | [] => .blank
    | name :: arguments => .command (.ofTokens name arguments) := by
  rw [Line.read, Text.tokens_trim]
  cases htokens : Text.tokens line with
  | nil => simp [Text.trim_eq_empty_iff.2 htokens]
  | cons name arguments =>
    have hne : Text.trim line ≠ "" := by simp [Ne, Text.trim_eq_empty_iff, htokens]
    simp [hne]

theorem count?_eq_some_iff {argument : String} {n : Nat} :
    count? (some argument) = some n ↔ Text.Numeral argument n ∧ 1 ≤ n ∧ n ≤ maxCount := by
  have hle : n ≤ maxCount → n ≤ Text.maxWord := fun h => h.trans (by decide)
  simp only [count?, Option.filter_eq_some_iff, Text.word?_eq_some_iff, decide_eq_true_eq]
  tauto

theorem count?_bounds {argument : Option String} {n : Nat} (h : count? argument = some n) :
    1 ≤ n ∧ n ≤ maxCount := by
  cases argument with
  | none =>
    cases h
    decide
  | some argument => exact (count?_eq_some_iff.1 h).2

namespace Command

variable {name : String} {arguments : List String}

theorem generation_cases (style : Style) (arguments : List String) :
    (∃ n, generation style arguments = generate style n ∧ count? arguments.head? = some n) ∨
      generation style arguments = badCount ∧ count? arguments.head? = none := by
  unfold generation
  cases count? arguments.head? with
  | some n => exact .inl ⟨n, rfl, rfl⟩
  | none => exact .inr ⟨rfl, rfl⟩

theorem listing_cases (arguments : List String) :
    (∃ roles, listing arguments = words roles) ∨ ∃ role, listing arguments = badRole role := by
  cases arguments with
  | nil => exact .inl ⟨_, rfl⟩
  | cons role more => cases h : Role.ofName? role <;> simp [listing, h]

theorem seeding_cases (arguments : List String) :
    (∃ n, seeding arguments = seed n) ∨ seeding arguments = noSeed ∨
      ∃ text, seeding arguments = badSeed text := by
  cases arguments with
  | nil => exact .inr (.inl rfl)
  | cons text more => cases h : Text.word? text <;> simp [seeding, h]

theorem seeding_eq_seed_iff {text : String} {n : Nat} :
    seeding (text :: arguments) = seed n ↔ Text.Numeral text n ∧ n ≤ Text.maxWord := by
  rw [← Text.word?_eq_some_iff]
  cases h : Text.word? text <;> simp [seeding, h]

theorem ofTokens_eq_quit_iff :
    ofTokens name arguments = quit ↔ Text.lower name ∈ ["quit", "exit", "q"] := by
  have hgeneration (style : Style) : generation style arguments ≠ quit := by
    rcases generation_cases style arguments with ⟨n, h, -⟩ | ⟨h, -⟩ <;> simp [h]
  have hlisting : listing arguments ≠ quit := by
    rcases listing_cases arguments with ⟨roles, h⟩ | ⟨role, h⟩ <;> simp [h]
  have hseeding : seeding arguments ≠ quit := by
    rcases seeding_cases arguments with ⟨n, h⟩ | h | ⟨text, h⟩ <;> simp [h]
  unfold ofTokens
  generalize Text.lower name = lowered
  split <;> simp_all

theorem ofTokens_eq_generate_iff {style : Style} {n : Nat} :
    ofTokens name arguments = generate style n ↔
      Text.lower name = style.name ∧ count? arguments.head? = some n := by
  have hgeneration (style' : Style) : generation style' arguments = generate style n ↔
      style' = style ∧ count? arguments.head? = some n := by
    rcases generation_cases style' arguments with ⟨m, h, hm⟩ | ⟨h, hm⟩ <;> simp [h, hm]
  have hlisting : listing arguments ≠ generate style n := by
    rcases listing_cases arguments with ⟨roles, h⟩ | ⟨role, h⟩ <;> simp [h]
  have hseeding : seeding arguments ≠ generate style n := by
    rcases seeding_cases arguments with ⟨n, h⟩ | h | ⟨text, h⟩ <;> simp [h]
  unfold ofTokens
  generalize Text.lower name = lowered
  split <;> cases style <;> simp_all [Style.name]

theorem ofTokens_eq_seed_iff {n : Nat} : ofTokens name arguments = seed n ↔
    Text.lower name = "seed" ∧ seeding arguments = seed n := by
  have hgeneration (style : Style) : generation style arguments ≠ seed n := by
    rcases generation_cases style arguments with ⟨n, h, -⟩ | ⟨h, -⟩ <;> simp [h]
  have hlisting : listing arguments ≠ seed n := by
    rcases listing_cases arguments with ⟨roles, h⟩ | ⟨role, h⟩ <;> simp [h]
  unfold ofTokens
  generalize Text.lower name = lowered
  split <;> simp_all

end Command

namespace Line

/-- What the tokens of a line tell of the command that is read off it. -/
structure Understood (line : String) : Prop where
  headed : Text.trim line ≠ "" → Text.tokens (Text.trim line) ≠ []
  ne_headless : read line ≠ .headless
  quit : read line = .command .quit ↔ ∃ name arguments,
    Text.tokens line = name :: arguments ∧ Text.lower name ∈ ["quit", "exit", "q"]
  bounded : ∀ style n, read line = .command (.generate style n) → 1 ≤ n ∧ n ≤ maxCount
  counted : ∀ name count more style, Text.tokens line = name :: count :: more →
    Text.lower name = style.name → ∀ style' n, (read line = .command (.generate style' n) ↔
      style' = style ∧ Text.Numeral count n ∧ 1 ≤ n ∧ n ≤ maxCount)
  seeded : ∀ name text more, Text.tokens line = name :: text :: more →
    Text.lower name = "seed" → ∀ n,
      (read line = .command (.seed n) ↔ Text.Numeral text n ∧ n ≤ Text.maxWord)

theorem understood (line : String) : Understood line where
  headed := by
    rw [Text.tokens_trim, Ne, Text.trim_eq_empty_iff]
    exact id
  ne_headless := by
    rw [read_eq]
    cases Text.tokens line <;> simp
  quit := by
    rw [read_eq]
    cases Text.tokens line <;> simp [Command.ofTokens_eq_quit_iff]
  bounded := by
    intro style n h
    rw [read_eq] at h
    cases htokens : Text.tokens line with
    | nil => simp [htokens] at h
    | cons name arguments =>
      rw [htokens, command.injEq, Command.ofTokens_eq_generate_iff] at h
      exact count?_bounds h.2
  counted := by
    intro name count more style htokens hname style' n
    rw [read_eq, htokens, command.injEq, Command.ofTokens_eq_generate_iff, List.head?_cons,
      count?_eq_some_iff, hname, eq_comm, Style.name_inj]
  seeded := by
    intro name text more htokens hname n
    rw [read_eq, htokens, command.injEq, Command.ofTokens_eq_seed_iff, Command.seeding_eq_seed_iff]
    exact and_iff_right hname

end Line

end Shell

end TokiSentences
