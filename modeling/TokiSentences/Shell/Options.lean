import TokiSentences.Generator.Setup
import TokiSentences.Text.Decimal

namespace TokiSentences.Shell

structure Flags where
  lexicon : Option String := none
  seed : Option Nat := none
  workers : Option Nat := none
  deriving DecidableEq, Repr

inductive Refusal
  | unknown (argument : String)
  | badValue (flag value : String)
  | noLexicon
  deriving DecidableEq, Repr

def Refusal.message : Refusal → String
  | unknown argument => "Unknown argument: " ++ argument
  | badValue flag value => s!"Invalid value for {flag}: {value}"
  | noLexicon => "Missing --lexicon <path>"

/-- A flag without a value is as good as unknown. -/
def Flags.read (f : Flags) : List String → Except Refusal Flags
  | [] => .ok f
  | [argument] => .error (.unknown argument)
  | flag :: value :: rest =>
    if flag = "--lexicon" then Flags.read { f with lexicon := some value } rest
    else if flag = "--seed" then
      match Text.word? value with
      | some n => Flags.read { f with seed := some n } rest
      | none => .error (.badValue flag value)
    else if flag = "--workers" then
      match Text.word? value with
      | some n => Flags.read { f with workers := some n } rest
      | none => .error (.badValue flag value)
    else .error (.unknown flag)

structure Options where
  lexicon : String
  seed : Option Nat
  workers : Option Nat
  deriving DecidableEq, Repr

def Options.read (arguments : List String) : Except Refusal Options :=
  match Flags.read {} arguments with
  | .error r => .error r
  | .ok f =>
    match f.lexicon with
    | some path => .ok ⟨path, f.seed, f.workers⟩
    | none => .error .noLexicon

def Options.setup (o : Options) : Setup where
  seed := o.seed.map UInt64.ofNat
  workers := o.workers
  dictionary := some o.lexicon

end TokiSentences.Shell
