import TokiSentences.Role
import TokiSentences.Text.Blank
import TokiSentences.Text.Decimal
import TokiSentences.Text.Lowercase

namespace TokiSentences.Shell

inductive Style
  | brief
  | verbose
  deriving DecidableEq, Repr

inductive Command
  | quit
  | help
  | generate (style : Style) (count : Nat)
  | badCount
  | words (roles : List Role)
  | badRole (name : String)
  | seed (n : Nat)
  | noSeed
  | badSeed (text : String)
  | unknown (name : String)
  deriving DecidableEq, Repr

def maxCount : Nat := 50

def count? : Option String → Option Nat
  | none => some 1
  | some s => (Text.word? s).filter fun n => 1 ≤ n ∧ n ≤ maxCount

namespace Command

def generation (style : Style) (arguments : List String) : Command :=
  match count? arguments.head? with
  | some n => generate style n
  | none => badCount

def listing : List String → Command
  | [] => words Role.all
  | name :: _ =>
    match Role.ofName? name with
    | some r => words [r]
    | none => badRole name

def seeding : List String → Command
  | [] => noSeed
  | text :: _ =>
    match Text.word? text with
    | some n => seed n
    | none => badSeed text

def ofTokens (first : String) (arguments : List String) : Command :=
  match Text.lower first with
  | "quit" | "exit" | "q" => quit
  | "help" | "h" | "?" => help
  | "gen" => generation .brief arguments
  | "verbose" => generation .verbose arguments
  | "words" => listing arguments
  | "seed" => seeding arguments
  | name => unknown name

end Command

/-- What a line holds: nothing, a command, or, against all expectation, no first token. -/
inductive Line
  | blank
  | command (c : Command)
  | headless
  deriving DecidableEq, Repr

def Line.read (line : String) : Line :=
  let line := Text.trim line
  if line.isEmpty then blank
  else
    match Text.tokens line with
    | [] => headless
    | first :: arguments => command (.ofTokens first arguments)

end TokiSentences.Shell
