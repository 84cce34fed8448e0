import TokiSentences.Json.Sentence
import TokiSentences.Json.Writer
import TokiSentences.Shell.Command
import TokiSentences.Shell.Options
import TokiSentences.Transcript

namespace TokiSentences.Shell

def usage : String := "Usage: preview --lexicon <path> [--seed <n>] [--workers <n>]"

def prompt : String := "preview> "

def helpLines : List String := [
  "Commands:",
  s!"  gen [n]        generate n sentences (1-{maxCount})",
  "  verbose [n]    generate n sentences with components as JSON",
  "  words [role]   list words, optionally for one role",
  "  seed <n>       reseed the engine",
  "  help           show this list",
  "  quit           exit"]

structure Session where
  host : Host
  options : Options
  generator : Generator Seeded

inductive Output
  | lines (ls : List String)
  | sentences (style : Style) (xs : List Sentence)

def Output.text : Output → String
  | lines ls => unlines ls
  | sentences .brief xs => unlines (xs.map (·.text))
  | sentences .verbose xs => unlines [(Breakdown.prettyList (xs.map (·.breakdown))).pretty]

inductive Reply
  | go (o : Output) (s : Session)
  | leave (o : Output)
  | crash

def wordLine (lx : Lexicon) (r : Role) : String :=
  let ws := lx.texts r
  s!"{r.name} ({ws.length}): " ++ String.intercalate " " ws

namespace Session

def say (s : Session) (ls : List String) : Reply := .go (.lines ls) s

def generate (s : Session) (turns : List Pool.Turn) (style : Style) (count : Nat) : Reply :=
  match s.generator.answer (.batch count) turns with
  | (.ok xs, g) => .go (.sentences style xs) { s with generator := g }
  | (.error (.violation v), g) =>
    { s with generator := g }.say ["ERROR: " ++ (GeneratorError.generation v).message]
  | (.error .broken, _) => .crash

/-- A new seed makes a new generator, from the dictionary as it now is. -/
def reseed (s : Session) (n : Nat) : Reply :=
  match { s.options with seed := some n }.setup.build s.host with
  | .ok g => { s with generator := g }.say [s!"Seed set to {n}"]
  | .error e => s.say ["ERROR: " ++ e.message]

def obey (s : Session) (turns : List Pool.Turn) : Command → Reply
  | .quit => .leave (.lines ["pona!"])
  | .help => s.say helpLines
  | .generate style count => s.generate turns style count
  | .badCount => s.say [s!"count must be between 1 and {maxCount}"]
  | .words roles => s.say (roles.map (wordLine s.generator.lexicon))
  | .badRole name => s.say ["Unknown role: " ++ name,
    "  roles: particle, content, preverb, preposition, pronoun"]
  | .seed n => s.reseed n
  | .noSeed => s.say ["Usage: seed <n>"]
  | .badSeed text => s.say ["Invalid seed: " ++ text]
  | .unknown name => s.say [s!"Unknown command: {name}. Type 'help' for commands."]

def respond (s : Session) (line : String) (turns : List Pool.Turn := []) : Reply :=
  match Line.read line with
  | .blank => s.say []
  | .command c => s.obey turns c
  | .headless => .crash

end Session

/-- A line that comes in, with the turns that a pool takes if it asks for sentences; `none` for one
that is no text. -/
structure Arrival where
  line : Option String
  turns : List Pool.Turn := []

namespace Session

def replies (s : Session) : List Arrival → List Reply
  | [] | ⟨none, _⟩ :: _ => []
  | ⟨some line, turns⟩ :: rest =>
    match s.respond line turns with
    | .go o s' => .go o s' :: s'.replies rest
    | r => [r]

def transcript : List Reply → Transcript
  | [] => { out := prompt }
  | .go o _ :: rest =>
    let t := transcript rest
    { t with out := prompt ++ o.text ++ t.out }
  | .leave o :: _ => { out := prompt ++ o.text }
  | .crash :: _ => { exit := 101, out := prompt }

def start (host : Host) (options : Options) : Except GeneratorError Session :=
  match options.setup.build host with
  | .ok generator => .ok { host, options, generator }
  | .error e => .error e

def greeting (s : Session) : String := unlines [
  s!"Loaded {s.generator.lexicon.size} words",
  match s.options.seed with
    | some n => s!"Seed: {n}"
    | none => "Seed: random",
  "Type 'help' for commands.",
  ""]

end Session

def linesOf : List UInt8 → List UInt8 → List (Option String)
  | [], [] => []
  | read, [] => [textOf read]
  | read, b :: bs => if b = 10 then textOf read :: linesOf [] bs else linesOf (b :: read) bs
where
  textOf (read : List UInt8) : Option String := String.fromUTF8? ⟨read.reverse.toArray⟩

inductive Opening
  | over (t : Transcript)
  | session (s : Session)

def openWith (host : Host) : List String → Opening
  | [] => .over { out := unlines [usage] }
  | first :: rest =>
    if first = "--help" ∨ first = "-h" then .over { out := unlines [usage] }
    else
      match Options.read (first :: rest) with
      | .error r => .over { exit := 1, out := unlines [usage], err := unlines [r.message] }
      | .ok options =>
        match Session.start host options with
        | .error e => .over { exit := 1, err := unlines ["ERROR: " ++ e.message] }
        | .ok s => .session s

def run (host : Host) (arguments : List String) (input : ByteArray) : Transcript :=
  match openWith host arguments with
  | .over t => t
  | .session s =>
    let arrivals := (linesOf [] input.data.toList).map fun line => { line }
    let t := Session.transcript (s.replies arrivals)
    { t with out := s.greeting ++ t.out }

end TokiSentences.Shell
