import TokiSentences.Generator.Basic
import TokiSentences.Source.Seeded

namespace TokiSentences

structure Host where
  disk : Disk
  /-- The seed of a generator that is given none. -/
  entropy : UInt64
  cores : Nat

inductive Setting
  | seed (n : UInt64)
  | workers (n : Nat)
  | words (ws : List Word)
  | dictionary (path : String)

structure Setup where
  seed : Option UInt64 := none
  workers : Option Nat := none
  words : Option (List Word) := none
  dictionary : Option String := none

namespace Setup

def set (s : Setup) : Setting → Setup
  | .seed n => { s with seed := some n }
  | .workers n => { s with workers := some n }
  | .words ws => { s with words := some ws }
  | .dictionary path => { s with dictionary := some path }

def ofSettings (settings : List Setting) : Setup := settings.foldl set {}

def allWords (s : Setup) (disk : Disk) : Except DictionaryError (List Word) :=
  let given := s.words.getD []
  match s.dictionary with
  | none => .ok given
  | some path => (given ++ ·) <$> Dictionary.load disk path

def build (s : Setup) (host : Host) : Except GeneratorError (Generator Seeded) :=
  match s.allWords host.disk with
  | .error e => .error (.dictionary e)
  | .ok words =>
    match Generator.ofWords host.cores words (Seeded.ofSeed (s.seed.getD host.entropy)) with
    | .error e => .error e
    | .ok g => .ok (s.workers.elim g g.withWorkers)

end Setup

end TokiSentences
