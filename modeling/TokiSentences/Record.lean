import TokiSentences.Generator.Callers
import TokiSentences.Generator.Setup

namespace TokiSentences

inductive Record
  | imported (count : Nat)
  | reading (path : String)
  | seeding (seed : UInt64)
  | indexed (lx : Lexicon)
  | generating (count workers chunk : Nat)

namespace Record

def counts (lx : Lexicon) : String :=
  String.intercalate ", " (Role.all.map fun r => s!"{r.name}={(lx.texts r).length}")

def line : Record → String
  | imported n => s!"INFO imported {n} words"
  | reading path => "DEBUG reading dictionary " ++ path
  | seeding n => s!"DEBUG seeding engine with {n}"
  | indexed lx => s!"DEBUG indexed {lx.size} words: " ++ counts lx
  | generating count workers chunk =>
    s!"DEBUG generating {count} sentences on {workers} workers ({chunk} per worker)"

def ofImport : Except DictionaryError (List Word) → List Record
  | .ok words => [imported words.length]
  | .error _ => []

def ofLexicon : Except LexiconError Lexicon → List Record
  | .ok lx => [indexed lx]
  | .error _ => []

def ofBatch (asked count : Nat) : List Record :=
  if count = 0 then []
  else [generating count (Pool.workerCount asked count) (Pool.chunkSize asked count)]

end Record

def Setup.records (s : Setup) (disk : Disk) : List Record :=
  let read := match s.dictionary with
    | none => []
    | some path => .reading path :: Record.ofImport (Dictionary.load disk path)
  match s.allWords disk with
  | .error _ => read
  | .ok words => read ++ s.seed.toList.map .seeding ++ Record.ofLexicon (Lexicon.ofWords words)

def Generator.records [Source σ] (g : Generator σ) : Request → List Record
  | .sentence => []
  | .batch n =>
    match (g.reserve (.batch n)).1 with
    | .ok _ => Record.ofBatch g.workers n
    | .error _ => []

def Callers.recordsOf [Source σ] (c : Callers σ) (t : Turn) : List Record :=
  match c.callers[t.caller]?, t.pool with
  | some ⟨request :: _, none, _⟩, .owner => c.generator.records request
  | _, _ => []

def Callers.records [Source σ] (c : Callers σ) : List Turn → List Record
  | [] => []
  | t :: turns => c.recordsOf t ++ (c.step t).records turns

end TokiSentences
