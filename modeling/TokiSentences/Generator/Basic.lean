import TokiSentences.Dictionary.Import
import TokiSentences.Pool

namespace TokiSentences

/-- A source behind a lock. The lock remembers that a holder broke off. -/
structure Shared (σ : Type) where
  source : σ
  spoiled : Bool := false
  deriving DecidableEq

namespace Shared

def lock (s : Shared σ) : Except σ σ := if s.spoiled then .error s.source else .ok s.source

/-- The source is taken, spoiled or not, and put back as it is left. -/
def hold (s : Shared σ) (f : σ → Except Stop α × σ) : Except Stop α × Shared σ :=
  let (r, source) := match s.lock with
    | .ok source => f source
    | .error source => f source
  (r, ⟨source, s.spoiled || r matches .error .broken⟩)

end Shared

structure Generator (σ : Type) where
  lexicon : Lexicon
  shared : Shared σ
  workers : Nat

inductive GeneratorError
  | lexicon (e : LexiconError)
  | generation (v : Violation)
  | dictionary (e : DictionaryError)
  deriving DecidableEq, Repr

def GeneratorError.message : GeneratorError → String
  | lexicon e => "lexicon error: " ++ e.message
  | generation v => "generation error: " ++ v.message
  | dictionary e => "dictionary error: " ++ e.message

inductive Request
  | sentence
  | batch (count : Nat)
  deriving DecidableEq, Repr

@[simp] def Request.count : Request → Nat
  | sentence => 1
  | batch n => n

/-- What a call has left to do once it has its sources. -/
inductive Task (σ : Type)
  | single (s : σ)
  | batch (p : Pool σ)

def Task.finish [Source σ] (lx : Lexicon) (turns : List Pool.Turn) :
    Task σ → Except Stop (List Sentence)
  | single s => ([·]) <$> lx.sentenceFrom s
  | batch p => (p.finish lx turns).result

inductive Query
  | size
  | workers
  | lexicon
  deriving DecidableEq, Repr

inductive Operation
  | request (r : Request)
  | query (q : Query)
  deriving DecidableEq, Repr

inductive Answer
  | sentences (r : Except Stop (List Sentence))
  | number (n : Nat)
  | lexicon (lx : Lexicon)

namespace Generator

def ofWords (cores : Nat) (words : List Word) (source : σ) :
    Except GeneratorError (Generator σ) :=
  match Lexicon.ofWords words with
  | .ok lx => .ok ⟨lx, ⟨source, false⟩, cores⟩
  | .error e => .error (.lexicon e)

def withWorkers (g : Generator σ) (n : Nat) : Generator σ := { g with workers := max n 1 }

def consult (g : Generator σ) : Query → Answer
  | .size => .number g.lexicon.size
  | .workers => .number g.workers
  | .lexicon => .lexicon g.lexicon

variable [Source σ]

/-- Splits off the sources of a request, which is all that the shared source is held for. -/
def reserve (g : Generator σ) : Request → Except Stop (Task σ) × Generator σ
  | .sentence =>
    let (r, shared) := g.shared.hold Source.take
    (.single <$> r, { g with shared })
  | .batch n =>
    let (r, shared) := g.shared.hold (Source.takes n)
    ((fun sources => .batch (.ofSources g.workers sources)) <$> r, { g with shared })

def answer (g : Generator σ) (request : Request) (turns : List Pool.Turn := []) :
    Except Stop (List Sentence) × Generator σ :=
  match g.reserve request with
  | (.ok task, g') => (task.finish g.lexicon turns, g')
  | (.error e, g') => (.error e, g')

def perform (g : Generator σ) (turns : List Pool.Turn := []) : Operation → Answer × Generator σ
  | .request r => let (r, g') := g.answer r turns; (.sentences r, g')
  | .query q => (g.consult q, g)

def performAll (g : Generator σ) (ops : List (Operation × List Pool.Turn)) : Generator σ :=
  ops.foldl (fun g op => (g.perform op.2 op.1).2) g

end Generator

end TokiSentences
