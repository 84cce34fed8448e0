import TokiSentences.Grammar
import TokiSentences.Turns

/-!
Many sentences at once. The sources are dealt out in chunks. An owner sets a worker to each chunk,
one after the other, while those already set to work make the sentences of theirs in order and send
off every result as it comes; once all are through, the owner takes in what was sent. Who is next
is up to a list of turns, so every interleaving is one such list.
-/

namespace TokiSentences

structure Channel (α : Type) where
  sent : List α := []
  closed : Bool := false
  deriving DecidableEq

def Channel.send (c : Channel α) (a : α) : Option (Channel α) :=
  if c.closed then none else some { c with sent := c.sent ++ [a] }

structure Pool (σ : Type) where
  wanted : Nat
  /-- The chunks that no worker has been set to. -/
  waiting : List (List σ)
  /-- What each worker has still to do. -/
  queues : List (List σ) := []
  channel : Channel (Except Violation Sentence) := {}
  broken : Bool := false

namespace Pool

inductive Turn
  | owner
  | worker (i : Nat)
  deriving DecidableEq, Repr

def workerCount (asked count : Nat) : Nat := min (max asked 1) count

def chunkSize (asked count : Nat) : Nat :=
  (count + workerCount asked count - 1) / workerCount asked count

def chunks (size : Nat) (xs : List α) : List (List α) :=
  if xs = [] ∨ size = 0 then [] else xs.take size :: chunks size (xs.drop size)
termination_by xs.length
decreasing_by
  rename_i h
  cases xs <;> simp_all; omega

def ofSources (asked : Nat) (sources : List σ) : Pool σ :=
  if sources.isEmpty then { wanted := 0, waiting := [], channel := { closed := true } }
  else
    { wanted := sources.length
      waiting := chunks (chunkSize asked sources.length) sources }

/-- Sends off a result; a worker whose result is refused makes no more. -/
def hand (p : Pool σ) (i : Nat) (queue : List σ) (r : Except Violation Sentence) : Pool σ :=
  match p.channel.send r with
  | some channel => { p with queues := p.queues.set i queue, channel }
  | none => { p with queues := p.queues.set i [] }

section

variable [Source σ] (lx : Lexicon)

def stepWorker (p : Pool σ) (i : Nat) : Pool σ :=
  match p.queues[i]? with
  | some (s :: queue) =>
    match lx.sentenceFrom s with
    | .ok x => p.hand i queue (.ok x)
    | .error (.violation v) => p.hand i queue (.error v)
    | .error .broken => { p with queues := p.queues.set i [], broken := true }
  | _ => p

/-- The owner sets the next worker to work, or closes the channel when all are through. -/
def stepOwner (p : Pool σ) : Pool σ :=
  match p.waiting with
  | chunk :: waiting => { p with waiting, queues := p.queues ++ [chunk] }
  | [] =>
    if p.queues.all (·.isEmpty) then { p with channel := { p.channel with closed := true } } else p

def step (p : Pool σ) : Turn → Pool σ
  | .owner => p.stepOwner
  | .worker i => p.stepWorker lx i

def advance (p : Pool σ) (turns : List Turn) : Pool σ := turns.foldl (step lx) p

end

def next? (p : Pool σ) : Option Turn :=
  if p.channel.closed then none
  else
    match p.waiting with
    | _ :: _ => some .owner
    | [] => some ((p.queues.findIdx? (!·.isEmpty)).elim .owner .worker)

def work (p : Pool σ) : Nat :=
  p.waiting.length + (p.queues ++ p.waiting).flatten.length + (if p.channel.closed then 0 else 1)

def remaining [Source σ] (lx : Lexicon) (p : Pool σ) : List Turn :=
  turnsFor (step lx) next? p.work p

def finish [Source σ] (lx : Lexicon) (p : Pool σ) (turns : List Turn) : Pool σ :=
  let p := p.advance lx turns
  p.advance lx (p.remaining lx)

def collect : List (Except Violation Sentence) → Except Violation (List Sentence)
  | [] => .ok []
  | .ok x :: rest => (x :: ·) <$> collect rest
  | .error v :: _ => .error v

def result (p : Pool σ) : Except Stop (List Sentence) :=
  if p.broken then .error .broken
  else
    match collect p.channel.sent with
    | .error v => .error (.violation v)
    | .ok xs =>
      if xs.length = p.wanted then .ok xs
      else .error (.violation (.shortBatch p.wanted xs.length))

/-- One sentence from each source, in order of arrival. -/
def generate [Source σ] (lx : Lexicon) (asked : Nat) (turns : List Turn) (sources : List σ) :
    Except Stop (List Sentence) :=
  ((ofSources asked sources).finish lx turns).result

end Pool

end TokiSentences
