import TokiSentences.Generator.Basic

/-!
Several callers of one generator. Each has its requests to make in order. A turn lets one caller
go one step further: it splits off the sources of its next request, or the pool of its batch takes
a turn, or it gets its answer. So the steps of different calls may come in any order.
-/

namespace TokiSentences

structure Caller (σ : Type) where
  queue : List Request
  task : Option (Task σ) := none
  answers : List (Except Stop (List Sentence)) := []

namespace Caller

/-- A caller whose request breaks off makes no more. -/
def receive (k : Caller σ) (r : Except Stop (List Sentence)) : Caller σ where
  queue := match r with
    | .error .broken => []
    | _ => k.queue
  answers := k.answers ++ [r]

def proceed [Source σ] (lx : Lexicon) (k : Caller σ) : Task σ → Pool.Turn → Caller σ
  | .single s, .owner => k.receive (([·]) <$> lx.sentenceFrom s)
  | .single _, .worker _ => k
  | .batch p, t =>
    if p.channel.closed then
      match t with
      | .owner => k.receive p.result
      | .worker _ => k
    else { k with task := some (.batch (p.step lx t)) }

def next? (k : Caller σ) : Option Pool.Turn :=
  match k.task with
  | some (.batch p) => some (p.next?.getD .owner)
  | some (.single _) => some .owner
  | none => if k.queue.isEmpty then none else some .owner

end Caller

def Request.work : Request → Nat
  | sentence => 2
  | batch n => 2 * n + 3

def Task.work : Task σ → Nat
  | single _ => 1
  | batch p => p.work + 1

def Caller.work (k : Caller σ) : Nat := k.task.elim 0 Task.work + total Request.work k.queue

structure Turn where
  caller : Nat
  pool : Pool.Turn := .owner
  deriving DecidableEq, Repr

structure Callers (σ : Type) where
  generator : Generator σ
  callers : List (Caller σ)

namespace Callers

def start (g : Generator σ) (queues : List (List Request)) : Callers σ :=
  ⟨g, queues.map fun queue => { queue }⟩

variable [Source σ]

def step (c : Callers σ) (t : Turn) : Callers σ :=
  match c.callers[t.caller]? with
  | none => c
  | some k =>
    match k.task, k.queue, t.pool with
    | some task, _, pool =>
      { c with callers := c.callers.set t.caller (k.proceed c.generator.lexicon task pool) }
    | none, request :: queue, .owner =>
      let k := { k with queue }
      match c.generator.reserve request with
      | (.ok task, generator) => ⟨generator, c.callers.set t.caller { k with task := some task }⟩
      | (.error e, generator) => ⟨generator, c.callers.set t.caller (k.receive (.error e))⟩
    | _, _, _ => c

def advance (c : Callers σ) (turns : List Turn) : Callers σ := turns.foldl step c

def next? (c : Callers σ) : Option Turn :=
  c.callers.zipIdx.findSome? fun k => k.1.next?.map fun pool => ⟨k.2, pool⟩

def work (c : Callers σ) : Nat := total Caller.work c.callers

def remaining (c : Callers σ) : List Turn := turnsFor step next? c.work c

def serve (c : Callers σ) (turns : List Turn) : Callers σ :=
  let c := c.advance turns
  c.advance c.remaining

def sentences (c : Callers σ) : Except Stop (List Sentence) :=
  List.flatten <$> (c.callers.flatMap (·.answers)).mapM id

end Callers

end TokiSentences
