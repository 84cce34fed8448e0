/-!
Computations that let chance decide. A choice asks for a number below a bound and goes on with the
answer; nothing is said here of where the answers come from, so one choice can be run by any
source, listed branch by branch, or weighed.
-/

namespace TokiSentences

inductive Violation
  | emptySelection
  | shortBatch (wanted made : Nat)
  deriving DecidableEq, Repr

def Violation.message : Violation → String
  | emptySelection => "invariant violation: selection from an empty collection"
  | shortBatch wanted made =>
    s!"invariant violation: batch of {wanted} produced {made} sentences"

/-- Why there is no result: a violation is reported to the caller, what broke off is not. -/
inductive Stop
  | violation (v : Violation)
  | broken
  deriving DecidableEq, Repr

structure Odds where
  hits : Nat
  outOf : Nat
  deriving DecidableEq, Repr

inductive Choice (α : Type) : Type
  | done (a : α)
  | stop (s : Stop)
  | draw (bound : Nat) (next : Nat → Choice α)

namespace Choice

def bind (c : Choice α) (f : α → Choice β) : Choice β :=
  match c with
  | done a => f a
  | stop s => stop s
  | draw n next => draw n fun i => (next i).bind f

instance : Monad Choice where
  pure := done
  bind := bind

@[simp] theorem bind_done (a : α) (f : α → Choice β) : done a >>= f = f a := rfl

@[simp] theorem bind_stop (s : Stop) (f : α → Choice β) : stop s >>= f = stop s := rfl

@[simp] theorem bind_draw (n : Nat) (next : Nat → Choice α) (f : α → Choice β) :
    draw n next >>= f = draw n fun i => next i >>= f := rfl

@[simp] theorem pure_eq_done (a : α) : (pure a : Choice α) = done a := rfl

theorem bind_done_right (c : Choice α) : c >>= done = c := by
  induction c with
  | done a => rfl
  | stop s => rfl
  | draw n next ih => simp [ih]

theorem bind_assoc (c : Choice α) (f : α → Choice β) (g : β → Choice γ) :
    c >>= f >>= g = c >>= fun a => f a >>= g := by
  induction c with
  | done a => rfl
  | stop s => rfl
  | draw n next ih => simp [ih]

instance : LawfulMonad Choice :=
  LawfulMonad.mk' Choice bind_done_right (fun _ _ => rfl) bind_assoc

def uniform (n : Nat) : Choice Nat := draw n done

def chance (o : Odds) : Choice Bool := draw o.outOf fun i => done (i < o.hits)

def among (items : List α) : Choice α :=
  if items.isEmpty then stop (.violation .emptySelection)
  else draw items.length fun i =>
    match items[i]? with
    | some a => done a
    | none => stop .broken

end Choice

end TokiSentences
