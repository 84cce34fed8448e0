import TokiSentences.Choice

/-!
Where the answers of a choice come from. A source answers draws and splits off sources for other
units of work; either may break off instead, and the source is left in some state all the same.
-/

namespace TokiSentences

class Source (σ : Type) where
  draw : σ → Nat → Option Nat × σ
  split : σ → Option σ × σ

namespace Choice

def run [Source σ] : Choice α → σ → Except Stop α × σ
  | done a, s => (.ok a, s)
  | stop e, s => (.error e, s)
  | draw n next, s =>
    match Source.draw s n with
    | (some i, s') => (next i).run s'
    | (none, s') => (.error .broken, s')

@[simp] theorem run_done [Source σ] (a : α) (s : σ) : (done a).run s = (.ok a, s) := rfl

@[simp] theorem run_stop [Source σ] (e : Stop) (s : σ) :
    (stop e : Choice α).run s = (.error e, s) := rfl

theorem run_bind [Source σ] (c : Choice α) (f : α → Choice β) (s : σ) :
    (c >>= f).run s = match c.run s with
      | (.ok a, s') => (f a).run s'
      | (.error e, s') => (.error e, s') := by
  induction c generalizing s with
  | done a => rfl
  | stop e => rfl
  | draw n next ih =>
    simp only [bind_draw, run]
    split
    · exact ih _ _
    · rfl

end Choice

namespace Source

def take [Source σ] (s : σ) : Except Stop σ × σ :=
  match split s with
  | (some child, s') => (.ok child, s')
  | (none, s') => (.error .broken, s')

/-- Splits off `n` sources, in order; the first split that breaks off ends it. -/
def takes [Source σ] : Nat → σ → Except Stop (List σ) × σ
  | 0, s => (.ok [], s)
  | n + 1, s =>
    match take s with
    | (.error e, s') => (.error e, s')
    | (.ok child, s') =>
      match takes n s' with
      | (.ok children, s'') => (.ok (child :: children), s'')
      | (.error e, s'') => (.error e, s'')

instance [Source σ] [Source τ] : Source (σ ⊕ τ) where
  draw
    | .inl s, n => let (i, s') := draw s n; (i, .inl s')
    | .inr t, n => let (i, t') := draw t n; (i, .inr t')
  split
    | .inl s => let (c, s') := split s; (c.map .inl, .inl s')
    | .inr t => let (c, t') := split t; (c.map .inr, .inr t')

end Source

end TokiSentences
