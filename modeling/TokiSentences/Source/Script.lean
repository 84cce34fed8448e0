import TokiSentences.Source.Basic

/-!
A source that plays a script of draws over and over. Each value is taken below the bound asked
for, and a source split off starts the script anew. A script may also say which draw and which
split break off.
-/

namespace TokiSentences

structure Script where
  values : List Nat
  /-- The draw that breaks off, counted from one; every source split off inherits it. -/
  brokenDraw : Option Nat := none
  /-- The split of this source that breaks off, counted from one. -/
  brokenSplit : Option Nat := none
  drawn : Nat := 0
  splits : Nat := 0
  deriving DecidableEq, Repr

namespace Script

def draw (s : Script) (n : Nat) : Option Nat × Script :=
  if s.brokenDraw = some (s.drawn + 1) then (none, s)
  else
    match s.values[s.drawn % s.values.length]? with
    | none => (some 0, s)
    | some v => (some (v % n), { s with drawn := s.drawn + 1 })

def fresh (s : Script) : Script := { values := s.values, brokenDraw := s.brokenDraw }

def split (s : Script) : Option Script × Script :=
  let s' := { s with splits := s.splits + 1 }
  if s.brokenSplit = some s'.splits then (none, s') else (some s.fresh, s')

instance : Source Script := ⟨draw, split⟩

end Script

end TokiSentences
