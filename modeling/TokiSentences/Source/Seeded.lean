import TokiSentences.Source.Basic
import TokiSentences.Source.Cipher

namespace TokiSentences

structure Seeded where
  key : List UInt32
  counter : UInt64 := 0
  words : List UInt32 := []
  deriving DecidableEq

namespace Seeded

def ofSeed (seed : UInt64) : Seeded := { key := Cipher.key seed }

def next (s : Seeded) : UInt64 × Seeded :=
  let join (low high : UInt32) : UInt64 := low.toUInt64 ||| (high.toUInt64 <<< 32)
  match s.words with
  | low :: high :: rest => (join low high, { s with words := rest })
  | _ =>
    match Cipher.block s.key s.counter with
    | low :: high :: rest => (join low high, { s with counter := s.counter + 1, words := rest })
    | _ => (0, s)

def bitLength (n : Nat) : Nat := if n = 0 then 0 else Nat.log2 n + 1

/-- The last remainder that is accepted. -/
def zone (n : Nat) : Nat := (n <<< (64 - bitLength n)) - 1

/-- Tries words until one is accepted; after `tries` of them the next is taken as it is. -/
def below : Nat → Nat → Seeded → Nat × Seeded
  | 0, n, s =>
    let (word, s) := s.next
    (word.toNat * n / UInt64.size, s)
  | tries + 1, n, s =>
    let (word, s) := s.next
    let m := word.toNat * n
    if m % UInt64.size ≤ zone n then (m / UInt64.size, s) else below tries n s

/-- A word is refused less than every other time, so this many refusals do not come about. -/
def maxTries : Nat := 4096

instance : Source Seeded where
  draw s n := let (i, s) := below maxTries n s; (some i, s)
  split s := let (word, s) := s.next; (some (ofSeed word), s)

end Seeded

end TokiSentences
