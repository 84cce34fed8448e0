/-!
The stream of words behind seeded draws: a ChaCha cipher of twelve rounds with a 64-bit counter
and no nonce, under a key that a small generator expands from the seed.
-/

namespace TokiSentences.Cipher

def rotl (x : UInt32) (n : UInt32) : UInt32 := (x <<< n) ||| (x >>> (32 - n))

def expand (state : UInt64) : UInt64 × UInt32 :=
  let state := state * 6364136223846793005 + 11634580027462260723
  let x := (((state >>> 18) ^^^ state) >>> 27).toUInt32
  let r := (state >>> 59).toUInt32
  (state, if r = 0 then x else (x >>> r) ||| (x <<< (32 - r)))

def expandFrom : Nat → UInt64 → List UInt32
  | 0, _ => []
  | n + 1, state =>
    let (state, word) := expand state
    word :: expandFrom n state

def key (seed : UInt64) : List UInt32 := expandFrom 8 seed

def quarter (x : Array UInt32) (a b c d : Nat) : Array UInt32 :=
  let mix (x : Array UInt32) (p q t : Nat) (n : UInt32) : Array UInt32 :=
    let sum := x.getD p 0 + x.getD q 0
    (x.setIfInBounds p sum).setIfInBounds t (rotl (x.getD t 0 ^^^ sum) n)
  mix (mix (mix (mix x a b d 16) c d b 12) a b d 8) c d b 7

def doubleRound (x : Array UInt32) : Array UInt32 :=
  [(0, 4, 8, 12), (1, 5, 9, 13), (2, 6, 10, 14), (3, 7, 11, 15),
    (0, 5, 10, 15), (1, 6, 11, 12), (2, 7, 8, 13), (3, 4, 9, 14)].foldl
    (fun x (a, b, c, d) => quarter x a b c d) x

def constants : List UInt32 := [0x61707865, 0x3320646e, 0x79622d32, 0x6b206574]

def block (key : List UInt32) (counter : UInt64) : List UInt32 :=
  let first := constants ++ key ++ [counter.toUInt32, (counter >>> 32).toUInt32, 0, 0]
  let last := (List.range 6).foldl (fun x _ => doubleRound x) first.toArray
  first.zipWith (· + ·) last.toList

end TokiSentences.Cipher
