namespace TokiSentences.Text

def digitValue (c : Char) : Nat := c.toNat - 48

def digitsValue (ds : List Char) : Nat := ds.foldl (fun n d => 10 * n + digitValue d) 0

def digits? (ds : List Char) : Option Nat :=
  if ds ≠ [] ∧ ds.all Char.isDigit then some (digitsValue ds) else none

def numeral? : List Char → Option Nat
  | '+' :: ds => digits? ds
  | ds => digits? ds

def natUpTo? (bound : Nat) (s : String) : Option Nat :=
  (numeral? s.toList).filter (· ≤ bound)

def maxWord : Nat := UInt64.size - 1

def word? (s : String) : Option Nat := natUpTo? maxWord s

end TokiSentences.Text
