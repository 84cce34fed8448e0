namespace TokiSentences.Text

def isBlank (c : Char) : Bool :=
  let n := c.toNat
  (0x09 ≤ n && n ≤ 0x0D) || n == 0x20 || n == 0x85 || n == 0xA0 || n == 0x1680 ||
    (0x2000 ≤ n && n ≤ 0x200A) || n == 0x2028 || n == 0x2029 || n == 0x202F || n == 0x205F ||
    n == 0x3000

def dropBlanks (cs : List Char) : List Char := cs.dropWhile isBlank

def trimBlanks (cs : List Char) : List Char := (dropBlanks (dropBlanks cs).reverse).reverse

def splitBlanks : List Char → List (List Char)
  | [] => []
  | c :: cs =>
    if isBlank c then splitBlanks cs
    else match cs, splitBlanks cs with
      | d :: _, t :: ts => if isBlank d then [c] :: t :: ts else (c :: t) :: ts
      | _, ts => [c] :: ts

def trim (s : String) : String := String.ofList (trimBlanks s.toList)

def tokens (s : String) : List String := (splitBlanks s.toList).map String.ofList

def hasBlank (s : String) : Bool := s.toList.any isBlank

end TokiSentences.Text
