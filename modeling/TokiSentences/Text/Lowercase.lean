import TokiSentences.Text.CaseTable

namespace TokiSentences.Text

def inRanges (ranges : List (Nat × Nat)) (c : Char) : Bool :=
  ranges.any fun r => r.1 ≤ c.toNat && c.toNat ≤ r.2

def isIgnorable (c : Char) : Bool := inRanges ignorableRanges c

def startsCased (cs : List Char) : Bool :=
  match cs.dropWhile isIgnorable with
  | [] => false
  | c :: _ => inRanges casedRanges c

/-- A capital I with a dot above keeps its dot as a mark of its own. -/
def lowerChar (c : Char) : List Char :=
  if c.toNat < 0x80 then [c.toLower]
  else if c = '\u0130' then ['i', '\u0307']
  else [((caseRuns.findSome? (·.lower? c.toNat)).map Char.ofNat).getD c]

/-- What stands before is `seen`, the nearest character first. -/
def lowerFrom (seen : List Char) : List Char → List Char
  | [] => []
  | c :: cs =>
    let small :=
      if c = '\u03A3' then
        if startsCased seen && !startsCased cs then ['\u03C2'] else ['\u03C3']
      else lowerChar c
    small ++ lowerFrom (c :: seen) cs

def lower (s : String) : String := String.ofList (lowerFrom [] s.toList)

end TokiSentences.Text
