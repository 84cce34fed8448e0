namespace TokiSentences

structure Transcript where
  exit : Nat := 0
  out : String := ""
  err : String := ""
  deriving DecidableEq, Repr

def unlines (lines : List String) : String := String.join (lines.map (· ++ "\n"))

end TokiSentences
