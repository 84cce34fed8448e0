import TokiSentences.Word

namespace TokiSentences.Lexicon

def wordsOf (r : Role) (texts : List String) : List Word := texts.map fun t => .ofRoles t [r]

def small : List Word :=
  wordsOf .content ["moku", "tomo"] ++ wordsOf .pronoun ["mi"] ++ wordsOf .preverb ["ken"] ++
    wordsOf .preposition ["lon", "tan"]

def sample : List Word :=
  wordsOf .pronoun ["mi", "sina", "ona", "ni"] ++ wordsOf .preverb ["ken", "wile"] ++
    wordsOf .preposition ["tan", "tawa", "kepeken", "sama", "lon"] ++ wordsOf .particle ["pi"] ++
    wordsOf .content
      ["jan", "moku", "tomo", "kili", "telo", "soweli", "waso", "lipu", "pona", "suli"] ++
    [.ofRoles "kama" [.content, .preverb]]

end TokiSentences.Lexicon
