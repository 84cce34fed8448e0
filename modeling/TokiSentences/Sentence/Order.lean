import TokiSentences.Sentence.Basic
import TokiSentences.Text.Order

namespace TokiSentences.Sentence

def order (a b : Sentence) : Ordering :=
  (Text.order a.text b.text).then <|
  (Text.order a.subject b.subject).then <|
  (Text.order a.verb b.verb).then <|
  (Text.orderOption a.object b.object).then <|
  (Text.orderList a.prepositionalPhrases b.prepositionalPhrases).then <|
  Text.orderList a.components b.components

def sort (xs : List Sentence) : List Sentence := xs.mergeSort fun a b => (order a b).isLE

def distinct (xs : List Sentence) : Nat := xs.eraseDups.length

end TokiSentences.Sentence
