import TokiSentences.Lexicon.Basic
import TokiSentences.Grammar
import TokiSentences.Text.Blank

namespace TokiSentences.Lint

inductive Finding
  | refused (e : LexiconError)
  | repeated (word : String)
  | roleless (word : String)
  | blank (word : String)
  | noLocative
  | negationContent
  deriving DecidableEq, Repr

namespace Finding

def isError : Finding → Bool
  | refused _ | blank _ => true
  | _ => false

def message : Finding → String
  | refused e => e.message
  | repeated w => s!"Word '{w}' is defined more than once"
  | roleless w => s!"Word '{w}' has no roles and will never be generated"
  | blank w => s!"Word '{w}' contains whitespace and would break phrase boundaries"
  | noLocative => s!"No '{locative}' preposition; sentences will never use the locative"
  | negationContent =>
    s!"'{negationParticle}' is a content word; generated phrases may repeat the negation particle"

end Finding

def ofWord (seen : List String) (w : Word) : List Finding :=
  (if seen.contains w.text then [.repeated w.text] else []) ++
  (if w.roles.isEmpty then [.roleless w.text] else []) ++
  (if Text.hasBlank w.text then [.blank w.text] else [])

def ofEach (seen : List String) : List Word → List Finding
  | [] => []
  | w :: ws => ofWord seen w ++ ofEach (w.text :: seen) ws

def ofLexicon (words : List Word) : List Finding :=
  match Lexicon.ofWords words with
  | .ok _ => []
  | .error e => [.refused e]

def hasWord (words : List Word) (text : String) (r : Role) : Bool :=
  words.any fun w => w.text == text && w.has r

def findings (words : List Word) : List Finding :=
  ofLexicon words ++ ofEach [] words ++
  (if hasWord words locative .preposition then [] else [.noLocative]) ++
  (if hasWord words negationParticle .content then [.negationContent] else [])

def errors (words : List Word) : List Finding := (findings words).filter (·.isError)

def warnings (words : List Word) : List Finding := (findings words).filter (!·.isError)

end TokiSentences.Lint
