import TokiSentences.Lint.Finding
import TokiSentences.Lint.Survey
import TokiSentences.Text.Order
import TokiSentences.Transcript

namespace TokiSentences.Lint

def usage : String := "Usage: lexicon_linter <dictionary.ron | dir>"

def padded (name : String) : String := name ++ String.ofList (List.replicate (12 - name.length) ' ')

def countLine (words : List Word) (r : Role) : String :=
  s!"  {padded r.name} {(words.filter (·.has r)).length}"

def report (words : List Word) : List String :=
  [s!"Loaded {words.length} words", "", "=== Lexicon Lint Report ===", ""] ++
  Role.all.map (countLine words) ++ [""] ++
  (if (findings words).isEmpty then ["All checks passed!"] else []) ++
  (warnings words).map ("WARNING: " ++ ·.message) ++
  (errors words).map ("ERROR: " ++ ·.message) ++
  ["", s!"Summary: {(errors words).length} errors, {(warnings words).length} warnings"]

def exitCode (words : List Word) : Nat := if (errors words).isEmpty then 0 else 1

def runOn (disk : Disk) (path : String) : Transcript :=
  match disk path with
  | .error _ => { exit := 1, err := unlines [s!"ERROR: Path '{path}' does not exist"] }
  | .ok (.file content) =>
    match Dictionary.ofNode (.file content) with
    | .error e =>
      { exit := 1, err := unlines ["ERROR: Failed to load dictionary file: " ++ e.message] }
    | .ok words => { exit := exitCode words, out := unlines (report words) }
  | .ok (.folder entries) =>
    let survey := Survey.ofFolder path (.folder entries)
    { exit := exitCode survey.words
      out := unlines (survey.loaded ++ report survey.words)
      err := unlines survey.failed }

def run (disk : Disk) : List String → Transcript
  | [] => { out := unlines [usage] }
  | path :: _ =>
    if path = "--help" ∨ path = "-h" then { out := unlines [usage] } else runOn disk path

def unorderedOpenings : List String := ["  Loaded: ", "WARNING: ", "ERROR: ", "  ERROR loading "]

def opening? (line : String) : Option String := unorderedOpenings.find? fun o => line.startsWith o

def settle (lines : List String) : List String :=
  (lines.splitBy fun a b => (opening? a).isSome && opening? a == opening? b).flatMap
    (·.mergeSort fun a b => (Text.order a b).isLE)

def settleText (text : String) : String := String.intercalate "\n" (settle (text.splitOn "\n"))

/-- A transcript that does not show in which order folders were listed. -/
def settleTranscript (t : Transcript) : Transcript :=
  { t with out := settleText t.out, err := settleText t.err }

end TokiSentences.Lint
