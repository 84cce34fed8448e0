import TokiSentences.Dictionary.Import

namespace TokiSentences.Lint

def dictionaryExtension : String := "ron"

mutual

def filesIn (path : String) : Node → List (String × Node)
  | .file _ => []
  | .folder entries => filesAmong path entries

def filesAmong (path : String) : List (String × Node) → List (String × Node)
  | [] => []
  | (name, .folder entries) :: rest =>
    filesAmong (pathIn path name) entries ++ filesAmong path rest
  | (name, .file content) :: rest =>
    let here := if extension? name = some dictionaryExtension
      then [(pathIn path name, Node.file content)] else []
    here ++ filesAmong path rest

end

structure Survey where
  attempts : List (String × Except DictionaryError (List Word))

namespace Survey

def ofFolder (path : String) (n : Node) : Survey :=
  ⟨(filesIn path n).map fun f => (f.1, Dictionary.ofNode f.2)⟩

def words (s : Survey) : List Word :=
  s.attempts.flatMap fun
    | (_, .ok ws) => ws
    | (_, .error _) => []

def loaded (s : Survey) : List String :=
  s.attempts.filterMap fun
    | (path, .ok _) => some ("  Loaded: " ++ path)
    | (_, .error _) => none

def failed (s : Survey) : List String :=
  s.attempts.filterMap fun
    | (_, .ok _) => none
    | (path, .error e) => some s!"  ERROR loading {path}: {e.message}"

end Survey

end TokiSentences.Lint
