/-!
Files and folders. A disk tells what stands at a path; the tree below a node is one such disk, its
paths read from the node on.
-/

namespace TokiSentences

inductive Node
  | file (content : ByteArray)
  | folder (entries : List (String × Node))

inductive FileError
  | missing
  | isFolder
  | notFolder
  | notText
  deriving DecidableEq, Repr

def FileError.message : FileError → String
  | missing => "No such file or directory (os error 2)"
  | isFolder => "Is a directory (os error 21)"
  | notFolder => "Not a directory (os error 20)"
  | notText => "stream did not contain valid UTF-8"

namespace Node

def text : Node → Except FileError String
  | file content =>
    match String.fromUTF8? content with
    | some s => .ok s
    | none => .error .notText
  | folder _ => .error .isFolder

/-- Follows the parts of a path; `above` holds the folders passed, the nearest first. What lies
outside the tree is a folder that shows no entries. -/
def follow (above : List Node) : Node → List String → Except FileError Node
  | here, [] => .ok here
  | file _, _ :: _ => .error .notFolder
  | folder entries, part :: parts =>
    if part = "" ∨ part = "." then follow above (folder entries) parts
    else if part = ".." then
      match above with
      | [] => follow [] (folder []) parts
      | up :: higher => follow higher up parts
    else
      match entries.lookup part with
      | none => .error .missing
      | some n => follow (folder entries :: above) n parts
termination_by _ parts => parts.length

def find (root : Node) (path : String) : Except FileError Node :=
  if path.isEmpty then .error .missing
  else follow [] (if path.startsWith "/" then folder [] else root) (path.splitOn "/")

end Node

abbrev Disk := String → Except FileError Node

def pathIn (folder name : String) : String :=
  if folder.endsWith "/" then folder ++ name else folder ++ "/" ++ name

/-- What follows the last dot of a name, unless the name has only that dot and opens with it. -/
def extension? (name : String) : Option String :=
  let tail := name.toList.reverse.takeWhile (· != '.')
  if tail.length + 1 < name.length then some (String.ofList tail.reverse) else none

end TokiSentences
