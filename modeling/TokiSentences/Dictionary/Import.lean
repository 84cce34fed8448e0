import TokiSentences.Dictionary.Definition
import TokiSentences.Dictionary.Document
import TokiSentences.Disk
import TokiSentences.Word

namespace TokiSentences

namespace Dictionary

def skippedWords : List String := ["ali"]

def obscureUsage : String := "obscure"

def put (word : String) (e : Entry) : List (String × Entry) → List (String × Entry)
  | [] => [(word, e)]
  | (w, f) :: rest =>
    match Text.order word w with
    | .lt => (word, e) :: (w, f) :: rest
    | .eq => (word, e) :: rest
    | .gt => (w, f) :: put word e rest

def catalogue (written : List (String × Entry)) : List (String × Entry) :=
  written.foldl (fun sorted p => put p.1 p.2 sorted) []

def eligible (word : String) (e : Entry) : Bool :=
  e.usage != some obscureUsage && !skippedWords.contains word

def wordOf (p : String × Entry) : Word := .ofRoles p.1 (rolesOf p.1 p.2.definitions)

def words (written : List (String × Entry)) : List Word :=
  ((catalogue written).filter fun p => eligible p.1 p.2).map wordOf

end Dictionary

inductive DictionaryError
  | file (e : FileError)
  | text (f : Dictionary.Fault)
  deriving DecidableEq, Repr

def DictionaryError.message : DictionaryError → String
  | file e => "IO error: " ++ e.message
  | text f => "RON deserialization error: " ++ f.message

namespace Dictionary

def parse (text : String) : Except DictionaryError (List Word) :=
  match read text with
  | .ok written => .ok (words written)
  | .error f => .error (.text f)

def ofNode (n : Node) : Except DictionaryError (List Word) :=
  match n.text with
  | .ok s => parse s
  | .error e => .error (.file e)

def load (disk : Disk) (path : String) : Except DictionaryError (List Word) :=
  match disk path with
  | .ok n => ofNode n
  | .error e => .error (.file e)

end Dictionary

end TokiSentences
