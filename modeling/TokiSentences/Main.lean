import TokiSentences.Lint.Report
import TokiSentences.Shell.Session

namespace TokiSentences.Main

partial def treeAt (path : String) : IO Node := do
  let place ← IO.FS.realPath path
  if ← place.isDir then
    let mut entries := []
    for e in ← place.readDir do
      try
        let n ← treeAt (pathIn path e.fileName)
        entries := (e.fileName, n) :: entries
      catch _ => pure ()
    return .folder entries.reverse
  else return .file (← IO.FS.readBinFile path)

def nodeAt (path : String) : IO (Except FileError Node) := do
  try
    return .ok (← treeAt path)
  catch
    | .inappropriateType .. => return .error .notFolder
    | _ => return .error .missing

def diskAt (path : String) : IO Disk := do
  let node ← nodeAt path
  return fun p => if p = path then node else .error .missing

def print (t : Transcript) : IO UInt32 := do
  (← IO.getStdout).putStr t.out
  (← IO.getStderr).putStr t.err
  return t.exit.toUInt32

def lint (arguments : List String) : IO UInt32 := do
  let disk ← match arguments with
    | path :: _ => diskAt path
    | [] => pure fun _ => .error .missing
  print (Lint.run disk arguments)

def hostFor (path : String) : IO Host := do
  let bytes ← IO.getRandomBytes 8
  let entropy := bytes.data.foldl (fun n b => n * 256 + b.toUInt64) 0
  return { disk := ← diskAt path, entropy, cores := 1 }

partial def readLine (input : IO.FS.Stream) (read : ByteArray) : IO ByteArray := do
  let b ← input.read 1
  if b.isEmpty || b.data == #[10] then return read ++ b
  else readLine input (read ++ b)

partial def talk (input output : IO.FS.Stream) (s : Shell.Session) : IO UInt32 := do
  output.putStr Shell.prompt
  output.flush
  let bytes ← readLine input .empty
  match String.fromUTF8? bytes with
  | none => return 0
  | some line =>
    if line.isEmpty then return 0
    let host ← hostFor s.options.lexicon
    match { s with host }.respond line with
    | .go o s =>
      output.putStr o.text
      talk input output s
    | .leave o =>
      output.putStr o.text
      return 0
    | .crash => return 101

def preview (arguments : List String) : IO UInt32 := do
  let path := match Shell.Flags.read {} arguments with
    | .ok flags => flags.lexicon.getD ""
    | .error _ => ""
  match Shell.openWith (← hostFor path) arguments with
  | .over t => print t
  | .session s =>
    let output ← IO.getStdout
    output.putStr s.greeting
    talk (← IO.getStdin) output s

end TokiSentences.Main

def main : List String → IO UInt32
  | "lint" :: arguments => TokiSentences.Main.lint arguments
  | "preview" :: arguments => TokiSentences.Main.preview arguments
  | _ => TokiSentences.Main.print
    { exit := 1,
      out := TokiSentences.unlines [TokiSentences.Lint.usage, TokiSentences.Shell.usage] }
