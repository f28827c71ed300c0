import LootSpawn.Tool.Linter
import LootSpawn.Tool.Preview

/-!
# The program

Runs one of the two tools, which is named by the first argument, on the files that the other
arguments lead to. All decisions are made by the tools; this module reads files and moves text.
-/

namespace LootSpawn.Main

open Tool

/-- What is read from a file. -/
def readContent (path : String) : IO FileContent := do
  try
    match String.fromUTF8? (← IO.FS.readBinFile path) with
    | some content => return .text content
    | none => return .bytes
  catch _ => return .locked

/-- An entry of a directory. The content of directories and special files inside is not needed. -/
def readEntry (entry : IO.FS.DirEntry) : IO (String × FileNode) := do
  match (← entry.path.metadata).type with
  | .dir => return (entry.fileName, .directory [])
  | .file => return (entry.fileName, .file (← readContent entry.path.toString))
  | _ => return (entry.fileName, .special .locked)

/-- What is at a path, if anything is. A directory is listed at the end of a path only, and a
special file is read there only. -/
def readNode? (path : String) (isEnd : Bool) : IO (Option FileNode) := do
  let place := (← IO.currentDir) / path
  if !(← place.pathExists) then return none
  match (← place.metadata).type with
  | .dir =>
      let entries ← if isEnd then place.readDir else pure #[]
      return some (.directory (← entries.toList.mapM readEntry))
  | .file => return some (.file (← readContent path))
  | _ => return some (.special (← if isEnd then readContent path else pure .locked))

/-- The names on the way from the root, with nothing left to stay or to go back for. -/
def settle (components : List String) : List String :=
  components.foldl (fun names component =>
    if component == "" || component == "." then names
    else if component == ".." then names.dropLast
    else names ++ [component]) []

/-- The files that the arguments name, and what is on the way to them. -/
def readTree (args : List String) : IO FileTree := do
  let workingDirectory := settle (pathComponents (← IO.currentDir).toString)
  let mut tree : FileTree := { workingDirectory }
  for path in args do
    let components := tree.origin path ++ pathComponents path
    for length in List.range components.length do
      let way := components.take (length + 1)
      let isEnd := length + 1 == components.length
      if let some node ← readNode? ("/" ++ "/".intercalate way) isEnd then
        tree := { tree with root := FileNode.insert node (settle way) tree.root }
  return tree

/-- Writes what a tool has written, and ends with its code. -/
def finish (result : Result) : IO UInt32 := do
  (← IO.getStdout).putStr result.out
  (← IO.getStderr).putStr result.err
  return UInt32.ofNat result.code

/-- Carries out the lines of the standard input one by one. -/
partial def converse (shell : Preview.Shell) : IO UInt32 := do
  let output ← IO.getStdout
  output.putStr Preview.prompt
  output.flush
  let line ← (← IO.getStdin).getLine
  if line.isEmpty then return 0
  let (next, answer) := shell.step (Preview.Command.ofLine line)
  output.putStr answer
  match next with
  | .goesOn shell => converse shell
  | .ends => return 0
  | .breaksOff => finish Result.broken

/-- Runs the preview shell. -/
def preview (args : List String) : IO UInt32 := do
  match Preview.start .wraps args (← readTree args) with
  | .error result => finish result
  | .ok (shell, greeting) =>
      (← IO.getStdout).putStr greeting
      converse shell

end LootSpawn.Main

open LootSpawn in
def main : List String → IO UInt32
  | "spawn_linter" :: args => do Main.finish (Tool.Linter.run args (← Main.readTree args))
  | "spawn_preview" :: args => Main.preview args
  | _ => Main.finish { out := Tool.Linter.usage ++ Tool.Preview.usage }
