import LootSpawn.Text.AsciiCase

/-!
# File trees

The files below a root, without links, and the working directory. A path that starts with a slash is
followed from the root, any other one from the working directory, and either component by component:
empty components and single dots stay where they are, two dots go back up, though not above the
root, and every component but the last, as well as whatever comes before a trailing slash, has to be
a directory.
-/

namespace LootSpawn

open Text

/-- Why a file or directory cannot be read. -/
inductive FileError where
  | notFound
  | notDirectory
  | isDirectory
  | notText
  | denied
  deriving DecidableEq, Repr

def FileError.message : FileError → String
  | .notFound => "No such file or directory (os error 2)"
  | .notDirectory => "Not a directory (os error 20)"
  | .isDirectory => "Is a directory (os error 21)"
  | .notText => "stream did not contain valid UTF-8"
  | .denied => "Permission denied (os error 13)"

/-- What there is to be read: a text, bytes that are no text, or nothing for want of permission. -/
inductive FileContent where
  | text (content : String)
  | bytes
  | locked
  deriving DecidableEq, Repr

def FileContent.read : FileContent → Except FileError String
  | .text content => .ok content
  | .bytes => .error .notText
  | .locked => .error .denied

/-- A regular file, a directory, or a special file, such as a device or a pipe: it is opened and
read like a regular one and is none. -/
inductive FileNode where
  | file (content : FileContent)
  | special (content : FileContent)
  | directory (entries : List (String × FileNode))

instance : Inhabited FileNode := ⟨.directory []⟩

namespace FileNode

/-- The entries of a directory; a file has none. -/
def children : FileNode → List (String × FileNode)
  | .directory entries => entries
  | _ => []

def isDirectory : FileNode → Bool
  | .directory _ => true
  | _ => false

def isFile : FileNode → Bool
  | .file _ => true
  | _ => false

/-- The text that is read from a file of either kind. -/
def readText : FileNode → Except FileError String
  | .file content => content.read
  | .special content => content.read
  | .directory _ => .error .isDirectory

/-- The entry of a directory with the given name. -/
def child? (node : FileNode) (name : String) : Option FileNode :=
  (node.children.find? (·.1 == name)).map (·.2)

/-- Puts a node in the place of another. A directory keeps the entries that it had. -/
def replaceBy (node content : FileNode) : FileNode :=
  match node, content with
  | .directory old, .directory new =>
      .directory (old ++ new.filter fun entry => old.all (·.1 != entry.1))
  | _, _ => content

/-- Puts a node at the path of the given components. Directories on the way are made as needed. -/
def insert (content : FileNode) : List String → FileNode → FileNode
  | [], node => node.replaceBy content
  | name :: rest, node =>
      let below := insert content rest ((node.child? name).getD (.directory []))
      .directory (node.children.filter (·.1 != name) ++ [(name, below)])

/-- Follows components from a node; `above` are the directories around it, the nearest first. A node
without any is the root, which is its own parent. -/
def follow (above : List FileNode) (node : FileNode) : List String → Except FileError FileNode
  | [] => .ok node
  | name :: rest =>
      if !node.isDirectory then .error .notDirectory
      else if name == "" || name == "." then follow above node rest
      else if name == ".." then
        match above with
        | [] => follow [] node rest
        | parent :: above => follow above parent rest
      else match node.child? name with
        | some next => follow (node :: above) next rest
        | none => .error .notFound

end FileNode

/-- The texts between slashes. -/
def splitPath : List Char → List (List Char)
  | [] => [[]]
  | c :: cs =>
      if c == '/' then [] :: splitPath cs
      else match splitPath cs with
        | [] => [[c]]
        | first :: rest => (c :: first) :: rest

/-- The components of a path. -/
def pathComponents (path : String) : List String := (splitPath path.toList).map String.ofList

/-- The files below a root, and the components of the path to the working directory. -/
structure FileTree where
  root : FileNode := .directory []
  workingDirectory : List String := []

namespace FileTree

/-- The components that stand before those of a path on the way from the root. -/
def origin (tree : FileTree) (path : String) : List String :=
  if path.toList.head? = some '/' then [] else tree.workingDirectory

/-- What a path leads to. The empty path leads nowhere. -/
def find (tree : FileTree) (path : String) : Except FileError FileNode :=
  if path.isEmpty then .error .notFound
  else FileNode.follow [] tree.root (tree.origin path ++ pathComponents path)

def isFile (tree : FileTree) (path : String) : Bool :=
  match tree.find path with
  | .ok node => node.isFile
  | .error _ => false

def isDirectory (tree : FileTree) (path : String) : Bool :=
  match tree.find path with
  | .ok node => node.isDirectory
  | .error _ => false

/-- The text that is read at a path. -/
def readText (tree : FileTree) (path : String) : Except FileError String := do
  (← tree.find path).readText

/-- The path of an entry of a directory. -/
def joinPath (directory name : String) : String :=
  if directory.toList.getLast? = some '/' then directory ++ name else directory ++ "/" ++ name

/-- The extension of a file name: what follows the last dot, unless that dot comes first. -/
def extension? (name : String) : Option String :=
  let reversed := name.toList.reverse
  let tail := reversed.takeWhile (· != '.')
  match reversed.dropWhile (· != '.') with
  | _ :: _ :: _ => some (String.ofList tail.reverse)
  | _ => none

/-- The entry is a regular file with the given extension, in any ASCII case. -/
def hasExtension (extension : String) (entry : String × FileNode) : Bool :=
  entry.2.isFile &&
    (extension? entry.1).any fun found => sameAsciiCase found.toList extension.toList

/-- The paths of the regular files in a directory that have the given extension, ordered by file
name. -/
def list (tree : FileTree) (directory extension : String) : Except FileError (List String) := do
  match ← tree.find directory with
  | .directory entries =>
      let names := (entries.filter (hasExtension extension)).map (·.1)
      return (names.mergeSort (· ≤ ·)).map (joinPath directory)
  | _ => .error .notDirectory

end FileTree

end LootSpawn
