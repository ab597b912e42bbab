import ModalLexer.CommandLine.Host

/-!
# A file system as a value

A file system holds the content of files and a set of directories, each under its path from the
root, and has a working directory, from which paths without a leading slash start. A path is walked
part by part; every part but the last has to lead to a directory, and neither a part nor the whole
may be too long. `FileSystem.host` gives commands access to it.
-/

namespace ModalLexer.CommandLine

/-- The names on the way from the root to a file or directory. -/
abbrev Path := List String

/-- Files and directories, a working directory, and what stands on the input. -/
structure FileSystem where
  files : List (Path × ByteArray) := []
  directories : List Path := []
  working : Path := []
  input : ByteArray := .empty

/-- What stands at a path. -/
inductive Node where
  | file (content : ByteArray)
  | directory

namespace FileSystem

/-- The largest number of bytes in the name of a file or directory. -/
def maxNameSize : Nat := 255

/-- The largest number of bytes in a path. -/
def maxPathSize : Nat := 4095

/-- What stands at a path. All that something stands below is a directory, and so is the root. -/
def node? (fs : FileSystem) (p : Path) : Option Node :=
  match fs.files.lookup p with
  | some content => some (.file content)
  | none =>
    if p = [] ∨ p <+: fs.working ∨ fs.directories.any (p <+: ·) ∨ fs.files.any (p <+: ·.1) then
      some .directory
    else none

/-- Goes on from the path `at` by one part. -/
def enter (fs : FileSystem) (here : Path) (part : String) : Except FileError Path :=
  match fs.node? here with
  | none => .error .notFound
  | some (.file _) => .error .notDirectory
  | some .directory =>
    if part = "" ∨ part = "." then .ok here
    else if part = ".." then .ok here.dropLast
    else if maxNameSize < part.utf8ByteSize then .error .nameTooLong
    else .ok (here ++ [part])

/-- Where walking a path begins. -/
def base (fs : FileSystem) (path : String) : Path := if path.startsWith "/" then [] else fs.working

/-- Walks parts of a path from the root or from the working directory. -/
def walk (fs : FileSystem) (path : String) (parts : List String) : Except FileError Path :=
  if path = "" then .error .notFound
  else if maxPathSize < path.utf8ByteSize then .error .nameTooLong
  else parts.foldlM fs.enter (fs.base path)

/-- The path from the root that a path leads to. -/
def resolve (fs : FileSystem) (path : String) : Except FileError Path :=
  fs.walk path (path.splitOn "/")

/-- Whether something stands at a path. -/
def hasPath (fs : FileSystem) (path : String) : Bool :=
  match fs.resolve path with
  | .ok p => (fs.node? p).isSome
  | .error _ => false

/-- The content of the file at a path. -/
def content (fs : FileSystem) (path : String) : Except FileError ByteArray := do
  match fs.node? (← fs.resolve path) with
  | none => .error .notFound
  | some .directory => .error .isDirectory
  | some (.file content) => .ok content

/-- Puts content in the place of a file, or makes a new one. -/
def put (fs : FileSystem) (p : Path) (content : ByteArray) : FileSystem :=
  { fs with files := (p, content) :: fs.files.filter (·.1 ≠ p) }

/-- The parts of a path that are walked to write a file. Where the path ends in a slash, there is no
last name, and only the directory is looked for in which the file would be. -/
def writtenParts (path : String) : List String :=
  if path.endsWith "/" then
    (path.splitOn "/" |>.reverse |>.dropWhile (· = "") |>.tail |>.reverse) ++ ["."]
  else path.splitOn "/"

/-- Writes the file at a path. No file has a path that ends in a slash, whatever the last name
is. -/
def write (fs : FileSystem) (path : String) (content : ByteArray) :
    Except FileError FileSystem := do
  let p ← fs.walk path (writtenParts path)
  if path.endsWith "/" then .error .isDirectory
  else
    match fs.node? p with
    | some .directory => .error .isDirectory
    | _ => .ok (fs.put p content)

/-- Access for commands to a file system that they may change. -/
def host : Host (StateM FileSystem) where
  readInput := do return (← get).input
  fileExists path := do return (← get).hasPath path
  readFile path := do return (← get).content path
  writeFile path content := do
    match (← get).write path content with
    | .error e => return .error e
    | .ok fs =>
      set fs
      return .ok ()

end FileSystem

end ModalLexer.CommandLine
