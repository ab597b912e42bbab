import ModalLexer.Assignment.Parser
import ModalLexer.CommandLine.Arguments
import ModalLexer.CommandLine.Host

/-!
# Commands

`run` reads a source and prints its rendering, or writes it to a file; `check` reads a source and
counts its variables. A source is read from the input where its path is a hyphen. Everything is read
and parsed before anything is written, and each failure ends the command with one line.
-/

namespace ModalLexer.CommandLine

/-- What a command ends with: its exit code, and what it prints as output and as errors. -/
structure Report where
  code : UInt32 := 0
  output : String := ""
  errors : String := ""
  deriving DecidableEq

/-- The report of a failure: exit code 1 and one line. -/
def Report.failure (line : String) : Report := { code := 1, errors := line ++ "\n" }

/-- What is printed for the version. -/
def versionLine : String := "sparse 0.1.0\n"

/-- The text that bytes hold in UTF-8. -/
def decode (bytes : ByteArray) : Except FileError Text :=
  match String.fromUTF8? bytes with
  | some s => .ok s.toList
  | none => .error (.other "stream did not contain valid UTF-8")

variable {m : Type → Type} [Monad m]

/-- Reads the source at a path, or else says why it cannot. -/
def readSource (h : Host m) (path : String) : m (Except String Text) := do
  if path = "-" then
    let bytes ← h.readInput
    return (decode bytes).mapError fun e => s!"Error reading stdin: {e.message}"
  else if !(← h.fileExists path) then
    return .error s!"Error: file not found: {path}"
  else
    let bytes ← h.readFile path
    return (bytes >>= decode).mapError fun e => s!"Error reading {path}: {e.message}"

/-- Reads the program at a path, or else says why it cannot. -/
def readProgram (h : Host m) (path : String) : m (Except String Assignment.Program) := do
  match ← readSource h path with
  | .error line => return .error line
  | .ok source =>
    return (Assignment.parse source).mapError fun e => s!"{path}: {Assignment.errorMessage e}"

/-- What `run` prints or writes for a program. -/
def rendering (p : Assignment.Program) : String := p.render ++ "\n"

/-- Carries out a command. -/
def execute (h : Host m) : Command → m Report
  | .version => return { output := versionLine }
  | .check path => do
    match ← readProgram h path with
    | .error line => return .failure line
    | .ok p => return { errors := s!"OK: {path} ({p.declared.length} variables)\n" }
  | .run path output => do
    match ← readProgram h path with
    | .error line => return .failure line
    | .ok p =>
      match output with
      | none => return { output := rendering p }
      | some out =>
        match ← h.writeFile out (rendering p).toUTF8 with
        | .error e => return .failure s!"Error writing {out}: {e.message}"
        | .ok () => return { errors := s!"Wrote: {out}\n" }

/-- Carries out what a list of arguments asks for. -/
def execArguments (h : Host m) (args : List String) : m Report :=
  match readCommand args with
  | .error e => return { code := 2, errors := e.message }
  | .ok c => execute h c

end ModalLexer.CommandLine
