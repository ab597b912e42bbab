import ModalLexer.CommandLine.Command

/-!
# The program

Carries out the command that the arguments ask for, on the files of the machine.
-/

namespace ModalLexer.CommandLine

/-- The error that the system reports for a file. -/
def fileError (e : IO.Error) : FileError :=
  match e with
  | .noFileOrDirectory .. => .notFound
  | .inappropriateType _ 20 _ => .notDirectory
  | .inappropriateType _ 21 _ => .isDirectory
  | .invalidArgument _ 36 _ => .nameTooLong
  | e => .other (toString e)

/-- Reads a stream to its end. -/
partial def readAll (stream : IO.FS.Stream) (bytes : ByteArray) : IO ByteArray := do
  let more ← stream.read 65536
  if more.isEmpty then return bytes else readAll stream (bytes ++ more)

/-- Access for commands to the files of the machine. -/
def machine : Host IO where
  readInput := do readAll (← IO.getStdin) .empty
  fileExists path := do
    match ← (IO.FS.Handle.mk path .read).toBaseIO with
    | .ok _ => return true
    | .error e => return !(fileError e matches .notFound | .notDirectory | .nameTooLong)
  readFile path := do
    match ← (IO.FS.readBinFile path).toBaseIO with
    | .ok bytes => return .ok bytes
    | .error e => return .error (fileError e)
  writeFile path bytes := do
    match ← (IO.FS.writeBinFile path bytes).toBaseIO with
    | .ok () => return .ok ()
    | .error e => return .error (fileError e)

end ModalLexer.CommandLine

def main (args : List String) : IO UInt32 := do
  let report ← ModalLexer.CommandLine.execArguments ModalLexer.CommandLine.machine args
  (← IO.getStdout).putStr report.output
  (← IO.getStderr).putStr report.errors
  return report.code
