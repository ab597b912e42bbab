/-!
# What a command asks of its surroundings

A command reads its input and files, and writes files. `Host` names these actions in a monad of
choice, so that one definition of a command serves the file system of a machine and one that is a
value.
-/

namespace ModalLexer.CommandLine

/-- Why a file cannot be opened or read. -/
inductive FileError where
  | notFound
  | notDirectory
  | isDirectory
  | nameTooLong
  | other (report : String)
  deriving DecidableEq

/-- The report of an error, with the number that the system gives it. -/
def FileError.message : FileError → String
  | notFound => "No such file or directory (os error 2)"
  | notDirectory => "Not a directory (os error 20)"
  | isDirectory => "Is a directory (os error 21)"
  | nameTooLong => "File name too long (os error 36)"
  | other report => report

/-- Access to an input and to files. Content is a sequence of bytes. -/
structure Host (m : Type → Type) where
  readInput : m ByteArray
  fileExists : String → m Bool
  readFile : String → m (Except FileError ByteArray)
  writeFile : String → ByteArray → m (Except FileError Unit)

end ModalLexer.CommandLine
