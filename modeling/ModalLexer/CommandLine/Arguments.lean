import ModalLexer.Text.CharSet

/-!
# Command line arguments

The first argument names a command, and the ones behind it are its operand and its options, in any
order. `run` takes a source and, with `-o` or `--output`, a file to write to; `check` takes a
source. The value of an option is attached to it or is the next argument, which then may not look
like an option itself. Behind `--` every argument is an operand.
-/

namespace ModalLexer.CommandLine

/-- What a list of arguments asks for. -/
inductive Command where
  | version
  | run (path : String) (output : Option String)
  | check (path : String)
  deriving DecidableEq

/-- Why a list of arguments asks for nothing. -/
inductive UsageError where
  | noCommand
  | noPath
  | noOutput
  | repeatedOutput
  | unexpected (argument : String)
  deriving DecidableEq

/-- The report of a misuse. -/
def UsageError.message : UsageError → String
  | noCommand => "error: a command is required: run or check\n"
  | noPath => "error: the path of a source is required\n"
  | noOutput => "error: a value is required for --output\n"
  | repeatedOutput => "error: --output cannot be used more than once\n"
  | unexpected argument => s!"error: unexpected argument '{argument}'\n"

/-- Whether an argument in the place of a value looks like an option. A lone hyphen does not. -/
def looksLikeOption (arg : String) : Bool :=
  match arg.toList with
  | '-' :: _ :: _ => true
  | _ => false

/-- The value that is attached to an output option, if there is one. -/
def attachedOutput? (arg : String) : Option String :=
  match arg.toList with
  | '-' :: 'o' :: '=' :: value => some (String.ofList value)
  | '-' :: 'o' :: c :: value => some (String.ofList (c :: value))
  | '-' :: '-' :: 'o' :: 'u' :: 't' :: 'p' :: 'u' :: 't' :: '=' :: value =>
    some (String.ofList value)
  | _ => none

/-- The operand and the output of a command, as far as they have been read. -/
structure Operands where
  path : Option String := none
  output : Option String := none

/-- Adds an operand. A command has no more than one. -/
def Operands.addPath (o : Operands) (arg : String) : Except UsageError Operands :=
  if o.path.isSome then .error (.unexpected arg) else .ok { o with path := some arg }

/-- Adds an output. A command has no more than one. -/
def Operands.addOutput (o : Operands) (value : String) : Except UsageError Operands :=
  if o.output.isSome then .error .repeatedOutput else .ok { o with output := some value }

/-- Reads the arguments behind a command, which may have an output if `withOutput`. -/
def readOperands (withOutput : Bool) (o : Operands) :
    List String → Except UsageError Operands
  | [] => .ok o
  | arg :: args =>
    if arg = "--" then args.foldlM Operands.addPath o
    else if withOutput && (arg = "-o" || arg = "--output") then
      match args with
      | [] => .error .noOutput
      | value :: args =>
        if looksLikeOption value then .error .noOutput
        else do readOperands withOutput (← o.addOutput value) args
    else if looksLikeOption arg then
      match attachedOutput? arg with
      | some value =>
        if withOutput then do readOperands withOutput (← o.addOutput value) args
        else .error (.unexpected arg)
      | none => .error (.unexpected arg)
    else do readOperands withOutput (← o.addPath arg) args

/-- Whether an argument asks for the version. -/
def asksVersion (arg : String) : Bool :=
  match arg.toList with
  | '-' :: 'V' :: _ => true
  | _ => arg = "--version"

/-- The command that a list of arguments stands for. -/
def readCommand : List String → Except UsageError Command
  | [] => .error .noCommand
  | "run" :: args => do
    let o ← readOperands true {} args
    match o.path with
    | some path => .ok (.run path o.output)
    | none => .error .noPath
  | "check" :: args => do
    let o ← readOperands false {} args
    match o.path with
    | some path => .ok (.check path)
    | none => .error .noPath
  | arg :: _ => if asksVersion arg then .ok .version else .error (.unexpected arg)

end ModalLexer.CommandLine
