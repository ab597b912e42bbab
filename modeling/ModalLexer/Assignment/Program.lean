import ModalLexer.Text.CharSet

/-!
# Programs of the assignment language

A program is a list of variables, each with a name and perhaps a value, an integer of 64 bits with a
sign. It is rendered as one numbered sentence per variable, each on a line of its own.
-/

namespace ModalLexer.Assignment

/-- A named variable, with its value if it has one. -/
structure Variable where
  name : Text
  value : Option Int64 := none
  deriving DecidableEq

/-- Variables in the order of their declaration. -/
structure Program where
  declared : List Variable := []
  deriving DecidableEq

/-- Why a token cannot become part of a program. -/
inductive ValueError where
  /-- A value that 64 bits cannot hold. -/
  | outOfRange (name value : Text)
  /-- A value without a variable in front of it. -/
  | orphan (value : Text)
  /-- A token that the language does not have. -/
  | unexpectedToken (name : String)
  deriving DecidableEq

/-- The report of an error. -/
def ValueError.message : ValueError → String
  | outOfRange name value =>
    s!"value {String.ofList value} for '{String.ofList name}' does not fit in a 64-bit integer"
  | orphan value => s!"value {String.ofList value} is not attached to a variable"
  | unexpectedToken name => s!"unexpected token '{name}'"

/-- What a sentence says of a value. -/
def renderValue : Option Int64 → String
  | some v => toString v.toInt
  | none => "unset"

/-- The sentence of the variable with the number `n`. -/
def Variable.render (n : Nat) (v : Variable) : String :=
  s!"{n}) The value of {String.ofList v.name} is {renderValue v.value}."

/-- The sentences of a program, numbered from 1, with line feeds between them. -/
def Program.render (p : Program) : String :=
  "\n".intercalate (p.declared.mapIdx fun i v => v.render (i + 1))

end ModalLexer.Assignment
