import ModalLexer.Regex.Syntax
import ModalLexer.Unicode.Name

/-!
# Sets named by a property

What stands behind `\p` or `\P`: one letter, or a name between braces, or there a property and its
value, with `:`, `=` or `!=` between them. `\P` takes the complement, as does `!=`, so both together
take none.
-/

namespace ModalLexer.Regex

/-- Reads the characters up to a closing brace onto `name`. There has to be one. -/
def readBraced (f : Flags) (name : Text) (t : Text) : Except SyntaxError (Text × Text) :=
  match _h : f.skip t with
  | [] => .error .escape
  | c :: cs => if c = '\x7d' then .ok (name.reverse, cs) else readBraced f (c :: name) cs
termination_by t.length
decreasing_by
  have := f.length_skip_le t
  rw [_h] at this
  exact this

/-- What stands before and behind the first place where `sep` stands. -/
def splitAt? (sep : Text) : Text → Option (Text × Text)
  | [] => none
  | c :: cs =>
    if sep.isPrefixOf (c :: cs) then some ([], (c :: cs).drop sep.length)
    else (splitAt? sep cs).map fun (before, behind) => (c :: before, behind)

/-- The set of a name between braces, and whether its complement is meant. -/
def propertySet? (name : Text) : Option (CharSet × Bool) :=
  match splitAt? ['!', '='] name with
  | some (property, value) => (Unicode.valued? property value).map (·, true)
  | none =>
    match splitAt? [':'] name <|> splitAt? ['='] name with
    | some (property, value) => (Unicode.valued? property value).map (·, false)
    | none => (Unicode.named? name).map (·, false)

/-- Reads the name that stands behind `\p`: one letter, or all that stands between braces. -/
def readPropertyName (f : Flags) (t : Text) : Except SyntaxError (Text × Text) :=
  match f.skip t with
  | [] | '\\' :: _ => .error .escape
  | '\x7b' :: cs => readBraced f [] cs
  | c :: cs => .ok ([c], cs)

/-- The set of a property that has been named. -/
def lookUpProperty (f : Flags) (negated : Bool) (name : Text) : Except SyntaxError CharSet :=
  match propertySet? name with
  | none => .error .property
  | some (s, complement) =>
    if !f.unicode then .error .beyondAscii
    else .ok (if negated != complement then (f.close s).compl else f.close s)

/-- Reads what stands behind `\p` or, if `negated`, behind `\P`. -/
def readProperty (f : Flags) (negated : Bool) (t : Text) :
    Except SyntaxError (CharSet × Text) := do
  let (name, rest) ← readPropertyName f t
  let s ← lookUpProperty f negated name
  .ok (s, rest)

end ModalLexer.Regex
