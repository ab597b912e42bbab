import ModalLexer.Unicode.Age
import ModalLexer.Unicode.Break
import ModalLexer.Unicode.ScriptExtension

/-!
# Sets of characters by name

Properties, categories and scripts have names, and so have the values of the properties that have
several. Names are compared loosely: case, spaces, low lines and hyphens do not count, and neither
does `is` at the front.
-/

namespace ModalLexer.Unicode

/-- The characters of a name that count, in lower case. -/
def significant (name : Text) : Text :=
  (name.filter fun c => c.toNat < 0x80 && c != ' ' && c != '_' && c != '-').map Char.toLower

/-- The form in which names are compared. `isc` is a name that is not short for `c`. -/
def looseName (name : Text) : String :=
  match name with
  | i :: s :: rest =>
    if i.toLower = 'i' ∧ s.toLower = 's' ∧ significant rest ≠ ['c'] then
      String.ofList (significant rest)
    else String.ofList (significant name)
  | _ => String.ofList (significant name)

/-- What a table holds under a name. -/
def lookup? (table : List (List String × CharSet)) (name : String) : Option CharSet :=
  (table.find? (name ∈ ·.1)).map (·.2)

/-- The characters of the property, the category or the script that has a name. -/
def named? (name : Text) : Option CharSet :=
  let name := looseName name
  lookup? properties name <|> lookup? categories name <|> script? name

/-- The characters for which a property has a value. -/
def valued? (property value : Text) : Option CharSet :=
  let value := looseName value
  match looseName property with
  | "gc" | "generalcategory" => lookup? categories value
  | "sc" | "script" => script? value
  | "scx" | "scriptextensions" => scriptExtension? value
  | "age" => age? value
  | "gcb" | "graphemeclusterbreak" => lookup? graphemeBreaks value
  | "wb" | "wordbreak" => lookup? wordBreaks value
  | "sb" | "sentencebreak" => lookup? sentenceBreaks value
  | _ => none

end ModalLexer.Unicode
