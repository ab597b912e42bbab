import ModalLexer.Grammar

/-!
# The grammar of the assignment language

A source is a sequence of names, each with parentheses behind it that hold digits or nothing. White
space may stand between these parts and inside the parentheses. Only names and digits become tokens.
-/

namespace ModalLexer.Assignment

/-- The name in which a source begins, and to which it comes back behind every variable. -/
def start : String := "init"

/-- The token of the name of a variable. -/
def variableName : String := "variable-name"

/-- The token of the value of a variable. -/
def variableValue : String := "variable-value"

/-- A rule with a regular expression for its pattern. -/
def regexRule (key source : String) : RuleSource := .keyed key (.regex source.toList)

/-- The contexts of the language, under their names. -/
def contexts : List (String × List RuleSource) :=
  [(start, [regexRule "&" "\\s+", regexRule variableName "[A-Za-z0-9_]+"]),
   (variableName, [regexRule "&" "\\s+", regexRule "&variable-value" "\\(\\s*"]),
   (variableValue, [regexRule "@self" "[0-9]+", regexRule "&init" "\\s*\\)"])]

/-- The grammar of the language. -/
def grammar : Except ConfigurationError Grammar := Grammar.ofContexts contexts

end ModalLexer.Assignment
