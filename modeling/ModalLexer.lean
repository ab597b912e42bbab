import ModalLexer.Text.CharSet
import ModalLexer.Text.Blank
import ModalLexer.Text.Folding
import ModalLexer.Unicode.Letter
import ModalLexer.Unicode.Mark
import ModalLexer.Unicode.Number
import ModalLexer.Unicode.Punctuation
import ModalLexer.Unicode.Symbol
import ModalLexer.Unicode.Category
import ModalLexer.Unicode.Alphabetic
import ModalLexer.Unicode.Casing
import ModalLexer.Unicode.Identifier
import ModalLexer.Unicode.Mathematics
import ModalLexer.Unicode.Grapheme
import ModalLexer.Unicode.Emoji
import ModalLexer.Unicode.Ideograph
import ModalLexer.Unicode.Property
import ModalLexer.Unicode.Script
import ModalLexer.Unicode.ScriptExtension
import ModalLexer.Unicode.Age
import ModalLexer.Unicode.Break
import ModalLexer.Unicode.Name
import ModalLexer.Unicode.Newer
import ModalLexer.Text.Quoted
import ModalLexer.Text.Position
import ModalLexer.Text.Encoding
import ModalLexer.Regex.Expr
import ModalLexer.Regex.Program
import ModalLexer.Regex.Search
import ModalLexer.Regex.Weight
import ModalLexer.Regex.Syntax
import ModalLexer.Regex.Property
import ModalLexer.Regex.Escape
import ModalLexer.Regex.Bracket
import ModalLexer.Regex.Action
import ModalLexer.Regex.Reader
import ModalLexer.Pattern
import ModalLexer.Transition
import ModalLexer.Grammar
import ModalLexer.Lexer.Error
import ModalLexer.Lexer.State
import ModalLexer.Lexer.Log
import ModalLexer.Lexer.Run
import ModalLexer.Outline
import ModalLexer.Assignment.Program
import ModalLexer.Assignment.Grammar
import ModalLexer.Assignment.Parser
import ModalLexer.CommandLine.Arguments
import ModalLexer.CommandLine.Host
import ModalLexer.CommandLine.FileSystem
import ModalLexer.CommandLine.Command
import ModalLexer.Main
import ModalLexer.Proofs.Path
import ModalLexer.Proofs.Run
import ModalLexer.Proofs.Split
import ModalLexer.Proofs.History
import ModalLexer.Proofs.Repetition
import ModalLexer.Proofs.Lexes
import ModalLexer.Proofs.Regex.Longest
import ModalLexer.Proofs.Assignment.Rules
import ModalLexer.Proofs.Assignment.Language
import ModalLexer.Proofs.Assignment.Programs
import ModalLexer.Proofs.Fold
import ModalLexer.Proofs.Tokens
import ModalLexer.Proofs.Assignment.Outcomes
import ModalLexer.Proofs.Resume
import ModalLexer.Proofs.Retry
import ModalLexer.Proofs.Fallible
import ModalLexer.Proofs.Key
import ModalLexer.Proofs.Storing
import ModalLexer.Proofs.Extension
import ModalLexer.Proofs.Lockstep
import ModalLexer.Proofs.Shorthand
import ModalLexer.Proofs.Cut
import ModalLexer.Proofs.Position
import ModalLexer.Proofs.Assignment.Readings
import ModalLexer.Proofs.Assignment.Prefixes
import ModalLexer.Proofs.Assignment.Composition
import ModalLexer.Proofs.Mismatch
import ModalLexer.Proofs.Exclusion
import ModalLexer.Proofs.Assignment.Exclusion
import ModalLexer.Proofs.Overflow
import ModalLexer.Proofs.Settled
import ModalLexer.Proofs.Reach
import ModalLexer.Proofs.Edits
import ModalLexer.Proofs.Text.Unquoting
import ModalLexer.Proofs.Description
import ModalLexer.Proofs.Log
import ModalLexer.Proofs.Outline.Nodes
import ModalLexer.Proofs.Assignment.Rendering
import ModalLexer.Proofs.Assignment.Sentences
import ModalLexer.Proofs.Renaming
import ModalLexer.Proofs.CommandLine.Agreement
import ModalLexer.Proofs.Hops
import ModalLexer.Proofs.Concatenation
import ModalLexer.Proofs.Assignment.Range
import ModalLexer.Proofs.CommandLine.Places
import ModalLexer.Proofs.CommandLine.Output
import ModalLexer.Proofs.Regex.Code
import ModalLexer.Proofs.Regex.Walk
import ModalLexer.Proofs.Regex.Parallel
import ModalLexer.Proofs.Regex.Fixed
import ModalLexer.Proofs.Regex.Anchored
import ModalLexer.Proofs.Regex.Escaped
import ModalLexer.Proofs.Regex.Tidy
import ModalLexer.Proofs.Regex.Choice
import ModalLexer.Proofs.Regex.Within
import ModalLexer.Proofs.Regex.Reading.Escape
import ModalLexer.Proofs.Regex.Reading.Bracket
import ModalLexer.Proofs.Regex.Reading.Element
import ModalLexer.Proofs.Regex.Reading.Source
import ModalLexer.Proofs.Regex.Alternation
import ModalLexer.Proofs.Regex.Reading.Failure
import ModalLexer.Proofs.Regex.Span
import ModalLexer.Proofs.Regex.WellFormed
