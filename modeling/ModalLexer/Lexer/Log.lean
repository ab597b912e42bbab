import ModalLexer.Lexer.State

/-!
# The log of a run

A run logs its start, every match, and its end if it reaches the end of its text. A `LogEvent` holds
what is logged, and `LogEvent.line` is the line written for it: its level, then its text.
-/

namespace ModalLexer

/-- Something that a run logs. -/
inductive LogEvent where
  /-- A run starts under a name, with a number of bytes left. -/
  | started (active : String) (bytes : Nat)
  /-- A match, with the position behind it. -/
  | matched (m : Match) (position : Position)
  /-- A run has reached the end of its text. -/
  | finished (position : Position)
  /-- A program with a number of variables has been read. -/
  | parsed (count : Nat)

/-- The number of bytes of a text in UTF-8. -/
def byteCount (t : Text) : Nat := t.foldl (fun n c => n + c.utf8Size) 0

namespace LogEvent

/-- What a match is used for. -/
def action (m : Match) : String := if m.rule.transition.produces then "reduce" else "drop"

/-- The line of an event. -/
def line : LogEvent → String
  | started active bytes => s!"DEBUG parse start: token '{active}', {bytes} bytes of input"
  | matched m position =>
    s!"TRACE {m.active} {m.rule.transition} {m.rule.pattern.describe} " ++
      s!"matched {Quoted.quote m.text} ({action m}), now at {position}"
  | finished position => s!"DEBUG parse done at {position}"
  | parsed count => s!"DEBUG parsed {count} variables"

end LogEvent

end ModalLexer
