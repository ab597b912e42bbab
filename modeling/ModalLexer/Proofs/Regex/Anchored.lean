import ModalLexer.Pattern

/-!
# The source that is compiled

A source is read inside a group that does not capture, behind the assertion that the text starts
there. Behind `^(?:` the reader is in the state `Reader.inGroup`; the parenthesis behind the source
closes the group again.
-/

namespace ModalLexer.Regex.Reader

/-- The state in which a source is read: in a group behind `^`. -/
def inGroup : Reader := (({} : Reader).push (.assertion .textStart) 0).openGroup none {}

/-- Behind `^(?:`, the source itself is read. -/
theorem run_anchoredSource (source : Text) :
    ({} : Reader).run 0 (anchoredSource source) = inGroup.run 0 (source ++ [')']) := by
  have hcaret (cs : Text) : ({} : Reader).run 0 ('^' :: cs) =
      (({} : Reader).push (.assertion .textStart) 0).run 0 cs := by
    have hread : readAction {} '^' cs = .ok (.push (.assertion .textStart) 0, cs) := rfl
    rw [run_of_readAction hread rfl, Nat.sub_self]
  have hgroup (cs : Text) : (({} : Reader).push (.assertion .textStart) 0).run 0
      ('(' :: '?' :: ':' :: cs) = inGroup.run 0 cs := by
    have hread : readAction {} '(' ('?' :: ':' :: cs) = .ok (.openGroup {}, cs) := rfl
    have hlength : ('?' :: ':' :: cs).length - cs.length = 2 := by
      simp only [List.length_cons]
      omega
    rw [run_of_readAction hread rfl, hlength]
    rfl
  simp only [anchoredSource, List.cons_append, List.nil_append, hcaret, hgroup]

/-- A closing parenthesis at the end of a source closes the innermost group. -/
theorem run_paren (r : Reader) : r.run 0 [')'] = r.closeGroup := by
  have hread : readAction r.flags ')' [] = .ok (.closeGroup, []) := by
    have hblank : CharSet.whiteSpace.contains ')' = false := rfl
    simp [readAction, hblank]
  rw [run_cons, hread]
  simp only [Bind.bind, Except.bind, act]
  cases r.closeGroup <;> rfl

end ModalLexer.Regex.Reader
