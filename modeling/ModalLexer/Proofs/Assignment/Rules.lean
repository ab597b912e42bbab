import ModalLexer.Assignment.Grammar
import ModalLexer.Proofs.Lexes
import ModalLexer.Proofs.Regex.Longest

/-!
# The rules of the assignment language at work

The grammar of the language can be built, and `rules` is what results, with every pattern compiled
(`grammar_eq`). Each of its patterns is of one of the three forms whose matches are known. So it is
known what the lexer passes from each name: white space in front of a name and behind it
(`passes_blank`), and a name, a parenthesis and digits, which lead from one name to the next
(`passes_name`, `passes_open`, `passes_digits`, `passes_close`). Nothing else can be lexed at all.
-/

namespace ModalLexer.Assignment

open CharSet Regex

/-! ## The compiled grammar -/

/-- The characters of names. -/
def nameChars : CharSet := ⟨[(48, 57), (65, 90), (95, 95), (97, 122)], by decide⟩

/-- The characters of values. -/
def digits : CharSet := ⟨[(48, 57)], by decide⟩

/-- Drops white space. -/
def skipBlank : Rule where
  transition := .skip
  pattern := .regex "\\s+".toList (Expr.oneOrMore whiteSpace).atStart.program (by rfl)

/-- Takes a name. -/
def takeName : Rule where
  transition := .produce variableName
  pattern := .regex "[A-Za-z0-9_]+".toList (Expr.oneOrMore nameChars).atStart.program (by rfl)

/-- Drops an opening parenthesis with the white space behind it. -/
def openValue : Rule where
  transition := .goto variableValue
  pattern := .regex "\\(\\s*".toList (Expr.charThen '(' whiteSpace).atStart.program (by rfl)

/-- Takes digits. -/
def takeDigits : Rule where
  transition := .produceSelf
  pattern := .regex "[0-9]+".toList (Expr.oneOrMore digits).atStart.program (by rfl)

/-- Drops a closing parenthesis with the white space in front of it. -/
def closeValue : Rule where
  transition := .goto start
  pattern := .regex "\\s*\\)".toList (Expr.thenChar whiteSpace ')').atStart.program (by rfl)

/-- The grammar of the language, with its patterns compiled. -/
def rules : Grammar where
  entries :=
    [(start, [skipBlank, takeName]), (variableName, [skipBlank, openValue]),
     (variableValue, [takeDigits, closeValue])]
  nodup := by decide

/-- The contexts of the language make a grammar. -/
theorem grammar_eq : grammar = .ok rules := by rfl

/-- The names that have a context, and their contexts. -/
theorem rules_get?_cases {a : String} {c : Context} (h : rules.get? a = some c) :
    (a = start ∧ c = [skipBlank, takeName]) ∨ (a = variableName ∧ c = [skipBlank, openValue]) ∨
      (a = variableValue ∧ c = [takeDigits, closeValue]) := by
  have hmem : (a, c) ∈ rules.entries := Grammar.mem_entries_of_get? h
  simpa only [rules, List.mem_cons, Prod.mk.injEq, List.not_mem_nil, or_false] using hmem

/-- The language has five rules, of which one stands in two contexts. -/
theorem forall_rule {P : Rule → Prop} (hblank : P skipBlank) (hname : P takeName)
    (hopen : P openValue) (hdigits : P takeDigits) (hclose : P closeValue) :
    ∀ a c, rules.get? a = some c → ∀ rule ∈ c, P rule := by
  intro a c hc
  rcases rules_get?_cases hc with ⟨-, rfl⟩ | ⟨-, rfl⟩ | ⟨-, rfl⟩
  · exact List.forall_mem_cons.2 ⟨hblank, List.forall_mem_singleton.2 hname⟩
  · exact List.forall_mem_cons.2 ⟨hblank, List.forall_mem_singleton.2 hopen⟩
  · exact List.forall_mem_cons.2 ⟨hdigits, List.forall_mem_singleton.2 hclose⟩

/-- No rule of the language matches the empty text. -/
theorem rules_consumes : rules.Consumes :=
  forall_rule Pattern.match?_oneOrMore_ne_nil Pattern.match?_oneOrMore_ne_nil
    Pattern.match?_charThen_ne_nil Pattern.match?_oneOrMore_ne_nil
    (Pattern.match?_thenChar_ne_nil (by decide))

/-! ## Characters -/

/-- Names consist of letters and digits of ASCII and underscores. -/
theorem contains_nameChars (c : Char) : nameChars.contains c = (c.isAlphanum || c == '_') := by
  have hunderscore : c = '_' ↔ c.toNat = 95 := by
    rw [← Char.toNat_inj]
    rfl
  rw [Bool.eq_iff_iff]
  unfold Char.isAlphanum Char.isAlpha Char.isUpper Char.isLower
  simp only [contains, nameChars, holds_cons, holds_nil, Bool.or_false, Bool.or_eq_true,
    Bool.and_eq_true, decide_eq_true_eq, beq_iff_eq, hunderscore, Char.isDigit, ge_iff_le,
    UInt32.le_iff_toNat_le, Char.toNat_val, ↓Char.isValue, Char.reduceVal, UInt32.reduceToNat]
  omega

/-- Values consist of digits. -/
theorem contains_digits (c : Char) : digits.contains c = c.isDigit := by
  rw [Bool.eq_iff_iff]
  simp only [contains, digits, holds_cons, holds_nil, Bool.or_false, Bool.and_eq_true,
    decide_eq_true_eq, Char.isDigit, ge_iff_le, UInt32.le_iff_toNat_le, Char.toNat_val,
    ↓Char.isValue, Char.reduceVal, UInt32.reduceToNat]

/-- No character of a name is white space. -/
theorem disjoint_nameChars : whiteSpace.Disjoint nameChars := by
  intro c h
  rw [← Bool.not_eq_true]
  simp only [contains, nameChars, whiteSpace, holds_cons, holds_nil, Bool.or_false, Bool.or_eq_true,
    Bool.and_eq_true, decide_eq_true_eq] at h ⊢
  omega

/-- No digit is white space. -/
theorem disjoint_digits : whiteSpace.Disjoint digits := by
  intro c h
  rw [← Bool.not_eq_true]
  simp only [contains, digits, whiteSpace, holds_cons, holds_nil, Bool.or_false, Bool.or_eq_true,
    Bool.and_eq_true, decide_eq_true_eq] at h ⊢
  omega

/-! ## Passing from each name -/

section

variable {a : String} {n d w t : Text} {tokens : List Token}

/-- At the start, white space is skipped or a name is taken. -/
theorem get?_start : rules.get? start = some [skipBlank, takeName] := by rfl

/-- Behind a name, white space is skipped or a value is opened. -/
theorem get?_variableName : rules.get? variableName = some [skipBlank, openValue] := by rfl

/-- In a value, digits are taken or the value is closed. -/
theorem get?_variableValue : rules.get? variableValue = some [takeDigits, closeValue] := by rfl

/-- In front of a name and behind it, a longest run of white space is dropped. -/
theorem passes_blank (ha : a = start ∨ a = variableName) (hw : whiteSpace.Covers w)
    (ht : whiteSpace.EndsBefore t) : rules.Passes a (w ++ t) [] a t := by
  by_cases hne : w = []
  · rw [hne, List.nil_append]
    exact .refl rules a t
  · have htext : w ++ t ≠ [] := by simp [hne]
    have hmatch : skipBlank.pattern.match? (w ++ t) = some w := Pattern.match?_oneOrMore hne hw ht
    rcases ha with rfl | rfl
    · exact .of_drops htext get?_start (Context.firstMatch?_cons_of_some hmatch) rfl
    · exact .of_drops htext get?_variableName (Context.firstMatch?_cons_of_some hmatch) rfl

/-- From the start, a name makes a token. -/
theorem passes_name (hne : n ≠ []) (hn : nameChars.Covers n) (ht : nameChars.EndsBefore t) :
    rules.Passes start (n ++ t) [⟨variableName, n⟩] variableName t := by
  have htext : n ++ t ≠ [] := by simp [hne]
  have hblank : whiteSpace.EndsBefore (n ++ t) :=
    disjoint_nameChars.symm.endsBefore_append hn hne
  have hskip : skipBlank.pattern.match? (n ++ t) = none := Pattern.match?_oneOrMore_eq_none hblank
  have hmatch : takeName.pattern.match? (n ++ t) = some n := Pattern.match?_oneOrMore hne hn ht
  have hfirst : Context.firstMatch? [skipBlank, takeName] (n ++ t) = some (takeName, n) := by
    rw [Context.firstMatch?_cons_of_none hskip, Context.firstMatch?_cons_of_some hmatch]
  exact .of_produces htext get?_start hfirst rfl

/-- Behind a name, a parenthesis is dropped with the white space behind it. -/
theorem passes_open (hw : whiteSpace.Covers w) (ht : whiteSpace.EndsBefore t) :
    rules.Passes variableName ('(' :: (w ++ t)) [] variableValue t := by
  rw [← List.cons_append]
  have hblank : whiteSpace.EndsBefore ('(' :: w ++ t) := endsBefore_cons.2 (by decide)
  have hskip : skipBlank.pattern.match? ('(' :: w ++ t) = none :=
    Pattern.match?_oneOrMore_eq_none hblank
  have hmatch : openValue.pattern.match? ('(' :: w ++ t) = some ('(' :: w) :=
    Pattern.match?_charThen hw ht
  have hfirst : Context.firstMatch? [skipBlank, openValue] ('(' :: w ++ t) =
      some (openValue, '(' :: w) := by
    rw [Context.firstMatch?_cons_of_none hskip, Context.firstMatch?_cons_of_some hmatch]
  exact .of_drops (by simp) get?_variableName hfirst rfl

/-- Between parentheses, digits make a token. -/
theorem passes_digits (hne : d ≠ []) (hd : digits.Covers d) (ht : digits.EndsBefore t) :
    rules.Passes variableValue (d ++ t) [⟨variableValue, d⟩] variableValue t := by
  have htext : d ++ t ≠ [] := by simp [hne]
  have hmatch : takeDigits.pattern.match? (d ++ t) = some d := Pattern.match?_oneOrMore hne hd ht
  exact .of_produces htext get?_variableValue (Context.firstMatch?_cons_of_some hmatch) rfl

/-- Where digits are expected, a closing parenthesis is dropped with the white space in front of it,
and what follows is lexed from the start. -/
theorem passes_close (hw : whiteSpace.Covers w) :
    rules.Passes variableValue (w ++ ')' :: t) [] start t := by
  have hdigits : digits.EndsBefore (w ++ ')' :: t) :=
    disjoint_digits.endsBefore_append_of_endsBefore hw (endsBefore_cons.2 (by decide))
  have htake : takeDigits.pattern.match? (w ++ ')' :: t) = none :=
    Pattern.match?_oneOrMore_eq_none hdigits
  have hmatch : closeValue.pattern.match? (w ++ ')' :: t) = some (w ++ [')']) :=
    Pattern.match?_thenChar (by decide) hw
  have hfirst : Context.firstMatch? [takeDigits, closeValue] (w ++ ')' :: t) =
      some (closeValue, w ++ [')']) := by
    rw [Context.firstMatch?_cons_of_none htake, Context.firstMatch?_cons_of_some hmatch]
  rw [List.append_cons] at hfirst ⊢
  exact .of_drops (by simp) get?_variableValue hfirst rfl

/-! ## What can be lexed from each name -/

/-- From the start, nothing but white space and names can be lexed. -/
theorem not_lexes_start (hne : t ≠ []) (hblank : whiteSpace.EndsBefore t)
    (hname : nameChars.EndsBefore t) : ¬ rules.Lexes start t tokens := by
  have hskip : skipBlank.pattern.match? t = none := Pattern.match?_oneOrMore_eq_none hblank
  have htake : takeName.pattern.match? t = none := Pattern.match?_oneOrMore_eq_none hname
  have hfirst : Context.firstMatch? [skipBlank, takeName] t = none := by
    rw [Context.firstMatch?_cons_of_none hskip, Context.firstMatch?_cons_of_none htake]
    rfl
  exact Grammar.not_lexes hne get?_start hfirst

/-- Behind a name, nothing but white space and a parenthesis can be lexed. -/
theorem not_lexes_variableName (hne : t ≠ []) (hblank : whiteSpace.EndsBefore t)
    (hopen : t.head? ≠ some '(') : ¬ rules.Lexes variableName t tokens := by
  have hskip : skipBlank.pattern.match? t = none := Pattern.match?_oneOrMore_eq_none hblank
  have hmatch : openValue.pattern.match? t = none := Pattern.match?_charThen_eq_none hopen
  have hfirst : Context.firstMatch? [skipBlank, openValue] t = none := by
    rw [Context.firstMatch?_cons_of_none hskip, Context.firstMatch?_cons_of_none hmatch]
    rfl
  exact Grammar.not_lexes hne get?_variableName hfirst

/-- Where digits are expected, nothing can be lexed but digits and a closing parenthesis, perhaps
behind white space. So white space cannot end the text. -/
theorem not_lexes_variableValue (hne : w ++ t ≠ []) (hdigits : digits.EndsBefore (w ++ t))
    (hw : whiteSpace.Covers w) (ht : whiteSpace.EndsBefore t) (hclose : t.head? ≠ some ')') :
    ¬ rules.Lexes variableValue (w ++ t) tokens := by
  have htake : takeDigits.pattern.match? (w ++ t) = none :=
    Pattern.match?_oneOrMore_eq_none hdigits
  have hmatch : closeValue.pattern.match? (w ++ t) = none :=
    Pattern.match?_thenChar_eq_none (by decide) hw ht hclose
  have hfirst : Context.firstMatch? [takeDigits, closeValue] (w ++ t) = none := by
    rw [Context.firstMatch?_cons_of_none htake, Context.firstMatch?_cons_of_none hmatch]
    rfl
  exact Grammar.not_lexes hne get?_variableValue hfirst

/-- From the start, white space can be lexed, and a name perhaps, with what stands behind it. -/
theorem exists_of_lexes_start (h : rules.Lexes start t tokens) :
    ∃ w, whiteSpace.Covers w ∧ (t = w ∨ ∃ n u rest, n ≠ [] ∧ nameChars.Covers n ∧
      t = w ++ n ++ u ∧ rules.Lexes variableName u rest) := by
  obtain ⟨w, u, rfl, hw, hu⟩ := whiteSpace.exists_run t
  obtain ⟨_, h, -⟩ := (passes_blank (.inl rfl) hw hu).lexes_iff.1 h
  refine ⟨w, hw, ?_⟩
  by_cases hne : u = []
  · exact .inl (by rw [hne, List.append_nil])
  · obtain ⟨n, v, rfl, hn, hv⟩ := nameChars.exists_run u
    have hn' : n ≠ [] := by
      rintro rfl
      exact not_lexes_start hne hu hv h
    obtain ⟨rest, hrest, -⟩ := (passes_name hn' hn hv).lexes_iff.1 h
    exact .inr ⟨n, v, rest, hn', hn, (List.append_assoc w n v).symm, hrest⟩

/-- Behind a name, white space can be lexed, and a parenthesis perhaps. -/
theorem exists_of_lexes_variableName (h : rules.Lexes variableName t tokens) :
    ∃ w, whiteSpace.Covers w ∧ (t = w ∨ ∃ v u rest, whiteSpace.Covers v ∧ t = w ++ '(' :: (v ++ u) ∧
      rules.Lexes variableValue u rest) := by
  obtain ⟨w, u, rfl, hw, hu⟩ := whiteSpace.exists_run t
  obtain ⟨_, h, -⟩ := (passes_blank (.inr rfl) hw hu).lexes_iff.1 h
  refine ⟨w, hw, ?_⟩
  by_cases hne : u = []
  · exact .inl (by rw [hne, List.append_nil])
  · have hopen : u.head? = some '(' :=
      Decidable.byContradiction fun hopen => not_lexes_variableName hne hu hopen h
    obtain ⟨u, rfl⟩ := List.head?_eq_some_iff.1 hopen
    obtain ⟨v, u, rfl, hv, hu'⟩ := whiteSpace.exists_run u
    obtain ⟨rest, hrest, -⟩ := (passes_open hv hu').lexes_iff.1 h
    exact .inr ⟨v, u, rest, hv, rfl, hrest⟩

/-- Behind an opening parenthesis, digits can be lexed, and a closing parenthesis perhaps, with
white space in front of it. -/
theorem exists_of_lexes_variableValue (h : rules.Lexes variableValue t tokens) :
    ∃ d, digits.Covers d ∧ (t = d ∨ ∃ w u rest, whiteSpace.Covers w ∧ t = d ++ w ++ ')' :: u ∧
      rules.Lexes start u rest) := by
  obtain ⟨d, u, rfl, hd, hu⟩ := digits.exists_run t
  obtain ⟨rest, hrest⟩ : ∃ rest, rules.Lexes variableValue u rest := by
    by_cases hne : d = []
    · exact ⟨tokens, by rwa [hne] at h⟩
    · obtain ⟨rest, hrest, -⟩ := (passes_digits hne hd hu).lexes_iff.1 h
      exact ⟨rest, hrest⟩
  refine ⟨d, hd, ?_⟩
  by_cases hne : u = []
  · exact .inl (by rw [hne, List.append_nil])
  · obtain ⟨w, v, rfl, hw, hv⟩ := whiteSpace.exists_run u
    have hclose : v.head? = some ')' :=
      Decidable.byContradiction fun hclose => not_lexes_variableValue hne hu hw hv hclose hrest
    obtain ⟨v, rfl⟩ := List.head?_eq_some_iff.1 hclose
    obtain ⟨last, hlast, -⟩ := (passes_close hw).lexes_iff.1 hrest
    exact .inr ⟨w, v, last, hw, (List.append_assoc d w _).symm, hlast⟩

end

end ModalLexer.Assignment
