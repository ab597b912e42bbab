import ModalLexer.Proofs.Assignment.Rules

/-!
# The assignment language

`Source` says which texts are sources of the language, without a lexer: white space, then items with
white space behind each of them, then perhaps a tail that breaks off inside an item. Every item and
the tail is an `Entry`, a name with the digits of its value.

The lexer takes apart exactly the sources. What it can lex from the start is a source
(`exists_source_of_lexes`, by induction on the length of the text), and the tokens of a source are
those of its entries (`Source.lexes_iff`, from what the lexer passes of items and of a tail).
-/

namespace ModalLexer.Assignment

open CharSet

/-! ## Sources -/

/-- White space, or nothing. -/
def IsBlank (w : Text) : Prop := ∀ c ∈ w, whiteSpace.contains c = true

/-- A name: letters and digits of ASCII and underscores, at least one of them. -/
def IsName (n : Text) : Prop := n ≠ [] ∧ ∀ c ∈ n, c.isAlphanum = true ∨ c = '_'

/-- Decimal digits, or nothing. -/
def IsDigits (d : Text) : Prop := ∀ c ∈ d, c.isDigit = true

instance (w : Text) : Decidable (IsBlank w) :=
  decidable_of_iff (w.all whiteSpace.contains = true) List.all_eq_true

instance (n : Text) : Decidable (IsName n) :=
  decidable_of_iff (n ≠ [] ∧ (n.all fun c => c.isAlphanum || c == '_') = true) (by simp [IsName])

instance (d : Text) : Decidable (IsDigits d) :=
  decidable_of_iff (d.all Char.isDigit = true) List.all_eq_true

/-- A variable as a source declares it: its name, and the digits of its value. -/
structure Entry where
  name : Text
  digits : Text

/-- A name with parentheses behind it. -/
inductive Item : Text → Entry → Prop
  | mk {n w₁ w₂ d w₃ : Text} (hn : IsName n) (h₁ : IsBlank w₁) (h₂ : IsBlank w₂)
    (hd : IsDigits d) (h₃ : IsBlank w₃) :
    Item (n ++ w₁ ++ ['('] ++ w₂ ++ d ++ w₃ ++ [')']) ⟨n, d⟩

/-- A name with what can stand behind it at the end of a source. No white space can stand behind
digits there. -/
inductive Tail : Text → Entry → Prop
  | name {n w : Text} (hn : IsName n) (hw : IsBlank w) : Tail (n ++ w) ⟨n, []⟩
  | opened {n w₁ w₂ : Text} (hn : IsName n) (h₁ : IsBlank w₁) (h₂ : IsBlank w₂) :
    Tail (n ++ w₁ ++ ['('] ++ w₂) ⟨n, []⟩
  | value {n w₁ w₂ d : Text} (hn : IsName n) (h₁ : IsBlank w₁) (h₂ : IsBlank w₂)
    (hne : d ≠ []) (hd : IsDigits d) : Tail (n ++ w₁ ++ ['('] ++ w₂ ++ d) ⟨n, d⟩

/-- Items, each with white space behind it. -/
inductive Items : Text → List Entry → Prop
  | nil : Items [] []
  | cons {t w u : Text} {e : Entry} {es : List Entry} (ht : Item t e) (hw : IsBlank w)
    (hu : Items u es) : Items (t ++ w ++ u) (e :: es)

/-- A source: white space and items, and perhaps a tail. -/
inductive Source : Text → List Entry → Prop
  | closed {w t : Text} {es : List Entry} (hw : IsBlank w) (ht : Items t es) : Source (w ++ t) es
  | unclosed {w t u : Text} {es : List Entry} {e : Entry} (hw : IsBlank w) (ht : Items t es)
    (hu : Tail u e) : Source (w ++ t ++ u) (es ++ [e])

/-- A source with an item in front of it is a source. -/
theorem Source.cons {w t u : Text} {e : Entry} {es : List Entry} (hw : IsBlank w) (ht : Item t e)
    (hu : Source u es) : Source (w ++ t ++ u) (e :: es) := by
  cases hu with
  | @closed w' u _ hw' hu =>
    rw [← List.append_assoc, List.append_assoc w, List.append_assoc w]
    exact .closed hw (.cons ht hw' hu)
  | @unclosed w' u v es e' hw' hu hv =>
    have htext : w ++ t ++ (w' ++ u ++ v) = w ++ (t ++ w' ++ u) ++ v := by simp
    rw [htext]
    exact .unclosed hw (.cons ht hw' hu) hv

/-- A tail makes a source by itself. -/
theorem Source.of_tail {w t : Text} {e : Entry} (hw : IsBlank w) (ht : Tail t e) :
    Source (w ++ t) [e] := by
  rw [← List.append_nil w]
  exact .unclosed hw .nil ht

/-! ## Sources are lexed -/

/-- The tokens of an entry. -/
def Entry.tokens (e : Entry) : List Token :=
  ⟨variableName, e.name⟩ :: if e.digits = [] then [] else [⟨variableValue, e.digits⟩]

variable {n d w t u : Text} {e : Entry} {es : List Entry} {tokens : List Token}

/-- Names consist of the characters of names. -/
theorem covers_nameChars_iff : nameChars.Covers n ↔ ∀ c ∈ n, c.isAlphanum = true ∨ c = '_' := by
  simp only [Covers, contains_nameChars, Bool.or_eq_true, beq_iff_eq]

/-- Digits consist of the characters of values. -/
theorem covers_digits_iff : digits.Covers d ↔ IsDigits d := by
  simp only [Covers, contains_digits, IsDigits]

/-- No name begins with white space. -/
theorem IsName.endsBefore_append (hn : IsName n) : whiteSpace.EndsBefore (n ++ t) :=
  disjoint_nameChars.symm.endsBefore_append (covers_nameChars_iff.2 hn.2) hn.1

/-- No item begins with white space. -/
theorem Item.endsBefore_append (h : Item t e) : whiteSpace.EndsBefore (t ++ u) := by
  obtain ⟨hn, -⟩ := h
  simpa using hn.endsBefore_append

/-- No items begin with white space, if what stands behind them does not. -/
theorem Items.endsBefore_append (h : Items t es) (hu : whiteSpace.EndsBefore u) :
    whiteSpace.EndsBefore (t ++ u) := by
  cases h with
  | nil => exact hu
  | cons ht => simpa using ht.endsBefore_append

/-- Nor does a tail. -/
theorem Tail.endsBefore (h : Tail t e) : whiteSpace.EndsBefore t := by
  cases h with
  | name hn => exact hn.endsBefore_append
  | opened hn => simpa using hn.endsBefore_append
  | value hn => simpa using hn.endsBefore_append

/-- A name is passed with the white space behind it. -/
theorem passes_name_blank (hn : IsName n) (hw : IsBlank w) (ht : nameChars.EndsBefore t)
    (ht' : whiteSpace.EndsBefore t) :
    rules.Passes start (n ++ (w ++ t)) [⟨variableName, n⟩] variableName t := by
  have hend : nameChars.EndsBefore (w ++ t) :=
    disjoint_nameChars.endsBefore_append_of_endsBefore hw ht
  exact (passes_name hn.1 (covers_nameChars_iff.2 hn.2) hend).trans (passes_blank (.inr rfl) hw ht')

/-- A parenthesis, white space and digits are passed with the token of the digits. -/
theorem passes_open_digits (hw : IsBlank w) (hd : IsDigits d) (hne : d ≠ [])
    (ht : digits.EndsBefore t) :
    rules.Passes variableName ('(' :: (w ++ (d ++ t))) [⟨variableValue, d⟩] variableValue t := by
  have hcovers : digits.Covers d := covers_digits_iff.2 hd
  have hblank : whiteSpace.EndsBefore (d ++ t) := disjoint_digits.symm.endsBefore_append hcovers hne
  exact (passes_open hw hblank).trans (passes_digits hne hcovers ht)

/-- A name with its digits is passed with the tokens of an entry. -/
theorem passes_name_digits {w₁ w₂ : Text} (hn : IsName n) (h₁ : IsBlank w₁) (h₂ : IsBlank w₂)
    (hd : IsDigits d) (hne : d ≠ []) (ht : digits.EndsBefore t) :
    rules.Passes start (n ++ (w₁ ++ '(' :: (w₂ ++ (d ++ t)))) (Entry.tokens ⟨n, d⟩) variableValue
      t := by
  have hname := passes_name_blank (t := '(' :: (w₂ ++ (d ++ t))) hn h₁
    (endsBefore_cons.2 (by decide)) (endsBefore_cons.2 (by decide))
  rw [Entry.tokens, if_neg hne]
  exact hname.trans (passes_open_digits h₂ hd hne ht)

/-- What stands between the parentheses of an item is passed with the token of its digits, if it has
any. -/
theorem passes_parentheses {w₁ w₂ : Text} (h₁ : IsBlank w₁) (hd : IsDigits d) (h₂ : IsBlank w₂) :
    rules.Passes variableName ('(' :: (w₁ ++ (d ++ (w₂ ++ ')' :: u))))
      (if d = [] then [] else [⟨variableValue, d⟩]) start u := by
  by_cases hne : d = []
  · -- Without digits, all white space goes with the opening parenthesis.
    have hblank : whiteSpace.Covers (w₁ ++ w₂) := List.forall_mem_append.2 ⟨h₁, h₂⟩
    have hend : whiteSpace.EndsBefore (')' :: u) := endsBefore_cons.2 (by decide)
    have hclose : rules.Passes variableValue (')' :: u) [] start u :=
      passes_close (w := []) (fun _ h => absurd h List.not_mem_nil)
    rw [hne, List.nil_append, ← List.append_assoc, if_pos rfl]
    exact (passes_open hblank hend).trans hclose
  · have hend : digits.EndsBefore (w₂ ++ ')' :: u) :=
      disjoint_digits.endsBefore_append_of_endsBefore h₂ (endsBefore_cons.2 (by decide))
    rw [if_neg hne]
    exact (passes_open_digits h₁ hd hne hend).trans (passes_close h₂)

/-- An item is passed with the tokens of its entry. -/
theorem Item.passes (h : Item t e) : rules.Passes start (t ++ u) e.tokens start u := by
  obtain @⟨n, w₁, w₂, d, w₃, hn, h₁, h₂, hd, h₃⟩ := h
  have htext : n ++ w₁ ++ ['('] ++ w₂ ++ d ++ w₃ ++ [')'] ++ u =
      n ++ (w₁ ++ '(' :: (w₂ ++ (d ++ (w₃ ++ ')' :: u)))) := by simp
  rw [htext]
  exact (passes_name_blank hn h₁ (endsBefore_cons.2 (by decide))
    (endsBefore_cons.2 (by decide))).trans (passes_parentheses h₂ hd h₃)

/-- Items are passed with the tokens of their entries, and so is the white space in front of them
and behind them. -/
theorem Items.passes {v : Text} (h : Items t es) (hw : IsBlank w) (hv : IsBlank v)
    (hu : whiteSpace.EndsBefore u) :
    rules.Passes start (w ++ t ++ (v ++ u)) (es.flatMap Entry.tokens) start u := by
  induction h generalizing w with
  | nil =>
    rw [List.append_nil, ← List.append_assoc]
    exact passes_blank (.inl rfl) (List.forall_mem_append.2 ⟨hw, hv⟩) hu
  | @cons t w' t' e es ht hw' _ ih =>
    have htext : w ++ (t ++ w' ++ t') ++ (v ++ u) = w ++ (t ++ (w' ++ t' ++ (v ++ u))) := by simp
    rw [htext, List.flatMap_cons]
    exact (passes_blank (.inl rfl) hw ht.endsBefore_append).trans (ht.passes.trans (ih hw'))

/-- A tail is passed with the tokens of its entry, to the end of the text. The lexer does not come
back to the start. -/
theorem Tail.exists_passes (h : Tail t e) :
    ∃ a, a ≠ start ∧ rules.Passes start t e.tokens a [] := by
  cases h with
  | @name n w hn hw =>
    refine ⟨variableName, by decide, ?_⟩
    simpa [Entry.tokens] using passes_name_blank hn hw endsBefore_nil endsBefore_nil
  | @opened n w₁ w₂ hn h₁ h₂ =>
    have hname := passes_name_blank (t := '(' :: (w₂ ++ [])) hn h₁ (endsBefore_cons.2 (by decide))
      (endsBefore_cons.2 (by decide))
    refine ⟨variableValue, by decide, ?_⟩
    simpa [Entry.tokens] using hname.trans (passes_open h₂ endsBefore_nil)
  | @value n w₁ w₂ d hn h₁ h₂ hne hd =>
    refine ⟨variableValue, by decide, ?_⟩
    simpa using passes_name_digits hn h₁ h₂ hd hne endsBefore_nil

/-- Items can be passed to the end of the text. -/
theorem Items.passes_end (h : Items t es) (hw : IsBlank w) :
    rules.Passes start (w ++ t) (es.flatMap Entry.tokens) start [] := by
  have hpasses := h.passes hw (v := []) (List.forall_mem_nil _) endsBefore_nil
  rwa [List.append_nil, List.append_nil] at hpasses

/-- A tail can be passed behind items. -/
theorem Items.exists_passes_tail (h : Items t es) (hw : IsBlank w) (hu : Tail u e) :
    ∃ b, b ≠ start ∧ rules.Passes start (w ++ t ++ u) ((es ++ [e]).flatMap Entry.tokens) b [] := by
  obtain ⟨b, hb, htail⟩ := hu.exists_passes
  have hitems := h.passes hw (v := []) (List.forall_mem_nil _) hu.endsBefore
  rw [List.nil_append] at hitems
  refine ⟨b, hb, ?_⟩
  rw [List.flatMap_append, List.flatMap_singleton]
  exact hitems.trans htail

/-- A source is passed with the tokens of its entries. -/
theorem Source.exists_passes (h : Source t es) :
    ∃ a, rules.Passes start t (es.flatMap Entry.tokens) a [] := by
  cases h with
  | closed hw ht => exact ⟨start, ht.passes_end hw⟩
  | unclosed hw ht hu =>
    obtain ⟨a, -, hpasses⟩ := ht.exists_passes_tail hw hu
    exact ⟨a, hpasses⟩

/-- So it is lexed as these tokens, and as no others. -/
theorem Source.lexes_iff (h : Source t es) :
    rules.Lexes start t tokens ↔ tokens = es.flatMap Entry.tokens := by
  obtain ⟨a, hpasses⟩ := h.exists_passes
  rw [hpasses.lexes_iff]
  simp [Grammar.lexes_nil_iff]

/-! ## What is lexed is a source -/

/-- What can be lexed from the start is a source. -/
theorem exists_source_of_lexes (t : Text) (tokens : List Token)
    (h : rules.Lexes start t tokens) : ∃ es, Source t es := by
  -- An item in front of a text leaves a shorter one to be lexed from the start again.
  induction hlen : t.length using Nat.strongRecOn generalizing t tokens with
  | ind k ih =>
    subst hlen
    -- The text may end behind white space,
    obtain ⟨w, hw, rfl | ⟨n, t₁, rest₁, hne, hn, rfl, h₁⟩⟩ := exists_of_lexes_start h
    · exact ⟨[], List.append_nil t ▸ .closed hw .nil⟩
    have hname : IsName n := ⟨hne, covers_nameChars_iff.1 hn⟩
    -- or behind a name,
    obtain ⟨w₁, hw₁, rfl | ⟨w₂, t₂, rest₂, hw₂, rfl, h₂⟩⟩ := exists_of_lexes_variableName h₁
    · rw [List.append_assoc]
      exact ⟨_, .of_tail hw (.name hname hw₁)⟩
    -- or between parentheses, with digits or without.
    obtain ⟨d, hd, rfl | ⟨w₃, u, rest₃, hw₃, rfl, h₃⟩⟩ := exists_of_lexes_variableValue h₂
    · have hdigits : IsDigits t₂ := covers_digits_iff.1 hd
      by_cases hempty : t₂ = []
      · have htail : Tail (n ++ w₁ ++ ['('] ++ w₂) ⟨n, []⟩ := .opened hname hw₁ hw₂
        exact ⟨_, by simpa [hempty] using Source.of_tail hw htail⟩
      · have htail : Tail (n ++ w₁ ++ ['('] ++ w₂ ++ t₂) ⟨n, t₂⟩ :=
          .value hname hw₁ hw₂ hempty hdigits
        exact ⟨_, by simpa using Source.of_tail hw htail⟩
    · have hitem : Item (n ++ w₁ ++ ['('] ++ w₂ ++ d ++ w₃ ++ [')']) ⟨n, d⟩ :=
        .mk hname hw₁ hw₂ (covers_digits_iff.1 hd) hw₃
      obtain ⟨es, hes⟩ := ih u.length (by simp; omega) u rest₃ h₃ rfl
      exact ⟨_, by simpa using hes.cons hw hitem⟩

end ModalLexer.Assignment
