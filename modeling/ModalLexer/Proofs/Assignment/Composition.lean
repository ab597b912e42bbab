import ModalLexer.Proofs.Assignment.Readings
import ModalLexer.Proofs.Position

/-!
# Sources one behind the other

A source that ends where it began, at the start, can stand in front of every text: what is read of
the whole follows from what is read of the two parts (`parse_append`). Such a source ends in white
space or in a closing parenthesis with white space behind it (`Source.active_eq_start_iff`).

The lexer does not come by the seam if white space stands on both sides of it, for that is passed in
one match. It comes to the same place behind the white space, though, from the text alone as from
the whole, and goes on in the same way from there (`Items.exists_path_append`).
-/

namespace ModalLexer.Assignment

open CharSet

/-! ## How a source ends -/

/-- The last character of a text that is not white space. -/
def lastVisible? (t : Text) : Option Char := t.reverse.find? fun c => !whiteSpace.contains c

/-- The text is white space, or its last character that is not closes a parenthesis. -/
def EndsClosed (t : Text) : Prop := lastVisible? t = none ∨ lastVisible? t = some ')'

instance (t : Text) : Decidable (EndsClosed t) := inferInstanceAs (Decidable (_ ∨ _))

variable {b d t u w : Text} {e : Entry} {es es' : List Entry} {ms : List Match} {s s' : State}

/-- The last visible character of two texts is that of the second, if it has one. -/
theorem lastVisible?_append (t u : Text) :
    lastVisible? (t ++ u) = (lastVisible? u).or (lastVisible? t) := by
  rw [lastVisible?, List.reverse_append, List.find?_append]
  rfl

/-- White space has none. -/
theorem IsBlank.lastVisible?_eq_none (hw : IsBlank w) : lastVisible? w = none := by
  simpa [lastVisible?, IsBlank] using hw

/-- A run without white space and closing parentheses has one that closes nothing. -/
theorem exists_lastVisible?_of_covers {r : CharSet} (hr : whiteSpace.Disjoint r)
    (hclose : r.contains ')' = false) (hd : r.Covers d) (hne : d ≠ []) :
    ∃ c, lastVisible? d = some c ∧ c ≠ ')' := by
  obtain ⟨front, c, rfl⟩ := (List.eq_nil_or_concat d).resolve_left hne
  have hc : r.contains c = true := hd c (by simp)
  have hvisible : whiteSpace.contains c = false := hr.symm c hc
  refine ⟨c, ?_, ?_⟩
  · rw [List.concat_eq_append, lastVisible?_append]
    simp [lastVisible?, hvisible]
  · rintro rfl
    exact absurd (hc.symm.trans hclose) (by decide)

/-- An item ends in a closing parenthesis. -/
theorem Item.lastVisible?_eq (h : Item t e) : lastVisible? t = some ')' := by
  obtain ⟨-⟩ := h
  rw [lastVisible?_append]
  rfl

/-- Items behind white space end in a closing parenthesis, if there are any. -/
theorem Items.endsClosed (h : Items t es) (hw : IsBlank w) : EndsClosed (w ++ t) := by
  unfold EndsClosed
  rw [lastVisible?_append, hw.lastVisible?_eq_none, Option.or_none]
  induction h with
  | nil => exact .inl rfl
  | @cons t w' u e es ht hw' _ ih =>
    rw [lastVisible?_append, lastVisible?_append, hw'.lastVisible?_eq_none, ht.lastVisible?_eq]
    rcases ih with hu | hu
    · exact .inr (by rw [hu]; rfl)
    · exact .inr (by rw [hu]; rfl)

/-- The last visible character of a tail is no closing parenthesis. -/
theorem Tail.exists_lastVisible? (h : Tail t e) : ∃ c, lastVisible? t = some c ∧ c ≠ ')' := by
  cases h with
  | name hn hw =>
    obtain ⟨c, hc, hne⟩ := exists_lastVisible?_of_covers disjoint_nameChars (by decide)
      (covers_nameChars_iff.2 hn.2) hn.1
    refine ⟨c, ?_, hne⟩
    rw [lastVisible?_append, hw.lastVisible?_eq_none, hc, Option.none_or]
  | opened _ _ hw =>
    refine ⟨'(', ?_, by decide⟩
    rw [lastVisible?_append, lastVisible?_append, hw.lastVisible?_eq_none]
    rfl
  | value _ _ _ hne hd =>
    obtain ⟨c, hc, hclose⟩ := exists_lastVisible?_of_covers disjoint_digits (by decide)
      (covers_digits_iff.2 hd) hne
    refine ⟨c, ?_, hclose⟩
    rw [lastVisible?_append, hc, Option.some_or]

/-- No text with a tail behind it ends closed. -/
theorem Tail.not_endsClosed (h : Tail u e) : ¬ EndsClosed (t ++ u) := by
  obtain ⟨c, hc, hne⟩ := h.exists_lastVisible?
  unfold EndsClosed
  rw [lastVisible?_append, hc, Option.some_or]
  simpa using hne

/-- A source that ends closed consists of white space and items. -/
theorem Source.exists_items (h : Source t es) (ht : EndsClosed t) :
    ∃ w u, t = w ++ u ∧ IsBlank w ∧ Items u es := by
  cases h with
  | closed hw hitems => exact ⟨_, _, rfl, hw, hitems⟩
  | unclosed _ _ hu => exact absurd ht hu.not_endsClosed

/-- At the end of a source, the lexer is at the start exactly if the source ends closed. -/
theorem Source.active_eq_start_iff (h : Source t es) (hpath : Path rules (.fresh start t) ms s)
    (hs : s.rest = []) : s.active = start ↔ EndsClosed t := by
  cases h with
  | closed hw ht => exact iff_of_true ((ht.passes_end hw).active_eq hpath hs) (ht.endsClosed hw)
  | unclosed hw ht hu =>
    obtain ⟨b, hne, hpasses⟩ := ht.exists_passes_tail hw hu
    exact iff_of_false (hpasses.active_eq hpath hs ▸ hne) hu.not_endsClosed

/-! ## Behind the seam -/

/-- Behind white space and items, a text is lexed as it is by itself. -/
theorem Items.exists_path_append (h : Items t es) (hw : IsBlank w)
    (hpath : Path rules (.fresh start b) ms s) (hs : s.Halts rules) :
    ∃ ms' s', Path rules (.fresh start (w ++ t ++ b)) ms' s' ∧ s'.Halts rules ∧
      tokensOf ms' = es.flatMap Entry.tokens ++ tokensOf ms ∧ s'.active = s.active ∧
      s'.rest = s.rest := by
  -- Both lexers come to the start, with the white space at the seam behind them.
  obtain ⟨v, u, rfl, hv, hu⟩ := whiteSpace.exists_run b
  obtain ⟨ns, s₁, hpath₁, htokens₁, hactive₁, hrest₁⟩ :=
    (passes_blank (.inl rfl) hv hu).exists_path_of_halts hpath hs
  obtain ⟨ms', s', hpath', htokens', hactive', hrest'⟩ :=
    (h.passes hw hv hu).exists_path_append hpath₁
  have hactive := hactive'.trans hactive₁
  have hrest := hrest'.trans hrest₁
  exact ⟨ms', s', hpath', hs.transfer hactive hrest, by rw [htokens', htokens₁, List.nil_append],
    hactive, hrest⟩

/-- Where the lexer comes to with the same text left, its position is counted from the seam. -/
theorem position_eq_offset {a : Text} {ms' : List Match}
    (h : Path rules (.fresh start b) ms s) (h' : Path rules (.fresh start (a ++ b)) ms' s')
    (hrest : s'.rest = s.rest) :
    s'.position = (Position.start.advance a).offset s.position := by
  have htext : textOf ms' = a ++ textOf ms := by
    have hwhole : textOf ms' ++ s'.rest = a ++ b := h'.textOf_append_rest
    have hpart : textOf ms ++ s.rest = b := h.textOf_append_rest
    rw [← hpart, ← List.append_assoc, hrest] at hwhole
    exact List.append_cancel_right hwhole
  rw [h'.position_eq, h.position_eq, htext, Position.advance_append, Position.advance_eq_offset]
  rfl

/-! ## What is read of the whole -/

/-- Entries whose values are not too large add their variables in front. -/
theorem reading_append_eq_ok_iff {r : Program} (hfits : ∀ e ∈ es, number e.digits ≤ maxValue)
    (hrest : s'.rest = s.rest) : reading (es ++ es') s' = .ok r ↔
      ∃ q, reading es' s = .ok q ∧ r.declared = es.map Entry.variable ++ q.declared := by
  simp only [reading_eq_ok_iff, List.forall_mem_append, and_iff_right hfits, hrest]
  constructor
  · rintro ⟨hfits', hend, rfl⟩
    exact ⟨_, ⟨hfits', hend, rfl⟩, List.map_append⟩
  · rintro ⟨q, ⟨hfits', hend, rfl⟩, hdeclared⟩
    exact ⟨hfits', hend, congrArg Program.mk (List.map_append.trans hdeclared.symm)⟩

/-- Behind such entries, the lexer is stopped by what stops it without them. -/
theorem reading_append_eq_mismatch {m : Mismatch} (hfits : ∀ e ∈ es, number e.digits ≤ maxValue)
    (hrest : s'.rest = s.rest) (h : reading es' s = .error (.mismatch m)) :
    reading (es ++ es') s' = .error (.mismatch s'.mismatch) := by
  obtain ⟨hfits', hne, -⟩ := reading_eq_mismatch_iff.1 h
  exact reading_eq_mismatch_iff.2
    ⟨List.forall_mem_append.2 ⟨hfits, hfits'⟩, hrest ▸ hne, rfl⟩

/-- Behind such entries, the reduction is stopped by what stops it without them. -/
theorem reading_append_eq_error {token : String} {error : ValueError}
    (hfits : ∀ e ∈ es, number e.digits ≤ maxValue)
    (h : reading es' s = .error (.reduction token error)) :
    reading (es ++ es') s' = .error (.reduction token error) := by
  unfold reading at h ⊢
  rw [List.find?_append, find?_eq_none_iff_fits.2 hfits, Option.none_or]
  cases hfind : es'.find? Entry.tooLarge with
  | some e => simpa only [hfind] using h
  | none =>
    rw [hfind] at h
    by_cases hs : s.rest = [] <;> simp [hs] at h

/-- Sources compose. A source leads the lexer back to the start exactly if it ends closed. Then
every text can stand behind it, and what is read of the whole follows from what is read of that
text. If it is read as a program, its variables stand behind those of the source. If it is a
mismatch, then so is the whole, under the same name and in front of the same text, at the position
counted from where the source ends. And if a value in it is rejected, the same value is rejected in
the whole. -/
theorem parse_append {a : Text} {p : Program} (h : parse a = .ok p) :
    ∃ g, grammar = .ok g ∧ ((run g a).state.active = start ↔ EndsClosed a) ∧
      (EndsClosed a → ∀ b,
        (∀ r, parse (a ++ b) = .ok r ↔
          ∃ q, parse b = .ok q ∧ r.declared = p.declared ++ q.declared) ∧
        (∀ m, parse b = .error (.mismatch m) → ∃ m', parse (a ++ b) = .error (.mismatch m') ∧
          m'.token = m.token ∧ m'.preview = m.preview ∧
          m'.position = (Position.start.advance a).offset m.position) ∧
        ∀ token name value, parse b = .error (.reduction token (.outOfRange name value)) →
          parse (a ++ b) = .error (.reduction token (.outOfRange name value))) := by
  obtain ⟨ms, s, hpath, hs, es, hsource, htokens⟩ := exists_path_entries a
  rw [parse_eq_reading hpath hs htokens, reading_eq_ok_iff] at h
  obtain ⟨hfits, hrest, rfl⟩ := h
  obtain ⟨hstate, -⟩ := run_of_fits hpath hs htokens hfits
  have htext : textOf ms = a := hpath.textOf_eq hrest
  rw [htext] at hsource
  refine ⟨rules, grammar_eq, hstate ▸ hsource.active_eq_start_iff hpath hrest, fun hclosed b => ?_⟩
  -- The whole has the entries of both parts, and the lexer halts in front of the same text in it as
  -- in the second part.
  obtain ⟨w, u, rfl, hw, hitems⟩ := hsource.exists_items hclosed
  obtain ⟨ns, t, hpathb, ht, es', -, htokensb⟩ := exists_path_entries b
  obtain ⟨ns', t', hpath', ht', htokens', hactive, hrest'⟩ :=
    hitems.exists_path_append hw hpathb ht
  have hpart : parse b = reading es' t := parse_eq_reading hpathb ht htokensb
  have hwhole : parse (w ++ u ++ b) = reading (es ++ es') t' :=
    parse_eq_reading hpath' ht' (by rw [htokens', htokensb, List.flatMap_append])
  rw [hpart, hwhole]
  refine ⟨fun r => reading_append_eq_ok_iff hfits hrest', fun m hm => ?_, fun _ _ _ herror => ?_⟩
  · obtain ⟨-, -, rfl⟩ := reading_eq_mismatch_iff.1 hm
    exact ⟨_, reading_append_eq_mismatch hfits hrest' hm, hactive, congrArg preview hrest',
      position_eq_offset hpathb hpath' hrest'⟩
  · exact reading_append_eq_error hfits herror

/-- White space on both sides of the seam, and all that can come of the second part. -/
theorem parse_append_seam :
    parse "a(1)\n ".toList = .ok ⟨[⟨['a'], some 1⟩]⟩ ∧ EndsClosed "a(1)\n ".toList ∧
      (∃ r, parse ("a(1)\n ".toList ++ " b(2)".toList) = .ok r ∧
        r.declared = [⟨['a'], some 1⟩] ++ [⟨['b'], some 2⟩]) ∧
      (∃ m, parse ("a(1)\n ".toList ++ " b(x".toList) = .error (.mismatch m) ∧
        m.token = variableValue ∧ m.preview = ['x'] ∧ m.position = ⟨2, 5⟩) ∧
      parse ("a(1)\n ".toList ++ " b(9223372036854775808)".toList) =
        .error (.reduction variableValue (.outOfRange ['b'] "9223372036854775808".toList)) := by
  have h : parse "a(1)\n ".toList = .ok ⟨[⟨['a'], some 1⟩]⟩ := by rfl
  have hclosed : EndsClosed "a(1)\n ".toList := by decide
  obtain ⟨-, -, -, happend⟩ := parse_append h
  refine ⟨h, hclosed, ?_, ?_, ?_⟩
  · obtain ⟨hok, -, -⟩ := happend hclosed " b(2)".toList
    exact ⟨_, (hok ⟨[⟨['a'], some 1⟩, ⟨['b'], some 2⟩]⟩).2 ⟨⟨[⟨['b'], some 2⟩]⟩, by rfl, rfl⟩, rfl⟩
  · obtain ⟨-, hmismatch, -⟩ := happend hclosed " b(x".toList
    exact hmismatch ⟨variableValue, ['('], ⟨1, 4⟩, ['x']⟩ (by rfl)
  · obtain ⟨-, -, herror⟩ := happend hclosed " b(9223372036854775808)".toList
    exact herror _ _ _ (by rfl)

end ModalLexer.Assignment
