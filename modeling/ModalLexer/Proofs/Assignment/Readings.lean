import ModalLexer.Proofs.Assignment.Outcomes
import ModalLexer.Proofs.Assignment.Programs
import ModalLexer.Proofs.Cut

/-!
# How every source is read

A text need not be a source of the language to have entries: the lexer makes tokens up to the place
where it halts, and what it has passed there is a source. So every text has the entries of its
longest front that can be lexed, and a state in which the lexer halts (`exists_path_entries`).

What is read follows from these two alone (`parse_eq_reading`). The first entry whose value is too
large stops the reading, whether or not the lexer could go on behind it; if there is none, the text
is read as the program of the entries where the lexer has come to the end, and as a mismatch where
it has not. If the text is cut short behind what the lexer has passed, its entries stay the same
(`exists_parse_append_eq`).
-/

namespace ModalLexer.Assignment

/-- What comes of reading a text with the entries `es` in which the lexer halts in the state `s`. -/
def reading (es : List Entry) (s : State) : Except (LexError ValueError) Program :=
  match es.find? Entry.tooLarge with
  | some e => .error (.reduction variableValue (.outOfRange e.name e.digits))
  | none => if s.rest = [] then .ok ⟨es.map Entry.variable⟩ else .error (.mismatch s.mismatch)

variable {source u : Text} {es : List Entry} {ms : List Match} {s t : State}

/-- No entry with a value that is too large is found exactly if there is none. -/
theorem find?_eq_none_iff_fits :
    es.find? Entry.tooLarge = none ↔ ∀ e ∈ es, number e.digits ≤ maxValue := by
  simp [Entry.tooLarge]

/-- A text is read as a program if no value is too large and the lexer has come to its end. -/
theorem reading_eq_ok_iff {p : Program} : reading es s = .ok p ↔
    (∀ e ∈ es, number e.digits ≤ maxValue) ∧ s.rest = [] ∧ ⟨es.map Entry.variable⟩ = p := by
  rw [← find?_eq_none_iff_fits]
  unfold reading
  cases es.find? Entry.tooLarge with
  | some e => simp
  | none => by_cases hs : s.rest = [] <;> simp [hs]

/-- It is read as a mismatch if no value is too large and the lexer has not come to its end. -/
theorem reading_eq_mismatch_iff {m : Mismatch} : reading es s = .error (.mismatch m) ↔
    (∀ e ∈ es, number e.digits ≤ maxValue) ∧ s.rest ≠ [] ∧ s.mismatch = m := by
  rw [← find?_eq_none_iff_fits]
  unfold reading
  cases es.find? Entry.tooLarge with
  | some e => simp
  | none => by_cases hs : s.rest = [] <;> simp [hs]

/-! ## The grammar -/

/-- All patterns of the language can be cut. -/
theorem rules_cuttable : rules.Cuttable :=
  forall_rule Pattern.cuttable_oneOrMore Pattern.cuttable_oneOrMore Pattern.cuttable_charThen
    Pattern.cuttable_oneOrMore (Pattern.cuttable_thenChar (by decide))

/-- A step leads to one of the three names that have a context. -/
theorem exists_get?_of_step {c : Context} {m : Match} (h : s.step rules = .matched m t)
    (hs : rules.get? s.active = some c) : ∃ c', rules.get? t.active = some c' := by
  have hmove := Move.of_step h
  generalize m.token? = token at hmove
  cases hmove with
  | blank _ ht => exact ⟨c, ht ▸ hs⟩
  | name _ _ ht => exact ⟨_, ht ▸ get?_variableName⟩
  | opening _ ht => exact ⟨_, ht ▸ get?_variableValue⟩
  | value _ _ ht => exact ⟨_, ht ▸ get?_variableValue⟩
  | closing _ ht => exact ⟨_, ht ▸ get?_start⟩

/-- So the lexer stays at these names. -/
theorem exists_get?_of_path {c : Context} (h : Path rules s ms t)
    (hs : rules.get? s.active = some c) : ∃ c', rules.get? t.active = some c' :=
  h.kept (P := fun s => ∃ c, rules.get? s.active = some c)
    (fun _ _ _ ⟨_, hc⟩ hstep => exists_get?_of_step hstep hc) ⟨c, hs⟩

/-! ## Entries of a text -/

/-- The lexer comes to halt in front of every text. What it has passed is a source, and its tokens
are those of the entries of this source. -/
theorem exists_path_entries (source : Text) :
    ∃ ms t, Path rules (.fresh start source) ms t ∧ t.Halts rules ∧
      ∃ es, Source (textOf ms) es ∧ tokensOf ms = es.flatMap Entry.tokens := by
  have hle : ∀ ms t, Path rules (.fresh start source) ms t → ms.length ≤ source.length :=
    fun ms t hpath => hpath.length_le rules_consumes
  obtain ⟨n, -, hends⟩ := State.ends_of_path_length_le hle Reduction.idle ()
  obtain ⟨ms, -, hpath, -, hend⟩ := Runs.exists_path_of_accepts hends (Reduction.total_accepts _ _)
  -- What the path has passed is lexed to its end if nothing stands behind it.
  obtain ⟨t', hcut, -, hrest⟩ := hpath.cut_fresh rules_cuttable rules_consumes List.nil_prefix
  rw [List.append_nil] at hcut
  have hlexes : rules.Lexes start (textOf ms) (tokensOf ms) :=
    ⟨ms, t'.active, hcut.split hrest, rfl, rfl⟩
  obtain ⟨es, hes⟩ := exists_source_of_lexes _ _ hlexes
  exact ⟨ms, _, hpath, State.halts_iff_ending.2 ⟨_, hend⟩, es, hes, hes.lexes_iff.1 hlexes⟩

/-! ## Reading -/

/-- Entries without a value that is too large are read up to where the lexer halts. -/
theorem run_of_fits (h : Path rules (.fresh start source) ms t) (ht : t.Halts rules)
    (htokens : tokensOf ms = es.flatMap Entry.tokens)
    (hfits : ∀ e ∈ es, number e.digits ≤ maxValue) :
    (run rules source).state = t ∧ (run rules source).store = ⟨es.map Entry.variable⟩ ∧
      (run rules source).outcome =
        if t.rest = [] then .ok .root else .error (.mismatch t.mismatch) := by
  have hfeed : ∃ next, reduction.feed {} reduction.root (tokensOf ms) =
      (⟨es.map Entry.variable⟩, .ok next) := by
    rw [htokens]
    exact feed_entries_iff.2 ⟨hfits, rfl⟩
  obtain ⟨next, hfeed⟩ := hfeed
  obtain ⟨c, hc⟩ := exists_get?_of_path h get?_start
  obtain ⟨res, hruns, hres⟩ := h.runs hfeed (State.ending_eq_of_get? hc ht _)
    #[.started start (byteCount source)]
  have hrun : run rules source = res := hruns.runFrom_eq (h.length_le rules_consumes)
  rw [hrun]
  exact hres

/-- The first entry with a value that is too large stops the reading. -/
theorem parse_eq_of_find?_eq_some {e : Entry} (h : Path rules (.fresh start source) ms t)
    (ht : t.Halts rules) (htokens : tokensOf ms = es.flatMap Entry.tokens)
    (he : es.find? Entry.tooLarge = some e) :
    parse source = .error (.reduction variableValue (.outOfRange e.name e.digits)) := by
  have hfirst : (State.fresh start source).firstTokens rules source.length =
      es.flatMap Entry.tokens :=
    (h.firstTokens_eq ht (h.length_le rules_consumes)).trans htokens
  have hfeed : ∃ p, reduction.feed {} reduction.root
      ((State.fresh start source).firstTokens rules source.length) =
        (p, .error (variableValue, .outOfRange e.name e.digits)) := by
    rw [hfirst]
    exact ⟨_, Prod.ext rfl (feed_entries_error {} .root he)⟩
  obtain ⟨p, hfeed⟩ := hfeed
  have hout : (run rules source).outcome =
      .error (.reduction variableValue (.outOfRange e.name e.digits)) :=
    State.runFrom_outcome_of_error hfeed
  rw [parse_eq, hout]
  rfl

/-- What is read of a text follows from its entries and from where the lexer halts. -/
theorem parse_eq_reading (h : Path rules (.fresh start source) ms t) (ht : t.Halts rules)
    (htokens : tokensOf ms = es.flatMap Entry.tokens) : parse source = reading es t := by
  unfold reading
  split
  · next e he => exact parse_eq_of_find?_eq_some h ht htokens he
  · next hfits =>
    obtain ⟨-, hstore, hout⟩ := run_of_fits h ht htokens (find?_eq_none_iff_fits.1 hfits)
    rw [parse_eq, hstore, hout]
    split <;> rfl

/-- A text that is cut short behind what the lexer has passed has the same entries, and the lexer
halts in the same place. -/
theorem exists_parse_append_eq (h : Path rules (.fresh start source) ms t) (ht : t.Halts rules)
    (htokens : tokensOf ms = es.flatMap Entry.tokens) (hu : u <+: t.rest) :
    ∃ t', parse (textOf ms ++ u) = reading es t' ∧ t'.active = t.active ∧ t'.rest = u ∧
      t'.position = t.position ∧ t'.lastMatch = t.lastMatch := by
  obtain ⟨t', hcut, hactive, hrest⟩ := h.cut_fresh rules_cuttable rules_consumes hu
  have ht' : t'.Halts rules := ht.cut rules_cuttable hactive (hrest ▸ hu)
  have hposition : t'.position = t.position := hcut.position_eq.trans h.position_eq.symm
  have hlast : t'.lastMatch = t.lastMatch := hcut.lastMatch_eq.trans h.lastMatch_eq.symm
  exact ⟨t', parse_eq_reading hcut ht' htokens, hactive, hrest, hposition, hlast⟩

end ModalLexer.Assignment
