import ModalLexer.Assignment.Parser
import ModalLexer.Proofs.Assignment.Rules
import ModalLexer.Proofs.Tokens

/-!
# What can come of reading a source

Every source is read within as many matches as it has characters, and only two things can be wrong
with it: no rule matches, or a value is too large (`parse_cases`). A value always finds its
variable.

A match is a move from one of the three names of the grammar to one of them (`Move`). What the moves
keep is `Ready`: where a value may come next, the cursor stands at a variable of the program, or the
text that is left does not begin with a digit, because digits are taken to the end of their run.
-/

namespace ModalLexer.Assignment

open CharSet Regex

variable {s t : State} {m : Match} {p q : Program} {cursor next : Cursor} {token : Token}

/-! ## Moves -/

/-- What a match under the grammar of the language does, by the token that it makes, if it makes
one. -/
inductive Move (s t : State) : Option Token → Prop
  /-- White space is dropped in front of a name or behind it. -/
  | blank (hs : s.active = start ∨ s.active = variableName) (ht : t.active = s.active) :
    Move s t none
  /-- A name makes a token. -/
  | name (text : Text) (hs : s.active = start) (ht : t.active = variableName) :
    Move s t (some ⟨variableName, text⟩)
  /-- A parenthesis is opened. -/
  | opening (hs : s.active = variableName) (ht : t.active = variableValue) : Move s t none
  /-- All digits up to another character make a token. -/
  | value (text : Text) (hs : s.active = variableValue) (ht : t.active = variableValue)
    (hrest : text ++ t.rest = s.rest) (hne : text ≠ []) (hdigits : digits.Covers text)
    (hend : digits.EndsBefore t.rest) : Move s t (some ⟨variableValue, text⟩)
  /-- A parenthesis is closed. -/
  | closing (hs : s.active = variableValue) (ht : t.active = start) : Move s t none

/-- Every step that matches is such a move. -/
theorem Move.of_step (h : s.step rules = .matched m t) : Move s t m.token? := by
  have hrest := State.text_append_rest_of_step h
  obtain ⟨-, hactive, ⟨c, hc, hprefers⟩, rfl⟩ := State.step_eq_matched_iff.1 h
  have hmem : m.rule ∈ c := hprefers.mem
  obtain ⟨-, -, -, -, hmatch⟩ := hprefers
  -- One case for each rule of each context.
  obtain ⟨active, rule, text⟩ := m
  dsimp only at hactive hmem hmatch hrest ⊢
  subst hactive
  rcases rules_get?_cases hc with ⟨hs, rfl⟩ | ⟨hs, rfl⟩ | ⟨hs, rfl⟩ <;>
    simp only [List.mem_cons, List.not_mem_nil, or_false] at hmem <;>
    rcases hmem with rfl | rfl
  · exact .blank (.inl hs) rfl
  · exact .name text hs rfl
  · exact .blank (.inr hs) rfl
  · exact .opening hs rfl
  · obtain ⟨u, hu, hne, hdigits, hend⟩ := Pattern.match?_oneOrMore_eq_some_iff.1 hmatch
    obtain rfl := List.append_cancel_left (hrest.trans hu)
    have htoken : Match.token? ⟨s.active, takeDigits, text⟩ = some ⟨variableValue, text⟩ := by
      rw [Match.token?, ← hs]
      rfl
    exact htoken ▸ .value text hs hs hrest hne hdigits hend
  · exact .closing hs rfl

/-! ## What the moves keep -/

/-- The cursor stands at a variable of the program. -/
def AtVariable (p : Program) (cursor : Cursor) : Prop :=
  ∃ index, cursor = .variable index ∧ index < p.declared.length

/-- What holds between two matches. Behind a name, the cursor stands at its variable; behind an
opening parenthesis it still does, or the value has been taken and no digits follow. -/
def Ready (s : State) (p : Program) (cursor : Cursor) : Prop :=
  s.active = start ∨ (s.active = variableName ∧ AtVariable p cursor) ∨
    (s.active = variableValue ∧ (AtVariable p cursor ∨ digits.EndsBefore s.rest))

/-- The name of names is not the first one. -/
theorem variableName_ne_start : variableName ≠ start := by decide

/-- The name of values is not the first one. -/
theorem variableValue_ne_start : variableValue ≠ start := by decide

/-- The name of values is not that of names. -/
theorem variableValue_ne_variableName : variableValue ≠ variableName := by decide

/-- Behind a name, the cursor stands at a variable. -/
theorem Ready.behind_name (h : Ready s p cursor) (hs : s.active = variableName) :
    AtVariable p cursor := by
  rcases h with h | ⟨-, h⟩ | ⟨h, -⟩
  · exact absurd (hs.symm.trans h) variableName_ne_start
  · exact h
  · exact absurd (h.symm.trans hs) variableValue_ne_variableName

/-- Between parentheses, it does so where digits follow. -/
theorem Ready.between_parentheses (h : Ready s p cursor) (hs : s.active = variableValue)
    (hdigits : ¬ digits.EndsBefore s.rest) : AtVariable p cursor := by
  rcases h with h | ⟨h, -⟩ | ⟨-, h | h⟩
  · exact absurd (hs.symm.trans h) variableValue_ne_start
  · exact absurd (hs.symm.trans h) variableValue_ne_variableName
  · exact h
  · exact absurd h hdigits

/-- Digits in front of a text are not where none are. -/
theorem not_endsBefore_digits {d u : Text} (hne : d ≠ []) (hd : digits.Covers d) :
    ¬ digits.EndsBefore (d ++ u) := by
  obtain ⟨c, d, rfl⟩ := List.exists_cons_of_ne_nil hne
  rw [List.cons_append, endsBefore_cons, hd c List.mem_cons_self]
  simp

/-- Where the lexer is ready and a value is taken, the cursor stands at a variable. -/
theorem Ready.at_value (h : Ready s p cursor) (hmove : Move s t (some token))
    (hname : token.name = variableValue) : AtVariable p cursor := by
  cases hmove with
  | name => exact absurd hname.symm variableValue_ne_variableName
  | value text hs ht hrest hne hdigits =>
    refine h.between_parentheses hs ?_
    rw [← hrest]
    exact not_endsBefore_digits hne hdigits

/-- A name is accepted, and the cursor moves to its variable. -/
theorem reduce_name (p : Program) (cursor : Cursor) (n : Text) :
    reduce p cursor ⟨variableName, n⟩ =
      (⟨p.declared ++ [⟨n, none⟩]⟩, .ok (.variable p.declared.length)) := by
  unfold reduce
  rw [if_pos rfl]

/-- A value that finds its variable is rejected only if it is too large. -/
theorem exists_outOfRange_of_reduce_value {d : Text} {e : ValueError} (h : AtVariable p cursor)
    (hr : reduce p cursor ⟨variableValue, d⟩ = (q, .error e)) : ∃ name, e = .outOfRange name d := by
  obtain ⟨index, rfl, hindex⟩ := h
  unfold reduce at hr
  rw [if_neg variableValue_ne_variableName, if_pos rfl] at hr
  simp only [List.getElem?_eq_getElem hindex] at hr
  split at hr
  · exact absurd hr (by simp)
  · obtain ⟨-, he⟩ := Prod.mk.inj hr
    exact ⟨_, (Except.error.inj he).symm⟩

/-- Every match keeps the lexer ready. -/
theorem kept_ready : Kept rules reduction Ready := by
  refine ⟨?_, ?_⟩
  · intro s p cursor m t h hs hm
    have hmove : Move s t none := hm ▸ Move.of_step hs
    cases hmove with
    | blank hactive ht =>
      rcases hactive with hactive | hactive
      · exact .inl (ht.trans hactive)
      · exact .inr (.inl ⟨ht.trans hactive, h.behind_name hactive⟩)
    | opening hactive ht => exact .inr (.inr ⟨ht, .inl (h.behind_name hactive)⟩)
    | closing _ ht => exact .inl ht
  · intro s p cursor m t token q next h hs hm hr
    have hmove : Move s t (some token) := hm ▸ Move.of_step hs
    cases hmove with
    | name text _ ht =>
      obtain ⟨rfl, hnext⟩ := Prod.mk.inj ((reduce_name p cursor text).symm.trans hr)
      obtain rfl := Except.ok.inj hnext
      exact .inr (.inl ⟨ht, p.declared.length, rfl, by simp⟩)
    | value _ _ ht _ _ _ hend =>
      -- The cursor has left the variable, but no second value can follow.
      exact .inr (.inr ⟨ht, .inr hend⟩)

/-! ## Outcomes -/

/-- Where a lexer is ready, it has one of the three names, so it has a context. -/
theorem Ready.exists_get? (h : Ready s p cursor) : ∃ c, rules.get? s.active = some c := by
  rcases h with h | ⟨h, -⟩ | ⟨h, -⟩
  · exact ⟨_, h ▸ get?_start⟩
  · exact ⟨_, h ▸ get?_variableName⟩
  · exact ⟨_, h ▸ get?_variableValue⟩

/-- A source is read as its run ends: to the program in the store, or with the error. -/
theorem parse_eq (source : Text) :
    parse source = (run rules source).outcome.map fun _ => (run rules source).store := by
  rw [parse, read, grammar_eq]
  simp only [readWith]
  cases (run rules source).outcome <;> rfl

/-- The run of a source is not cut off. -/
theorem exists_ends_run (source : Text) :
    ∃ n ≤ source.length,
      (State.fresh start source).Ends rules reduction {} n (run rules source) := by
  have hle : ∀ ms t, Path rules (.fresh start source) ms t → ms.length ≤ source.length :=
    fun ms t hpath => hpath.length_le rules_consumes
  exact State.ends_of_path_length_le hle reduction {}

/-- Its calls are made by moves from where the lexer is ready. It is ready in the end, unless the
last call is rejected. -/
theorem exists_calls_run (source : Text) :
    (∀ call ∈ callsWithin rules start source reduction source.length {}, ∃ t u,
        Ready t call.store call.cursor ∧ Move t u (some call.token)) ∧
      ((∃ s p cursor, Ready s p cursor ∧
          s.ending rules reduction.root = some (run rules source).outcome) ∨
        ∃ call ∈ callsWithin rules start source reduction source.length {}, ∃ q e,
          reduce call.store call.cursor call.token = (q, .error e) ∧
            (run rules source).outcome = .error (.reduction call.token.name e)) := by
  obtain ⟨n, hn, hends⟩ := exists_ends_run source
  obtain ⟨calls, hrecording, hcalls, hend⟩ :=
    Runs.kept kept_ready hends (.inl rfl : Ready (.fresh start source) {} .root) []
  have hwithin : callsWithin rules start source reduction source.length {} = calls := by
    have hres := hrecording.runFrom_eq hn
    exact congrArg (fun res => res.store.2) hres
  rw [hwithin]
  refine ⟨fun call hmem => ?_, ?_⟩
  · obtain ⟨t, m, u, hready, hs, hm⟩ := hcalls call hmem
    exact ⟨t, u, hready, hm ▸ Move.of_step hs⟩
  · rcases hend with ⟨cursor, hready, hend⟩ | ⟨call, hmem, e, hreduce, hout⟩
    · exact .inl ⟨_, _, cursor, hready, hend⟩
    · exact .inr ⟨call, hmem, _, e, hreduce, hout⟩

/-- Where a lexer is ready and halts, the text is at its end, or no rule of one of the three
contexts matches. -/
theorem Ready.ending_cases {γ ε : Type} {root : γ} {outcome : Except (LexError ε) γ}
    (h : Ready s p cursor) (hend : s.ending rules root = some outcome) :
    outcome = .ok root ∨ ∃ m, outcome = .error (.mismatch m) ∧
      (m.token = start ∨ m.token = variableName ∨ m.token = variableValue) := by
  obtain ⟨c, hc⟩ := h.exists_get?
  rw [State.ending_eq_of_get? hc (State.halts_iff_ending.2 ⟨_, hend⟩)] at hend
  obtain rfl := Option.some.inj hend
  split
  · exact .inl rfl
  · exact .inr ⟨_, rfl, h.imp_right (Or.imp And.left And.left)⟩

/-- Where a lexer is ready, a token that is rejected is a value that is too large. -/
theorem Ready.exists_outOfRange {e : ValueError} (h : Ready s p cursor)
    (hmove : Move s t (some token)) (hr : reduce p cursor token = (q, .error e)) :
    token.name = variableValue ∧ ∃ name, e = .outOfRange name token.value := by
  cases hmove with
  | name text => exact absurd ((reduce_name p cursor text).symm.trans hr) (by simp)
  | value text hs ht hrest hne hdigits hend =>
    have hvariable := h.at_value (.value text hs ht hrest hne hdigits hend) rfl
    exact ⟨rfl, exists_outOfRange_of_reduce_value hvariable hr⟩

/-- The grammar of the language can be built, and every source is read under it within as many
matches as it has characters. What comes of it is a program, or a mismatch under one of the three
names, or the rejection of a value that is too large. Whenever a value is handed over, the cursor
stands at a variable which the program has. -/
theorem parse_cases (source : Text) :
    ∃ g, grammar = .ok g ∧
      (∃ n ≤ source.length, (State.fresh start source).Ends g reduction {} n (run g source)) ∧
      ((∃ p, parse source = .ok p) ∨
        (∃ m, parse source = .error (.mismatch m) ∧
          (m.token = start ∨ m.token = variableName ∨ m.token = variableValue)) ∨
        ∃ name value,
          parse source = .error (.reduction variableValue (.outOfRange name value))) ∧
      ∀ call ∈ callsWithin g start source reduction source.length {},
        call.token.name = variableValue →
          ∃ index, call.cursor = .variable index ∧ index < call.store.declared.length := by
  obtain ⟨hcalls, hend⟩ := exists_calls_run source
  refine ⟨rules, grammar_eq, exists_ends_run source, ?_, ?_⟩
  · rw [parse_eq]
    rcases hend with ⟨s, p, cursor, hready, hend⟩ | ⟨call, hmem, q, e, hreduce, hout⟩
    · rcases hready.ending_cases hend with hout | ⟨m, hout, hm⟩
      · exact .inl ⟨_, by rw [hout]; rfl⟩
      · exact .inr (.inl ⟨m, by rw [hout]; rfl, hm⟩)
    · obtain ⟨t, u, hready, hmove⟩ := hcalls call hmem
      obtain ⟨hname, name, rfl⟩ := hready.exists_outOfRange hmove hreduce
      exact .inr (.inr ⟨name, call.token.value, by rw [hout, hname]; rfl⟩)
  · intro call hmem hname
    obtain ⟨t, u, hready, hmove⟩ := hcalls call hmem
    exact hready.at_value hmove hname

/-- A value without a name in front of it is not handed over, and one that is too large is. -/
example : (parse "(1)".toList).isOk = false ∧
    parse "a(9223372036854775808)".toList =
      .error (.reduction variableValue (.outOfRange ['a'] "9223372036854775808".toList)) := by
  constructor <;> rfl

end ModalLexer.Assignment
