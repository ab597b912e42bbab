import Mathlib.Data.List.Basic
import Mathlib.Data.List.Induction
import Mathlib.Data.Nat.Digits.Defs
import ModalLexer.Assignment.Parser
import ModalLexer.Proofs.Assignment.Language

/-!
# Sources and their programs

A text is read as a program exactly if it is a source of the language and no value in it is too
large, and the program declares the entries of the source in order (`parse_eq_ok_iff_source`).

The tokens of a source are known from its entries, so what is left is to hand them to the reduction.
`feed_entry` does so with one entry, whatever the cursor: its name adds a variable, and its digits
become the value of the variable just added. `feed_entries_iff` goes on by induction.
-/

namespace ModalLexer.Assignment

/-! ## Entries as variables -/

/-- The number that decimal digits stand for. -/
def number (d : Text) : ℕ := Nat.ofDigits 10 (d.reverse.map fun c => c.toNat - '0'.toNat)

/-- The digits are summed up from the front. -/
theorem decimalValue_eq_number (d : Text) : decimalValue d = number d := by
  induction d using List.reverseRecOn with
  | nil => rfl
  | append_singleton d c ih =>
    have hvalue : decimalValue (d ++ [c]) = 10 * decimalValue d + (c.toNat - '0'.toNat) := by
      simp [decimalValue]
    have hnumber : number (d ++ [c]) = (c.toNat - '0'.toNat) + 10 * number d := by
      simp [number, Nat.ofDigits_cons]
    rw [hvalue, hnumber, ih, Nat.add_comm]

/-- The value of an entry: the number that its digits stand for, if it has any. -/
def Entry.value (e : Entry) : Option ℤ := if e.digits = [] then none else some (number e.digits)

/-- The value of an entry is larger than a variable can hold. -/
def Entry.tooLarge (e : Entry) : Bool := decide (maxValue < number e.digits)

/-- Variables as entries with the names and values given. -/
def Program.entries (p : Program) : List (Text × Option ℤ) :=
  p.declared.map fun v => (v.name, v.value.map Int64.toInt)

/-- The variable of an entry. -/
def Entry.variable (e : Entry) : Variable where
  name := e.name
  value := if e.digits = [] then none else some (Int64.ofNat (decimalValue e.digits))

/-- A value that is not too large is kept. -/
theorem Entry.toInt_value {e : Entry} (h : number e.digits ≤ maxValue) :
    e.variable.value.map Int64.toInt = e.value := by
  rw [← decimalValue_eq_number] at h
  unfold Entry.variable Entry.value
  split
  · rfl
  · have hlt : decimalValue e.digits < 2 ^ 63 := by
      unfold maxValue at h
      omega
    rw [Option.map_some, Int64.toInt_ofNat_of_lt hlt, decimalValue_eq_number]

/-! ## The reduction -/

variable {p q : Program} {cursor : Cursor} {e : Entry} {es : List Entry} {tokens : List Token}

/-- An entry whose value is not too large adds its variable, wherever the cursor stands. -/
theorem feed_entry (p : Program) (cursor : Cursor) (h : number e.digits ≤ maxValue)
    (tokens : List Token) :
    ∃ next, reduction.feed p cursor (e.tokens ++ tokens) =
      reduction.feed ⟨p.declared ++ [e.variable]⟩ next tokens := by
  rw [← decimalValue_eq_number] at h
  by_cases hd : e.digits = []
  · exact ⟨.variable p.declared.length, by
      simp [Entry.tokens, Entry.variable, hd, Reduction.feed, reduction, reduce]⟩
  · have hname : variableValue ≠ variableName := by decide
    exact ⟨.root, by
      simp [Entry.tokens, Entry.variable, hd, Reduction.feed, reduction, reduce, h, hname]⟩

/-- An entry whose value is too large is rejected, wherever the cursor stands. -/
theorem feed_entry_error (p : Program) (cursor : Cursor) (h : ¬ number e.digits ≤ maxValue)
    (tokens : List Token) :
    (reduction.feed p cursor (e.tokens ++ tokens)).2 =
      .error (variableValue, .outOfRange e.name e.digits) := by
  rw [← decimalValue_eq_number] at h
  have hd : e.digits ≠ [] := by
    intro hd
    exact h (by simp [hd, decimalValue])
  have hname : variableValue ≠ variableName := by decide
  simp [Entry.tokens, hd, Reduction.feed, reduction, reduce, h, hname]

/-- The tokens of entries are accepted exactly if no value is too large. They add the variables of
the entries, in order. -/
theorem feed_entries_iff :
    (∃ next, reduction.feed p cursor (es.flatMap Entry.tokens) = (q, .ok next)) ↔
      (∀ e ∈ es, number e.digits ≤ maxValue) ∧
        q.declared = p.declared ++ es.map Entry.variable := by
  induction es generalizing p cursor with
  | nil =>
    obtain ⟨ps⟩ := p
    obtain ⟨qs⟩ := q
    simp [Reduction.feed, eq_comm]
  | cons e es ih =>
    rw [List.flatMap_cons]
    by_cases he : number e.digits ≤ maxValue
    · obtain ⟨next, hnext⟩ := feed_entry p cursor he (es.flatMap Entry.tokens)
      rw [hnext, ih]
      simp [he]
    · have herror := feed_entry_error p cursor he (es.flatMap Entry.tokens)
      constructor
      · rintro ⟨next, hnext⟩
        rw [hnext] at herror
        exact absurd herror (by simp)
      · rintro ⟨hall, -⟩
        exact absurd (hall e List.mem_cons_self) he

/-- The first entry whose value is too large is rejected. -/
theorem feed_entries_error (p : Program) (cursor : Cursor)
    (h : es.find? Entry.tooLarge = some e) :
    (reduction.feed p cursor (es.flatMap Entry.tokens)).2 =
      .error (variableValue, .outOfRange e.name e.digits) := by
  induction es generalizing p cursor with
  | nil => exact absurd h (by simp)
  | cons e' es ih =>
    rw [List.flatMap_cons]
    by_cases he : number e'.digits ≤ maxValue
    · obtain ⟨next, hnext⟩ := feed_entry p cursor he (es.flatMap Entry.tokens)
      rw [List.find?_cons_of_neg (by simpa [Entry.tooLarge] using he)] at h
      rw [hnext, ih _ _ h]
    · rw [List.find?_cons_of_pos (by simpa [Entry.tooLarge] using he)] at h
      rw [← Option.some.inj h, feed_entry_error p cursor he]

/-! ## Entries and their tokens -/

/-- The tokens of entries do not begin with a value. -/
theorem name_ne_variableValue_of_head? {token : Token}
    (h : (es.flatMap Entry.tokens).head? = some token) : token.name ≠ variableValue := by
  cases es with
  | nil => exact absurd h (by simp)
  | cons e es =>
    have htoken : ⟨variableName, e.name⟩ = token := by simpa [Entry.tokens] using h
    have hne : variableName ≠ variableValue := by decide
    rwa [← htoken]

/-- The tokens of an entry end where the next token is not a value. -/
theorem Entry.tokens_append_inj {e' : Entry} {tokens tokens' : List Token}
    (htokens : ∀ token, tokens.head? = some token → token.name ≠ variableValue)
    (htokens' : ∀ token, tokens'.head? = some token → token.name ≠ variableValue)
    (h : e.tokens ++ tokens = e'.tokens ++ tokens') : e = e' ∧ tokens = tokens' := by
  obtain ⟨n, d⟩ := e
  obtain ⟨n', d'⟩ := e'
  simp only [Entry.tokens, List.cons_append, List.cons.injEq, Token.mk.injEq, true_and] at h
  obtain ⟨rfl, h⟩ := h
  -- If only one of the entries has digits, its value stands where the other one has ended.
  by_cases hd : d = [] <;> by_cases hd' : d' = []
  · subst hd hd'
    exact ⟨rfl, by simpa using h⟩
  · simp only [hd, hd', if_true, if_false, List.nil_append, List.singleton_append] at h
    exact absurd rfl (htokens ⟨variableValue, d'⟩ (by rw [h, List.head?_cons]))
  · simp only [hd, hd', if_true, if_false, List.nil_append, List.singleton_append] at h
    exact absurd rfl (htokens' ⟨variableValue, d⟩ (by rw [← h, List.head?_cons]))
  · simp only [hd, hd', if_false, List.singleton_append, List.cons.injEq, Token.mk.injEq,
      true_and] at h
    exact ⟨by rw [h.1], h.2⟩

/-- The tokens tell the entries. -/
theorem entries_eq_of_tokens_eq {es es' : List Entry}
    (h : es.flatMap Entry.tokens = es'.flatMap Entry.tokens) : es = es' := by
  induction es generalizing es' with
  | nil =>
    cases es' with
    | nil => rfl
    | cons e' es' => simp [Entry.tokens] at h
  | cons e es ih =>
    cases es' with
    | nil => simp [Entry.tokens] at h
    | cons e' es' =>
      rw [List.flatMap_cons, List.flatMap_cons] at h
      obtain ⟨rfl, hrest⟩ := Entry.tokens_append_inj
        (fun _ => name_ne_variableValue_of_head?) (fun _ => name_ne_variableValue_of_head?) h
      rw [ih hrest]

/-! ## Reading a source -/

/-- A text is read as a program exactly if it is lexed and its tokens are accepted. -/
theorem parse_eq_ok_iff_lexes {source : Text} {p : Program} :
    parse source = .ok p ↔ ∃ tokens next, rules.Lexes start source tokens ∧
      reduction.feed {} .root tokens = (p, .ok next) := by
  have hread : parse source = .ok p ↔
      (∃ c, (run rules source).outcome = .ok c) ∧ (run rules source).store = p := by
    rw [parse, read, grammar_eq]
    simp only [readWith]
    cases (run rules source).outcome with
    | ok c => simp
    | error e => simp
  rw [hread]
  exact parse_ok_iff_lexes rules_consumes (Nat.le_refl _)

/-- A program that is read declares the entries of a source, and no value in it is too large. -/
theorem exists_entries_of_parse {source : Text} (h : parse source = .ok p) :
    ∃ es, Source source es ∧ (∀ e ∈ es, number e.digits ≤ maxValue) ∧
      p.declared = es.map Entry.variable := by
  obtain ⟨tokens, next, hlexes, hfeed⟩ := parse_eq_ok_iff_lexes.1 h
  obtain ⟨es, hes⟩ := exists_source_of_lexes source tokens hlexes
  obtain rfl := hes.lexes_iff.1 hlexes
  obtain ⟨hfits, hdeclared⟩ := feed_entries_iff.1 ⟨next, hfeed⟩
  exact ⟨es, hes, hfits, hdeclared⟩

/-- The program of entries whose values are not too large. -/
theorem entries_eq_iff (h : ∀ e ∈ es, number e.digits ≤ maxValue) :
    p.entries = es.map (fun e => (e.name, e.value)) ↔ p.declared = es.map Entry.variable := by
  have hentries : es.map (fun e => (e.name, e.value)) =
      (es.map Entry.variable).map fun v => (v.name, v.value.map Int64.toInt) := by
    rw [List.map_map]
    refine List.map_congr_left fun e he => ?_
    rw [Function.comp_apply, Entry.toInt_value (h e he)]
    rfl
  have hinj : Function.Injective fun v : Variable => (v.name, v.value.map Int64.toInt) := by
    rintro ⟨n, v⟩ ⟨n', v'⟩ heq
    obtain ⟨rfl, hv⟩ := Prod.mk.inj heq
    have hv' : v = v' := Option.map_injective (fun _ _ => Int64.toInt.inj) hv
    rw [hv']
  rw [Program.entries, hentries]
  exact (List.map_injective_iff.2 hinj).eq_iff

/-- A text is read as a program exactly if it is a source without a value that is too large, and the
program then declares the entries of the source in order, each with its name and its value. A source
has one list of entries. -/
theorem parse_eq_ok_iff_source (source : Text) :
    (∀ p, parse source = .ok p ↔ ∃ es, Source source es ∧
        (∀ e ∈ es, number e.digits ≤ 2 ^ 63 - 1) ∧
        p.entries = es.map fun e => (e.name, e.value)) ∧
      ∀ es es', Source source es → Source source es' → es = es' := by
  refine ⟨fun p => ⟨fun h => ?_, ?_⟩, fun es es' h h' => ?_⟩
  · obtain ⟨es, hes, hfits, hdeclared⟩ := exists_entries_of_parse h
    exact ⟨es, hes, hfits, (entries_eq_iff hfits).2 hdeclared⟩
  · rintro ⟨es, hes, hfits, hentries⟩
    have hdeclared := (entries_eq_iff hfits).1 hentries
    obtain ⟨next, hfeed⟩ := feed_entries_iff.2 ⟨hfits, hdeclared.trans (List.nil_append _).symm⟩
    exact parse_eq_ok_iff_lexes.2 ⟨_, next, hes.lexes_iff.2 rfl, hfeed⟩
  · exact entries_eq_of_tokens_eq (h'.lexes_iff.1 (h.lexes_iff.2 rfl))

/-- Digits may end a source, but white space behind them may not. -/
example : (parse "a(1)b( )\nc( 22".toList).map Program.entries =
      .ok [(['a'], some 1), (['b'], none), (['c'], some 22)] ∧
    (parse "a( 22 ".toList).isOk = false := by
  constructor <;> rfl

end ModalLexer.Assignment
