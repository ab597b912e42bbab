import Mathlib.Data.List.Basic
import ModalLexer.Proofs.Assignment.Readings

/-!
# Values that are too large

A value is rejected if it is above `2 ^ 63 - 1`. `parse_eq_outOfRange_iff` tells from the text alone
which texts this happens to, and which value is named: it is the first one that is too large, and
what stands behind its digits does not matter, whether it could be read or not.

The text up to the digits is `Opened`: white space and items, and then a name with an opening
parenthesis. What the lexer makes of the text behind the digits depends on this text alone
(`exists_path_behind`), so the entries of the whole are those of the items, the entry with the
digits and then always the same ones (`exists_path_opened`). So the digits of an entry stand in the
text behind one that opens them, and they can be exchanged for others with the same value, such as
those with zeros in front.
-/

namespace ModalLexer.Assignment

open CharSet

/-! ## Texts that open a value -/

/-- White space and items, and behind them a name, an opening parenthesis and white space: what
stands in front of the digits of a value. -/
inductive Opened : Text → List Entry → Text → Prop
  | mk {w t n w₁ w₂ : Text} {es : List Entry} (hw : IsBlank w) (ht : Items t es) (hn : IsName n)
    (h₁ : IsBlank w₁) (h₂ : IsBlank w₂) : Opened (w ++ t ++ (n ++ w₁ ++ ['('] ++ w₂)) es n

variable {source d d' n t u : Text} {e e' : Entry} {es es₁ es₂ : List Entry} {tokens : List Token}
  {s s' : State}

/-- With digits behind it, it is passed with the tokens of its items and of the entry that is open.
-/
theorem Opened.passes (h : Opened t es n) (hd : IsDigits d) (hne : d ≠ [])
    (hu : digits.EndsBefore u) :
    rules.Passes start (t ++ d ++ u) (es.flatMap Entry.tokens ++ Entry.tokens ⟨n, d⟩) variableValue
      u := by
  obtain @⟨w, t, n, w₁, w₂, es, hw, ht, hn, h₁, h₂⟩ := h
  have htext : w ++ t ++ (n ++ w₁ ++ ['('] ++ w₂) ++ d ++ u =
      w ++ t ++ ([] ++ (n ++ (w₁ ++ '(' :: (w₂ ++ (d ++ u))))) := by simp
  have hitems := ht.passes (v := []) (u := n ++ (w₁ ++ '(' :: (w₂ ++ (d ++ u)))) hw
    (List.forall_mem_nil _) hn.endsBefore_append
  rw [htext]
  exact hitems.trans (passes_name_digits hn h₁ h₂ hd hne hu)

/-- An item opens its digits. -/
theorem Item.exists_opened (h : Item t e) {w v : Text} (hw : IsBlank w) (hv : Items v es) :
    ∃ front behind, Opened front es e.name ∧ IsDigits e.digits ∧
      w ++ v ++ t = front ++ e.digits ++ behind := by
  obtain @⟨n, w₁, w₂, d, w₃, hn, h₁, h₂, hd, -⟩ := h
  exact ⟨_, w₃ ++ [')'], .mk hw hv hn h₁ h₂, hd, by simp⟩

/-- A tail opens its digits, if it has any. -/
theorem Tail.exists_opened (h : Tail t e) (hne : e.digits ≠ []) {w v : Text} (hw : IsBlank w)
    (hv : Items v es) : ∃ front behind, Opened front es e.name ∧ IsDigits e.digits ∧
      w ++ v ++ t = front ++ e.digits ++ behind := by
  cases h with
  | name => exact absurd rfl hne
  | opened => exact absurd rfl hne
  | @value n w₁ w₂ d hn h₁ h₂ _ hd => exact ⟨_, [], .mk hw hv hn h₁ h₂, hd, by simp⟩

/-- One of some items stands behind those in front of it. -/
theorem Items.exists_item (h : Items t (es₁ ++ e :: es₂)) :
    ∃ front item behind, Items front es₁ ∧ Item item e ∧ t = front ++ item ++ behind := by
  induction es₁ generalizing t with
  | nil =>
    cases h with
    | @cons item w u _ _ ht _ _ => exact ⟨[], item, w ++ u, .nil, ht, by simp⟩
  | cons e₁ es₁ ih =>
    cases h with
    | @cons t w u _ _ ht hw hu =>
      obtain ⟨front, item, behind, hfront, hitem, rfl⟩ := ih hu
      exact ⟨t ++ w ++ front, item, behind, .cons ht hw hfront, hitem, by simp⟩

/-- The digits of every entry of a source are opened behind the entries in front of it. -/
theorem Source.exists_opened (h : Source t (es₁ ++ e :: es₂)) (hne : e.digits ≠ []) :
    ∃ front behind, Opened front es₁ e.name ∧ IsDigits e.digits ∧
      t = front ++ e.digits ++ behind := by
  have hitems {w v : Text} {es : List Entry} (hw : IsBlank w) (hv : Items v (es₁ ++ e :: es)) :
      ∃ front behind, Opened front es₁ e.name ∧ IsDigits e.digits ∧
        w ++ v = front ++ e.digits ++ behind := by
    obtain ⟨before, item, after, hbefore, hitem, rfl⟩ := hv.exists_item
    obtain ⟨front, behind, hopened, hd, htext⟩ := hitem.exists_opened hw hbefore
    refine ⟨front, behind ++ after, hopened, hd, ?_⟩
    calc w ++ (before ++ item ++ after) = w ++ before ++ item ++ after := by simp
      _ = front ++ e.digits ++ (behind ++ after) := by rw [htext, List.append_assoc _ behind]
  generalize hes : es₁ ++ e :: es₂ = es at h
  cases h with
  | @closed w v es hw hv => exact hitems hw (hes ▸ hv)
  | @unclosed w v u es e' hw hv hu =>
    -- The entry is that of the tail or of one of the items.
    rcases List.eq_nil_or_concat es₂ with rfl | ⟨es₂, e₂, rfl⟩
    · obtain ⟨rfl, heq⟩ := List.append_inj' hes rfl
      obtain rfl := List.head_eq_of_cons_eq heq
      exact hu.exists_opened hne hw hv
    · rw [List.concat_eq_append, ← List.cons_append, ← List.append_assoc] at hes
      obtain ⟨rfl, -⟩ := List.append_inj' hes rfl
      obtain ⟨front, behind, hopened, hd, htext⟩ := hitems hw hv
      exact ⟨front, behind ++ u, hopened, hd, by rw [htext, List.append_assoc _ behind]⟩

/-! ## Behind the digits -/

/-- Tokens that begin with those of a name and its value are those of an entry and of further ones.
-/
theorem exists_entries_of_tokens (hne : d ≠ [])
    (h : es.flatMap Entry.tokens = Entry.tokens ⟨n, d⟩ ++ tokens) :
    ∃ es', es = ⟨n, d⟩ :: es' ∧ es'.flatMap Entry.tokens = tokens := by
  cases es with
  | nil => exact absurd h (by simp [Entry.tokens])
  | cons e es =>
    obtain ⟨n', d'⟩ := e
    simp only [List.flatMap_cons, Entry.tokens, List.cons_append, List.cons.injEq, Token.mk.injEq,
      true_and, if_neg hne] at h
    obtain ⟨rfl, h⟩ := h
    by_cases hd' : d' = []
    · -- Without digits, the value would be the first token of the other entries.
      rw [if_pos hd', List.nil_append] at h
      have hhead : (es.flatMap Entry.tokens).head? = some ⟨variableValue, d⟩ := by rw [h]; rfl
      exact absurd rfl (name_ne_variableValue_of_head? hhead)
    · rw [if_neg hd', List.cons_append, List.cons.injEq, Token.mk.injEq] at h
      obtain ⟨⟨-, rfl⟩, rfl⟩ := h
      exact ⟨es, rfl, rfl⟩

/-- Behind digits, the lexer comes to halt, and its tokens are those of entries. -/
theorem exists_path_behind (hu : digits.EndsBefore u) :
    ∃ (ms : List Match) (s : State) (es : List Entry), Path rules (.fresh variableValue u) ms s ∧
      s.Halts rules ∧ tokensOf ms = es.flatMap Entry.tokens := by
  -- Any text with digits behind it leads there.
  have hempty : IsBlank [] := List.forall_mem_nil _
  have hname : IsName ['a'] := by decide
  have hopened : Opened ['a', '('] [] ['a'] := by
    simpa using Opened.mk hempty .nil hname hempty hempty
  have hdigits : IsDigits ['0'] := by decide
  have hpasses := hopened.passes hdigits (List.cons_ne_nil _ _) hu
  obtain ⟨ms, s, hpath, hs, es, -, htokens⟩ := exists_path_entries (['a', '('] ++ ['0'] ++ u)
  obtain ⟨ns, s', hpath', htokens', hactive, hrest⟩ := hpasses.exists_path_of_halts hpath hs
  obtain ⟨es', -, hes'⟩ :=
    exists_entries_of_tokens (List.cons_ne_nil _ _) (htokens.symm.trans htokens')
  exact ⟨ns, s', es', hpath', hs.transfer hactive hrest, hes'.symm⟩

/-- The lexer comes from the digits to the same place, and to the same entries, whatever they are
and whatever stands in front of them. -/
theorem exists_path_opened (hu : digits.EndsBefore u) :
    ∃ (behind : List Entry) (rest : Text), ∀ t es n d, Opened t es n → IsDigits d → d ≠ [] →
      ∃ ms s, Path rules (.fresh start (t ++ d ++ u)) ms s ∧ s.Halts rules ∧
        tokensOf ms = (es ++ ⟨n, d⟩ :: behind).flatMap Entry.tokens ∧ s.rest = rest := by
  obtain ⟨ns, s, behind, hpath, hs, htokens⟩ := exists_path_behind hu
  refine ⟨behind, s.rest, fun t es n d h hd hne => ?_⟩
  obtain ⟨ms, s', hpath', htokens', hactive, hrest⟩ := (h.passes hd hne hu).exists_path_append hpath
  refine ⟨ms, s', hpath', hs.transfer hactive hrest, ?_, hrest⟩
  rw [htokens', htokens, List.flatMap_append, List.flatMap_cons, List.append_assoc]

/-! ## The value that is named -/

/-- A value is reported exactly if its entry is the first one whose value is too large. -/
theorem reading_eq_outOfRange_iff {token : String} {name value : Text} :
    reading es s = .error (.reduction token (.outOfRange name value)) ↔
      token = variableValue ∧ es.find? Entry.tooLarge = some ⟨name, value⟩ := by
  unfold reading
  cases es.find? Entry.tooLarge with
  | some e =>
    obtain ⟨n, d⟩ := e
    simp [eq_comm]
  | none => by_cases hs : s.rest = [] <;> simp [hs]

/-- A value that is too large has digits. -/
theorem ne_nil_of_tooLarge (h : maxValue < number d) : d ≠ [] := by
  rintro rfl
  exact Nat.not_lt_zero _ h

/-- Of entries, the first one whose value is too large is the one behind those that fit. -/
theorem find?_tooLarge_append (hfits : ∀ e ∈ es₁, number e.digits ≤ maxValue)
    (he : maxValue < number e.digits) : (es₁ ++ e :: es₂).find? Entry.tooLarge = some e := by
  rw [List.find?_append, find?_eq_none_iff_fits.2 hfits, Option.none_or]
  exact List.find?_cons_of_pos (decide_eq_true he)

/-- The digits of an entry stand behind a text that opens them, and no digit stands behind them. -/
theorem exists_opened_of_path {ms : List Match} (hpath : Path rules (.fresh start source) ms s)
    (hs : s.Halts rules) (hsource : Source (textOf ms) (es₁ ++ e :: es₂))
    (htokens : tokensOf ms = (es₁ ++ e :: es₂).flatMap Entry.tokens) (hne : e.digits ≠ []) :
    ∃ t u, Opened t es₁ e.name ∧ IsDigits e.digits ∧ source = t ++ e.digits ++ u ∧
      digits.EndsBefore u := by
  obtain ⟨t, behind, hopened, hd, htext⟩ := hsource.exists_opened hne
  obtain ⟨more, u, hrest, hmore, hu⟩ := digits.exists_run (behind ++ s.rest)
  have hsplit : source = t ++ (e.digits ++ more) ++ u := by
    calc source = textOf ms ++ s.rest := hpath.textOf_append_rest.symm
      _ = t ++ (e.digits ++ (behind ++ s.rest)) := by simp [htext]
      _ = t ++ (e.digits ++ more) ++ u := by simp [hrest]
  -- Further digits would be lexed with those of the entry.
  have hdigits : IsDigits (e.digits ++ more) :=
    List.forall_mem_append.2 ⟨hd, covers_digits_iff.1 hmore⟩
  obtain ⟨es₂', rest, hbehind⟩ := exists_path_opened hu
  obtain ⟨ms', s', hpath', hs', htokens', -⟩ :=
    hbehind t es₁ e.name _ hopened hdigits (List.append_ne_nil_of_left_ne_nil hne more)
  rw [← hsplit] at hpath'
  obtain ⟨rfl, -⟩ := hpath.eq_of_halts hs hpath' hs'
  have hentries := entries_eq_of_tokens_eq (htokens.symm.trans htokens')
  obtain ⟨heq, -⟩ := List.cons.inj (List.append_cancel_left hentries)
  have hmore : more = [] := List.self_eq_append_right.1 (congrArg Entry.digits heq)
  exact ⟨t, u, hopened, hd, by rw [hsplit, hmore, List.append_nil], hu⟩

/-- A value is rejected exactly if it is opened, none of the values in front of it is too large, and
it is. What stands behind its digits does not matter. -/
theorem parse_eq_error_iff_opened (source name value : Text) :
    parse source = .error (.reduction variableValue (.outOfRange name value)) ↔
      ∃ t es u, Opened t es name ∧ IsDigits value ∧ source = t ++ value ++ u ∧
        digits.EndsBefore u ∧ (∀ e ∈ es, number e.digits ≤ maxValue) ∧ maxValue < number value := by
  constructor
  · intro h
    obtain ⟨ms, s, hpath, hs, entries, hsource, htokens⟩ := exists_path_entries source
    rw [parse_eq_reading hpath hs htokens, reading_eq_outOfRange_iff] at h
    -- The first entry that is too large stands behind entries that fit.
    obtain ⟨hlarge, es, es₂, rfl, hfits⟩ := List.find?_eq_some_iff_append.1 h.2
    have hlarge : maxValue < number value := of_decide_eq_true hlarge
    obtain ⟨t, u, hopened, hd, htext, hu⟩ :=
      exists_opened_of_path hpath hs hsource htokens (ne_nil_of_tooLarge hlarge)
    exact ⟨t, es, u, hopened, hd, htext, hu, by simpa [Entry.tooLarge] using hfits, hlarge⟩
  · rintro ⟨t, es, u, hopened, hd, rfl, hu, hfits, hlarge⟩
    obtain ⟨behind, _, hbehind⟩ := exists_path_opened hu
    obtain ⟨ms, s, hpath, hs, htokens, -⟩ :=
      hbehind t es name value hopened hd (ne_nil_of_tooLarge hlarge)
    rw [parse_eq_reading hpath hs htokens, reading_eq_outOfRange_iff]
    exact ⟨rfl, find?_tooLarge_append hfits hlarge⟩

/-! ## Zeros in front of digits -/

/-- Zeros in front of digits do not change the number. -/
theorem number_zeros_append (k : ℕ) (d : Text) : number (List.replicate k '0' ++ d) = number d := by
  have hzeros : (List.replicate k '0').foldl
      (fun n c => 10 * n + (c.toNat - '0'.toNat)) 0 = 0 := by
    induction k with
    | zero => rfl
    | succ k ih => exact ih
  rw [← decimalValue_eq_number, ← decimalValue_eq_number, decimalValue, List.foldl_append, hzeros]
  rfl

/-- An entry with a value makes the variable that its name and its number tell. -/
theorem Entry.variable_eq (hne : e.digits ≠ []) (hne' : e'.digits ≠ []) (hname : e.name = e'.name)
    (hnumber : number e.digits = number e'.digits) : e.variable = e'.variable := by
  rw [Entry.variable, Entry.variable, if_neg hne, if_neg hne', decimalValue_eq_number,
    decimalValue_eq_number, hname, hnumber]

/-- The number that is rejected is the first one of the entries that is too large. -/
theorem exists_outOfRange_iff {name : Text} {v : ℕ} :
    (∃ value, number value = v ∧
        reading es s = .error (.reduction variableValue (.outOfRange name value))) ↔
      (es.map fun e => (e.name, number e.digits)).find? (fun e => decide (maxValue < e.2)) =
        some (name, v) := by
  rw [List.find?_map, Option.map_eq_some_iff]
  simp only [reading_eq_outOfRange_iff, true_and, Prod.mk.injEq]
  constructor
  · rintro ⟨value, rfl, h⟩
    exact ⟨⟨name, value⟩, h, rfl, rfl⟩
  · rintro ⟨⟨_, value⟩, h, rfl, rfl⟩
    exact ⟨value, rfl, h⟩

/-- Whether a program is read, and which, does not depend on how the number of an entry is written.
-/
theorem reading_exchange_eq_ok_iff {p : Program} (hd : d ≠ []) (hd' : d' ≠ [])
    (hnumber : number d = number d') (hrest : s.rest = s'.rest) :
    reading (es₁ ++ ⟨n, d⟩ :: es₂) s = .ok p ↔ reading (es₁ ++ ⟨n, d'⟩ :: es₂) s' = .ok p := by
  have hvariable : Entry.variable ⟨n, d⟩ = Entry.variable ⟨n, d'⟩ :=
    Entry.variable_eq hd hd' rfl hnumber
  simp only [reading_eq_ok_iff, List.forall_mem_append, List.forall_mem_cons, List.map_append,
    List.map_cons, hvariable, hnumber, hrest]

/-- Neither does whether a number is rejected, and under which name. -/
theorem reading_exchange_outOfRange_iff {name : Text} {v : ℕ} (hnumber : number d = number d') :
    (∃ value, number value = v ∧ reading (es₁ ++ ⟨n, d⟩ :: es₂) s =
        .error (.reduction variableValue (.outOfRange name value))) ↔
      ∃ value, number value = v ∧ reading (es₁ ++ ⟨n, d'⟩ :: es₂) s' =
        .error (.reduction variableValue (.outOfRange name value)) := by
  simp only [exists_outOfRange_iff, List.map_append, List.map_cons, hnumber]

/-- Digits of a value can be exchanged for others that stand for the same number. -/
theorem parse_exchange (h : Opened t es n) (hu : digits.EndsBefore u) (hd : IsDigits d)
    (hne : d ≠ []) (hd' : IsDigits d') (hne' : d' ≠ []) (hnumber : number d = number d') :
    (∀ p, parse (t ++ d ++ u) = .ok p ↔ parse (t ++ d' ++ u) = .ok p) ∧
      ∀ name v,
        (∃ value, number value = v ∧
            parse (t ++ d ++ u) = .error (.reduction variableValue (.outOfRange name value))) ↔
          ∃ value, number value = v ∧
            parse (t ++ d' ++ u) = .error (.reduction variableValue (.outOfRange name value)) := by
  -- Both texts have the same entries but for one, and the lexer halts in front of the same text.
  obtain ⟨behind, rest, hbehind⟩ := exists_path_opened hu
  obtain ⟨ms, s, hpath, hs, htokens, hrest⟩ := hbehind t es n d h hd hne
  obtain ⟨ms', s', hpath', hs', htokens', hrest'⟩ := hbehind t es n d' h hd' hne'
  rw [parse_eq_reading hpath hs htokens, parse_eq_reading hpath' hs' htokens']
  exact ⟨fun p => reading_exchange_eq_ok_iff hne hne' hnumber (hrest.trans hrest'.symm),
    fun name v => reading_exchange_outOfRange_iff hnumber⟩

/-! ## Rejected values -/

/-- The next character is no digit, or there is none. -/
theorem endsBefore_digits_iff :
    digits.EndsBefore u ↔ ∀ c, u.head? = some c → c.isDigit = false := by
  simp only [EndsBefore, contains_digits]

/-- A value is rejected exactly if it is the first one of the text that is above `2 ^ 63 - 1`. In
front of it there are white space, items with values that are not too large, and then its name with
an opening parenthesis; behind it there is no digit, but any other text. All of its digits are
named.

Zeros in front of digits do not matter. With any number of them, the same program is read, and the
same number is rejected under the same name. -/
theorem parse_eq_outOfRange_iff (source name value : Text) :
    (parse source = .error (.reduction variableValue (.outOfRange name value)) ↔
        ∃ t es u, Opened t es name ∧ value ≠ [] ∧ IsDigits value ∧ source = t ++ value ++ u ∧
          (∀ c, u.head? = some c → c.isDigit = false) ∧
          (∀ e ∈ es, number e.digits ≤ 2 ^ 63 - 1) ∧ 2 ^ 63 - 1 < number value) ∧
      ∀ t es n, Opened t es n → ∀ k c u, c.isDigit = true →
        (∀ p, parse (t ++ List.replicate k '0' ++ c :: u) = .ok p ↔ parse (t ++ c :: u) = .ok p) ∧
          ∀ name v,
            (∃ value, number value = v ∧ parse (t ++ List.replicate k '0' ++ c :: u) =
                .error (.reduction variableValue (.outOfRange name value))) ↔
              ∃ value, number value = v ∧ parse (t ++ c :: u) =
                .error (.reduction variableValue (.outOfRange name value)) := by
  constructor
  · rw [parse_eq_error_iff_opened]
    simp only [endsBefore_digits_iff]
    constructor
    · rintro ⟨t, es, u, hopened, hd, htext, hu, hfits, hlarge⟩
      exact ⟨t, es, u, hopened, ne_nil_of_tooLarge hlarge, hd, htext, hu, hfits, hlarge⟩
    · rintro ⟨t, es, u, hopened, -, hd, htext, hu, hfits, hlarge⟩
      exact ⟨t, es, u, hopened, hd, htext, hu, hfits, hlarge⟩
  · intro t es n hopened k c u hc
    -- The first digit that is kept begins a run of digits.
    obtain ⟨d, v, hsplit, hd, hv⟩ := digits.exists_run (c :: u)
    have hne : d ≠ [] := by
      rintro rfl
      have hfirst : v.head? = some c := (congrArg List.head? hsplit).symm
      rw [endsBefore_digits_iff.1 hv c hfirst] at hc
      exact Bool.noConfusion hc
    have hdigits : IsDigits d := covers_digits_iff.1 hd
    have hzeros : IsDigits (List.replicate k '0' ++ d) :=
      List.forall_mem_append.2 ⟨fun c h => List.eq_of_mem_replicate h ▸ rfl, hdigits⟩
    have hexchange := parse_exchange hopened hv hzeros (List.append_ne_nil_of_right_ne_nil _ hne)
      hdigits hne (number_zeros_append k d)
    rw [hsplit]
    simpa only [List.append_assoc] using hexchange

/-- Two zeros and the first number that is too large, in front of a text that cannot be read. With
the zeros, the number before it is still read. -/
theorem parse_eq_outOfRange_iff_zeros :
    Opened "a(1)b( ".toList [⟨['a'], ['1']⟩] ['b'] ∧
      parse "a(1)b( 009223372036854775808x(".toList =
        .error (.reduction variableValue (.outOfRange ['b'] "009223372036854775808".toList)) ∧
      parse "a(1)b( 009223372036854775807".toList =
        .ok ⟨[⟨['a'], some 1⟩, ⟨['b'], some 9223372036854775807⟩]⟩ := by
  have hitem : Item "a(1)".toList ⟨['a'], ['1']⟩ :=
    @Item.mk ['a'] [] [] ['1'] [] (by decide) (by decide) (by decide) (by decide) (by decide)
  have hitems : Items "a(1)".toList [⟨['a'], ['1']⟩] :=
    @Items.cons _ [] [] _ _ hitem (by decide) .nil
  have hopened : Opened "a(1)b( ".toList [⟨['a'], ['1']⟩] ['b'] :=
    @Opened.mk [] _ ['b'] [] [' '] _ (by decide) hitems (by decide) (by decide) (by decide)
  obtain ⟨hlarge, hzeros⟩ := parse_eq_outOfRange_iff "a(1)b( 009223372036854775808x(".toList ['b']
    "009223372036854775808".toList
  refine ⟨hopened, hlarge.2 ⟨_, _, "x(".toList, hopened, by decide, ?_, rfl, ?_, ?_, by decide⟩, ?_⟩
  · decide
  · rintro c hc
    obtain rfl := Option.some.inj hc
    rfl
  · exact List.forall_mem_singleton.2 (by decide)
  · obtain ⟨hok, -⟩ := hzeros _ _ _ hopened 2 '9' "223372036854775807".toList rfl
    exact (hok _).2 (by rfl)

end ModalLexer.Assignment
