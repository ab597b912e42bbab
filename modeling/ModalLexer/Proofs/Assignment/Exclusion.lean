import ModalLexer.Assignment.Parser
import ModalLexer.Proofs.Assignment.Rules
import ModalLexer.Proofs.Exclusion

/-!
# The rules of the assignment language exclude each other

The patterns of the language match the longest runs of white space, of the characters of names and
of digits, with a parenthesis in front or behind in two of them. A text that one of them matches
begins with a character that the other pattern of the context never begins with, so at most one of
them matches (`rules_exclusive`). The order in which the rules are listed is therefore free:
`rules_match_in_any_order` says what each pattern matches, and that a grammar with the rules of the
language in any order leads to the same runs and the same readings.
-/

namespace ModalLexer.Assignment

open CharSet

/-- The regular expression `source` matches, in front of every text, the longest run of characters
with the property `p`, and nothing where this run is empty. -/
def TakesLongestRun (source : String) (p : Char → Bool) : Prop :=
  ∃ pattern, Pattern.ofRegex source.toList = .ok pattern ∧
    ∀ t, ∃ w, IsLongestRun p t w ∧ pattern.match? t = if w = [] then none else some w

/-- In each context of the language, at most one rule matches. -/
theorem rules_exclusive : rules.Exclusive := by
  intro a c hc
  rcases rules_get?_cases hc with ⟨-, rfl⟩ | ⟨-, rfl⟩ | ⟨-, rfl⟩
  · exact Context.exclusive_pair
      (Pattern.beginsWith_oneOrMore.excludes Pattern.beginsWith_oneOrMore disjoint_nameChars)
  · have hopen : whiteSpace.Disjoint (singleton '(') := disjoint_singleton (by decide)
    exact Context.exclusive_pair
      (Pattern.beginsWith_oneOrMore.excludes Pattern.beginsWith_charThen hopen)
  · have hclose : digits.Disjoint (whiteSpace.union (singleton ')')) :=
      disjoint_digits.symm.union (disjoint_singleton (by decide))
    exact Context.exclusive_pair
      (Pattern.beginsWith_oneOrMore.excludes (Pattern.beginsWith_thenChar (by decide)) hclose)

/-- A text is read under the compiled rules. -/
theorem read_eq (source : Text) : read source = readWith rules source := by
  rw [read, grammar_eq]

/-- It is read in the same way with the rules in another order. -/
theorem readWith_eq_of_reorders {g : Grammar} (h : g.Reorders rules) (source : Text) :
    readWith g source = read source := by
  have hrun : run g source = run rules source := h.run_eq rules_exclusive _ _ _ _
  rw [read_eq, readWith, readWith, hrun]

/-- Every pattern of the language matches longest runs. The longest front of white space is matched,
or of the characters of names, or of digits, unless it is empty; a parenthesis that opens is matched
with the longest run of white space behind it; and one that closes with the longest run of white
space in front of it, exactly if it is the first character that is not white space.

In each of the three contexts, at most one rule matches. So the rules of each can be listed in any
order: the grammar can be built as well, and nothing that is run or read with it, with a bound or
without one, is any different. -/
theorem rules_match_in_any_order :
    TakesLongestRun "\\s+" whiteSpace.contains ∧
      TakesLongestRun "[A-Za-z0-9_]+" (fun c => c.isAlphanum || c == '_') ∧
      TakesLongestRun "[0-9]+" Char.isDigit ∧
      (∃ p, Pattern.ofRegex "\\(\\s*".toList = .ok p ∧
        (∀ t, ∃ w, IsLongestRun whiteSpace.contains t w ∧ p.match? ('(' :: t) = some ('(' :: w)) ∧
        ∀ t, t.head? ≠ some '(' → p.match? t = none) ∧
      (∃ p, Pattern.ofRegex "\\s*\\)".toList = .ok p ∧
        ∀ t, ∃ w, IsLongestRun whiteSpace.contains t w ∧ p.match? t =
          if t.find? (fun c => !whiteSpace.contains c) = some ')' then some (w ++ [')'])
          else none) ∧
      ∃ g, grammar = .ok g ∧
        (∀ name ∈ [start, variableName, variableValue],
          ∃ c, g.get? name = some c ∧ c.Exclusive) ∧
        (∀ cs, SameRules cs contexts → ∃ g', Grammar.ofContexts cs = .ok g' ∧ g'.Reorders g) ∧
        ∀ g' : Grammar, g'.Reorders g →
          (∀ source, readWith g' source = read source) ∧
          ∀ {σ γ ε : Type} (s : State) (r : Reduction σ γ ε) (store : σ),
            (∀ limit, s.run g' r limit store = s.run g r limit store) ∧
            ∀ n calls res,
              s.EndsCalling g' r store n calls res ↔ s.EndsCalling g r store n calls res := by
  have hname : nameChars.contains = fun c => c.isAlphanum || c == '_' := funext contains_nameChars
  have hdigits : digits.contains = Char.isDigit := funext contains_digits
  rw [← hname, ← hdigits]
  refine ⟨?_, ?_, ?_, ?_, ?_, rules, grammar_eq, ?_, ?_, ?_⟩
  · exact ⟨skipBlank.pattern, Pattern.ofRegex_eq_ok_iff.2 ⟨_, _, rfl⟩,
      Pattern.exists_isLongestRun_match?_oneOrMore⟩
  · exact ⟨takeName.pattern, Pattern.ofRegex_eq_ok_iff.2 ⟨_, _, rfl⟩,
      Pattern.exists_isLongestRun_match?_oneOrMore⟩
  · exact ⟨takeDigits.pattern, Pattern.ofRegex_eq_ok_iff.2 ⟨_, _, rfl⟩,
      Pattern.exists_isLongestRun_match?_oneOrMore⟩
  · exact ⟨openValue.pattern, Pattern.ofRegex_eq_ok_iff.2 ⟨_, _, rfl⟩,
      Pattern.exists_isLongestRun_match?_charThen, fun _ => Pattern.match?_charThen_eq_none⟩
  · exact ⟨closeValue.pattern, Pattern.ofRegex_eq_ok_iff.2 ⟨_, _, rfl⟩,
      Pattern.exists_isLongestRun_match?_thenChar (by decide)⟩
  · have hthree : ∀ name ∈ [start, variableName, variableValue], ∃ c, rules.get? name = some c := by
      simp [get?_start, get?_variableName, get?_variableValue]
    intro name hmem
    obtain ⟨c, hc⟩ := hthree name hmem
    exact ⟨c, hc, rules_exclusive name c hc⟩
  · intro cs hcs
    exact Grammar.exists_ofContexts_reorders hcs grammar_eq
  · intro g' h
    refine ⟨readWith_eq_of_reorders h, fun s r store => ⟨fun limit => ?_, fun n calls res => ?_⟩⟩
    · exact h.run_eq rules_exclusive s r limit store
    · exact h.endsCalling_iff rules_exclusive

/-- The contexts of the language with the rules of each from the last to the first. -/
def reversedContexts : List (String × List RuleSource) := contexts.map fun e => (e.1, e.2.reverse)

/-- With all rules the other way round, a source with white space of several kinds is read as the
same program, and white space behind a value at the end of the text is the same mismatch. -/
theorem rules_match_in_any_order_reversed :
    SameRules reversedContexts contexts ∧
      ∃ g', Grammar.ofContexts reversedContexts = .ok g' ∧
        g'.get? start = some [takeName, skipBlank] ∧
        (readWith g' "a\u2003(\n7\u3000) b".toList).outcome =
          .ok ⟨[⟨['a'], some 7⟩, ⟨['b'], none⟩]⟩ ∧
        (readWith g' "a(7 ".toList).outcome =
          .error (.mismatch ⟨variableValue, ['7'], ⟨1, 4⟩, [' ']⟩) := by
  have hcs : SameRules reversedContexts contexts :=
    List.forall₂_map_left_iff.2 (List.forall₂_same.2 fun e _ => ⟨rfl, e.2.reverse_perm⟩)
  obtain ⟨-, -, -, -, -, g, hg, -, hbuild, hsame⟩ := rules_match_in_any_order
  obtain ⟨g', hg', h⟩ := hbuild _ hcs
  obtain ⟨hread, -⟩ := hsame g' h
  have hstart : (Grammar.ofContexts reversedContexts).map (·.get? start) =
      .ok (some [takeName, skipBlank]) := by rfl
  rw [hg'] at hstart
  refine ⟨hcs, g', hg', Except.ok.inj hstart, ?_, ?_⟩
  · rw [hread]
    rfl
  · rw [hread]
    rfl

end ModalLexer.Assignment
