import ModalLexer.Grammar
import ModalLexer.Proofs.Fallible
import ModalLexer.Proofs.Key

/-!
# Storing contexts

A list of rules in written form is read from the front. A rule is at fault if it has a regular
expression that does not compile, or else an empty key (`RuleSource.Faulty`), and nothing else is
wrong with a rule (`RuleSource.rule_eq_error_iff`). The first rule that is at fault is reported
(`Context.extend_eq_error_iff`). Without one, the rules are put behind the others in the order that
they are written in (`Context.extend_eq_ok_iff`), and the context is stored under its name
(`Grammar.storeExtended_eq_ok_iff`).
-/

namespace ModalLexer

/-! ## Rules in written form -/

/-- The pattern of a rule, in written form. -/
def RuleSource.patternSource : RuleSource → PatternSource
  | keyed _ pattern => pattern
  | direct _ pattern => pattern

/-- What is at fault with a rule. Where its regular expression does not compile, this is reported,
whatever its key is. -/
inductive RuleSource.Faulty : RuleSource → ConfigurationError → Prop
  /-- The rule has a regular expression that does not compile. -/
  | regex {rule : RuleSource} {source : Text} {cause : Regex.SyntaxError}
    (hsource : rule.patternSource = .regex source)
    (hcompile : Regex.compile (anchoredSource source) = .error cause) :
    Faulty rule (.invalidRegex source cause)
  /-- The rule has an empty key, and its pattern is a literal text or a regular expression that
  compiles. -/
  | key {pattern : PatternSource} {p : Pattern} (hpattern : pattern.pattern = .ok p) :
    Faulty (.keyed "" pattern) .emptyKey

/-- Nothing is at fault with a rule. -/
def RuleSource.Sound (rule : RuleSource) : Prop := ∀ fault, ¬ rule.Faulty fault

/-- What a rule in written form stands for: its pattern, and the transition that it gives or that
its key stands for. -/
inductive RuleSource.StandsFor : RuleSource → Rule → Prop
  | keyed {key : String} {pattern : PatternSource} {t : Transition} {p : Pattern}
    (hpattern : pattern.pattern = .ok p) (hkey : Transition.ofKey key = .ok t) :
    StandsFor (.keyed key pattern) ⟨t, p⟩
  | direct {t : Transition} {pattern : PatternSource} {p : Pattern}
    (hpattern : pattern.pattern = .ok p) : StandsFor (.direct t pattern) ⟨t, p⟩

variable {rule : RuleSource} {rules : List RuleSource} {fault : ConfigurationError} {r : Rule}
  {base c : Context} {g g' : Grammar} {name : String} {old : Option Context}

/-- A pattern in written form stands for none only if it is a regular expression that does not
compile. -/
theorem PatternSource.pattern_eq_error_iff {a : PatternSource} :
    a.pattern = .error fault ↔ ∃ source cause, a = .regex source ∧
      Regex.compile (anchoredSource source) = .error cause ∧
      fault = .invalidRegex source cause := by
  cases a with
  | literal text => simp [pattern]
  | regex source =>
    simp only [pattern, Pattern.ofRegex, regex.injEq]
    constructor
    · intro h
      split at h
      · exact absurd h (by simp)
      · next cause hcause => exact ⟨source, cause, rfl, hcause, (Except.error.inj h).symm⟩
    · rintro ⟨_, cause, rfl, hcause, rfl⟩
      split
      · next hcompile => exact absurd (hcause.symm.trans hcompile) (by simp)
      · next cause' hcause' => rw [Except.error.inj (hcause.symm.trans hcause')]

/-- A rule in written form is read as what it stands for. -/
theorem RuleSource.rule_eq_ok_iff : rule.rule = .ok r ↔ rule.StandsFor r := by
  constructor
  · intro h
    cases rule with
    | keyed key pattern =>
      obtain ⟨p, hpattern, h⟩ := bind_eq_ok_iff.1 h
      obtain ⟨t, hkey, h⟩ := bind_eq_ok_iff.1 h
      obtain rfl := Except.ok.inj h
      exact .keyed hpattern hkey
    | direct t pattern =>
      obtain ⟨p, hpattern, h⟩ := bind_eq_ok_iff.1 h
      obtain rfl := Except.ok.inj h
      exact .direct hpattern
  · rintro (⟨hpattern, hkey⟩ | hpattern)
    · exact bind_eq_ok_iff.2 ⟨_, hpattern, bind_eq_ok_iff.2 ⟨_, hkey, rfl⟩⟩
    · exact bind_eq_ok_iff.2 ⟨_, hpattern, rfl⟩

/-- If a rule in written form is not read, what is at fault with it is reported. -/
theorem RuleSource.rule_eq_error_iff : rule.rule = .error fault ↔ rule.Faulty fault := by
  constructor
  · intro h
    cases rule with
    | keyed key pattern =>
      rcases bind_eq_error_iff.1 h with hpattern | ⟨p, hpattern, hkey⟩
      · obtain ⟨source, cause, rfl, hcause, rfl⟩ := PatternSource.pattern_eq_error_iff.1 hpattern
        exact .regex rfl hcause
      · rcases bind_eq_error_iff.1 hkey with hkey | ⟨t, -, hpure⟩
        · obtain ⟨rfl, rfl⟩ := Transition.ofKey_eq_error_iff.1 hkey
          exact .key hpattern
        · exact absurd hpure (by simp)
    | direct t pattern =>
      rcases bind_eq_error_iff.1 h with hpattern | ⟨p, -, hpure⟩
      · obtain ⟨source, cause, rfl, hcause, rfl⟩ := PatternSource.pattern_eq_error_iff.1 hpattern
        exact .regex rfl hcause
      · exact absurd hpure (by simp)
  · rintro (⟨hsource, hcause⟩ | hpattern)
    · have hpattern : rule.patternSource.pattern = .error (.invalidRegex _ _) :=
        PatternSource.pattern_eq_error_iff.2 ⟨_, _, hsource, hcause, rfl⟩
      cases rule <;> exact bind_eq_error_iff.2 (.inl hpattern)
    · exact bind_eq_error_iff.2 (.inr ⟨_, hpattern, bind_eq_error_iff.2
        (.inl (Transition.ofKey_eq_error_iff.2 ⟨rfl, rfl⟩))⟩)

/-- So a rule in written form stands for one exactly if nothing is at fault with it. -/
theorem RuleSource.sound_iff : rule.Sound ↔ ∃ r, rule.StandsFor r := by
  simp only [Sound, ← rule_eq_error_iff, ← rule_eq_ok_iff]
  cases rule.rule <;> simp

/-- Rules in written form stand for rules exactly if nothing is at fault with any. -/
theorem RuleSource.exists_standsFor_iff :
    (∃ added, List.Forall₂ StandsFor rules added) ↔ ∀ rule ∈ rules, rule.Sound := by
  induction rules with
  | nil => simp
  | cons rule rules ih =>
    rw [List.forall_mem_cons, ← ih, sound_iff]
    simp only [List.forall₂_cons_left_iff]
    constructor
    · rintro ⟨_, r, added, hr, hadded, rfl⟩
      exact ⟨⟨r, hr⟩, added, hadded⟩
    · rintro ⟨⟨r, hr⟩, added, hadded⟩
      exact ⟨_, r, added, hr, hadded, rfl⟩

/-! ## Contexts -/

/-- A context is extended by what rules stand for, behind its own and in the order they are written
in. -/
theorem Context.extend_eq_ok_iff : base.extend rules = .ok c ↔
    ∃ added, List.Forall₂ RuleSource.StandsFor rules added ∧ c = base ++ added := by
  simp only [extend, bind_eq_ok_iff, mapM_eq_ok_iff, RuleSource.rule_eq_ok_iff, Except.ok.injEq,
    @eq_comm _ c]

/-- A context is not extended if one of the rules is at fault. The first one is reported. -/
theorem Context.extend_eq_error_iff : base.extend rules = .error fault ↔
    ∃ front rule behind, rules = front ++ rule :: behind ∧ (∀ r ∈ front, r.Sound) ∧
      rule.Faulty fault := by
  simp only [extend, bind_eq_error_iff, mapM_eq_error_iff, RuleSource.rule_eq_error_iff,
    RuleSource.rule_eq_ok_iff, ← RuleSource.sound_iff, reduceCtorEq, and_false, exists_false,
    or_false]

/-! ## Grammars -/

/-- What is stored under a name is returned, and the extended context takes its place. -/
theorem Grammar.storeExtended_eq_ok_iff : g.storeExtended name base rules = .ok (old, g') ↔
    ∃ added, List.Forall₂ RuleSource.StandsFor rules added ∧ old = g.get? name ∧
      g' = g.insert name (base ++ added) := by
  simp only [storeExtended, bind_eq_ok_iff, Context.extend_eq_ok_iff, Except.ok.injEq,
    Prod.mk.injEq]
  constructor
  · rintro ⟨_, ⟨added, hadded, rfl⟩, rfl, rfl⟩
    exact ⟨added, hadded, rfl, rfl⟩
  · rintro ⟨added, hadded, rfl, rfl⟩
    exact ⟨_, ⟨added, hadded, rfl⟩, rfl, rfl⟩

/-- Nothing is stored if one of the rules is at fault. The first one is reported. -/
theorem Grammar.storeExtended_eq_error_iff : g.storeExtended name base rules = .error fault ↔
    ∃ front rule behind, rules = front ++ rule :: behind ∧ (∀ r ∈ front, r.Sound) ∧
      rule.Faulty fault := by
  simp only [storeExtended, bind_eq_error_iff, Context.extend_eq_error_iff, reduceCtorEq, and_false,
    exists_false, or_false]

end ModalLexer
