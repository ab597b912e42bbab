import ModalLexer.Transition

/-!
# Grammars

A rule is a pattern with the transition that a match takes. A context is a list of rules, the ones
before preferred to the ones behind. A grammar stores a context under each of some names; it is
built by storing contexts, and the last one stored under a name counts (`get?_insert`).

Rules are given in written form. A list of them is read from the front, the pattern of a rule before
its key, and the first fault is reported.
-/

namespace ModalLexer

/-- A pattern, and the transition that a match of it takes. -/
structure Rule where
  transition : Transition
  pattern : Pattern

/-- Rules in order of preference. -/
abbrev Context := List Rule

/-- A pattern in written form. -/
inductive PatternSource where
  | regex (source : Text)
  | literal (text : Text)
  deriving DecidableEq

/-- The pattern that a written form stands for. -/
def PatternSource.pattern : PatternSource → Except ConfigurationError Pattern
  | regex source => Pattern.ofRegex source
  | literal text => .ok (.literal text)

/-- A rule in written form: its transition is given by a key, or as it is. -/
inductive RuleSource where
  | keyed (key : String) (pattern : PatternSource)
  | direct (transition : Transition) (pattern : PatternSource)
  deriving DecidableEq

/-- The rule that a written form stands for. -/
def RuleSource.rule : RuleSource → Except ConfigurationError Rule
  | keyed key pattern => do
    let p ← pattern.pattern
    let t ← Transition.ofKey key
    .ok ⟨t, p⟩
  | direct t pattern => do
    let p ← pattern.pattern
    .ok ⟨t, p⟩

/-- The context with the given rules behind those of another. -/
def Context.extend (c : Context) (rules : List RuleSource) : Except ConfigurationError Context := do
  let added ← rules.mapM RuleSource.rule
  .ok (c ++ added)

/-- The first rule that matches the front of a text, with the text that it matches. -/
def Context.firstMatch? (c : Context) (t : Text) : Option (Rule × Text) :=
  c.findSome? fun r => (r.pattern.match? t).map (r, ·)

/-- Contexts under names, each name once. -/
structure Grammar where
  entries : List (String × Context) := []
  nodup : (entries.map Prod.fst).Nodup := by simp

namespace Grammar

/-- The grammar without contexts. -/
def empty : Grammar := {}

instance : Inhabited Grammar := ⟨empty⟩

/-- The context under a name. -/
def get? (g : Grammar) (name : String) : Option Context := g.entries.lookup name

/-- Whether a context is stored under a name. -/
def contains (g : Grammar) (name : String) : Bool := (g.get? name).isSome

/-- The number of names. -/
def size (g : Grammar) : Nat := g.entries.length

/-- Stores a context under a name, in the place of the one stored there before. -/
def insert (g : Grammar) (name : String) (c : Context) : Grammar where
  entries :=
    if name ∈ g.entries.map Prod.fst then
      g.entries.map fun e => if e.1 = name then (name, c) else e
    else g.entries ++ [(name, c)]
  nodup := by
    split
    · have h : Prod.fst ∘ (fun e : String × Context => if e.1 = name then (name, c) else e) =
          Prod.fst := by
        funext e
        simp only [Function.comp]
        split
        · exact Eq.symm ‹_›
        · rfl
      simpa [h] using g.nodup
    · rw [List.map_append]
      refine List.nodup_append.2 ⟨g.nodup, by simp, ?_⟩
      intro a ha b hb
      simp only [List.map_cons, List.map_nil, List.mem_singleton] at hb
      rintro rfl
      exact ‹¬_› (hb ▸ ha)

/-- What is stored under a name in the place of something else is found there, and nothing else
changes. -/
theorem lookup_map_replace (es : List (String × Context)) (name other : String) (c : Context) :
    (es.map fun e => if e.1 = name then (name, c) else e).lookup other =
      if other = name then (es.lookup other).map fun _ => c else es.lookup other := by
  induction es with
  | nil => simp
  | cons e es ih =>
    obtain ⟨n, d⟩ := e
    by_cases h : n = name <;> by_cases h' : other = n <;> grind

/-- Nothing is found under a name exactly if nothing is stored there. -/
theorem lookup_eq_none_iff_not_mem (es : List (String × Context)) (name : String) :
    es.lookup name = none ↔ name ∉ es.map Prod.fst := by
  induction es with
  | nil => simp
  | cons e es ih => obtain ⟨n, d⟩ := e; grind

/-- Where names are changed, different ones to different ones, the same context is found. -/
theorem lookup_map_entries {f : String → String} (hf : ∀ a b, f a = f b → a = b)
    (k : String → Context → Context) (es : List (String × Context)) (name : String) :
    (es.map fun e => (f e.1, k e.1 e.2)).lookup (f name) = (es.lookup name).map (k name) := by
  induction es with
  | nil => rfl
  | cons e es ih =>
    obtain ⟨n, c⟩ := e
    by_cases h : name = n
    · subst h
      simp
    · have hne : (name == n) = false := by simpa using h
      have hne' : (f name == f n) = false := by simpa using fun heq => h (hf name n heq)
      simp only [List.map_cons, List.lookup_cons, hne, hne', ih]

/-- A context that is found under a name is stored there. -/
theorem mem_entries_of_get? {g : Grammar} {name : String} {c : Context}
    (h : g.get? name = some c) : (name, c) ∈ g.entries := by
  obtain ⟨before, behind, hentries, -⟩ := List.lookup_eq_some_iff.1 h
  rw [hentries]
  exact List.mem_append_right before List.mem_cons_self

/-- The context under a name is the last one stored there. -/
theorem get?_insert (g : Grammar) (name other : String) (c : Context) :
    (g.insert name c).get? other = if other = name then some c else g.get? other := by
  have hn := lookup_eq_none_iff_not_mem g.entries name
  unfold insert get?
  dsimp only
  split
  · rw [lookup_map_replace]
    split
    · next h =>
      subst h
      cases hl : List.lookup other g.entries with
      | none => exact absurd ‹_› (hn.1 hl)
      | some d => rfl
    · rfl
  · rw [List.lookup_append]
    split
    · next h =>
      subst h
      rw [hn.2 ‹_›]
      simp
    · next h =>
      have h' : (other == name) = false := by simpa using h
      simp [List.lookup_cons, h']

/-- Stores under a name the context that is given by another one and rules to add at its end.
Returns what was stored there before, and the grammar. -/
def storeExtended (g : Grammar) (name : String) (base : Context) (rules : List RuleSource) :
    Except ConfigurationError (Option Context × Grammar) := do
  let c ← base.extend rules
  .ok (g.get? name, g.insert name c)

/-- Stores the context of the given rules under a name. -/
def store (g : Grammar) (name : String) (rules : List RuleSource) :
    Except ConfigurationError (Option Context × Grammar) :=
  g.storeExtended name [] rules

/-- Stores under a name the context that is there, or the empty one, with rules added at its end. -/
def append (g : Grammar) (name : String) (rules : List RuleSource) :
    Except ConfigurationError (Option Context × Grammar) :=
  g.storeExtended name ((g.get? name).getD []) rules

/-- The grammar that results from storing contexts one after the other. -/
def ofContexts (cs : List (String × List RuleSource)) : Except ConfigurationError Grammar :=
  cs.foldlM (fun g c => do .ok (← g.store c.1 c.2).2) empty

end Grammar

end ModalLexer
