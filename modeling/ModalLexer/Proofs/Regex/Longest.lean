import ModalLexer.Pattern

/-!
# Longest runs of a set

A repetition of a set that prefers more rounds takes the longest run of characters of the set, and
never gives one of them back as long as what follows it needs none of them. The main statements say
this of the patterns for three expressions: one run that is not empty (`match?_oneOrMore`), a
character and a run behind it (`match?_charThen`), and a run with a character behind it that the set
does not hold (`match?_thenChar`). Each has a partner that says when the pattern does not match, and
both together say what is matched in terms of the longest front of the text that consists of
characters of the set (`exists_isLongestRun_match?_oneOrMore` and its two siblings).

`Reaches` says what the machine finds at an address, whatever the text behind it. For the programs
here it follows by evaluation, and the set may stay a variable in it. The lemmas on `scan` then go
by induction on the text.
-/

namespace ModalLexer

/-! ## Runs -/

/-- Of the fronts of `t` that consist of characters with the property `p`, the longest is `w`. -/
structure IsLongestRun (p : Char → Bool) (t w : Text) : Prop where
  isPrefix : w <+: t
  all : ∀ c ∈ w, p c = true
  length_le : ∀ v, v <+: t → (∀ c ∈ v, p c = true) → v.length ≤ w.length

namespace CharSet

variable {s : CharSet} {w t : Text}

/-- All characters of a text are in the set. -/
def Covers (s : CharSet) (w : Text) : Prop := ∀ c ∈ w, s.contains c = true

/-- A run of the set ends in front of a text: it does not begin with a character of the set. -/
def EndsBefore (s : CharSet) (t : Text) : Prop := ∀ c, t.head? = some c → s.contains c = false

/-- At the end of the text, every run ends. -/
theorem endsBefore_nil : s.EndsBefore [] := fun _ h => absurd h (by simp)

/-- In front of a character, a run ends if the character is not in its set. -/
theorem endsBefore_cons {c : Char} : s.EndsBefore (c :: t) ↔ s.contains c = false := by
  simp [EndsBefore]

/-- Where a run ends in front of a text, it ends in front of every front of the text. -/
theorem EndsBefore.of_isPrefix {u : Text} (h : s.EndsBefore t) (hu : u <+: t) :
    s.EndsBefore u := by
  obtain ⟨v, rfl⟩ := hu
  intro c hc
  exact h c (by rw [List.head?_append, hc, Option.some_or])

/-- The longest run is a run. -/
theorem covers_takeWhile : s.Covers (t.takeWhile s.contains) := by
  induction t with
  | nil => simp [Covers]
  | cons c t ih =>
    by_cases hc : s.contains c
    · rw [List.takeWhile_cons_of_pos hc]
      exact List.forall_mem_cons.2 ⟨hc, ih⟩
    · rw [List.takeWhile_cons_of_neg hc]
      simp [Covers]

/-- It ends in front of what is left. -/
theorem endsBefore_dropWhile : s.EndsBefore (t.dropWhile s.contains) := by
  intro c hc
  have hhead := List.head?_dropWhile_not s.contains t
  rw [hc] at hhead
  simpa using hhead

/-- Every text begins with a longest run, which may be empty. -/
theorem exists_run (s : CharSet) (t : Text) :
    ∃ w u, t = w ++ u ∧ s.Covers w ∧ s.EndsBefore u :=
  ⟨_, _, List.takeWhile_append_dropWhile.symm, covers_takeWhile, endsBefore_dropWhile⟩

/-- A run is the longest front of its characters if it ends in front of what is left. -/
theorem isLongestRun_append (hw : s.Covers w) (ht : s.EndsBefore t) :
    IsLongestRun s.contains (w ++ t) w where
  isPrefix := List.prefix_append w t
  all := hw
  length_le v hv hall := by
    rcases List.prefix_or_prefix_of_prefix hv (List.prefix_append w t) with hshort | ⟨u, rfl⟩
    · exact hshort.length_le
    · -- What a longer front has behind the run begins with what is left.
      have hu : s.EndsBefore u := ht.of_isPrefix ((List.prefix_append_right_inj w).1 hv)
      cases u with
      | nil => simp
      | cons c u =>
        have hc : s.contains c = true := hall c (by simp)
        exact absurd (hc.symm.trans (endsBefore_cons.1 hu)) (by simp)

/-- The first character that is not in the set stands behind the longest run. -/
theorem find?_not_contains_append (hw : s.Covers w) (ht : s.EndsBefore t) :
    (w ++ t).find? (fun c => !s.contains c) = t.head? := by
  have hnone : w.find? (fun c => !s.contains c) = none :=
    List.find?_eq_none.2 fun c hc => by simp [hw c hc]
  rw [List.find?_append, hnone, Option.none_or]
  cases t with
  | nil => rfl
  | cons c t => simp [endsBefore_cons.1 ht]

/-- No character is in both sets. -/
def Disjoint (r s : CharSet) : Prop := ∀ c, r.contains c = true → s.contains c = false

/-- If a set is disjoint from another one, that is disjoint from it. -/
theorem Disjoint.symm {r : CharSet} (h : r.Disjoint s) : s.Disjoint r := by
  intro c hs
  by_cases hr : r.contains c = true
  · rw [h c hr] at hs
    exact absurd hs (by simp)
  · simpa using hr

/-- A set is disjoint from a character that it does not hold. -/
theorem disjoint_singleton {c : Char} (h : s.contains c = false) : s.Disjoint (singleton c) := by
  intro d hd
  have hne : c ≠ d := by
    rintro rfl
    exact absurd (hd.symm.trans h) (by simp)
  rw [contains_singleton, decide_eq_false hne]

/-- A set is disjoint from two sets together if it is from each of them. -/
theorem Disjoint.union {q r : CharSet} (hq : s.Disjoint q) (hr : s.Disjoint r) :
    s.Disjoint (q.union r) := by
  intro c hc
  rw [contains_union, hq c hc, hr c hc, Bool.or_false]

/-- A run ends in front of a text that begins with a run of a disjoint set. -/
theorem Disjoint.endsBefore_append {r : CharSet} (h : r.Disjoint s) (hw : r.Covers w)
    (hne : w ≠ []) : s.EndsBefore (w ++ t) := by
  obtain ⟨c, w, rfl⟩ := List.exists_cons_of_ne_nil hne
  exact endsBefore_cons.2 (h c (hw c List.mem_cons_self))

/-- It does so too if that run is empty, and the run ends in front of what is behind. -/
theorem Disjoint.endsBefore_append_of_endsBefore {r : CharSet} (h : r.Disjoint s)
    (hw : r.Covers w) (ht : s.EndsBefore t) : s.EndsBefore (w ++ t) := by
  by_cases hne : w = []
  · rwa [hne, List.nil_append]
  · exact h.endsBefore_append hw hne

/-- A run is the longest one if it ends in front of what is left. -/
theorem takeWhile_append (hw : s.Covers w) (ht : s.EndsBefore t) :
    (w ++ t).takeWhile s.contains = w := by
  have hnil : t.takeWhile s.contains = [] := by
    cases t with
    | nil => rfl
    | cons c t => exact List.takeWhile_cons_of_neg (by simp [endsBefore_cons.1 ht])
  rw [List.takeWhile_append_of_pos hw, hnil, List.append_nil]

/-- Behind the longest run stands what is left. -/
theorem dropWhile_append (hw : s.Covers w) (ht : s.EndsBefore t) :
    (w ++ t).dropWhile s.contains = t := by
  rw [List.dropWhile_append_of_pos hw]
  cases t with
  | nil => rfl
  | cons c t => exact List.dropWhile_cons_of_neg (by simp [endsBefore_cons.1 ht])

end CharSet

namespace Regex

/-! ## One step of the machine -/

namespace Program

variable {p : Program} {ready : List Nat} {before : Option Char} {takes : List (CharSet × Nat)}
  {accepts : Bool} {best : Option Nat} {n q : Nat} {s : CharSet}

/-- Behind the character `before`, the addresses `ready` lead to the instructions `takes`, and to
the one that accepts if `accepts`. -/
def Reaches (p : Program) (before : Option Char) (ready : List Nat)
    (takes : List (CharSet × Nat)) (accepts : Bool) : Prop :=
  ∀ after, (p.frontier before after ready).takes = takes ∧
    (p.frontier before after ready).accepts = accepts

/-- At the end of the text the machine takes nothing more. -/
theorem Reaches.scan_nil (h : p.Reaches before ready takes accepts) :
    p.scan ready before best n [] = if accepts then some n else best := by
  rw [scan, (h none).2]

/-- An anchored machine goes on where the next character leads, if it leads anywhere. -/
theorem Reaches.scan_cons (h : p.Reaches before ready takes accepts) (hp : p.anchored = true)
    (c : Char) (t : Text) :
    p.scan ready before best n (c :: t) =
      if (Frontier.step ⟨#[], takes, accepts⟩ c).isEmpty then if accepts then some n else best
      else p.scan (Frontier.step ⟨#[], takes, accepts⟩ c) (some c)
        (if accepts then some n else best) (n + 1) t := by
  have hstep : (p.frontier before (some c) ready).step c =
      Frontier.step ⟨#[], takes, accepts⟩ c := by
    simp only [Frontier.step, (h (some c)).1]
  simp only [scan, hp, Bool.true_or, if_true, hstep, (h (some c)).2]

/-- A machine that accepts here and can take nothing more has found its match. -/
theorem Reaches.scan_of_takes_nil (h : p.Reaches before ready [] true) (hp : p.anchored = true)
    (t : Text) : p.scan ready before best n t = some n := by
  cases t with
  | nil => rw [h.scan_nil, if_pos rfl]
  | cons c t =>
    rw [h.scan_cons hp]
    rfl

/-- A machine that accepts here, and comes back here behind every character of a set, takes the
longest run of the set. -/
theorem scan_loop (h : ∀ before, p.Reaches before [q] [(s, q)] true) (hp : p.anchored = true)
    (t : Text) :
    p.scan [q] before best n t = some (n + (t.takeWhile s.contains).length) := by
  induction t generalizing before best n with
  | nil => rw [(h before).scan_nil, if_pos rfl, List.takeWhile_nil, List.length_nil, Nat.add_zero]
  | cons c t ih =>
    rw [(h before).scan_cons hp]
    by_cases hc : s.contains c
    · rw [List.takeWhile_cons_of_pos hc, List.length_cons]
      simp only [Frontier.step, List.foldl_cons, List.foldl_nil, hc, if_true, List.isEmpty_cons,
        Bool.false_eq_true, if_false, ih, Nat.add_assoc, Nat.add_comm 1]
    · rw [List.takeWhile_cons_of_neg hc]
      simp [Frontier.step, hc]

/-- A machine that comes back behind every character of a set, and accepts behind a character that
the set does not hold, takes the longest run of the set and that character behind it. -/
theorem scan_until {c : Char} {r : Nat}
    (hloop : ∀ before, p.Reaches before [q] [(.singleton c, r), (s, q)] false)
    (hend : ∀ before, p.Reaches before [r] [] true) (hp : p.anchored = true)
    (hc : s.contains c = false) (h : p.Reaches before ready [(.singleton c, r), (s, q)] false)
    (t : Text) :
    p.scan ready before none n t =
      if (t.dropWhile s.contains).head? = some c then some (n + (t.takeWhile s.contains).length + 1)
      else none := by
  induction t generalizing before ready n with
  | nil => rw [h.scan_nil]; rfl
  | cons d t ih =>
    rw [h.scan_cons hp]
    by_cases hd : s.contains d
    · have hne : c ≠ d := by
        rintro rfl
        simp [hc] at hd
      rw [List.takeWhile_cons_of_pos hd, List.dropWhile_cons_of_pos hd]
      simp [Frontier.step, CharSet.contains_singleton, hd, hne, ih (hloop _), Nat.add_assoc,
        Nat.add_comm 1]
    · rw [List.takeWhile_cons_of_neg hd, List.dropWhile_cons_of_neg hd]
      by_cases hcd : c = d
      · subst hcd
        simp [Frontier.step, CharSet.contains_singleton, hc, (hend _).scan_of_takes_nil hp]
      · simp [Frontier.step, CharSet.contains_singleton, hd, hcd, Ne.symm hcd]

end Program

/-! ## Three programs -/

namespace Expr

variable {s : CharSet} {c : Char}

/-- Any number of characters of a set, as many as there are. -/
def zeroOrMore (s : CharSet) : Expr := rounds ⟨0, none⟩ true (set .unicode s)

/-- Characters of a set, as many as there are, and at least one. -/
def oneOrMore (s : CharSet) : Expr := rounds ⟨1, none⟩ true (set .unicode s)

/-- A character, then any number of characters of a set. -/
def charThen (c : Char) (s : CharSet) : Expr := cat (literal c []) (zeroOrMore s)

/-- Any number of characters of a set, then a character. -/
def thenChar (s : CharSet) (c : Char) : Expr := cat (zeroOrMore s) (literal c [])

/-- An expression at the start of the text. -/
def atStart (e : Expr) : Expr := cat (assertion .textStart) e

/-- A run of a set is matched to its end. -/
theorem matchEnd_oneOrMore (s : CharSet) (t : Text) :
    (oneOrMore s).atStart.program.matchEnd t =
      if t.takeWhile s.contains = [] then none else some (t.takeWhile s.contains).length := by
  -- Behind the assertion, address 1 takes a character, and the fork at 2 goes round or accepts.
  have hentry : (oneOrMore s).atStart.program.Reaches none [0] [(s, 2)] false :=
    fun _ => ⟨rfl, rfl⟩
  have hloop (before) : (oneOrMore s).atStart.program.Reaches before [2] [(s, 2)] true :=
    fun _ => ⟨rfl, rfl⟩
  cases t with
  | nil => rw [Program.matchEnd, hentry.scan_nil]; rfl
  | cons c t =>
    rw [Program.matchEnd, hentry.scan_cons rfl]
    by_cases hc : s.contains c
    · rw [List.takeWhile_cons_of_pos hc]
      simp [Program.Frontier.step, hc, Program.scan_loop hloop rfl, Nat.add_comm 1]
    · simp [Program.Frontier.step, hc]

/-- A character is matched with the run of a set behind it. -/
theorem matchEnd_charThen (c : Char) (s : CharSet) (t : Text) :
    (charThen c s).atStart.program.matchEnd t =
      match t with
      | [] => none
      | d :: t => if c = d then some (1 + (t.takeWhile s.contains).length) else none := by
  -- Behind the assertion, address 1 takes the character, and the fork at 2 goes round or accepts.
  have hentry : (charThen c s).atStart.program.Reaches none [0] [(.singleton c, 2)] false :=
    fun _ => ⟨rfl, rfl⟩
  have hloop (before) : (charThen c s).atStart.program.Reaches before [2] [(s, 2)] true :=
    fun _ => ⟨rfl, rfl⟩
  cases t with
  | nil => rw [Program.matchEnd, hentry.scan_nil]; rfl
  | cons d t =>
    rw [Program.matchEnd, hentry.scan_cons rfl]
    by_cases hd : c = d
    · subst hd
      simp [Program.Frontier.step, CharSet.contains_singleton, Program.scan_loop hloop rfl]
    · simp [Program.Frontier.step, CharSet.contains_singleton, hd]

/-- A run of a set is matched with the character behind it, which is none of the set. -/
theorem matchEnd_thenChar (hc : s.contains c = false) (t : Text) :
    (thenChar s c).atStart.program.matchEnd t =
      if (t.dropWhile s.contains).head? = some c then some ((t.takeWhile s.contains).length + 1)
      else none := by
  -- The fork at 1 goes round or on to the character. The round takes precedence, but at most one of
  -- the two takes the next character, since the set does not hold `c`.
  have hentry : (thenChar s c).atStart.program.Reaches none [0]
      [(.singleton c, 4), (s, 1)] false := fun _ => ⟨rfl, rfl⟩
  have hloop (before) : (thenChar s c).atStart.program.Reaches before [1]
      [(.singleton c, 4), (s, 1)] false := fun _ => ⟨rfl, rfl⟩
  have hend (before) : (thenChar s c).atStart.program.Reaches before [4] [] true :=
    fun _ => ⟨rfl, rfl⟩
  rw [Program.matchEnd, Program.scan_until hloop hend rfl hc hentry, Nat.zero_add]

end Expr

end Regex

/-! ## Patterns -/

namespace Pattern

open Regex

variable {source : Text} {s : CharSet} {c : Char} {w t : Text}

/-- A run is matched to its end. -/
theorem match?_oneOrMore
    {h : compile (anchoredSource source) = .ok (Expr.oneOrMore s).atStart.program}
    (hne : w ≠ []) (hw : s.Covers w) (ht : s.EndsBefore t) :
    (regex source _ h).match? (w ++ t) = some w := by
  rw [match?, Expr.matchEnd_oneOrMore, CharSet.takeWhile_append hw ht, if_neg hne, Option.map_some,
    List.take_left]

/-- Where no run begins, none is matched. -/
theorem match?_oneOrMore_eq_none
    {h : compile (anchoredSource source) = .ok (Expr.oneOrMore s).atStart.program}
    (ht : s.EndsBefore t) : (regex source _ h).match? t = none := by
  have hnil : t.takeWhile s.contains = [] :=
    CharSet.takeWhile_append (w := []) (fun _ h => absurd h (by simp)) ht
  rw [match?, Expr.matchEnd_oneOrMore, if_pos hnil, Option.map_none]

/-- What is matched is a run to its end, of one character at least. -/
theorem match?_oneOrMore_eq_some_iff
    {h : compile (anchoredSource source) = .ok (Expr.oneOrMore s).atStart.program} :
    (regex source _ h).match? t = some w ↔
      ∃ u, t = w ++ u ∧ w ≠ [] ∧ s.Covers w ∧ s.EndsBefore u := by
  constructor
  · intro hmatch
    obtain ⟨v, u, rfl, hv, hu⟩ := s.exists_run t
    by_cases hne : v = []
    · rw [hne, List.nil_append, match?_oneOrMore_eq_none hu] at hmatch
      exact absurd hmatch (by simp)
    · rw [match?_oneOrMore hne hv hu] at hmatch
      obtain rfl := Option.some.inj hmatch
      exact ⟨u, rfl, hne, hv, hu⟩
  · rintro ⟨u, rfl, hne, hw, hu⟩
    exact match?_oneOrMore hne hw hu

/-- A run is not matched exactly where none begins. -/
theorem match?_oneOrMore_eq_none_iff
    {h : compile (anchoredSource source) = .ok (Expr.oneOrMore s).atStart.program} :
    (regex source _ h).match? t = none ↔ s.EndsBefore t := by
  refine ⟨fun hmatch => ?_, match?_oneOrMore_eq_none⟩
  obtain ⟨w, u, rfl, hw, hu⟩ := s.exists_run t
  by_cases hne : w = []
  · rwa [hne, List.nil_append]
  · rw [match?_oneOrMore hne hw hu] at hmatch
    exact absurd hmatch (by simp)

/-- So the longest run is matched, unless it is empty. -/
theorem exists_isLongestRun_match?_oneOrMore
    {h : compile (anchoredSource source) = .ok (Expr.oneOrMore s).atStart.program} (t : Text) :
    ∃ w, IsLongestRun s.contains t w ∧
      (regex source _ h).match? t = if w = [] then none else some w := by
  obtain ⟨w, u, rfl, hw, hu⟩ := s.exists_run t
  refine ⟨w, CharSet.isLongestRun_append hw hu, ?_⟩
  by_cases hne : w = []
  · rw [if_pos hne, match?_oneOrMore_eq_none_iff, hne]
    exact hu
  · rw [if_neg hne, match?_oneOrMore hne hw hu]

/-- A character is matched with the run behind it. -/
theorem match?_charThen
    {h : compile (anchoredSource source) = .ok (Expr.charThen c s).atStart.program}
    (hw : s.Covers w) (ht : s.EndsBefore t) :
    (regex source _ h).match? (c :: w ++ t) = some (c :: w) := by
  have htake : (c :: w ++ t).take (1 + w.length) = c :: w :=
    List.take_left' (Nat.add_comm w.length 1)
  rw [List.cons_append] at htake ⊢
  simp only [match?, Expr.matchEnd_charThen, if_true, CharSet.takeWhile_append hw ht,
    Option.map_some, htake]

/-- Where the character does not stand, it is not matched. -/
theorem match?_charThen_eq_none
    {h : compile (anchoredSource source) = .ok (Expr.charThen c s).atStart.program}
    (ht : t.head? ≠ some c) : (regex source _ h).match? t = none := by
  rw [match?, Expr.matchEnd_charThen]
  cases t with
  | nil => rfl
  | cons d t =>
    have hd : c ≠ d := fun hcd => ht (by simp [hcd])
    simp [hd]

/-- What is matched is the character with a run behind it, to its end. -/
theorem match?_charThen_eq_some_iff
    {h : compile (anchoredSource source) = .ok (Expr.charThen c s).atStart.program} {m : Text} :
    (regex source _ h).match? t = some m ↔
      ∃ w u, t = c :: w ++ u ∧ m = c :: w ∧ s.Covers w ∧ s.EndsBefore u := by
  constructor
  · intro hmatch
    have hhead : t.head? = some c := by
      refine Decidable.byContradiction fun hne => ?_
      rw [match?_charThen_eq_none hne] at hmatch
      exact absurd hmatch (by simp)
    obtain ⟨t, rfl⟩ := List.head?_eq_some_iff.1 hhead
    obtain ⟨w, u, rfl, hw, hu⟩ := s.exists_run t
    rw [← List.cons_append, match?_charThen hw hu] at hmatch
    exact ⟨w, u, rfl, (Option.some.inj hmatch).symm, hw, hu⟩
  · rintro ⟨w, u, rfl, rfl, hw, hu⟩
    exact match?_charThen hw hu

/-- The character is not matched exactly where it does not stand. -/
theorem match?_charThen_eq_none_iff
    {h : compile (anchoredSource source) = .ok (Expr.charThen c s).atStart.program} :
    (regex source _ h).match? t = none ↔ t.head? ≠ some c := by
  refine ⟨fun hmatch hhead => ?_, match?_charThen_eq_none⟩
  obtain ⟨t, rfl⟩ := List.head?_eq_some_iff.1 hhead
  obtain ⟨w, u, rfl, hw, hu⟩ := s.exists_run t
  rw [← List.cons_append, match?_charThen hw hu] at hmatch
  exact absurd hmatch (by simp)

/-- So the longest run is matched behind the character. -/
theorem exists_isLongestRun_match?_charThen
    {h : compile (anchoredSource source) = .ok (Expr.charThen c s).atStart.program} (t : Text) :
    ∃ w, IsLongestRun s.contains t w ∧ (regex source _ h).match? (c :: t) = some (c :: w) := by
  obtain ⟨w, u, rfl, hw, hu⟩ := s.exists_run t
  exact ⟨w, CharSet.isLongestRun_append hw hu, match?_charThen hw hu⟩

/-- A run is matched with the character behind it. -/
theorem match?_thenChar
    {h : compile (anchoredSource source) = .ok (Expr.thenChar s c).atStart.program}
    (hc : s.contains c = false) (hw : s.Covers w) :
    (regex source _ h).match? (w ++ c :: t) = some (w ++ [c]) := by
  have hend : s.EndsBefore (c :: t) := CharSet.endsBefore_cons.2 hc
  have htake : (w ++ c :: t).take (w.length + 1) = w ++ [c] := by
    rw [List.take_length_add_append, List.take_succ_cons, List.take_zero]
  rw [match?, Expr.matchEnd_thenChar hc, CharSet.dropWhile_append hw hend,
    CharSet.takeWhile_append hw hend, if_pos List.head?_cons, Option.map_some, htake]

/-- Where another character stands behind the run, or none, nothing is matched. -/
theorem match?_thenChar_eq_none
    {h : compile (anchoredSource source) = .ok (Expr.thenChar s c).atStart.program}
    (hc : s.contains c = false) (hw : s.Covers w) (ht : s.EndsBefore t) (hne : t.head? ≠ some c) :
    (regex source _ h).match? (w ++ t) = none := by
  rw [match?, Expr.matchEnd_thenChar hc, CharSet.dropWhile_append hw ht, if_neg hne,
    Option.map_none]

/-- What is matched is a run with the character behind it. -/
theorem match?_thenChar_eq_some_iff
    {h : compile (anchoredSource source) = .ok (Expr.thenChar s c).atStart.program}
    (hc : s.contains c = false) {m : Text} :
    (regex source _ h).match? t = some m ↔ ∃ w u, t = w ++ c :: u ∧ m = w ++ [c] ∧ s.Covers w := by
  constructor
  · intro hmatch
    obtain ⟨w, u, rfl, hw, hu⟩ := s.exists_run t
    have hhead : u.head? = some c := by
      refine Decidable.byContradiction fun hne => ?_
      rw [match?_thenChar_eq_none hc hw hu hne] at hmatch
      exact absurd hmatch (by simp)
    obtain ⟨u, rfl⟩ := List.head?_eq_some_iff.1 hhead
    rw [match?_thenChar hc hw] at hmatch
    exact ⟨w, u, rfl, (Option.some.inj hmatch).symm, hw⟩
  · rintro ⟨w, u, rfl, rfl, hw⟩
    exact match?_thenChar hc hw

/-- So the longest run is matched with the character, if this is the first one that the set does
not hold. -/
theorem exists_isLongestRun_match?_thenChar
    {h : compile (anchoredSource source) = .ok (Expr.thenChar s c).atStart.program}
    (hc : s.contains c = false) (t : Text) :
    ∃ w, IsLongestRun s.contains t w ∧ (regex source _ h).match? t =
      if t.find? (fun d => !s.contains d) = some c then some (w ++ [c]) else none := by
  obtain ⟨w, u, rfl, hw, hu⟩ := s.exists_run t
  refine ⟨w, CharSet.isLongestRun_append hw hu, ?_⟩
  rw [CharSet.find?_not_contains_append hw hu]
  by_cases hhead : u.head? = some c
  · obtain ⟨u, rfl⟩ := List.head?_eq_some_iff.1 hhead
    rw [if_pos hhead, match?_thenChar hc hw]
  · rw [if_neg hhead, match?_thenChar_eq_none hc hw hu hhead]

/-- No run that is matched is empty. -/
theorem match?_oneOrMore_ne_nil
    {h : compile (anchoredSource source) = .ok (Expr.oneOrMore s).atStart.program} (t : Text) :
    (regex source _ h).match? t ≠ some [] := by
  rw [ne_eq, match?_oneOrMore_eq_some_iff]
  rintro ⟨u, -, hne, -⟩
  exact hne rfl

/-- A match that begins with a character is not empty. -/
theorem match?_charThen_ne_nil
    {h : compile (anchoredSource source) = .ok (Expr.charThen c s).atStart.program} (t : Text) :
    (regex source _ h).match? t ≠ some [] := by
  rw [ne_eq, match?_charThen_eq_some_iff]
  rintro ⟨w, u, -, hm, -⟩
  exact absurd hm (by simp)

/-- A match that ends with a character is not empty. -/
theorem match?_thenChar_ne_nil
    {h : compile (anchoredSource source) = .ok (Expr.thenChar s c).atStart.program}
    (hc : s.contains c = false) (t : Text) : (regex source _ h).match? t ≠ some [] := by
  rw [ne_eq, match?_thenChar_eq_some_iff hc]
  rintro ⟨w, u, -, hm, -⟩
  exact absurd hm (by simp)

end Pattern

end ModalLexer
