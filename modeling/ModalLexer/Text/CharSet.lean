/-!
# Sets of characters as ascending ranges

A `CharSet` is a list of ranges of code points, each with both of its ends, in ascending order. A
union joins the ranges that meet, so sets that are built from ranges by `insert` and `union` alone
are equal as values if they hold the same code points, and expressions over sets can be compared by
`=`.

The code points from U+D800 to U+DFFF are no characters, so U+E000 follows U+D7FF as a character. A
range that ends at U+D7FF and one that begins at U+E000 are still not joined, since there are code
points between them. `compl` finds no character between the two and takes both ends instead: it is
the complement for every character but these two.

The main statements say what each operation does to membership: `contains_insert`, `contains_union`,
`contains_compl`, `contains_inter`, `contains_diff` and `contains_symmDiff`.
-/

namespace ModalLexer

/-- A text is a sequence of Unicode scalar values. -/
abbrev Text := List Char

/-- Whether ranges ascend from `m` on: none is empty, and none begins before the last one ended. -/
def ascendsFrom (m : Nat) : List (Nat × Nat) → Bool
  | [] => true
  | (a, b) :: rs => decide (m ≤ a) && decide (a ≤ b) && ascendsFrom (b + 1) rs

/-- A set of characters: ascending ranges of code points, both ends included. -/
structure CharSet where
  ranges : List (Nat × Nat)
  ascending : ascendsFrom 0 ranges = true := by decide
  deriving DecidableEq

/-- No ranges ascend from anywhere on. -/
theorem ascendsFrom_nil (m : Nat) : ascendsFrom m [] = true := rfl

/-- A range in front of ascending ranges has to be in order and to end before they begin. -/
theorem ascendsFrom_cons {m a b : Nat} {rs : List (Nat × Nat)} :
    ascendsFrom m ((a, b) :: rs) = true ↔ m ≤ a ∧ a ≤ b ∧ ascendsFrom (b + 1) rs = true := by
  simp [ascendsFrom, and_assoc]

/-- Ranges that ascend from a place on ascend from every place before it. -/
theorem ascendsFrom_of_le {m k : Nat} {rs : List (Nat × Nat)} (h : ascendsFrom k rs = true)
    (hm : m ≤ k) : ascendsFrom m rs = true := by
  cases rs with
  | nil => rfl
  | cons r rs =>
    obtain ⟨a, b⟩ := r
    rw [ascendsFrom_cons] at h ⊢
    exact ⟨Nat.le_trans hm h.1, h.2⟩

namespace CharSet

/-- The largest code point. -/
def maxCode : Nat := 0x10FFFF

/-- The set without characters. -/
def empty : CharSet := ⟨[], rfl⟩

instance : Inhabited CharSet := ⟨empty⟩

/-- Whether some range holds the code point `n`. -/
def holds (rs : List (Nat × Nat)) (n : Nat) : Bool :=
  rs.any fun r => decide (r.1 ≤ n) && decide (n ≤ r.2)

/-- Whether the character `c` is in the set. -/
def contains (s : CharSet) (c : Char) : Bool := holds s.ranges c.toNat

/-- No range holds anything. -/
@[simp] theorem holds_nil (n : Nat) : holds [] n = false := rfl

/-- A range in front of others holds what is between its ends. -/
@[simp] theorem holds_cons (r : Nat × Nat) (rs : List (Nat × Nat)) (n : Nat) :
    holds (r :: rs) n = ((decide (r.1 ≤ n) && decide (n ≤ r.2)) || holds rs n) := rfl

/-- Ranges one after the other hold what either of them holds. -/
@[simp] theorem holds_append (rs ss : List (Nat × Nat)) (n : Nat) :
    holds (rs ++ ss) n = (holds rs n || holds ss n) := List.any_append

/-- Ascending ranges hold nothing below their start. -/
theorem le_of_holds {m n : Nat} {rs : List (Nat × Nat)} (h : ascendsFrom m rs = true)
    (hn : holds rs n = true) : m ≤ n := by
  induction rs generalizing m with
  | nil => simp at hn
  | cons r rs ih =>
    obtain ⟨a, b⟩ := r
    rw [ascendsFrom_cons] at h
    simp only [holds_cons, Bool.or_eq_true, Bool.and_eq_true, decide_eq_true_eq] at hn
    rcases hn with hn | hn
    · omega
    · have := ih h.2.2 hn
      omega

/-! ## Adding ranges -/

/-- Adds a range to ascending ranges, joining those that it meets or touches. -/
def insertRange (lo hi : Nat) : List (Nat × Nat) → List (Nat × Nat)
  | [] => [(lo, hi)]
  | (a, b) :: rs =>
    if hi + 1 < a then (lo, hi) :: (a, b) :: rs
    else if b + 1 < lo then (a, b) :: insertRange lo hi rs
    else insertRange (min lo a) (max hi b) rs

/-- Ranges still ascend with another one added. -/
theorem ascendsFrom_insertRange {m lo hi : Nat} {rs : List (Nat × Nat)} (hm : m ≤ lo)
    (h : lo ≤ hi) (hr : ascendsFrom m rs = true) :
    ascendsFrom m (insertRange lo hi rs) = true := by
  induction rs generalizing m lo hi with
  | nil => exact ascendsFrom_cons.mpr ⟨hm, h, rfl⟩
  | cons r rs ih =>
    obtain ⟨a, b⟩ := r
    obtain ⟨hma, hab, hrs⟩ := ascendsFrom_cons.mp hr
    unfold insertRange
    split
    · exact ascendsFrom_cons.mpr ⟨hm, h, ascendsFrom_cons.mpr ⟨by omega, hab, hrs⟩⟩
    · split
      · exact ascendsFrom_cons.mpr ⟨hma, hab, ih (by omega) h hrs⟩
      · exact ih (by omega) (by omega) (ascendsFrom_of_le hrs (by omega))

/-- Adds the code points from `lo` to `hi`; there are none if `hi < lo`. -/
def insert (s : CharSet) (lo hi : Nat) : CharSet :=
  if h : lo ≤ hi then
    ⟨insertRange lo hi s.ranges, ascendsFrom_insertRange (Nat.zero_le _) h s.ascending⟩
  else s

/-- Adds ranges, from the last one to the first. -/
def insertAll (s : CharSet) (rs : List (Nat × Nat)) : CharSet :=
  rs.foldr (fun r t => t.insert r.1 r.2) s

/-- The characters with a code point from `lo` to `hi`. -/
def range (lo hi : Nat) : CharSet := empty.insert lo hi

/-- The set of one character. -/
def singleton (c : Char) : CharSet := range c.toNat c.toNat

/-- The characters of the given ranges, in whatever order they come. -/
def ofRanges (rs : List (Nat × Nat)) : CharSet := empty.insertAll rs

/-- The characters of either set. -/
def union (s t : CharSet) : CharSet := s.insertAll t.ranges

/-- An added range is held besides what was held before. -/
theorem holds_insertRange {lo hi m : Nat} {rs : List (Nat × Nat)} (h : lo ≤ hi)
    (hr : ascendsFrom m rs = true) (n : Nat) :
    holds (insertRange lo hi rs) n = (decide (lo ≤ n ∧ n ≤ hi) || holds rs n) := by
  induction rs generalizing m lo hi with
  | nil => simp [insertRange]
  | cons r rs ih =>
    obtain ⟨a, b⟩ := r
    obtain ⟨hma, hab, hrs⟩ := ascendsFrom_cons.mp hr
    unfold insertRange
    split
    · simp
    · split
      · simp only [holds_cons, ih h hrs]
        grind
      · rw [ih (by omega) hrs, holds_cons, Bool.eq_iff_iff]
        simp only [Bool.or_eq_true, Bool.and_eq_true, decide_eq_true_eq]
        constructor <;> rintro (h' | h') <;> grind

/-- Inserting a range adds the characters of that range and no other. -/
theorem contains_insert (s : CharSet) (lo hi : Nat) (c : Char) :
    (s.insert lo hi).contains c = (decide (lo ≤ c.toNat ∧ c.toNat ≤ hi) || s.contains c) := by
  unfold insert
  split
  · exact holds_insertRange ‹_› s.ascending _
  · rw [decide_eq_false (by omega), Bool.false_or]

/-- Inserting ranges adds what one of them holds. -/
theorem contains_insertAll (s : CharSet) (rs : List (Nat × Nat)) (c : Char) :
    (s.insertAll rs).contains c = (s.contains c || holds rs c.toNat) := by
  induction rs with
  | nil => simp [insertAll]
  | cons r rs ih =>
    rw [insertAll, List.foldr_cons, contains_insert, ← insertAll, ih, holds_cons, Bool.decide_and,
      Bool.or_left_comm]

/-- The empty set holds no character. -/
@[simp] theorem contains_empty (c : Char) : empty.contains c = false := rfl

/-- A range holds the characters between its ends. -/
theorem contains_range (lo hi : Nat) (c : Char) :
    (range lo hi).contains c = decide (lo ≤ c.toNat ∧ c.toNat ≤ hi) := by
  simp [range, contains_insert]

/-- The set of one character holds that character alone. -/
theorem contains_singleton (c d : Char) : (singleton c).contains d = decide (c = d) := by
  rw [singleton, contains_range]
  congr 1
  rw [eq_iff_iff, ← Char.toNat_inj]
  omega

/-- A set of ranges holds what one of the ranges holds. -/
theorem contains_ofRanges (rs : List (Nat × Nat)) (c : Char) :
    (ofRanges rs).contains c = holds rs c.toNat := by
  rw [ofRanges, contains_insertAll, contains_empty, Bool.false_or]

/-- A union holds what either set holds. -/
theorem contains_union (s t : CharSet) (c : Char) :
    (s.union t).contains c = (s.contains c || t.contains c) :=
  contains_insertAll s t.ranges c

/-! ## Neighbours -/

/-- The code point of the next character. -/
def succ (n : Nat) : Nat := if n = 0xD7FF then 0xE000 else n + 1

/-- The code point of the character before. -/
def pred (n : Nat) : Nat := if n = 0xE000 then 0xD7FF else n - 1

/-- The character behind `d` comes no later than another one exactly if `d` comes before that. -/
theorem succ_le_iff {d n : Nat} (hn : n < 0xD800 ∨ 0xE000 ≤ n) : succ d ≤ n ↔ d < n := by
  unfold succ
  split <;> omega

/-- A character comes no later than the one before `a` exactly if it comes before `a`. -/
theorem le_pred_iff {a n : Nat} (ha : a ≠ 0) (hn : n < 0xD800 ∨ 0xE000 ≤ n) :
    n ≤ pred a ↔ n < a := by
  unfold pred
  split <;> omega

/-- The range from `lo` to `hi`, if it is not empty. -/
def span (lo hi : Nat) : List (Nat × Nat) := if lo ≤ hi then [(lo, hi)] else []

/-- A range that may be empty holds what is between its ends. -/
@[simp] theorem holds_span (lo hi n : Nat) :
    holds (span lo hi) n = (decide (lo ≤ n) && decide (n ≤ hi)) := by
  unfold span
  split <;> simp
  omega

/-- Ranges that ascend behind a range ascend from its start. -/
theorem ascendsFrom_span_append {m lo hi k : Nat} {rs : List (Nat × Nat)} (hm : m ≤ lo)
    (hk : m ≤ k) (hr : ascendsFrom k rs = true) (h : lo ≤ hi → hi < k) :
    ascendsFrom m (span lo hi ++ rs) = true := by
  unfold span
  split
  · exact ascendsFrom_cons.mpr ⟨hm, ‹_›, ascendsFrom_of_le hr (h ‹_›)⟩
  · exact ascendsFrom_of_le hr hk

/-- A character is no surrogate and is not beyond the largest code point. -/
theorem toNat_scalar (c : Char) :
    c.toNat < 0xD800 ∨ (0xE000 ≤ c.toNat ∧ c.toNat ≤ maxCode) := by
  have h := c.valid
  simp only [UInt32.isValidChar, Nat.isValidChar] at h
  change c.val.toNat < 0xD800 ∨ (0xE000 ≤ c.val.toNat ∧ c.val.toNat ≤ 0x10FFFF)
  omega

/-! ## Complements -/

/-- What lies between a range that ends at `b` and one that begins at `a`. -/
def between (b a : Nat) : List (Nat × Nat) :=
  if b = 0xD7FF ∧ a = 0xE000 then [(b, a)] else span (succ b) (pred a)

/-- What lies behind `b` and outside the ranges behind it. -/
def gaps (b : Nat) : List (Nat × Nat) → List (Nat × Nat)
  | [] => span (succ b) maxCode
  | (a, b') :: rs => between b a ++ gaps b' rs

/-- What lies outside ascending ranges. -/
def complRanges : List (Nat × Nat) → List (Nat × Nat)
  | [] => [(0, maxCode)]
  | (a, b) :: rs => (if a = 0 then [] else span 0 (pred a)) ++ gaps b rs

/-- What lies between ascending ranges ascends. -/
theorem ascendsFrom_gaps {b : Nat} {rs : List (Nat × Nat)} (h : ascendsFrom (b + 1) rs = true) :
    ascendsFrom (if b = 0xD7FF then b else b + 1) (gaps b rs) = true := by
  induction rs generalizing b with
  | nil =>
    rw [gaps, ← List.append_nil (span _ _)]
    refine ascendsFrom_span_append (k := max (maxCode + 1) (b + 1)) ?_ ?_ rfl (by omega)
    · unfold succ; split <;> omega
    · split <;> omega
  | cons r rs ih =>
    obtain ⟨a, b'⟩ := r
    obtain ⟨hba, hab, hrs⟩ := ascendsFrom_cons.mp h
    have hg := ih hrs
    rw [gaps, between]
    by_cases hs : b = 0xD7FF ∧ a = 0xE000
    · rw [if_pos hs, if_pos hs.1]
      refine ascendsFrom_cons.mpr ⟨Nat.le_refl _, by omega, ascendsFrom_of_le hg ?_⟩
      split <;> omega
    · rw [if_neg hs]
      refine ascendsFrom_span_append ?_ ?_ hg ?_
      · unfold succ; split <;> omega
      · split <;> split <;> omega
      · unfold succ pred; split <;> split <;> split <;> omega

/-- What lies outside ascending ranges ascends. -/
theorem ascendsFrom_complRanges {rs : List (Nat × Nat)} (h : ascendsFrom 0 rs = true) :
    ascendsFrom 0 (complRanges rs) = true := by
  cases rs with
  | nil => rfl
  | cons r rs =>
    obtain ⟨a, b⟩ := r
    obtain ⟨_, hab, hrs⟩ := ascendsFrom_cons.mp h
    have hg := ascendsFrom_gaps hrs
    rw [complRanges]
    split
    · exact ascendsFrom_of_le hg (Nat.zero_le _)
    · refine ascendsFrom_span_append (Nat.zero_le _) (Nat.zero_le _) hg ?_
      unfold pred
      split <;> split <;> omega

/-- The characters that are not in the set. -/
def compl (s : CharSet) : CharSet := ⟨complRanges s.ranges, ascendsFrom_complRanges s.ascending⟩

/-- What lies behind a place and outside ascending ranges holds the characters that they do not,
apart from the two next to the surrogates. -/
theorem holds_gaps {b n : Nat} {rs : List (Nat × Nat)} (h : ascendsFrom (b + 1) rs = true)
    (hn : n < 0xD7FF ∨ (0xE000 < n ∧ n ≤ maxCode)) :
    holds (gaps b rs) n = (decide (b < n) && !holds rs n) := by
  induction rs generalizing b with
  | nil =>
    have : n ≤ maxCode := by unfold maxCode at hn ⊢; omega
    simp [gaps, succ_le_iff (d := b) (n := n) (by omega), this]
  | cons r rs ih =>
    obtain ⟨a, b'⟩ := r
    obtain ⟨hba, hab, hrs⟩ := ascendsFrom_cons.mp h
    have above : holds rs n = true → b' < n := fun h' => le_of_holds hrs h'
    rw [gaps, holds_append, ih hrs, holds_cons, between, Bool.eq_iff_iff]
    split
    · cases hr : holds rs n <;> simp [hr] at above ⊢ <;> omega
    · rw [holds_span]
      simp only [succ_le_iff (d := b) (n := n) (by omega),
        le_pred_iff (a := a) (n := n) (by omega) (by omega)]
      cases hr : holds rs n <;> simp [hr] at above ⊢ <;> omega

/-- A complement holds what the set does not, apart from the two characters that stand before and
behind the surrogates. -/
theorem contains_compl (s : CharSet) {c : Char} (h₁ : c.toNat ≠ 0xD7FF) (h₂ : c.toNat ≠ 0xE000) :
    s.compl.contains c = !s.contains c := by
  have hc := toNat_scalar c
  have hn : c.toNat < 0xD7FF ∨ (0xE000 < c.toNat ∧ c.toNat ≤ maxCode) := by omega
  obtain ⟨rs, hs⟩ := s
  cases rs with
  | nil => simp [contains, compl, complRanges, maxCode] at hn ⊢; omega
  | cons r rs =>
    obtain ⟨a, b⟩ := r
    obtain ⟨_, hab, hrs⟩ := ascendsFrom_cons.mp hs
    simp only [contains, compl, complRanges, holds_append, holds_gaps hrs hn, holds_cons]
    rw [Bool.eq_iff_iff]
    split
    · cases holds rs c.toNat with
      | true => simp
      | false => simp; omega
    · rw [holds_span]
      simp only [le_pred_iff (a := a) (n := c.toNat) ‹_› (by omega)]
      cases hr : holds rs c.toNat with
      | true =>
        have hbehind : b < c.toNat := le_of_holds hrs hr
        simp
        omega
      | false => simp

/-! ## Intersections and differences -/

/-- The parts that two lists of ascending ranges share. -/
def interRanges : List (Nat × Nat) → List (Nat × Nat) → List (Nat × Nat)
  | [], _ => []
  | _, [] => []
  | (a, b) :: rs, (c, d) :: ss =>
    if b < d then span (max a c) b ++ interRanges rs ((c, d) :: ss)
    else span (max a c) d ++ interRanges ((a, b) :: rs) ss
termination_by rs ss => rs.length + ss.length

/-- What begins at `a` and lies before `c`. -/
def head (a c : Nat) : List (Nat × Nat) := if a < c then span a (pred c) else []

/-- What is cut off a range in front of ascending ranges ascends with them. -/
theorem ascendsFrom_head_append {m a c k : Nat} {rs : List (Nat × Nat)} (hm : m ≤ a)
    (hk : max (a + 1) c ≤ k) (hr : ascendsFrom k rs = true) :
    ascendsFrom m (head a c ++ rs) = true := by
  unfold head
  split
  · exact ascendsFrom_span_append hm (by omega) hr (by unfold pred; split <;> omega)
  · exact ascendsFrom_of_le hr (by omega)

/-- What begins at a place and lies before another holds the characters between them. -/
theorem holds_head {a c n : Nat} (hn : n < 0xD800 ∨ 0xE000 ≤ n) :
    holds (head a c) n = (decide (a ≤ n) && decide (n < c)) := by
  unfold head
  split
  · simp [holds_span, le_pred_iff (a := c) (n := n) (by omega) hn]
  · simp
    omega

/-- What is left of ascending ranges without those of another list. -/
def diffRanges : List (Nat × Nat) → List (Nat × Nat) → List (Nat × Nat)
  | [], _ => []
  | rs, [] => rs
  | (a, b) :: rs, (c, d) :: ss =>
    if d < a then diffRanges ((a, b) :: rs) ss
    else if b < c then (a, b) :: diffRanges rs ((c, d) :: ss)
    else if d < b ∧ succ d ≤ b then head a c ++ diffRanges ((succ d, b) :: rs) ss
    else head a c ++ diffRanges rs ((c, d) :: ss)
termination_by rs ss => rs.length + ss.length

/-- What two lists of ascending ranges share ascends. -/
theorem ascendsFrom_interRanges {m k : Nat} {rs ss : List (Nat × Nat)}
    (hr : ascendsFrom m rs = true) (hs : ascendsFrom k ss = true) :
    ascendsFrom (max m k) (interRanges rs ss) = true := by
  fun_induction interRanges rs ss generalizing m k with
  | case1 => rfl
  | case2 => rfl
  | case3 a b rs c d ss hbd ih =>
    obtain ⟨hma, hab, hrs⟩ := ascendsFrom_cons.mp hr
    obtain ⟨hkc, hcd, hss⟩ := ascendsFrom_cons.mp hs
    exact ascendsFrom_span_append (by omega) (by omega)
      (ih hrs (ascendsFrom_cons.mpr ⟨hkc, hcd, hss⟩)) (by omega)
  | case4 a b rs c d ss hbd ih =>
    obtain ⟨hma, hab, hrs⟩ := ascendsFrom_cons.mp hr
    obtain ⟨hkc, hcd, hss⟩ := ascendsFrom_cons.mp hs
    exact ascendsFrom_span_append (by omega) (by omega)
      (ih (ascendsFrom_cons.mpr ⟨hma, hab, hrs⟩) hss) (by omega)

/-- What is left of ascending ranges ascends. -/
theorem ascendsFrom_diffRanges {m k : Nat} {rs ss : List (Nat × Nat)}
    (hr : ascendsFrom m rs = true) (hs : ascendsFrom k ss = true) :
    ascendsFrom m (diffRanges rs ss) = true := by
  fun_induction diffRanges rs ss generalizing m k with
  | case1 => rfl
  | case2 => exact hr
  | case3 a b rs c d ss hda ih => exact ih hr (ascendsFrom_cons.mp hs).2.2
  | case4 a b rs c d ss hda hbc ih =>
    obtain ⟨hma, hab, hrs⟩ := ascendsFrom_cons.mp hr
    exact ascendsFrom_cons.mpr ⟨hma, hab, ih hrs hs⟩
  | case5 a b rs c d ss hda hbc hdb ih =>
    obtain ⟨hma, hab, hrs⟩ := ascendsFrom_cons.mp hr
    obtain ⟨hkc, hcd, hss⟩ := ascendsFrom_cons.mp hs
    have hd : d < succ d := by unfold succ; split <;> omega
    exact ascendsFrom_head_append hma (by omega)
      (ih (m := succ d) (ascendsFrom_cons.mpr ⟨Nat.le_refl _, hdb.2, hrs⟩) hss)
  | case6 a b rs c d ss hda hbc hdb ih =>
    obtain ⟨hma, hab, hrs⟩ := ascendsFrom_cons.mp hr
    exact ascendsFrom_head_append hma (by omega) (ih hrs hs)

/-- The characters of both sets. -/
def inter (s t : CharSet) : CharSet :=
  ⟨interRanges s.ranges t.ranges,
    ascendsFrom_of_le (ascendsFrom_interRanges s.ascending t.ascending) (Nat.zero_le _)⟩

/-- The characters of `s` that are not in `t`. -/
def diff (s t : CharSet) : CharSet :=
  ⟨diffRanges s.ranges t.ranges, ascendsFrom_diffRanges s.ascending t.ascending⟩

/-- The characters of exactly one of the two sets. -/
def symmDiff (s t : CharSet) : CharSet := (s.union t).diff (s.inter t)

/-- What two lists of ascending ranges share holds what both hold. -/
theorem holds_interRanges {m k n : Nat} {rs ss : List (Nat × Nat)}
    (hr : ascendsFrom m rs = true) (hs : ascendsFrom k ss = true) :
    holds (interRanges rs ss) n = (holds rs n && holds ss n) := by
  fun_induction interRanges rs ss generalizing m k with
  | case1 => simp
  | case2 => simp
  | case3 a b rs c d ss hbd ih =>
    obtain ⟨hma, hab, hrs⟩ := ascendsFrom_cons.mp hr
    obtain ⟨hkc, hcd, hss⟩ := ascendsFrom_cons.mp hs
    have below : holds ss n = true → d < n := fun h' => le_of_holds hss h'
    rw [holds_append, ih hrs hs, holds_span, Bool.eq_iff_iff]
    cases h₁ : holds rs n <;> cases h₂ : holds ss n <;> simp [h₁, h₂] at below ⊢ <;> omega
  | case4 a b rs c d ss hbd ih =>
    obtain ⟨hma, hab, hrs⟩ := ascendsFrom_cons.mp hr
    obtain ⟨hkc, hcd, hss⟩ := ascendsFrom_cons.mp hs
    have below : holds rs n = true → b < n := fun h' => le_of_holds hrs h'
    rw [holds_append, ih hr hss, holds_span, Bool.eq_iff_iff]
    cases h₁ : holds rs n <;> cases h₂ : holds ss n <;> simp [h₁, h₂] at below ⊢ <;> omega

/-- What is left of ascending ranges holds what they hold and the others do not. -/
theorem holds_diffRanges {m k n : Nat} {rs ss : List (Nat × Nat)} (hr : ascendsFrom m rs = true)
    (hs : ascendsFrom k ss = true) (hn : n < 0xD800 ∨ 0xE000 ≤ n) :
    holds (diffRanges rs ss) n = (holds rs n && !holds ss n) := by
  fun_induction diffRanges rs ss generalizing m k with
  | case1 => simp
  | case2 => simp
  | case3 a b rs c d ss hda ih =>
    obtain ⟨hma, hab, hrs⟩ := ascendsFrom_cons.mp hr
    have below : holds rs n = true → b < n := fun h' => le_of_holds hrs h'
    rw [ih hr (ascendsFrom_cons.mp hs).2.2, holds_cons, holds_cons, Bool.eq_iff_iff]
    cases h₁ : holds rs n <;> simp [h₁] at below ⊢ <;> omega
  | case4 a b rs c d ss hda hbc ih =>
    obtain ⟨hma, hab, hrs⟩ := ascendsFrom_cons.mp hr
    obtain ⟨hkc, hcd, hss⟩ := ascendsFrom_cons.mp hs
    have below : holds ss n = true → d < n := fun h' => le_of_holds hss h'
    rw [holds_cons, ih hrs hs, holds_cons, holds_cons, Bool.eq_iff_iff]
    cases holds rs n <;> cases h₂ : holds ss n <;> simp [h₂] at below ⊢ <;> omega
  | case5 a b rs c d ss hda hbc hdb ih =>
    obtain ⟨hma, hab, hrs⟩ := ascendsFrom_cons.mp hr
    obtain ⟨hkc, hcd, hss⟩ := ascendsFrom_cons.mp hs
    have below₁ : holds rs n = true → b < n := fun h' => le_of_holds hrs h'
    have below₂ : holds ss n = true → d < n := fun h' => le_of_holds hss h'
    rw [holds_append, ih (m := succ d) (ascendsFrom_cons.mpr ⟨Nat.le_refl _, hdb.2, hrs⟩) hss,
      holds_head hn, holds_cons, holds_cons, holds_cons, Bool.eq_iff_iff]
    simp only [succ_le_iff hn]
    cases h₁ : holds rs n <;> cases h₂ : holds ss n <;> simp [h₁, h₂] at below₁ below₂ ⊢ <;> omega
  | case6 a b rs c d ss hda hbc hdb ih =>
    obtain ⟨hma, hab, hrs⟩ := ascendsFrom_cons.mp hr
    obtain ⟨hkc, hcd, hss⟩ := ascendsFrom_cons.mp hs
    have below₁ : holds rs n = true → b < n := fun h' => le_of_holds hrs h'
    have below₂ : holds ss n = true → d < n := fun h' => le_of_holds hss h'
    rw [holds_append, ih hrs hs, holds_head hn, holds_cons, holds_cons, Bool.eq_iff_iff]
    unfold succ at hdb
    cases h₁ : holds rs n <;> cases h₂ : holds ss n <;> simp [h₁, h₂] at below₁ below₂ ⊢ <;>
      split at hdb <;> omega

/-- An intersection holds what both sets hold. -/
theorem contains_inter (s t : CharSet) (c : Char) :
    (s.inter t).contains c = (s.contains c && t.contains c) :=
  holds_interRanges s.ascending t.ascending

/-- A difference holds what the first set holds and the second does not. -/
theorem contains_diff (s t : CharSet) (c : Char) :
    (s.diff t).contains c = (s.contains c && !t.contains c) :=
  holds_diffRanges s.ascending t.ascending (by have := toNat_scalar c; omega)

/-- A symmetric difference holds what exactly one of the sets holds. -/
theorem contains_symmDiff (s t : CharSet) (c : Char) :
    (s.symmDiff t).contains c = (s.contains c ^^ t.contains c) := by
  rw [symmDiff, contains_diff, contains_union, contains_inter]
  cases s.contains c <;> cases t.contains c <;> rfl

end CharSet

end ModalLexer
