import ModalLexer.Proofs.Regex.Parallel

/-!
# Expressions that leave no choice

An expression without alternatives whose repetitions have a fixed number of rounds can be matched in
one way only at each place of a text. `Expr.pass` says where it leads from there, and
`Program.find_fixed` that a machine that enters its code goes on at that place behind its code, or
finds nothing.
-/

namespace ModalLexer.Regex

/-! ## Places -/

/-- A place in a text: the character before it, the number of characters before it, and the text
behind it. -/
structure Place where
  before : Option Char
  index : Nat
  rest : Text

namespace Place

/-- The beginning of a text. -/
def start (t : Text) : Place := ⟨none, 0, t⟩

/-- The place behind the next character, if there is one in the set. -/
def take? (s : CharSet) (l : Place) : Option Place :=
  match l.rest with
  | [] => none
  | c :: cs => if s.contains c then some ⟨some c, l.index + 1, cs⟩ else none

/-- The place itself, where an assertion holds. -/
def check? (a : Assertion) (l : Place) : Option Place :=
  if a.holds l.before l.rest.head? then some l else none

/-- The place behind a text, if it stands here. -/
def takeAll? : Text → Place → Option Place
  | [], l => some l
  | c :: cs, l => (l.take? (.singleton c)).bind (takeAll? cs)

/-- A text is passed where it stands. -/
theorem map_index_takeAll? (w : Text) (l : Place) :
    (takeAll? w l).map index = if w.isPrefixOf l.rest then some (l.index + w.length) else none := by
  induction w generalizing l with
  | nil => simp [takeAll?]
  | cons c w ih =>
    obtain ⟨before, index, rest⟩ := l
    cases rest with
    | nil => simp [takeAll?, take?]
    | cons d t =>
      by_cases hcd : c = d
      · subst hcd
        simp [takeAll?, take?, CharSet.contains_singleton, ih, Nat.add_assoc, Nat.add_comm 1]
      · simp [takeAll?, take?, CharSet.contains_singleton, hcd]

end Place

/-! ## Fixed expressions -/

namespace Expr

/-- Whether an expression leaves nothing to choose. -/
def fixed : Expr → Bool
  | empty => true
  | literal _ _ => true
  | set _ _ => true
  | assertion _ => true
  | cat e f => e.fixed && f.fixed
  | alt _ _ => false
  | rounds b _ e => b.max == some b.min && e.fixed
  | group _ e => e.fixed

/-- The place behind as many rounds as asked for. -/
def passTimes (pass : Place → Option Place) : Nat → Place → Option Place
  | 0, l => some l
  | n + 1, l => (pass l).bind (passTimes pass n)

/-- The place behind a fixed expression, if it matches here. -/
def pass : Expr → Place → Option Place
  | empty, l => some l
  | literal c cs, l => l.takeAll? (c :: cs)
  | set _ s, l => l.take? s
  | assertion a, l => l.check? a
  | cat e f, l => (e.pass l).bind f.pass
  | alt _ _, _ => none
  | rounds b _ e, l => passTimes e.pass b.min l
  | group _ e, l => e.pass l

end Expr

namespace Program

variable {p : Program} {start next k : Nat} {is js : List Instr} {i : Instr} {l : Place}

/-! ## Code in a program -/

/-- The program holds the instructions from an address on. -/
def Contains (p : Program) (start : Nat) (is : List Instr) : Prop :=
  ∀ k i, is[k]? = some i → p.code[start + k]? = some i

/-- Code stands at a place if its beginning does, and the rest of it behind that. -/
theorem contains_append :
    p.Contains start (is ++ js) ↔ p.Contains start is ∧ p.Contains (start + is.length) js := by
  constructor
  · refine fun h => ⟨fun k i hi => h k i ?_, fun k i hi => ?_⟩
    · rw [List.getElem?_append_left (List.getElem?_eq_some_iff.1 hi).1, hi]
    · rw [Nat.add_assoc]
      exact h _ i (by rw [List.getElem?_append_right (Nat.le_add_right _ _),
        Nat.add_sub_cancel_left, hi])
  · rintro ⟨his, hjs⟩ k i hi
    by_cases hk : k < is.length
    · exact his k i (by rwa [List.getElem?_append_left hk] at hi)
    · rw [List.getElem?_append_right (Nat.not_lt.1 hk)] at hi
      have := hjs _ i hi
      rwa [Nat.add_assoc, Nat.add_sub_cancel' (Nat.not_lt.1 hk)] at this

/-- Code stands at a place if its first instruction does, and the rest of it behind that. -/
theorem contains_cons :
    p.Contains start (i :: is) ↔ p.code[start]? = some i ∧ p.Contains (start + 1) is := by
  rw [← List.singleton_append, contains_append]
  refine and_congr_left' ⟨fun h => h 0 i rfl, fun h k j hj => ?_⟩
  obtain ⟨rfl, rfl⟩ : k = 0 ∧ i = j := by
    cases k <;> simp_all
  exact h

/-- Nothing leads from an address on to one in front of it, or out of the program. -/
def ClosedFrom (p : Program) (k : Nat) : Prop :=
  ∀ x i, k ≤ x → p.code[x]? = some i → ∀ y ∈ i.targets, k ≤ y ∧ y < p.code.size

/-- So it is if one more instruction leads to no other place. -/
theorem ClosedFrom.cons (h : p.ClosedFrom (k + 1)) (hi : p.code[k]? = some i)
    (htargets : ∀ y ∈ i.targets, k ≤ y ∧ y < p.code.size) : p.ClosedFrom k := by
  intro x j hx hj y hy
  by_cases hxk : x = k
  · subst hxk
    obtain rfl := Option.some.inj (hi.symm.trans hj)
    exact htargets y hy
  · obtain ⟨hle, hsize⟩ := h x j (by omega) hj y hy
    omega

/-- The code of an expression leads to what is behind it. -/
theorem ClosedFrom.of_contains {e : Expr} (h : p.ClosedFrom (start + e.size))
    (hend : start + e.size < p.code.size)
    (hcode : p.Contains start (e.code start (start + e.size))) : p.ClosedFrom start := by
  intro x i hx hi y hy
  by_cases hlt : x < start + e.size
  · obtain ⟨k, rfl⟩ := Nat.exists_eq_add_of_le hx
    have hk : k < (e.code start (start + e.size)).length := by
      rw [e.length_code]
      omega
    have hget := hcode k _ (List.getElem?_eq_getElem hk)
    obtain rfl := Option.some.inj (hget.symm.trans hi)
    rcases e.targets_code _ _ _ (List.getElem_mem hk) y hy with hin | rfl
    · omega
    · omega
  · obtain ⟨hle, hsize⟩ := h x i (Nat.not_lt.1 hlt) hi y hy
    omega

/-! ## Searches from a place -/

variable {m : Nat} {s : CharSet} {a : Assertion} {stack : List Nat}

/-- What the machine finds from a place on, where nothing has been found yet. -/
def find (p : Program) (ready : List Nat) (l : Place) : Option Nat :=
  p.scan ready l.before none l.index l.rest

/-- A match is found from the first instruction on, at the start of the text. -/
theorem matchEnd_eq_find (p : Program) (t : Text) : p.matchEnd t = p.find [0] (.start t) := rfl

/-- What is found depends on what the machine finds out between the next two characters. -/
theorem find_congr (hp : p.anchored = true) {ready ready' : List Nat}
    (h : (p.frontier l.before l.rest.head? ready).takes =
        (p.frontier l.before l.rest.head? ready').takes ∧
      (p.frontier l.before l.rest.head? ready).accepts =
        (p.frontier l.before l.rest.head? ready').accepts) :
    p.find ready l = p.find ready' l := by
  obtain ⟨before, index, rest⟩ := l
  obtain ⟨htakes, haccepts⟩ := h
  cases rest with
  | nil =>
    rw [find, find, scan, scan]
    simp only [List.head?_nil] at haccepts
    rw [haccepts]
  | cons c t =>
    simp only [List.head?_cons] at htakes haccepts
    rw [find, find, scan_cons' hp, scan_cons' hp, Frontier.step_eq, Frontier.step_eq, htakes,
      haccepts]

/-- Where one character of a set is taken, the machine goes on behind it. -/
theorem find_take (hp : p.anchored = true) (h : p.code[k]? = some (.take s next)) (l : Place) :
    p.find [k] l = (l.take? s).bind (p.find [next]) := by
  have hfrontier (before after) : p.frontier before after [k] =
      { p.blank.mark k with takes := [(s, next)] } :=
    (Walk.take (saw_blank h) h .done).frontier_eq
  obtain ⟨before, index, rest⟩ := l
  cases rest with
  | nil =>
    rw [find, scan, hfrontier]
    rfl
  | cons c t =>
    rw [find, scan_cons' hp, hfrontier, Frontier.step_eq]
    by_cases hc : s.contains c
    · simp [hc, Place.take?, find, Frontier.mark, blank]
    · simp [hc, Place.take?, Frontier.mark, blank, scan_nowhere hp]

/-- Where the machine accepts, it has found the place. -/
theorem find_accept (hp : p.anchored = true) (h : p.code[k]? = some .accept) (l : Place) :
    p.find [k] l = some l.index := by
  have hfrontier (before after) : p.frontier before after [k] =
      { p.blank.mark k with accepts := true } := (Walk.accept (saw_blank h) h).frontier_eq
  obtain ⟨before, index, rest⟩ := l
  cases rest with
  | nil =>
    rw [find, scan, hfrontier]
    rfl
  | cons c t =>
    rw [find, scan_cons' hp, hfrontier]
    exact scan_nowhere hp t

/-- A part of a program that nothing leads out of stands in the program itself. -/
theorem ClosedFrom.embeds (h : p.ClosedFrom m) :
    Embeds p p (fun x => m ≤ x ∧ x < p.code.size) id where
  code x hx := by
    have hrelocate (i : Instr) : i.relocate id = i := by cases i <;> rfl
    exact ⟨p.code[x], Array.getElem?_eq_getElem hx.2,
      (Array.getElem?_eq_getElem hx.2).trans (by rw [hrelocate]),
      fun y hy => h x _ hx.1 (Array.getElem?_eq_getElem hx.2) y hy⟩
  injective _ _ _ _ h := h

/-- So what the machine finds out there does not depend on an address in front of it. -/
theorem ClosedFrom.frontier_eq (h : p.ClosedFrom m) (hk : k < m)
    (hstack : ∀ x ∈ stack, m ≤ x ∧ x < p.code.size) {before after : Option Char}
    {ready : List Nat}
    (hwalk : ∀ f, p.Walk before after stack (p.blank.mark k) f →
      p.Walk before after ready p.blank f) :
    (p.frontier before after ready).takes = (p.frontier before after stack).takes ∧
      (p.frontier before after ready).accepts = (p.frontier before after stack).accepts := by
  have hsaw : ∀ x, m ≤ x ∧ x < p.code.size → (p.blank.mark k).saw (id x) = p.blank.saw x := by
    intro x hx
    rw [Frontier.saw_mark, beq_eq_false_iff_ne.2 (by simp; omega), Bool.false_or]
    rfl
  obtain ⟨g, hcopies, hgo⟩ :=
    (walk_frontier p before after stack).embed h.embeds hstack hsaw rfl rfl
  have hstack' := hgo [] g continues_nil
  rw [List.map_id, List.append_nil] at hstack'
  rw [(hwalk g hstack').frontier_eq]
  obtain ⟨ts, hts, hts', -⟩ := hcopies.takes
  refine ⟨?_, hcopies.accepts⟩
  rw [hts, hts']
  simp [blank, Frontier.mark]

/-- The machine follows a jump forward. -/
theorem find_jump (hp : p.anchored = true) (h : p.code[k]? = some (.jump next))
    (hclosed : p.ClosedFrom m) (hk : k < m) (hm : m ≤ next) (hnext : next < p.code.size)
    (l : Place) : p.find [k] l = p.find [next] l :=
  find_congr hp <|
    hclosed.frontier_eq hk (by simp [hm, hnext]) fun _ hf => .jump (saw_blank h) h hf

/-- It passes a check where the assertion holds. -/
theorem find_check (hp : p.anchored = true) (h : p.code[k]? = some (.check a next))
    (hclosed : p.ClosedFrom m) (hk : k < m) (hm : m ≤ next) (hnext : next < p.code.size)
    (l : Place) : p.find [k] l = (l.check? a).bind (p.find [next]) := by
  unfold Place.check?
  split
  · next hholds =>
    exact find_congr hp <| hclosed.frontier_eq hk (by simp [hm, hnext]) fun _ hf =>
      .check (saw_blank h) h (by rwa [if_pos hholds])
  · next hholds =>
    have hfrontier : p.frontier l.before l.rest.head? [k] = p.blank.mark k :=
      (Walk.check (saw_blank h) h (by rw [if_neg hholds]; exact .done)).frontier_eq
    have hnowhere : p.frontier l.before l.rest.head? [] = p.blank := Walk.done.frontier_eq
    have hfind : p.find [k] l = p.find [] l :=
      find_congr hp (by rw [hfrontier, hnowhere]; exact ⟨rfl, rfl⟩)
    rw [Option.bind_none, hfind]
    exact scan_nowhere hp l.rest

/-- And it follows a fork in both directions. -/
theorem find_fork {first second : Nat} (hp : p.anchored = true)
    (h : p.code[k]? = some (.fork first second)) (hclosed : p.ClosedFrom m) (hk : k < m)
    (hfirst : m ≤ first ∧ first < p.code.size) (hsecond : m ≤ second ∧ second < p.code.size)
    (l : Place) : p.find [k] l = p.find [first, second] l :=
  find_congr hp <| hclosed.frontier_eq hk
    (List.forall_mem_cons.2 ⟨hfirst, List.forall_mem_singleton.2 hsecond⟩)
    fun _ hf => .fork (saw_blank h) h hf

/-! ## Code without a choice -/

variable {e : Expr} {n : Nat}

/-- Rounds laid out one behind the other lead to what is behind them. -/
theorem ClosedFrom.of_repeated (h : p.ClosedFrom (start + n * e.size))
    (hend : start + n * e.size < p.code.size)
    (hcode : p.Contains start (Expr.repeated e.code e.size n start (start + n * e.size))) :
    p.ClosedFrom start := by
  induction n generalizing start with
  | zero => simpa using h
  | succ n ih =>
    have hsize : start + (n + 1) * e.size = start + e.size + n * e.size := by
      rw [Nat.succ_mul]
      omega
    cases n with
    | zero =>
      rw [Nat.zero_add, Nat.one_mul] at h hend hcode
      exact h.of_contains hend hcode
    | succ n =>
      rw [hsize] at h hend hcode
      rw [Expr.repeated, contains_append, Expr.length_code] at hcode
      exact (ih h hend hcode.2).of_contains (by omega) hcode.1

/-- The machine passes such rounds one by one. -/
theorem find_repeated {pass : Place → Option Place}
    (h : ∀ start, p.Contains start (e.code start (start + e.size)) →
      p.ClosedFrom (start + e.size) → start + e.size < p.code.size →
      ∀ l, p.find [start] l = (pass l).bind (p.find [start + e.size]))
    (hcode : p.Contains start (Expr.repeated e.code e.size n start (start + n * e.size)))
    (hclosed : p.ClosedFrom (start + n * e.size)) (hend : start + n * e.size < p.code.size)
    (l : Place) :
    p.find [start] l = (Expr.passTimes pass n l).bind (p.find [start + n * e.size]) := by
  induction n generalizing start l with
  | zero => simp [Expr.passTimes]
  | succ n ih =>
    have hsize : start + (n + 1) * e.size = start + e.size + n * e.size := by
      rw [Nat.succ_mul]
      omega
    rw [Expr.passTimes, Option.bind_assoc]
    cases n with
    | zero =>
      rw [Nat.zero_add, Nat.one_mul] at hcode hclosed hend ⊢
      exact h start hcode hclosed hend l
    | succ n =>
      rw [hsize] at hcode hclosed hend ⊢
      rw [Expr.repeated, contains_append, Expr.length_code] at hcode
      rw [h start hcode.1 (hclosed.of_repeated hend hcode.2) (by omega)]
      congr 1
      funext l
      exact ih hcode.2 hclosed hend l

/-- The machine passes a literal character by character. -/
theorem find_literal (hp : p.anchored = true) (c : Char) (cs : Text)
    (hcode : p.Contains start (Expr.literalCode c cs start next)) (l : Place) :
    p.find [start] l = (l.takeAll? (c :: cs)).bind (p.find [next]) := by
  induction cs generalizing c start l with
  | nil =>
    have htake : p.code[start]? = some (.take (.singleton c) next) := hcode 0 _ rfl
    rw [find_take hp htake, Place.takeAll?, Option.bind_assoc]
    rfl
  | cons d ds ih =>
    rw [Expr.literalCode, contains_cons] at hcode
    rw [find_take hp hcode.1, Place.takeAll?, Option.bind_assoc]
    congr 1
    funext l
    exact ih d hcode.2 l

/-- The machine passes a fixed expression, and goes on behind it. -/
theorem find_fixed (hp : p.anchored = true) (he : e.fixed = true)
    (hcode : p.Contains start (e.code start (start + e.size)))
    (hclosed : p.ClosedFrom (start + e.size)) (hend : start + e.size < p.code.size) (l : Place) :
    p.find [start] l = (e.pass l).bind (p.find [start + e.size]) := by
  induction e generalizing start l with
  | empty =>
    exact find_jump hp (hcode 0 _ rfl) hclosed (Nat.lt_succ_self _) (Nat.le_refl _) hend l
  | literal c cs => exact find_literal hp c cs hcode l
  | set a s => exact find_take hp (hcode 0 _ rfl) l
  | assertion a =>
    exact find_check hp (hcode 0 _ rfl) hclosed (Nat.lt_succ_self _) (Nat.le_refl _) hend l
  | cat e f ihe ihf =>
    rw [Expr.fixed, Bool.and_eq_true] at he
    have hsize : start + (Expr.cat e f).size = start + e.size + f.size := by
      rw [Expr.size, Nat.add_assoc]
    rw [hsize] at hcode hclosed hend ⊢
    rw [Expr.code, contains_append, Expr.length_code] at hcode
    have hmid : p.ClosedFrom (start + e.size) := hclosed.of_contains hend hcode.2
    rw [ihe he.1 hcode.1 hmid (by omega), Expr.pass, Option.bind_assoc]
    congr 1
    funext l
    exact ihf he.2 hcode.2 hclosed hend l
  | alt e f => exact absurd he (by simp [Expr.fixed])
  | rounds b greedy e ih =>
    rw [Expr.fixed, Bool.and_eq_true, beq_iff_eq] at he
    obtain ⟨n, m⟩ := b
    obtain ⟨rfl, he⟩ : m = some n ∧ e.fixed = true := he
    have hsize : start + (Expr.rounds ⟨n, some n⟩ greedy e).size = start + n * e.size + 1 := by
      simp [Expr.size, Nat.add_assoc]
    rw [hsize] at hcode hclosed hend ⊢
    -- Behind the rounds there are none that may be left out, only the jump that leaves.
    rw [Expr.code, Nat.sub_self, Expr.optional, List.append_nil, contains_append,
      Expr.length_repeated e.length_code] at hcode
    have hjump : p.code[start + n * e.size]? = some (.jump (start + n * e.size + 1)) :=
      hcode.2 0 _ rfl
    have hmid : p.ClosedFrom (start + n * e.size) :=
      hclosed.cons hjump (by simp [Instr.targets, hend])
    rw [find_repeated (fun start hcode hclosed hend l => ih he hcode hclosed hend l) hcode.1 hmid
      (by omega), Expr.pass]
    congr 1
    funext l
    exact find_jump hp hjump hclosed (Nat.lt_succ_self _) (Nat.le_refl _) hend l
  | group i e ih => exact ih he hcode hclosed hend l

end Program

/-! ## Whole programs -/

namespace Expr

open Program

variable {e f : Expr} {l : Place}

/-- The program of an expression, as one that begins at a given place and nowhere else. -/
def machine (e : Expr) : Program := ⟨e.program.code, true⟩

/-- What the program of an expression finds at a place. -/
def search (e : Expr) (l : Place) : Option Nat := e.machine.find [0] l

/-- An anchored expression is searched for at the start of a text. -/
theorem matchEnd_eq_search (h : e.anchored = true) (t : Text) :
    e.program.matchEnd t = e.search (.start t) := by
  have hmachine : e.program = e.machine := by
    rw [program, h]
    rfl
  rw [matchEnd_eq_find, hmachine, search]

/-- The program of an expression has one instruction more than the expression, which accepts. -/
theorem size_machine (e : Expr) : e.machine.code.size = e.size + 1 := by
  simp [machine, program, length_code]

/-- The program of an expression is its code and an instruction that accepts. -/
theorem machine_contains (e : Expr) : e.machine.Contains 0 (e.code 0 e.size ++ [.accept]) := by
  intro k i hi
  rw [Nat.zero_add, machine, program, List.getElem?_toArray, hi]

/-- The program of an expression holds its code. -/
theorem machine_contains_code (e : Expr) : e.machine.Contains 0 (e.code 0 e.size) :=
  (contains_append.1 e.machine_contains).1

/-- Behind the code of an expression, its program accepts. -/
theorem machine_accept (e : Expr) : e.machine.code[e.size]? = some .accept := by
  have haccept := (contains_append.1 e.machine_contains).2 0 _ rfl
  rwa [length_code, Nat.zero_add] at haccept

/-- Nothing leads on from where the program accepts. -/
theorem machine_closedFrom (e : Expr) : e.machine.ClosedFrom e.size := by
  intro x i hx hi y hy
  have hlt : x < e.machine.code.size := (Array.getElem?_eq_some_iff.1 hi).1
  rw [size_machine] at hlt
  obtain rfl : x = e.size := by omega
  obtain rfl := Option.some.inj (e.machine_accept.symm.trans hi)
  simp [Instr.targets] at hy

/-- A fixed expression is found where it passes. -/
theorem search_fixed (he : e.fixed = true) (l : Place) :
    e.search l = (e.pass l).map Place.index := by
  have hend : 0 + e.size < e.machine.code.size := by
    rw [size_machine]
    omega
  have hcode : e.machine.Contains 0 (e.code 0 (0 + e.size)) := by
    rw [Nat.zero_add]
    exact e.machine_contains_code
  have hclosed : e.machine.ClosedFrom (0 + e.size) := by
    rw [Nat.zero_add]
    exact e.machine_closedFrom
  have hfind := find_fixed (p := e.machine) rfl he hcode hclosed hend l
  rw [Nat.zero_add] at hfind
  rw [search, hfind]
  cases e.pass l with
  | none => rfl
  | some l => exact find_accept rfl e.machine_accept l

end Expr

end ModalLexer.Regex
