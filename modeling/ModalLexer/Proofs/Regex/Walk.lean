import ModalLexer.Proofs.Regex.Code
import ModalLexer.Regex.Search

/-!
# Walks between two characters

Between two characters the machine walks from the addresses on its stack over all jumps, forks and
checks that hold. `Walk` is this walk as a relation, one rule for each thing that may stand on the
stack, and without the bound on the number of steps: `Program.walk_frontier` says that the bound is
never reached, and `Walk.unique` that there is one walk only.

`Embeds` says that a part of a program stands in another program under other addresses. A walk over
the part is then a walk there as well (`Walk.embed`), whatever the machine has seen elsewhere, and
it may be followed by more.
-/

namespace ModalLexer.Regex.Program

/-! ## What has been seen -/

namespace Frontier

variable {f : Frontier}

/-- Whether an address has been seen. One past the end of the code counts as seen. -/
def saw (f : Frontier) (pc : Nat) : Bool := f.seen.getD pc true

/-- Marks an address as seen. -/
def mark (f : Frontier) (pc : Nat) : Frontier := { f with seen := f.seen.setIfInBounds pc true }

/-- A frontier with an address marked has seen that address and those that it had seen. -/
theorem saw_mark (f : Frontier) (pc x : Nat) : (f.mark pc).saw x = (x == pc || f.saw x) := by
  unfold saw mark
  by_cases hx : x = pc
  · subst hx
    by_cases hlt : x < f.seen.size <;> simp [Array.getD, hlt]
  · rw [Array.getD_eq_getD_getElem?, Array.getD_eq_getD_getElem?,
      Array.getElem?_setIfInBounds_ne (Ne.symm hx)]
    simp [hx]

/-- An address that has not been seen is one of the code. -/
theorem lt_size_of_saw (h : f.saw x = false) : x < f.seen.size := by
  by_cases hlt : x < f.seen.size
  · exact hlt
  · simp [saw, Array.getD, hlt] at h

/-- The number of addresses that have not been seen. -/
def unseen (f : Frontier) : Nat := f.seen.count false

/-- Marking an address that has not been seen leaves one less. -/
theorem unseen_mark {pc : Nat} (h : f.saw pc = false) : (f.mark pc).unseen + 1 = f.unseen := by
  have hlt := lt_size_of_saw h
  have hat : f.seen[pc] = false := by simpa [saw, Array.getD, hlt] using h
  have hpos : 0 < f.seen.count false := Array.count_pos_iff.2 (hat ▸ f.seen.getElem_mem hlt)
  simp only [unseen, mark, Array.setIfInBounds, hlt, dite_true, Array.count_set, hat]
  simp
  omega

end Frontier

/-! ## Walks -/

variable {p q : Program} {before after : Option Char} {f f' f₁ f₂ g : Frontier}
  {stack : List Nat}

/-- The machine walks from the addresses on the stack, in order, and finds out `f'` where it knew
`f`. An instruction that accepts ends the walk. -/
inductive Walk (p : Program) (before after : Option Char) :
    List Nat → Frontier → Frontier → Prop where
  | done {f : Frontier} : Walk p before after [] f f
  | seen {pc : Nat} {stack : List Nat} {f f' : Frontier} (hpc : f.saw pc = true)
      (h : Walk p before after stack f f') : Walk p before after (pc :: stack) f f'
  | take {pc next : Nat} {s : CharSet} {stack : List Nat} {f f' : Frontier} (hpc : f.saw pc = false)
      (hcode : p.code[pc]? = some (.take s next))
      (h : Walk p before after stack { f.mark pc with takes := (s, next) :: f.takes } f') :
      Walk p before after (pc :: stack) f f'
  | check {pc next : Nat} {a : Assertion} {stack : List Nat} {f f' : Frontier}
      (hpc : f.saw pc = false) (hcode : p.code[pc]? = some (.check a next))
      (h : Walk p before after (if a.holds before after then next :: stack else stack)
        (f.mark pc) f') :
      Walk p before after (pc :: stack) f f'
  | jump {pc next : Nat} {stack : List Nat} {f f' : Frontier} (hpc : f.saw pc = false)
      (hcode : p.code[pc]? = some (.jump next))
      (h : Walk p before after (next :: stack) (f.mark pc) f') :
      Walk p before after (pc :: stack) f f'
  | fork {pc first second : Nat} {stack : List Nat} {f f' : Frontier} (hpc : f.saw pc = false)
      (hcode : p.code[pc]? = some (.fork first second))
      (h : Walk p before after (first :: second :: stack) (f.mark pc) f') :
      Walk p before after (pc :: stack) f f'
  | accept {pc : Nat} {stack : List Nat} {f : Frontier} (hpc : f.saw pc = false)
      (hcode : p.code[pc]? = some .accept) :
      Walk p before after (pc :: stack) f { f.mark pc with accepts := true }

/-- Every step leaves less to walk, so enough steps make the whole walk. -/
theorem walk_follow (fuel : Nat) (hsize : f.seen.size = p.code.size)
    (hfuel : stack.length + 2 * f.unseen < fuel) :
    p.Walk before after stack f (p.follow before after fuel stack f) := by
  induction fuel generalizing stack f with
  | zero => omega
  | succ fuel ih =>
    cases stack with
    | nil =>
      rw [follow]
      · exact .done
      · simp
    | cons pc stack =>
      rw [List.length_cons] at hfuel
      rw [follow]
      by_cases hpc : f.saw pc = true
      · rw [if_pos (by exact hpc)]
        exact .seen hpc (ih hsize (by omega))
      · rw [if_neg (by exact hpc)]
        rw [Bool.not_eq_true] at hpc
        have hmark := Frontier.unseen_mark hpc
        have hsize' : (f.mark pc).seen.size = p.code.size := by
          rw [← hsize]
          exact Array.size_setIfInBounds
        have hlt : pc < p.code.size := hsize ▸ Frontier.lt_size_of_saw hpc
        have hcode : p.code[pc]? = some p.code[pc] := Array.getElem?_eq_getElem hlt
        cases hi : p.code[pc] with
        | take s next =>
          rw [hi] at hcode
          simp only [hcode]
          refine .take hpc hcode (ih hsize' ?_)
          change _ + 2 * (f.mark pc).unseen < _
          omega
        | check a next =>
          rw [hi] at hcode
          simp only [hcode]
          refine .check hpc hcode (ih hsize' ?_)
          split
          · rw [List.length_cons]
            omega
          · omega
        | jump next =>
          rw [hi] at hcode
          simp only [hcode]
          exact .jump hpc hcode (ih hsize' (by rw [List.length_cons]; omega))
        | fork first second =>
          rw [hi] at hcode
          simp only [hcode]
          exact .fork hpc hcode (ih hsize' (by rw [List.length_cons, List.length_cons]; omega))
        | accept =>
          rw [hi] at hcode
          simp only [hcode]
          exact .accept hpc hcode

/-- There is one walk only. -/
theorem Walk.unique (h₁ : p.Walk before after stack f f₁) (h₂ : p.Walk before after stack f f₂) :
    f₁ = f₂ := by
  induction h₁ with
  | done => cases h₂; rfl
  | seen hpc _ ih => cases h₂ <;> simp_all
  | take hpc hcode _ ih => cases h₂ <;> simp_all
  | check hpc hcode _ ih => cases h₂ <;> simp_all
  | jump hpc hcode _ ih => cases h₂ <;> simp_all
  | fork hpc hcode _ ih => cases h₂ <;> simp_all
  | accept hpc hcode => cases h₂ <;> simp_all

/-- Nothing has been found out yet. -/
def blank (p : Program) : Frontier := ⟨Array.replicate p.code.size false, [], false⟩

/-- What the machine finds out between two characters is found by walking. -/
theorem walk_frontier (p : Program) (before after : Option Char) (ready : List Nat) :
    p.Walk before after ready p.blank (p.frontier before after ready) := by
  refine walk_follow _ Array.size_replicate ?_
  have hle : p.blank.unseen ≤ p.code.size := by
    simp [Frontier.unseen, blank]
  change _ + 2 * p.blank.unseen < _
  omega

/-- What a walk from a blank frontier ends in is the frontier of the program. -/
theorem Walk.frontier_eq (h : p.Walk before after stack p.blank f) :
    p.frontier before after stack = f :=
  (walk_frontier p before after stack).unique h

/-- A blank frontier has seen no address of the code. -/
theorem saw_blank {x : Nat} {i : Instr} (h : p.code[x]? = some i) : p.blank.saw x = false := by
  have hlt : x < p.code.size := by
    by_cases hlt : x < p.code.size
    · exact hlt
    · simp [hlt] at h
  simp [blank, Frontier.saw, Array.getD, hlt]

/-- A walk that has not been ended has seen no instruction that accepts. -/
theorem Walk.saw_accept (h : p.Walk before after stack f f') (hf : f'.accepts = false) {x : Nat}
    (hx : p.code[x]? = some .accept) : f'.saw x = f.saw x := by
  -- An address that is marked on the way holds another instruction.
  have hmark {f : Frontier} {pc : Nat} {i : Instr} (hcode : p.code[pc]? = some i)
      (hi : i ≠ .accept) : (f.mark pc).saw x = f.saw x := by
    have hne : x ≠ pc := by
      rintro rfl
      exact hi (Option.some.inj (hcode.symm.trans hx))
    rw [Frontier.saw_mark, beq_eq_false_iff_ne.2 hne, Bool.false_or]
  induction h with
  | done => rfl
  | seen _ _ ih => exact ih hf
  | take _ hcode _ ih => exact (ih hf).trans (hmark hcode (by simp))
  | check _ hcode _ ih => exact (ih hf).trans (hmark hcode (by simp))
  | jump _ hcode _ ih => exact (ih hf).trans (hmark hcode (by simp))
  | fork _ hcode _ ih => exact (ih hf).trans (hmark hcode (by simp))
  | accept _ _ => exact absurd hf (by simp)

/-! ## Parts of programs -/

variable {A : Nat → Prop} {φ : Nat → Nat}

/-- The part of the program `p` at the addresses in `A`, which nothing leads out of, stands in the
program `q` under the addresses that `φ` gives. -/
structure Embeds (p q : Program) (A : Nat → Prop) (φ : Nat → Nat) : Prop where
  code : ∀ x, A x → ∃ i, p.code[x]? = some i ∧ q.code[φ x]? = some (i.relocate φ) ∧
    ∀ y ∈ i.targets, A y
  injective : ∀ x y, A x → A y → φ x = φ y → x = y

/-- What is new in `g'` over `g` is what is new in `f'` over `f`, under the addresses that `φ`
gives. -/
structure Copies (A : Nat → Prop) (φ : Nat → Nat) (f f' g g' : Frontier) : Prop where
  saw : ∀ x, A x → g'.saw (φ x) = f'.saw x
  saw_other : ∀ y, (∀ x, A x → φ x ≠ y) → g'.saw y = g.saw y
  takes : ∃ ts : List (CharSet × Nat), f'.takes = ts ++ f.takes ∧
    g'.takes = ts.map (fun t => (t.1, φ t.2)) ++ g.takes ∧ ∀ t ∈ ts, A t.2
  accepts : g'.accepts = f'.accepts

namespace Embeds

/-- Marking an address is marking its copy. -/
theorem saw_mark (hφ : Embeds p q A φ) (hf : ∀ x, A x → g.saw (φ x) = f.saw x) {pc : Nat}
    (hpc : A pc) : ∀ x, A x → (g.mark (φ pc)).saw (φ x) = (f.mark pc).saw x := by
  intro x hx
  rw [Frontier.saw_mark, Frontier.saw_mark, hf x hx]
  congr 1
  rw [Bool.eq_iff_iff, beq_iff_eq, beq_iff_eq]
  exact ⟨hφ.injective x pc hx hpc, congrArg φ⟩

end Embeds

/-- Marking the copy of an address touches no address that is no copy. -/
theorem Copies.of_mark {g' : Frontier} {pc : Nat} (hpc : A pc)
    (h : Copies A φ (f.mark pc) f' (g.mark (φ pc)) g') : Copies A φ f f' g g' where
  saw := h.saw
  saw_other y hy := by
    rw [h.saw_other y hy, Frontier.saw_mark, beq_eq_false_iff_ne.2 (hy pc hpc).symm, Bool.false_or]
  takes := h.takes
  accepts := h.accepts

/-- A walk may go on from `rest`, unless it has been ended. -/
def Continues (q : Program) (before after : Option Char) (rest : List Nat) (g g' : Frontier) :
    Prop :=
  if g.accepts then g' = g else q.Walk before after rest g g'

/-- With nothing left on the stack, there is nowhere to go on. -/
theorem continues_nil {g : Frontier} : q.Continues before after [] g g := by
  unfold Continues
  split
  · rfl
  · exact .done

/-- A walk over a part of a program is a walk over its copy, and may go on from there. -/
theorem Walk.embed (hφ : Embeds p q A φ) (h : p.Walk before after stack f f')
    (hstack : ∀ x ∈ stack, A x) (hf : ∀ x, A x → g.saw (φ x) = f.saw x)
    (hacc : f.accepts = false) (hacc' : g.accepts = false) :
    ∃ g', Copies A φ f f' g g' ∧ ∀ rest g'', q.Continues before after rest g' g'' →
      q.Walk before after (stack.map φ ++ rest) g g'' := by
  induction h generalizing g with
  | done =>
    refine ⟨g, ⟨hf, fun _ _ => rfl, ⟨[], rfl, rfl, by simp⟩, hacc'.trans hacc.symm⟩, ?_⟩
    intro rest g'' hgo
    simpa [Continues, hacc'] using hgo
  | seen hpc _ ih =>
    obtain ⟨hx, hstack⟩ := List.forall_mem_cons.1 hstack
    obtain ⟨g', hcopies, hgo⟩ := ih hstack hf hacc hacc'
    exact ⟨g', hcopies, fun rest g'' h => .seen (by rw [hf _ hx, hpc]) (hgo rest g'' h)⟩
  | @take pc next s stack f f' hpc hcode _ ih =>
    obtain ⟨hx, hstack⟩ := List.forall_mem_cons.1 hstack
    obtain ⟨i, hi, hcode', htargets⟩ := hφ.code pc hx
    obtain rfl := Option.some.inj (hi.symm.trans hcode)
    obtain ⟨g', hcopies, hgo⟩ := ih (g := { g.mark (φ pc) with takes := (s, φ next) :: g.takes })
      hstack (hφ.saw_mark hf hx) hacc hacc'
    obtain ⟨ts, hts, hts', hall⟩ := hcopies.takes
    have hcopies' : Copies A φ (f.mark pc) f' (g.mark (φ pc)) g' :=
      ⟨hcopies.saw, hcopies.saw_other, ⟨ts ++ [(s, next)], by simp [hts]; rfl, by simp [hts']; rfl,
        List.forall_mem_append.2 ⟨hall, List.forall_mem_singleton.2 (htargets next (by
          simp [Instr.targets]))⟩⟩, hcopies.accepts⟩
    exact ⟨g', hcopies'.of_mark hx, fun rest g'' h =>
      .take (by rw [hf _ hx, hpc]) hcode' (hgo rest g'' h)⟩
  | @check pc next a stack f f' hpc hcode _ ih =>
    obtain ⟨hx, hstack⟩ := List.forall_mem_cons.1 hstack
    obtain ⟨i, hi, hcode', htargets⟩ := hφ.code pc hx
    obtain rfl := Option.some.inj (hi.symm.trans hcode)
    have hstack' : ∀ x ∈ if a.holds before after then next :: stack else stack, A x := by
      split
      · exact List.forall_mem_cons.2 ⟨htargets next (by simp [Instr.targets]), hstack⟩
      · exact hstack
    obtain ⟨g', hcopies, hgo⟩ := ih hstack' (hφ.saw_mark hf hx) hacc hacc'
    refine ⟨g', hcopies.of_mark hx, fun rest g'' h => .check (by rw [hf _ hx, hpc]) hcode' ?_⟩
    have hwalk := hgo rest g'' h
    split at hwalk <;> simp_all
  | @jump pc next stack f f' hpc hcode _ ih =>
    obtain ⟨hx, hstack⟩ := List.forall_mem_cons.1 hstack
    obtain ⟨i, hi, hcode', htargets⟩ := hφ.code pc hx
    obtain rfl := Option.some.inj (hi.symm.trans hcode)
    have hstack' : ∀ x ∈ next :: stack, A x :=
      List.forall_mem_cons.2 ⟨htargets next (by simp [Instr.targets]), hstack⟩
    obtain ⟨g', hcopies, hgo⟩ := ih hstack' (hφ.saw_mark hf hx) hacc hacc'
    exact ⟨g', hcopies.of_mark hx, fun rest g'' h =>
      .jump (by rw [hf _ hx, hpc]) hcode' (hgo rest g'' h)⟩
  | @fork pc first second stack f f' hpc hcode _ ih =>
    obtain ⟨hx, hstack⟩ := List.forall_mem_cons.1 hstack
    obtain ⟨i, hi, hcode', htargets⟩ := hφ.code pc hx
    obtain rfl := Option.some.inj (hi.symm.trans hcode)
    have hstack' : ∀ x ∈ first :: second :: stack, A x :=
      List.forall_mem_cons.2 ⟨htargets first (by simp [Instr.targets]),
        List.forall_mem_cons.2 ⟨htargets second (by simp [Instr.targets]), hstack⟩⟩
    obtain ⟨g', hcopies, hgo⟩ := ih hstack' (hφ.saw_mark hf hx) hacc hacc'
    exact ⟨g', hcopies.of_mark hx, fun rest g'' h =>
      .fork (by rw [hf _ hx, hpc]) hcode' (hgo rest g'' h)⟩
  | @accept pc stack f hpc hcode =>
    obtain ⟨hx, -⟩ := List.forall_mem_cons.1 hstack
    obtain ⟨i, hi, hcode', -⟩ := hφ.code pc hx
    obtain rfl := Option.some.inj (hi.symm.trans hcode)
    have hcopies : Copies A φ (f.mark pc) { f.mark pc with accepts := true } (g.mark (φ pc))
        { g.mark (φ pc) with accepts := true } :=
      ⟨hφ.saw_mark hf hx, fun _ _ => rfl, ⟨[], rfl, rfl, by simp⟩, rfl⟩
    refine ⟨_, hcopies.of_mark hx, fun rest g'' h => ?_⟩
    obtain rfl : g'' = { g.mark (φ pc) with accepts := true } := by simpa [Continues] using h
    exact .accept (by rw [hf _ hx, hpc]) hcode'

end ModalLexer.Regex.Program
