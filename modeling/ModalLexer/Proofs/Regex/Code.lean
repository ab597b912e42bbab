import ModalLexer.Regex.Program

/-!
# The layout of code

The code of an expression is as long as the expression's size says (`Expr.length_code`). Moved to
another place, it is the same code with other addresses (`Expr.code_relocate`), so its instructions
lead nowhere but to places in it and to the address behind it (`Expr.targets_code`).
-/

namespace ModalLexer.Regex

namespace Instr

/-- The addresses that an instruction leads to, the preferred one first. -/
def targets : Instr → List Nat
  | take _ next => [next]
  | check _ next => [next]
  | jump next => [next]
  | fork first second => [first, second]
  | accept => []

/-- An instruction at a place where other addresses are used. -/
def relocate (φ : Nat → Nat) : Instr → Instr
  | take s next => take s (φ next)
  | check a next => check a (φ next)
  | jump next => jump (φ next)
  | fork first second => fork (φ first) (φ second)
  | accept => accept

/-- The choice of a loop is relocated in both of its ways. -/
theorem relocate_choose (φ : Nat → Nat) (greedy : Bool) (round leave : Nat) :
    (choose greedy round leave).relocate φ = choose greedy (φ round) (φ leave) := by
  cases greedy <;> rfl

/-- Where an instruction stays the same, the addresses that it leads to do. -/
theorem eq_of_relocate_eq {φ : Nat → Nat} {i : Instr} (h : i.relocate φ = i) :
    ∀ x ∈ i.targets, φ x = x := by
  cases i <;> simp_all [relocate, targets]

end Instr

namespace Expr

variable {body : Nat → Nat → List Instr} {size : Nat} {φ : Nat → Nat}

/-! ## Length -/

/-- Every expression has code. -/
theorem size_pos (e : Expr) : 0 < e.size := by
  fun_induction size e <;> omega

/-- The code of a literal has one instruction for each character. -/
theorem length_literalCode (c : Char) (cs : Text) (start next : Nat) :
    (literalCode c cs start next).length = cs.length + 1 := by
  fun_induction literalCode c cs start next with
  | case1 => rfl
  | case2 c start next d ds ih => rw [List.length_cons, ih, List.length_cons]

/-- Bodies one behind the other are as long together. -/
theorem length_repeated (h : ∀ start next, (body start next).length = size) (n start next : Nat) :
    (repeated body size n start next).length = n * size := by
  fun_induction repeated body size n start next with
  | case1 => simp
  | case2 => simp [h]
  | case3 n start next ih => rw [List.length_append, h, ih, Nat.succ_mul (n + 1), Nat.add_comm]

/-- Bodies that may be left have one more instruction each. -/
theorem length_optional (h : ∀ start next, (body start next).length = size) (greedy : Bool)
    (n start leave : Nat) :
    (optional body size greedy n start leave).length = n * (size + 1) := by
  fun_induction optional body size greedy n start leave with
  | case1 => simp
  | case2 start leave n ih =>
    rw [List.length_append, List.length_cons, h, ih, Nat.succ_mul, Nat.add_comm]

/-- The size of an expression is the length of its code. -/
theorem length_code (e : Expr) (start next : Nat) : (e.code start next).length = e.size := by
  induction e generalizing start next with
  | empty => rfl
  | literal c cs => exact length_literalCode c cs start next
  | set a s => rfl
  | assertion a => rfl
  | cat e f ihe ihf => rw [code, List.length_append, ihe, ihf, size]
  | alt e f ihe ihf =>
    rw [code, List.length_append, List.length_cons, ihe, ihf, size]
    omega
  | rounds b greedy e ih =>
    match b with
    | ⟨0, none⟩ =>
      rw [code, size]
      split <;> simp [ih]
    | ⟨n + 1, none⟩ => simp only [code, size, List.length_append, length_repeated ih,
        List.length_cons, List.length_nil]
    | ⟨n, some m⟩ => simp only [code, size, List.length_append, length_repeated ih,
        length_optional ih, List.length_cons, List.length_nil]
  | group i e ih => rw [code, ih, size]

/-! ## Relocation -/

/-- Between two places, a stretch of `n` addresses keeps its order and its gaps. -/
def Moves (φ : Nat → Nat) (start n : Nat) : Prop := ∀ i < n, φ (start + i) = φ start + i

/-- What moves a stretch of code moves the beginning of it. -/
theorem Moves.mono {start m n : Nat} (h : Moves φ start n) (hm : m ≤ n) : Moves φ start m :=
  fun i hi => h i (Nat.lt_of_lt_of_le hi hm)

/-- So does what is left of it from a place on. -/
theorem Moves.shift {start n : Nat} (h : Moves φ start n) (k : Nat) (hk : k < n) :
    Moves φ (start + k) (n - k) := by
  intro i hi
  rw [Nat.add_assoc, h _ (by omega), h k hk, Nat.add_assoc]

/-- The code of a literal is the same in any place, relocated. -/
theorem literalCode_relocate (c : Char) (cs : Text) (start next : Nat)
    (hφ : Moves φ start (cs.length + 1)) :
    literalCode c cs (φ start) (φ next) = (literalCode c cs start next).map (·.relocate φ) := by
  induction cs generalizing c start with
  | nil => rfl
  | cons d ds ih =>
    have hstart : φ (start + 1) = φ start + 1 := hφ 1 (by simp)
    rw [literalCode, ← hstart, ih d _ (hφ.shift 1 (by simp)), literalCode, List.map_cons,
      Instr.relocate]

/-- Bodies one behind the other are the same in any place, relocated, if each of them is. -/
theorem repeated_relocate (hsize : 0 < size)
    (h : ∀ start next, Moves φ start size →
      body (φ start) (φ next) = (body start next).map (·.relocate φ))
    (n start next : Nat) (hφ : Moves φ start (n * size)) :
    repeated body size n (φ start) (φ next) =
      (repeated body size n start next).map (·.relocate φ) := by
  fun_induction repeated body size n start next with
  | case1 => rfl
  | case2 start next => rw [repeated, h _ _ (hφ.mono (by omega))]
  | case3 n start next ih =>
    rw [Nat.succ_mul (n + 1)] at hφ
    have hpos : 0 < (n + 1) * size := Nat.mul_pos (Nat.succ_pos n) hsize
    have hstart : φ (start + size) = φ start + size := hφ size (by omega)
    have hrest : Moves φ (start + size) ((n + 1) * size) :=
      (hφ.shift size (by omega)).mono (by omega)
    rw [repeated, ← hstart, h _ _ (hφ.mono (by omega)), ih hrest, List.map_append]

/-- The last of the optional rounds leaves to the address behind all of them, which has to be moved
with them. -/
theorem optional_relocate
    (h : ∀ start next, Moves φ start size →
      body (φ start) (φ next) = (body start next).map (·.relocate φ))
    (greedy : Bool) (n start leave : Nat) (hφ : Moves φ start (n * (size + 1) + 1)) :
    optional body size greedy n (φ start) (φ leave) =
      (optional body size greedy n start leave).map (·.relocate φ) := by
  induction n generalizing start with
  | zero => rfl
  | succ n ih =>
    rw [Nat.succ_mul] at hφ
    have hbody : φ (start + 1) = φ start + 1 := hφ 1 (by omega)
    have hrest : φ (start + 1 + size) = φ start + 1 + size := by
      rw [Nat.add_assoc, hφ _ (by omega), Nat.add_assoc]
    have hmoves : Moves φ (start + 1) size := (hφ.shift 1 (by omega)).mono (by omega)
    have hmoves' : Moves φ (start + 1 + size) (n * (size + 1) + 1) := by
      rw [Nat.add_assoc]
      exact (hφ.shift (1 + size) (by omega)).mono (by omega)
    rw [optional, ← hrest, ← hbody, h _ _ hmoves, ih _ hmoves', optional, List.map_append,
      List.map_cons, Instr.relocate_choose]

/-- The code of an expression at another place is its code with other addresses. -/
theorem code_relocate (e : Expr) (start next : Nat) (hφ : Moves φ start e.size) :
    e.code (φ start) (φ next) = (e.code start next).map (·.relocate φ) := by
  induction e generalizing start next with
  | empty => rfl
  | literal c cs => exact literalCode_relocate c cs start next hφ
  | set a s => rfl
  | assertion a => rfl
  | cat e f ihe ihf =>
    have he := e.size_pos
    have hf := f.size_pos
    rw [size] at hφ
    have hstart : φ (start + e.size) = φ start + e.size := hφ e.size (by omega)
    rw [code, ← hstart, ihe _ _ (hφ.mono (by omega)),
      ihf _ _ ((hφ.shift e.size (by omega)).mono (by omega)), code, List.map_append]
  | alt e f ihe ihf =>
    have he := e.size_pos
    have hf := f.size_pos
    rw [size] at hφ
    have hfirst : φ (start + 1) = φ start + 1 := hφ 1 (by omega)
    have hsecond : φ (start + 1 + e.size) = φ start + 1 + e.size := by
      rw [Nat.add_assoc, hφ _ (by omega), Nat.add_assoc]
    have hmoves : Moves φ (start + 1) e.size := (hφ.shift 1 (by omega)).mono (by omega)
    have hmoves' : Moves φ (start + 1 + e.size) f.size := by
      rw [Nat.add_assoc]
      exact (hφ.shift (1 + e.size) (by omega)).mono (by omega)
    rw [code, ← hsecond, ← hfirst, ihe _ _ hmoves, ihf _ _ hmoves', code, List.map_append,
      List.map_cons, Instr.relocate]
  | rounds b greedy e ih =>
    have he := e.size_pos
    match b with
    | ⟨0, none⟩ =>
      have hsize : e.size + 1 ≤ size (rounds ⟨0, none⟩ greedy e) := by
        rw [size]
        split <;> omega
      have hround : φ (start + 1) = φ start + 1 := hφ 1 (by omega)
      have hmoves : Moves φ (start + 1) e.size := (hφ.shift 1 (by omega)).mono (by omega)
      rw [code, code]
      split
      · next hnull =>
        rw [size, if_pos hnull] at hφ
        have hagain : φ (start + 1 + e.size) = φ (start + 1) + e.size := by
          rw [Nat.add_assoc, hφ _ (by omega), hround, Nat.add_assoc]
        rw [← hround, ← hagain, ih _ _ hmoves, List.map_append, List.map_cons, List.map_singleton,
          Instr.relocate_choose]
      · simp only [← hround, ih _ _ hmoves, List.map_cons, Instr.relocate_choose]
    | ⟨n + 1, none⟩ =>
      rw [size] at hφ
      have hmul : (n + 1) * e.size = n * e.size + e.size := Nat.succ_mul _ _
      have hagain : φ (start + n * e.size) = φ start + n * e.size := hφ _ (by omega)
      have hend : φ (start + (n + 1) * e.size) = φ start + (n + 1) * e.size := hφ _ (by omega)
      rw [code, ← hend, ← hagain, repeated_relocate he ih _ _ _ (hφ.mono (by omega)), code,
        List.map_append, List.map_cons, List.map_nil, Instr.relocate_choose]
    | ⟨n, some m⟩ =>
      rw [size] at hφ
      have hleave : φ (start + n * e.size + (m - n) * (e.size + 1)) =
          φ start + n * e.size + (m - n) * (e.size + 1) := by
        rw [Nat.add_assoc, hφ _ (by omega), Nat.add_assoc]
      have hrest : φ (start + n * e.size) = φ start + n * e.size := hφ _ (by omega)
      have hmoves : Moves φ (start + n * e.size) ((m - n) * (e.size + 1) + 1) :=
        (hφ.shift (n * e.size) (by omega)).mono (by omega)
      have hfirst := repeated_relocate he ih n start (start + n * e.size) (hφ.mono (by omega))
      have hthen := optional_relocate ih greedy (m - n) (start + n * e.size)
        (start + n * e.size + (m - n) * (e.size + 1)) hmoves
      rw [hrest] at hfirst hthen
      rw [hleave] at hthen
      simp only [code, List.map_append, hfirst, hthen, List.map_singleton]
      rfl
  | group i e ih => exact ih _ _ hφ

/-- The instructions of an expression lead to its own addresses and to the one behind it. -/
theorem targets_code (e : Expr) (start next : Nat) :
    ∀ i ∈ e.code start next, ∀ x ∈ i.targets,
      (start ≤ x ∧ x < start + e.size) ∨ x = next := by
  -- Moving all other addresses leaves the code as it is.
  let φ : Nat → Nat := fun x => if (start ≤ x ∧ x < start + e.size) ∨ x = next then x else x + 1
  have hpos := e.size_pos
  have hstart : φ start = start := if_pos (.inl ⟨Nat.le_refl _, by omega⟩)
  have hnext : φ next = next := if_pos (.inr rfl)
  have hmoves : Moves φ start e.size := by
    intro i hi
    rw [hstart]
    exact if_pos (.inl ⟨by omega, by omega⟩)
  have hsame : (e.code start next).map (·.relocate φ) = e.code start next := by
    rw [← code_relocate e start next hmoves, hstart, hnext]
  intro i hi x hx
  have hfix : i.relocate φ = i :=
    List.map_inj_left.1 (hsame.trans (List.map_id _).symm) i hi
  have hφx : φ x = x := Instr.eq_of_relocate_eq hfix x hx
  by_cases hout : (start ≤ x ∧ x < start + e.size) ∨ x = next
  · exact hout
  · have hmoved : φ x = x + 1 := if_neg hout
    omega

end Expr

end ModalLexer.Regex
