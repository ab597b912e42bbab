import ModalLexer.Proofs.Regex.Walk

/-!
# Parts of a program at work

A part of a program finds in a text what its copy in another program finds (`Embeds.scan`). A
machine that is in two parts at once, where nothing leads from one to the other, finds what it finds
in the first part, and only if that is nothing, what it finds in the second
(`Embeds.scan_parallel`).
-/

namespace ModalLexer.Regex.Program

variable {p p₁ p₂ q : Program} {before after : Option Char} {best : Option Nat} {n : Nat}
  {ready R S : List Nat} {A B : Nat → Prop} {φ ψ : Nat → Nat}

/-! ## Anchored machines -/

/-- The addresses behind a character are those of the instructions that take it. -/
theorem Frontier.step_eq (f : Frontier) (c : Char) :
    f.step c = ((f.takes.filter (·.1.contains c)).map (·.2)).reverse := by
  have key (ts : List (CharSet × Nat)) (next : List Nat) :
      ts.foldl (fun next t => if t.1.contains c then t.2 :: next else next) next =
        ((ts.filter (·.1.contains c)).map (·.2)).reverse ++ next := by
    induction ts generalizing next with
    | nil => rfl
    | cons t ts ih =>
      rw [List.foldl_cons, ih, List.filter_cons]
      split <;> simp
  rw [step, key, List.append_nil]

/-- The step of an anchored machine over a character. -/
theorem scan_cons (hp : p.anchored = true) (c : Char) (t : Text) :
    p.scan ready before best n (c :: t) =
      let f := p.frontier before (some c) ready
      let best := if f.accepts then some n else best
      if (f.step c).isEmpty then best else p.scan (f.step c) (some c) best (n + 1) t := by
  simp only [scan, hp, Bool.true_or, if_true]

/-- From nowhere the machine finds nothing. -/
theorem scan_nowhere (hp : p.anchored = true) (t : Text) :
    p.scan [] before best n t = best := by
  have hfrontier (after) : p.frontier before after [] = p.blank := Walk.done.frontier_eq
  cases t with
  | nil => rw [scan, hfrontier]; rfl
  | cons c t => rw [scan_cons hp, hfrontier]; rfl

/-- So it need not be asked whether there is anywhere to go on from. -/
theorem scan_cons' (hp : p.anchored = true) (c : Char) (t : Text) :
    p.scan ready before best n (c :: t) =
      p.scan ((p.frontier before (some c) ready).step c) (some c)
        (if (p.frontier before (some c) ready).accepts then some n else best) (n + 1) t := by
  rw [scan_cons hp]
  dsimp only
  split
  · next hempty => rw [List.isEmpty_iff.1 hempty, scan_nowhere hp]
  · rfl

/-- A match that has been found is kept, unless another one is found. -/
theorem scan_best (hp : p.anchored = true) (best : Option Nat) (t : Text) :
    p.scan ready before best n t = (p.scan ready before none n t).or best := by
  induction t generalizing ready before best n with
  | nil =>
    rw [scan, scan]
    split <;> simp
  | cons c t ih =>
    rw [scan_cons' hp, scan_cons' hp]
    split
    · rw [ih (some n), Option.or_assoc, Option.some_or]
    · rw [ih best]

/-! ## Copies -/

namespace Embeds

/-- At first, neither an address nor its copy has been seen. -/
theorem saw_blank (h : Embeds p q A φ) : ∀ x, A x → q.blank.saw (φ x) = p.blank.saw x := by
  intro x hx
  obtain ⟨i, hp, hq, -⟩ := h.code x hx
  rw [Program.saw_blank hp, Program.saw_blank hq]

/-- Between two characters, a part of a program finds out what its copy does. -/
theorem frontier (h : Embeds p q A φ) (hR : ∀ x ∈ R, A x) (before after : Option Char) :
    (q.frontier before after (R.map φ)).takes =
        (p.frontier before after R).takes.map (fun t => (t.1, φ t.2)) ∧
      (q.frontier before after (R.map φ)).accepts = (p.frontier before after R).accepts ∧
      ∀ t ∈ (p.frontier before after R).takes, A t.2 := by
  obtain ⟨g, hcopies, hgo⟩ :=
    (walk_frontier p before after R).embed h hR h.saw_blank rfl rfl
  have hwalk := hgo [] g continues_nil
  rw [List.append_nil] at hwalk
  rw [hwalk.frontier_eq]
  obtain ⟨ts, hts, hts', hall⟩ := hcopies.takes
  have hts₀ : (p.frontier before after R).takes = ts := hts.trans (List.append_nil ts)
  exact ⟨hts'.trans ((List.append_nil _).trans (by rw [hts₀])), hcopies.accepts, hts₀ ▸ hall⟩

/-- Behind a character it goes on where its copy does. -/
theorem step (h : Embeds p q A φ) (hR : ∀ x ∈ R, A x) (before : Option Char) (c : Char) :
    (q.frontier before (some c) (R.map φ)).step c =
        ((p.frontier before (some c) R).step c).map φ ∧
      ∀ x ∈ (p.frontier before (some c) R).step c, A x := by
  obtain ⟨htakes, -, hall⟩ := h.frontier hR before (some c)
  rw [Frontier.step_eq, Frontier.step_eq, htakes]
  constructor
  · rw [List.filter_map, List.map_map, List.map_reverse, List.map_map]
    rfl
  · intro x hx
    obtain ⟨t, ht, rfl⟩ := List.mem_map.1 (List.mem_reverse.1 hx)
    exact hall t (List.mem_filter.1 ht).1

/-- A part of a program finds in a text what its copy does. -/
theorem scan (h : Embeds p q A φ) (hp : p.anchored = true) (hq : q.anchored = true)
    (hR : ∀ x ∈ R, A x) (t : Text) :
    q.scan (R.map φ) before best n t = p.scan R before best n t := by
  induction t generalizing R before best n with
  | nil => rw [Program.scan, Program.scan, (h.frontier hR before none).2.1]
  | cons c t ih =>
    obtain ⟨hstep, hall⟩ := h.step hR before c
    rw [scan_cons' hp, scan_cons' hq, hstep, (h.frontier hR before (some c)).2.1, ih hall]

/-! ## Two parts -/

variable (h₁ : Embeds p₁ q A φ) (h₂ : Embeds p₂ q B ψ)
  (hdisjoint : ∀ x y, A x → B y → φ x = ψ y → p₁.code[x]? = some .accept)

include h₁ h₂ hdisjoint

/-- Where the first part does not accept, the second one finds out what it would alone. -/
theorem frontier_append (hR : ∀ x ∈ R, A x) (hS : ∀ x ∈ S, B x)
    (hacc : (p₁.frontier before after R).accepts = false) :
    (q.frontier before after (R.map φ ++ S.map ψ)).takes =
        (p₂.frontier before after S).takes.map (fun t => (t.1, ψ t.2)) ++
          (p₁.frontier before after R).takes.map (fun t => (t.1, φ t.2)) ∧
      (q.frontier before after (R.map φ ++ S.map ψ)).accepts =
        (p₂.frontier before after S).accepts := by
  have hwalk₁ := walk_frontier p₁ before after R
  obtain ⟨g₁, hcopies₁, hgo₁⟩ := hwalk₁.embed h₁ hR h₁.saw_blank rfl rfl
  have hacc₁ : g₁.accepts = false := hcopies₁.accepts.trans hacc
  -- What the first part has seen is none of the second part.
  have hsaw : ∀ y, B y → g₁.saw (ψ y) = p₂.blank.saw y := by
    intro y hy
    rw [← h₂.saw_blank y hy]
    by_cases hxy : ∃ x, A x ∧ φ x = ψ y
    · obtain ⟨x, hx, hxy⟩ := hxy
      rw [← hxy, hcopies₁.saw x hx, h₁.saw_blank x hx,
        hwalk₁.saw_accept hacc (hdisjoint x y hx hy hxy)]
    · exact hcopies₁.saw_other _ fun x hx hxy' => hxy ⟨x, hx, hxy'⟩
  obtain ⟨g₂, hcopies₂, hgo₂⟩ :=
    (walk_frontier p₂ before after S).embed h₂ hS hsaw rfl hacc₁
  have hthen : q.Continues before after (S.map ψ) g₁ g₂ := by
    rw [Continues, if_neg (by simp [hacc₁])]
    simpa using hgo₂ [] g₂ continues_nil
  rw [(hgo₁ (S.map ψ) g₂ hthen).frontier_eq]
  obtain ⟨ts₁, hts₁, hts₁', -⟩ := hcopies₁.takes
  obtain ⟨ts₂, hts₂, hts₂', -⟩ := hcopies₂.takes
  have heq₁ : (p₁.frontier before after R).takes = ts₁ := hts₁.trans (List.append_nil _)
  have heq₂ : (p₂.frontier before after S).takes = ts₂ := hts₂.trans (List.append_nil _)
  refine ⟨?_, hcopies₂.accepts⟩
  rw [hts₂', hts₁', heq₁, heq₂]
  simp [blank]

omit h₂ hdisjoint in
/-- Where the first part accepts, nothing else is found out. -/
theorem frontier_append_of_accepts (hR : ∀ x ∈ R, A x)
    (hacc : (p₁.frontier before after R).accepts = true) (rest : List Nat) :
    q.frontier before after (R.map φ ++ rest) = q.frontier before after (R.map φ) := by
  obtain ⟨g, hcopies, hgo⟩ :=
    (walk_frontier p₁ before after R).embed h₁ hR h₁.saw_blank rfl rfl
  have hend (rest : List Nat) : q.Continues before after rest g g := by
    rw [Continues, if_pos (hcopies.accepts.trans hacc)]
  have hwalk := hgo [] g (hend [])
  rw [List.append_nil] at hwalk
  rw [(hgo rest g (hend rest)).frontier_eq, hwalk.frontier_eq]

/-- A machine in two parts at once finds what it finds in the first one, and only if that is
nothing, what it finds in the second one. -/
theorem scan_parallel (hq : q.anchored = true) (hp₁ : p₁.anchored = true)
    (hp₂ : p₂.anchored = true) (hR : ∀ x ∈ R, A x) (hS : ∀ x ∈ S, B x) (t : Text) :
    q.scan (R.map φ ++ S.map ψ) before best n t =
      (p₁.scan R before none n t).or (p₂.scan S before best n t) := by
  induction t generalizing R S before best n with
  | nil =>
    rw [Program.scan, Program.scan, Program.scan]
    by_cases hacc : (p₁.frontier before none R).accepts = true
    · rw [h₁.frontier_append_of_accepts hR hacc, (h₁.frontier hR before none).2.1, if_pos hacc,
        if_pos hacc, Option.some_or]
    · rw [if_neg hacc, Option.none_or, (frontier_append h₁ h₂ hdisjoint hR hS
        (Bool.not_eq_true _ ▸ hacc)).2]
  | cons c t ih =>
    obtain ⟨hstep₁, hall₁⟩ := h₁.step hR before c
    obtain ⟨-, hall₂⟩ := h₂.step hS before c
    by_cases hacc : (p₁.frontier before (some c) R).accepts = true
    · -- The second part is dropped, and the first one goes on alone.
      have halone : q.scan (R.map φ) before best n (c :: t) = p₁.scan R before best n (c :: t) :=
        h₁.scan hp₁ hq hR (c :: t)
      rw [scan_cons' hq] at halone
      rw [scan_cons' hq, h₁.frontier_append_of_accepts hR hacc, halone, scan_cons' hp₁,
        scan_cons' hp₁, if_pos hacc, if_pos hacc, scan_best hp₁ (some n), Option.or_assoc,
        Option.some_or]
    · rw [Bool.not_eq_true] at hacc
      obtain ⟨htakes, haccepts⟩ := frontier_append h₁ h₂ hdisjoint hR hS hacc
      have hstep : (q.frontier before (some c) (R.map φ ++ S.map ψ)).step c =
          ((p₁.frontier before (some c) R).step c).map φ ++
            ((p₂.frontier before (some c) S).step c).map ψ := by
        rw [← hstep₁, ← (h₂.step hS before c).1]
        simp only [Frontier.step_eq, htakes, (h₁.frontier hR before (some c)).1,
          (h₂.frontier hS before (some c)).1, List.filter_append, List.map_append,
          List.reverse_append]
      rw [scan_cons' hq, hstep, haccepts, ih hall₁ hall₂, scan_cons' hp₁, scan_cons' hp₂, hacc]
      rfl

end Embeds

end ModalLexer.Regex.Program
