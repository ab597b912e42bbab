import ModalLexer.Proofs.Regex.Fixed

/-!
# What a match spans

`Expr.Spans` says, without a machine, that an expression matches the text from one place to another.
Whatever the machine of an expression finds is such a match (`Expr.spans_of_search`): what it finds
is found on a path over its instructions (`Program.exists_path_of_find`), and a path that enters the
code of an expression and accepts in the end leaves the code behind a match of it
(`Program.Path.spans`).
-/

namespace ModalLexer.Regex

/-! ## Spans -/

/-- A number of rounds is within the bounds. Where these cross, the lower one counts. -/
def Bounds.Allows (b : Bounds) (k : Nat) : Prop :=
  b.min ≤ k ∧ ∀ m, b.max = some m → k ≤ b.min ∨ k ≤ m

/-- So many rounds of a body lead from one place to another. -/
inductive Rounds (body : Place → Place → Prop) : Nat → Place → Place → Prop where
  | none {l : Place} : Rounds body 0 l l
  | next {k : Nat} {l l₁ l₂ : Place} (h : body l l₁) (hs : Rounds body k l₁ l₂) :
      Rounds body (k + 1) l l₂

/-- Rounds behind rounds are as many as both together. -/
theorem Rounds.append {body : Place → Place → Prop} {j k : Nat} {l l₁ l₂ : Place}
    (h₁ : Rounds body j l l₁) (h₂ : Rounds body k l₁ l₂) : Rounds body (j + k) l l₂ := by
  induction h₁ with
  | none => rwa [Nat.zero_add]
  | next h _ ih =>
    rw [Nat.add_right_comm]
    exact .next h (ih h₂)

/-- An expression matches the text from one place to another. -/
def Expr.Spans : Expr → Place → Place → Prop
  | empty, l, l' => l' = l
  | literal c cs, l, l' => l.takeAll? (c :: cs) = some l'
  | set _ s, l, l' => l.take? s = some l'
  | assertion a, l, l' => l.check? a = some l'
  | cat e f, l, l' => ∃ m, e.Spans l m ∧ f.Spans m l'
  | alt e f, l, l' => e.Spans l l' ∨ f.Spans l l'
  | rounds b _ e, l, l' => ∃ k, b.Allows k ∧ Rounds e.Spans k l l'
  | group _ e, l, l' => e.Spans l l'

/-! ## Where a match leads -/

namespace Place

/-- One place stands behind another one, with a text between them. -/
def Leads (l l' : Place) : Prop := ∃ w, l.rest = w ++ l'.rest ∧ l'.index = l.index + w.length

/-- Every place leads to itself. -/
theorem Leads.refl (l : Place) : l.Leads l := ⟨[], rfl, rfl⟩

/-- A place leads to where the places lead that it leads to. -/
theorem Leads.trans {l l₁ l₂ : Place} (h₁ : l.Leads l₁) (h₂ : l₁.Leads l₂) : l.Leads l₂ := by
  obtain ⟨w, hw, hindex⟩ := h₁
  obtain ⟨w', hw', hindex'⟩ := h₂
  refine ⟨w ++ w', by rw [hw, hw', List.append_assoc], ?_⟩
  rw [hindex', hindex, List.length_append, Nat.add_assoc]

/-- Taking a character leads on. -/
theorem leads_of_take? {l l' : Place} {s : CharSet} (h : l.take? s = some l') : l.Leads l' := by
  unfold take? at h
  split at h
  · exact absurd h (by simp)
  · next c cs hrest =>
    split at h
    · obtain rfl := Option.some.inj h
      exact ⟨[c], hrest, rfl⟩
    · exact absurd h (by simp)

/-- Taking a text leads on. -/
theorem leads_of_takeAll? {w : Text} {l l' : Place} (h : l.takeAll? w = some l') : l.Leads l' := by
  induction w generalizing l with
  | nil =>
    obtain rfl := Option.some.inj h
    exact .refl _
  | cons c w ih =>
    obtain ⟨l₁, h₁, h₂⟩ := Option.bind_eq_some_iff.1 h
    exact (leads_of_take? h₁).trans (ih h₂)

/-- An assertion stays at its place. -/
theorem eq_of_check? {l l' : Place} {a : Assertion} (h : l.check? a = some l') : l' = l := by
  unfold check? at h
  split at h
  · exact (Option.some.inj h).symm
  · exact absurd h (by simp)

end Place

/-- Rounds lead on if each of them does. -/
theorem Rounds.leads {body : Place → Place → Prop} {k : Nat} {l l' : Place}
    (hbody : ∀ l l', body l l' → l.Leads l') (h : Rounds body k l l') : l.Leads l' := by
  induction h with
  | none => exact .refl _
  | next h _ ih => exact (hbody _ _ h).trans ih

/-- A match leads to a place behind its text. -/
theorem Expr.Spans.leads {e : Expr} {l l' : Place} (h : e.Spans l l') : l.Leads l' := by
  induction e generalizing l l' with
  | empty =>
    obtain rfl : l' = l := h
    exact .refl _
  | literal c cs => exact Place.leads_of_takeAll? h
  | set a s => exact Place.leads_of_take? h
  | assertion a =>
    obtain rfl := Place.eq_of_check? h
    exact .refl _
  | cat e f ihe ihf =>
    obtain ⟨m, he, hf⟩ := h
    exact (ihe he).trans (ihf hf)
  | alt e f ihe ihf => exact h.elim ihe ihf
  | rounds b greedy e ih =>
    obtain ⟨k, -, hk⟩ := h
    exact hk.leads fun _ _ => ih
  | group i e ih => exact ih h

/-! ## Paths -/

namespace Program

variable {p : Program} {e : Expr} {x y n start next : Nat} {l l' l₁ : Place}

/-- One step of the machine, from an address at a place to the next one. -/
inductive Step (p : Program) : Nat → Place → Nat → Place → Prop where
  | take {x next : Nat} {s : CharSet} {l l' : Place} (hcode : p.code[x]? = some (.take s next))
      (h : l.take? s = some l') : Step p x l next l'
  | check {x next : Nat} {a : Assertion} {l : Place} (hcode : p.code[x]? = some (.check a next))
      (h : a.holds l.before l.rest.head? = true) : Step p x l next l
  | jump {x next : Nat} {l : Place} (hcode : p.code[x]? = some (.jump next)) : Step p x l next l
  | first {x first second : Nat} {l : Place} (hcode : p.code[x]? = some (.fork first second)) :
      Step p x l first l
  | second {x first second : Nat} {l : Place} (hcode : p.code[x]? = some (.fork first second)) :
      Step p x l second l

/-- A path of `n` steps from an address at a place to one that accepts at another place. -/
inductive Path (p : Program) : Nat → Nat → Place → Place → Prop where
  | accept {x : Nat} {l : Place} (hcode : p.code[x]? = some .accept) : Path p 0 x l l
  | step {n x y : Nat} {l l₁ l' : Place} (h : p.Step x l y l₁) (hs : Path p n y l₁ l') :
      Path p (n + 1) x l l'

/-- A path that begins at another instruction goes on from there. -/
theorem Path.cases_step {i : Instr} (h : p.Path n x l l') (hcode : p.code[x]? = some i)
    (hi : i ≠ .accept) : ∃ m y l₁, n = m + 1 ∧ p.Step x l y l₁ ∧ p.Path m y l₁ l' := by
  cases h with
  | accept haccept => exact absurd (Option.some.inj (hcode.symm.trans haccept)) hi
  | step h hs => exact ⟨_, _, _, rfl, h, hs⟩

/-- A path through an instruction that takes a character goes on behind the character. -/
theorem Path.of_take {s : CharSet} (h : p.Path n x l l')
    (hcode : p.code[x]? = some (.take s next)) :
    ∃ m l₁, n = m + 1 ∧ l.take? s = some l₁ ∧ p.Path m next l₁ l' := by
  obtain ⟨m, y, l₁, rfl, hstep, hs⟩ := h.cases_step hcode (by simp)
  cases hstep <;> simp_all

/-- A path through an assertion goes on at the same place. -/
theorem Path.of_check {a : Assertion} (h : p.Path n x l l')
    (hcode : p.code[x]? = some (.check a next)) :
    ∃ m, n = m + 1 ∧ l.check? a = some l ∧ p.Path m next l l' := by
  obtain ⟨m, y, l₁, rfl, hstep, hs⟩ := h.cases_step hcode (by simp)
  cases hstep <;> simp_all [Place.check?]

/-- A path through a jump goes on where the jump leads. -/
theorem Path.of_jump (h : p.Path n x l l') (hcode : p.code[x]? = some (.jump next)) :
    ∃ m, n = m + 1 ∧ p.Path m next l l' := by
  obtain ⟨m, y, l₁, rfl, hstep, hs⟩ := h.cases_step hcode (by simp)
  cases hstep <;> simp_all

/-- A path through a fork goes on in one of its two ways. -/
theorem Path.of_fork {first second : Nat} (h : p.Path n x l l')
    (hcode : p.code[x]? = some (.fork first second)) :
    ∃ m, n = m + 1 ∧ (p.Path m first l l' ∨ p.Path m second l l') := by
  obtain ⟨m, y, l₁, rfl, hstep, hs⟩ := h.cases_step hcode (by simp)
  cases hstep <;> simp_all

/-- A path through the choice of a loop goes round or leaves it. -/
theorem Path.of_choose {greedy : Bool} {round leave : Nat} (h : p.Path n x l l')
    (hcode : p.code[x]? = some (.choose greedy round leave)) :
    ∃ m, n = m + 1 ∧ (p.Path m round l l' ∨ p.Path m leave l l') := by
  cases greedy with
  | false =>
    obtain ⟨m, hm, hpath⟩ := h.of_fork hcode
    exact ⟨m, hm, hpath.symm⟩
  | true => exact h.of_fork hcode

/-! ## Paths over the code of an expression -/

/-- A path from `start` leaves to `next` with a match of `spans` behind it. -/
def Leaves (p : Program) (spans : Place → Place → Prop) (start next : Nat) : Prop :=
  ∀ {n : Nat} {l l' : Place}, p.Path n start l l' →
    ∃ m l₁, m < n ∧ spans l l₁ ∧ p.Path m next l₁ l'

/-- A path leaves the code of a literal behind the literal. -/
theorem leaves_literal (c : Char) (cs : Text)
    (hcode : p.Contains start (Expr.literalCode c cs start next)) :
    p.Leaves (Expr.literal c cs).Spans start next := by
  intro n l l' h
  induction cs generalizing c start n l with
  | nil =>
    obtain ⟨m, l₁, rfl, htake, hs⟩ := h.of_take (hcode 0 _ rfl)
    refine ⟨m, l₁, Nat.lt_succ_self _, ?_, hs⟩
    rw [Expr.Spans, Place.takeAll?, htake]
    rfl
  | cons d ds ih =>
    rw [Expr.literalCode, contains_cons] at hcode
    obtain ⟨m, l₁, rfl, htake, hs⟩ := h.of_take hcode.1
    obtain ⟨m', l₂, hm', hspans, hs'⟩ := ih d hcode.2 hs
    refine ⟨m', l₂, by omega, ?_, hs'⟩
    rw [Expr.Spans, Place.takeAll?, htake]
    exact hspans

variable {spans : Place → Place → Prop} {body : Nat → Nat → List Instr} {size : Nat}

/-- A path through bodies one behind the other goes round once in each of them. -/
theorem exists_rounds_of_repeated (hsize : ∀ start next, (body start next).length = size)
    (hbody : ∀ {start next}, p.Contains start (body start next) → p.Leaves spans start next)
    {k : Nat} (hcode : p.Contains start (Expr.repeated body size k start next))
    (hnext : next = start + k * size) {n : Nat} {l l' : Place} (h : p.Path n start l l') :
    ∃ m l₁, m ≤ n ∧ Rounds spans k l l₁ ∧ p.Path m next l₁ l' := by
  induction k generalizing start n l with
  | zero =>
    rw [Nat.zero_mul, Nat.add_zero] at hnext
    exact ⟨n, l, Nat.le_refl _, .none, hnext ▸ h⟩
  | succ k ih =>
    cases k with
    | zero =>
      obtain ⟨m, l₁, hm, hspans, hs⟩ := hbody hcode h
      exact ⟨m, l₁, Nat.le_of_lt hm, .next hspans .none, hs⟩
    | succ k =>
      rw [Expr.repeated, contains_append, hsize] at hcode
      obtain ⟨m, l₁, hm, hspans, hs⟩ := hbody hcode.1 h
      obtain ⟨m', l₂, hm', hrounds, hs'⟩ := ih hcode.2
        (by rw [hnext, Nat.succ_mul (k + 1)]; omega) hs
      exact ⟨m', l₂, by omega, .next hspans hrounds, hs'⟩

/-- The last one of several rounds. -/
theorem contains_last (hsize : ∀ start next, (body start next).length = size) {k : Nat}
    (hcode : p.Contains start (Expr.repeated body size (k + 1) start next)) :
    p.Contains (start + k * size) (body (start + k * size) next) := by
  induction k generalizing start with
  | zero =>
    rw [Nat.zero_mul, Nat.add_zero]
    exact hcode
  | succ k ih =>
    rw [Expr.repeated, contains_append, hsize] at hcode
    have hlast := ih hcode.2
    rwa [Nat.add_assoc, Nat.add_comm size, ← Nat.succ_mul] at hlast

/-- A path through bodies that may be left goes round in the first few of them. -/
theorem exists_rounds_of_optional (hsize : ∀ start next, (body start next).length = size)
    (hbody : ∀ {start next}, p.Contains start (body start next) → p.Leaves spans start next)
    {greedy : Bool} {k leave : Nat}
    (hcode : p.Contains start (Expr.optional body size greedy k start leave))
    (hleave : leave = start + k * (size + 1)) {n : Nat} {l l' : Place} (h : p.Path n start l l') :
    ∃ j m l₁, j ≤ k ∧ m ≤ n ∧ Rounds spans j l l₁ ∧ p.Path m leave l₁ l' := by
  induction k generalizing start n l with
  | zero =>
    rw [Nat.zero_mul, Nat.add_zero] at hleave
    exact ⟨0, n, l, Nat.le_refl _, Nat.le_refl _, .none, hleave ▸ h⟩
  | succ k ih =>
    rw [Expr.optional, List.cons_append, contains_cons, contains_append, hsize] at hcode
    obtain ⟨m, rfl, hround | hleave'⟩ := h.of_choose hcode.1
    · obtain ⟨m', l₁, hm', hspans, hs⟩ := hbody hcode.2.1 hround
      obtain ⟨j, m'', l₂, hj, hm'', hrounds, hs'⟩ := ih hcode.2.2
        (by rw [hleave, Nat.succ_mul]; omega) hs
      exact ⟨j + 1, m'', l₂, by omega, by omega, .next hspans hrounds, hs'⟩
    · exact ⟨0, m, l, Nat.zero_le _, by omega, .none, hleave'⟩

/-- A loop behind its body: it goes round, or leaves. -/
theorem exists_rounds_of_loop {greedy : Bool} {again : Nat} (hbody : p.Leaves spans start again)
    (hcode : p.code[again]? = some (.choose greedy start next)) {n : Nat} {l l' : Place}
    (h : p.Path n again l l') :
    ∃ j m l₁, m < n ∧ Rounds spans j l l₁ ∧ p.Path m next l₁ l' := by
  induction n using Nat.strongRecOn generalizing l with
  | ind n ih =>
    obtain ⟨m, rfl, hround | hleave⟩ := h.of_choose hcode
    · obtain ⟨m', l₁, hm', hspans, hs⟩ := hbody hround
      obtain ⟨j, m'', l₂, hm'', hrounds, hs'⟩ := ih m' (by omega) hs
      exact ⟨j + 1, m'', l₂, by omega, .next hspans hrounds, hs'⟩
    · exact ⟨0, m, l, Nat.lt_succ_self _, .none, hleave⟩

/-- A path over rounds of an expression leaves them behind as many rounds as are allowed. -/
theorem leaves_rounds {b : Bounds} {greedy : Bool}
    (hbody : ∀ {start next}, p.Contains start (e.code start next) → p.Leaves e.Spans start next)
    (hcode : p.Contains start ((Expr.rounds b greedy e).code start next)) :
    p.Leaves (Expr.rounds b greedy e).Spans start next := by
  intro n l l' h
  obtain ⟨min, max⟩ := b
  cases max with
  | none =>
    cases min with
    | zero =>
      rw [Expr.code] at hcode
      split at hcode
      · -- The loop has an entry of its own.
        rw [List.cons_append, contains_cons, contains_append, Expr.length_code] at hcode
        have hround : p.Leaves e.Spans (start + 1) (start + 1 + e.size) := hbody hcode.2.1
        obtain ⟨m, rfl, henter | hleave⟩ := h.of_choose hcode.1
        · obtain ⟨m₁, l₁, hm₁, hspans, hs⟩ := hround henter
          obtain ⟨k, m₂, l₂, hm₂, hrounds, hs'⟩ :=
            exists_rounds_of_loop hround (hcode.2.2 0 _ rfl) hs
          exact ⟨m₂, l₂, by omega, ⟨k + 1, by simp [Bounds.Allows], .next hspans hrounds⟩, hs'⟩
        · exact ⟨m, l, Nat.lt_succ_self _, ⟨0, by simp [Bounds.Allows], .none⟩, hleave⟩
      · rw [contains_cons] at hcode
        obtain ⟨k, m, l₁, hm, hrounds, hs⟩ := exists_rounds_of_loop (hbody hcode.2) hcode.1 h
        exact ⟨m, l₁, hm, ⟨k, by simp [Bounds.Allows], hrounds⟩, hs⟩
    | succ k =>
      rw [Expr.code, contains_append, Expr.length_repeated e.length_code] at hcode
      obtain ⟨m, l₁, hm, hrounds, hs⟩ :=
        exists_rounds_of_repeated e.length_code hbody hcode.1 rfl h
      obtain ⟨j, m', l₂, hm', hrounds', hs'⟩ := exists_rounds_of_loop
        (hbody (contains_last e.length_code hcode.1)) (hcode.2 0 _ rfl) hs
      exact ⟨m', l₂, by omega, ⟨k + 1 + j, by simp [Bounds.Allows], hrounds.append hrounds'⟩, hs'⟩
  | some j =>
    rw [Expr.code, contains_append, contains_append, List.length_append,
      Expr.length_repeated e.length_code, Expr.length_optional e.length_code] at hcode
    obtain ⟨m, l₁, hm, hrounds, hs⟩ :=
      exists_rounds_of_repeated e.length_code hbody hcode.1.1 rfl h
    obtain ⟨i, m₁, l₂, hi, hm₁, hrounds', hs'⟩ :=
      exists_rounds_of_optional e.length_code hbody hcode.1.2 rfl hs
    obtain ⟨m₂, rfl, hs''⟩ := hs'.of_jump (by rw [Nat.add_assoc]; exact hcode.2 0 _ rfl)
    have hallows : Bounds.Allows ⟨min, some j⟩ (min + i) := by
      refine ⟨Nat.le_add_right _ _, fun m hm => ?_⟩
      obtain rfl := Option.some.inj hm
      dsimp only
      omega
    exact ⟨m₂, l₂, by omega, ⟨min + i, hallows, hrounds.append hrounds'⟩, hs''⟩

/-- A path over the code of an expression leaves it behind a match. -/
theorem leaves_code (hcode : p.Contains start (e.code start next)) :
    p.Leaves e.Spans start next := by
  induction e generalizing start next with
  | empty =>
    intro n l l' h
    obtain ⟨m, rfl, hs⟩ := h.of_jump (hcode 0 _ rfl)
    exact ⟨m, l, Nat.lt_succ_self _, rfl, hs⟩
  | literal c cs => exact leaves_literal c cs hcode
  | set a s =>
    intro n l l' h
    obtain ⟨m, l₁, rfl, htake, hs⟩ := h.of_take (hcode 0 _ rfl)
    exact ⟨m, l₁, Nat.lt_succ_self _, htake, hs⟩
  | assertion a =>
    intro n l l' h
    obtain ⟨m, rfl, hcheck, hs⟩ := h.of_check (hcode 0 _ rfl)
    exact ⟨m, l, Nat.lt_succ_self _, hcheck, hs⟩
  | cat e f ihe ihf =>
    intro n l l' h
    rw [Expr.code, contains_append, Expr.length_code] at hcode
    obtain ⟨m, l₁, hm, he, hs⟩ := ihe hcode.1 h
    obtain ⟨m', l₂, hm', hf, hs'⟩ := ihf hcode.2 hs
    exact ⟨m', l₂, by omega, ⟨l₁, he, hf⟩, hs'⟩
  | alt e f ihe ihf =>
    intro n l l' h
    rw [Expr.code, List.cons_append, contains_cons, contains_append, Expr.length_code] at hcode
    obtain ⟨m, rfl, hfirst | hsecond⟩ := h.of_fork hcode.1
    · obtain ⟨m', l₁, hm', he, hs⟩ := ihe hcode.2.1 hfirst
      exact ⟨m', l₁, by omega, .inl he, hs⟩
    · obtain ⟨m', l₁, hm', hf, hs⟩ := ihf hcode.2.2 hsecond
      exact ⟨m', l₁, by omega, .inr hf, hs⟩
  | rounds b greedy e ih => exact leaves_rounds ih hcode
  | group i e ih => exact ih hcode

/-! ## The paths that the machine follows -/

/-- A path from an address at one place accepts at another one. -/
def Accepts (p : Program) (x : Nat) (l l' : Place) : Prop := ∃ n, p.Path n x l l'

/-- A step leads to a match if the match is accepted behind it. -/
theorem Step.accepts (h : p.Step x l y l₁) (hs : p.Accepts y l₁ l') : p.Accepts x l l' :=
  let ⟨n, hn⟩ := hs
  ⟨n + 1, .step h hn⟩

/-- The addresses on a stack that a step of the first one leads to may stand in its place. -/
theorem exists_accepts_of_step {stack stack' : List Nat}
    (hstep : ∀ y ∈ stack', y ∈ stack ∨ p.Step x l y l) (h : ∃ y ∈ stack', p.Accepts y l l') :
    ∃ y ∈ x :: stack, p.Accepts y l l' := by
  obtain ⟨y, hy, hpath⟩ := h
  rcases hstep y hy with hmem | hstep
  · exact ⟨y, List.mem_cons_of_mem _ hmem, hpath⟩
  · exact ⟨x, List.mem_cons_self, hstep.accepts hpath⟩

/-- What a walk finds out is found on paths from the addresses on the stack: a character that can be
taken, on a path that goes on behind it, and a match, on one that accepts. -/
theorem Walk.sound {stack : List Nat} {f f' : Frontier}
    (h : p.Walk l.before l.rest.head? stack f f') :
    (∀ t ∈ f'.takes, t ∈ f.takes ∨ ∀ l₁ l', l.take? t.1 = some l₁ → p.Accepts t.2 l₁ l' →
        ∃ y ∈ stack, p.Accepts y l l') ∧
      (f'.accepts = true → f.accepts = true ∨ ∃ y ∈ stack, p.Accepts y l l) := by
  generalize hbefore : l.before = before at h
  generalize hafter : l.rest.head? = after at h
  -- A step within a place moves the paths to the address that the step is made from.
  have hmove {x : Nat} {stack stack' : List Nat} {f f' : Frontier}
      (hstep : ∀ y ∈ stack', y ∈ stack ∨ p.Step x l y l)
      (ih : (∀ t ∈ f'.takes, t ∈ f.takes ∨ ∀ l₁ l', l.take? t.1 = some l₁ → p.Accepts t.2 l₁ l' →
          ∃ y ∈ stack', p.Accepts y l l') ∧
        (f'.accepts = true → f.accepts = true ∨ ∃ y ∈ stack', p.Accepts y l l)) :
      (∀ t ∈ f'.takes, t ∈ f.takes ∨ ∀ l₁ l', l.take? t.1 = some l₁ → p.Accepts t.2 l₁ l' →
          ∃ y ∈ x :: stack, p.Accepts y l l') ∧
        (f'.accepts = true → f.accepts = true ∨ ∃ y ∈ x :: stack, p.Accepts y l l) :=
    ⟨fun t ht => (ih.1 t ht).imp_right fun h l₁ l' htake hpath =>
        exists_accepts_of_step hstep (h l₁ l' htake hpath),
      fun hf => (ih.2 hf).imp_right (exists_accepts_of_step hstep)⟩
  induction h with
  | done => exact ⟨fun t ht => .inl ht, fun hf => .inl hf⟩
  | seen _ _ ih => exact hmove (fun y hy => .inl hy) ih
  | @take pc next s stack f f' _ hcode _ ih =>
    obtain ⟨htakes, haccepts⟩ := hmove (x := pc) (fun y hy => .inl hy) ih
    refine ⟨fun t ht => ?_, haccepts⟩
    rcases htakes t ht with hmem | hnew
    · rcases List.mem_cons.1 hmem with rfl | hmem
      · right
        intro l₁ l' htake hpath
        exact ⟨pc, List.mem_cons_self, (Step.take hcode htake).accepts hpath⟩
      · exact .inl hmem
    · exact .inr hnew
  | @check pc next a stack f f' _ hcode _ ih =>
    refine hmove (fun y hy => ?_) ih
    split at hy
    · next hholds =>
      rcases List.mem_cons.1 hy with rfl | hy
      · exact .inr (.check hcode (by rw [hbefore, hafter, hholds]))
      · exact .inl hy
    · exact .inl hy
  | jump _ hcode _ ih =>
    refine hmove (fun y hy => ?_) ih
    rcases List.mem_cons.1 hy with rfl | hy
    · exact .inr (.jump hcode)
    · exact .inl hy
  | fork _ hcode _ ih =>
    refine hmove (fun y hy => ?_) ih
    rcases List.mem_cons.1 hy with rfl | hy
    · exact .inr (.first hcode)
    · rcases List.mem_cons.1 hy with rfl | hy
      · exact .inr (.second hcode)
      · exact .inl hy
  | @accept pc stack f _ hcode =>
    exact ⟨fun t ht => .inl ht, fun _ => .inr ⟨pc, List.mem_cons_self, 0, .accept hcode⟩⟩

/-- So a machine that searches from the start alone finds nothing but what a path accepts. -/
theorem exists_accepts_of_scan (hp : p.anchored = true) {ready : List Nat} {best : Option Nat}
    {k : Nat} (h : p.scan ready l.before best l.index l.rest = some k) :
    best = some k ∨ ∃ x ∈ ready, ∃ l', p.Accepts x l l' ∧ l'.index = k := by
  obtain ⟨before, n, t⟩ := l
  induction t generalizing ready before best n with
  | nil =>
    obtain ⟨-, haccepts⟩ := (walk_frontier p before none ready).sound (l := ⟨before, n, []⟩)
    rw [scan] at h
    split at h
    · next hf =>
      rcases haccepts hf with hblank | ⟨x, hx, hpath⟩
      · exact absurd hblank (by simp [blank])
      · exact .inr ⟨x, hx, _, hpath, Option.some.inj h⟩
    · exact .inl h
  | cons c t ih =>
    obtain ⟨htakes, haccepts⟩ :=
      (walk_frontier p before (some c) ready).sound (l := ⟨before, n, c :: t⟩)
    -- Either the match is known before the next character, or it is found behind that.
    have hbest : (if (p.frontier before (some c) ready).accepts then some n else best) = some k →
        best = some k ∨ ∃ x ∈ ready, ∃ l', p.Accepts x ⟨before, n, c :: t⟩ l' ∧ l'.index = k := by
      intro hk
      split at hk
      · next hf =>
        rcases haccepts hf with hblank | ⟨x, hx, hpath⟩
        · exact absurd hblank (by simp [blank])
        · exact .inr ⟨x, hx, _, hpath, Option.some.inj hk⟩
      · exact .inl hk
    rw [scan_cons' hp] at h
    rcases ih _ _ h with hk | ⟨x, hx, l', hpath, hindex⟩
    · exact hbest hk
    · rw [Frontier.step_eq] at hx
      simp only [List.mem_reverse, List.mem_map, List.mem_filter] at hx
      obtain ⟨t', ⟨ht, hc⟩, rfl⟩ := hx
      rcases htakes t' ht with hblank | hnew
      · exact absurd hblank (by simp [blank])
      · have htake : Place.take? t'.1 ⟨before, n, c :: t⟩ = some ⟨some c, n + 1, t⟩ := if_pos hc
        obtain ⟨x, hx, hpath⟩ := hnew _ l' htake hpath
        exact .inr ⟨x, hx, l', hpath, hindex⟩

end Program

namespace Expr

open Program

/-- What is found for an expression is a match of it. -/
theorem exists_spans_of_search {e : Expr} {l : Place} {k : Nat} (h : e.search l = some k) :
    ∃ l', e.Spans l l' ∧ l'.index = k := by
  rcases exists_accepts_of_scan rfl h with hbest | ⟨x, hx, l', ⟨n, hpath⟩, hindex⟩
  · exact absurd hbest (by simp)
  · obtain rfl := List.mem_singleton.1 hx
    obtain ⟨m, l₁, -, hspans, hs⟩ := leaves_code e.machine_contains_code hpath
    cases hs with
    | accept _ => exact ⟨_, hspans, hindex⟩
    | step hstep _ => cases hstep <;> simp_all [e.machine_accept]

end Expr

end ModalLexer.Regex
