import ModalLexer.Proofs.Regex.Fixed
import ModalLexer.Proofs.Regex.Tidy

/-!
# Searching for parts and branches

What is found for an expression is what is found for its branches, the first branch that is found
taking precedence (`Expr.search_eq_findSome?`). Behind an expression that leaves no choice, what is
found for a sequence is what is found for the rest of it (`Expr.search_cat`).
-/

namespace ModalLexer.Regex

namespace Program

variable {p : Program} {e : Expr} {start next : Nat}

/-- Where the program of an expression stands in a program that accepts behind it. -/
def laidAt (e : Expr) (start next x : Nat) : Nat := if x < e.size then start + x else next

/-- A program that holds the code of an expression, and accepts behind it, holds its program. -/
theorem embeds_machine (hcode : p.Contains start (e.code start next))
    (haccept : p.code[next]? = some .accept) (hnext : next < start ∨ start + e.size ≤ next) :
    Embeds e.machine p (· ≤ e.size) (laidAt e start next) where
  code x hx := by
    have hpos := e.size_pos
    have hstart : laidAt e start next 0 = start := if_pos hpos
    have hend : laidAt e start next e.size = next := if_neg (Nat.lt_irrefl _)
    by_cases hlt : x < e.size
    · have hmoves : Expr.Moves (laidAt e start next) 0 e.size := by
        intro i hi
        rw [hstart, laidAt, Nat.zero_add, if_pos hi]
      have hcode' := e.code_relocate 0 e.size hmoves
      rw [hstart, hend] at hcode'
      have hlength : x < (e.code 0 e.size).length := by rwa [e.length_code]
      have hget : (e.code 0 e.size)[x]? = some (e.code 0 e.size)[x] :=
        List.getElem?_eq_getElem hlength
      refine ⟨(e.code 0 e.size)[x], ?_, ?_, fun y hy => ?_⟩
      · have hmachine := e.machine_contains_code x _ hget
        rwa [Nat.zero_add] at hmachine
      · have hlaid : laidAt e start next x = start + x := if_pos hlt
        rw [hlaid]
        exact hcode x _ (by rw [hcode', List.getElem?_map, hget]; rfl)
      · rcases e.targets_code 0 e.size _ (List.getElem_mem _) y hy with h | h
        · exact Nat.le_of_lt (by omega)
        · exact Nat.le_of_eq h
    · obtain rfl : x = e.size := by omega
      refine ⟨.accept, e.machine_accept, ?_, by simp [Instr.targets]⟩
      rw [hend]
      exact haccept
  injective x y hx hy hxy := by
    unfold laidAt at hxy
    split at hxy <;> split at hxy <;> omega

/-- The first instruction of an expression is laid where its code starts. -/
theorem laidAt_zero (e : Expr) (start next : Nat) : laidAt e start next 0 = start :=
  if_pos e.size_pos

/-- So it finds what that program finds. -/
theorem find_of_contains (hp : p.anchored = true) (hcode : p.Contains start (e.code start next))
    (haccept : p.code[next]? = some .accept) (hnext : next < start ∨ start + e.size ≤ next)
    (l : Place) : p.find [start] l = e.search l := by
  have hscan : p.scan ([0].map (laidAt e start next)) l.before none l.index l.rest = e.search l :=
    (embeds_machine hcode haccept hnext).scan rfl hp (by simp) l.rest
  rwa [List.map_singleton, laidAt_zero] at hscan

end Program

namespace Expr

open Program

variable {e f : Expr} {es bs : List Expr} {l : Place}

/-- Behind a fixed expression, the rest of a sequence is searched for. -/
theorem search_cat (he : e.fixed = true) (l : Place) :
    (cat e f).search l = (e.pass l).bind f.search := by
  have hcode := (cat e f).machine_contains_code
  have haccept := (cat e f).machine_accept
  have hclosed := (cat e f).machine_closedFrom
  have hsize := (cat e f).size_machine
  rw [size] at haccept hclosed hsize
  rw [code, size, contains_append, length_code, Nat.zero_add] at hcode
  have hmid : (cat e f).machine.ClosedFrom e.size :=
    hclosed.of_contains (by omega) hcode.2
  have hfind := find_fixed (p := (cat e f).machine) rfl he (by rw [Nat.zero_add]; exact hcode.1)
    (by rw [Nat.zero_add]; exact hmid) (by omega) l
  rw [Nat.zero_add] at hfind
  rw [search, hfind]
  congr 1
  funext l
  exact find_of_contains rfl hcode.2 haccept (.inr (Nat.le_refl _)) l

/-- Nothing leads back to the fork of a choice. -/
theorem closedFrom_alt (e f : Expr) : (alt e f).machine.ClosedFrom 1 := by
  intro x i hx hi y hy
  have hsize := (alt e f).size_machine
  rw [size] at hsize
  have hmem : i ∈ e.code 1 (alt e f).size ++ f.code (1 + e.size) (alt e f).size ++ [.accept] := by
    obtain ⟨k, rfl⟩ := Nat.exists_eq_add_of_le' hx
    rw [machine, program, List.getElem?_toArray, code] at hi
    simp only [List.cons_append, List.getElem?_cons_succ, Nat.zero_add] at hi
    exact List.mem_of_getElem? hi
  have he := e.size_pos
  have hf := f.size_pos
  rw [List.mem_append, List.mem_append, List.mem_singleton, size] at hmem
  rcases hmem with (hmem | hmem) | rfl
  · rcases e.targets_code _ _ i hmem y hy with h | h <;> omega
  · rcases f.targets_code _ _ i hmem y hy with h | h <;> omega
  · simp [Instr.targets] at hy

/-- A choice finds what its first branch finds, and only if that is nothing, what the second one
finds. -/
theorem search_alt (e f : Expr) (l : Place) :
    (alt e f).search l = (e.search l).or (f.search l) := by
  have hcode := (alt e f).machine_contains_code
  have haccept := (alt e f).machine_accept
  have hsize := (alt e f).size_machine
  rw [size] at haccept hsize
  rw [code, size, List.cons_append, contains_cons, contains_append, length_code,
    Nat.zero_add] at hcode
  obtain ⟨hfork, hfirst, hsecond⟩ := hcode
  have he := e.size_pos
  have hf := f.size_pos
  have h₁ := embeds_machine hfirst haccept (.inr (by omega))
  have h₂ := embeds_machine hsecond haccept (.inr (by omega))
  have hclosed := closedFrom_alt e f
  have hdisjoint : ∀ x y, x ≤ e.size → y ≤ f.size →
      laidAt e 1 (1 + e.size + f.size) x = laidAt f (1 + e.size) (1 + e.size + f.size) y →
      e.machine.code[x]? = some .accept := by
    intro x y hx hy hxy
    obtain rfl : x = e.size := by
      unfold laidAt at hxy
      split at hxy <;> split at hxy <;> omega
    exact e.machine_accept
  have hscan : (alt e f).machine.scan ([0].map (laidAt e 1 (1 + e.size + f.size)) ++
      [0].map (laidAt f (1 + e.size) (1 + e.size + f.size))) l.before none l.index l.rest =
        (e.search l).or (f.search l) :=
    h₁.scan_parallel h₂ hdisjoint rfl rfl rfl (by simp) (by simp) l.rest
  rw [List.map_singleton, List.map_singleton, laidAt_zero, laidAt_zero] at hscan
  rw [search, find_fork rfl hfork hclosed Nat.zero_lt_one (by omega) (by omega)]
  exact hscan

/-- So an expression finds what the first of its branches finds that finds anything. -/
theorem search_eq_findSome? (e : Expr) (l : Place) :
    e.search l = e.branches.findSome? (·.search l) := by
  induction e with
  | alt e f ihe ihf => rw [search_alt, branches, List.findSome?_append, ihe, ihf]
  | _ => simp [branches]

/-- The first branch of several choices that finds anything finds what the first such choice
finds. -/
theorem findSome?_search_flatMap_branches (es : List Expr) (l : Place) :
    (es.flatMap branches).findSome? (·.search l) = es.findSome? (·.search l) := by
  induction es with
  | nil => rfl
  | cons e es ih =>
    rw [List.flatMap_cons, List.findSome?_append, ih, ← search_eq_findSome?, List.findSome?_cons]
    cases e.search l <;> rfl

/-! ## Sequences -/

/-- Both expressions have the same code, wherever it is laid. -/
def SameCode (e f : Expr) : Prop := ∀ start next, e.code start next = f.code start next

/-- Expressions of the same code are of the same size. -/
theorem SameCode.size_eq (h : SameCode e f) : e.size = f.size := by
  rw [← e.length_code 0 0, ← f.length_code 0 0, h]

/-- So what is found for one is what is found for the other. -/
theorem SameCode.search_eq (h : SameCode e f) (l : Place) : e.search l = f.search l := by
  rw [search, search, machine, machine, program, program, h, h.size_eq]

/-- Sequences of the same code in front of the same code are of the same code. -/
theorem SameCode.cat {e' f' : Expr} (he : SameCode e e') (hf : SameCode f f') :
    SameCode (cat e f) (cat e' f') := by
  intro start next
  rw [code, code, he.size_eq, he, hf]

/-- How a sequence is grouped makes no difference to its code. -/
theorem sameCode_cat_assoc (e f g : Expr) : SameCode (cat (cat e f) g) (cat e (cat f g)) := by
  intro start next
  rw [code, code, code, code, size, List.append_assoc, Nat.add_assoc]

/-- A literal has the code of its parts in sequence. -/
theorem sameCode_literal_append (c : Char) (cs : Text) (d : Char) (ds : Text) :
    SameCode (literal c (cs ++ d :: ds)) (cat (literal c cs) (literal d ds)) := by
  intro start next
  change literalCode c (cs ++ d :: ds) start next =
    literalCode c cs start (start + (cs.length + 1)) ++
      literalCode d ds (start + (cs.length + 1)) next
  induction cs generalizing c start with
  | nil => rfl
  | cons b cs ih =>
    rw [List.cons_append, literalCode, ih, literalCode, List.cons_append, List.length_cons,
      Nat.add_assoc, Nat.add_comm 1]

/-- Joining literals leaves at least one expression, if there was one. -/
theorem joinLiterals_ne_nil {es : List Expr} (h : es ≠ []) : joinLiterals es ≠ [] := by
  fun_induction joinLiterals es <;> simp_all

/-- Joining literals leaves the code as it is. -/
theorem sameCode_ofParts_joinLiterals (es : List Expr) :
    SameCode (ofParts (joinLiterals es)) (ofParts es) := by
  have hcons {e : Expr} {es fs : List Expr} (hjoin : joinLiterals es = fs)
      (ih : SameCode (ofParts (joinLiterals es)) (ofParts es)) :
      SameCode (ofParts (e :: fs)) (ofParts (e :: es)) := by
    by_cases hnil : es = []
    · subst hnil hjoin
      exact fun _ _ => rfl
    · rw [ofParts_cons hnil, ofParts_cons (hjoin ▸ joinLiterals_ne_nil hnil)]
      exact SameCode.cat (fun _ _ => rfl) (hjoin ▸ ih)
  fun_induction joinLiterals es with
  | case1 => exact fun _ _ => rfl
  | case2 c cs es d ds fs hjoin ih =>
    refine fun start next => Eq.trans ?_ (hcons hjoin ih start next)
    cases fs with
    | nil => exact sameCode_literal_append c cs d ds start next
    | cons g gs =>
      exact (SameCode.cat (sameCode_literal_append c cs d ds) (fun _ _ => rfl) start next).trans
        (sameCode_cat_assoc _ _ (ofParts (g :: gs)) start next)
  | case3 c cs es _ ih => exact hcons rfl ih
  | case4 e es _ ih => exact hcons rfl ih

/-- The place behind fixed parts. -/
def passAll : List Expr → Place → Option Place
  | [], l => some l
  | p :: ps, l => (p.pass l).bind (passAll ps)

/-- Behind the fixed parts of a sequence, the other parts are searched for. -/
theorem search_ofParts_append {ps : List Expr} (hps : ∀ p ∈ ps, p.fixed = true) (qs : List Expr)
    (l : Place) : (ofParts (ps ++ qs)).search l = (passAll ps l).bind (ofParts qs).search := by
  induction ps generalizing l with
  | nil => rfl
  | cons p ps ih =>
    obtain ⟨hp, hps⟩ := List.forall_mem_cons.1 hps
    have hone : (ofParts (p :: (ps ++ qs))).search l =
        (p.pass l).bind (ofParts (ps ++ qs)).search := by
      by_cases hnil : ps ++ qs = []
      · rw [hnil]
        have hempty : (ofParts []).search = some ∘ Place.index := by
          funext l
          exact search_fixed rfl l
        rw [hempty, ← Option.map_eq_bind]
        exact search_fixed hp l
      · rw [ofParts_cons hnil, search_cat hp]
    rw [List.cons_append, hone, passAll, Option.bind_assoc]
    congr 1
    funext l
    exact ih hps l

/-! ## Choices between characters -/

/-- The place behind a character depends on what a set contains. -/
theorem take?_congr {s s' : CharSet} (h : ∀ c, s.contains c = s'.contains c) (l : Place) :
    l.take? s = l.take? s' := by
  unfold Place.take?
  split
  · rfl
  · rw [h]

/-- One character of a set is found where the next character is in it. -/
theorem search_ofSet {a : Alphabet} {s : CharSet}
    (hs : ∀ n, s.ranges = [(n, n)] → ∃ c : Char, c.toNat = n) (l : Place) :
    (ofSet a s).search l = (l.take? s).map Place.index := by
  unfold ofSet
  split
  · next hnil =>
    have hnone : ∀ c, CharSet.empty.contains c = s.contains c := fun c => by
      rw [CharSet.contains_empty, CharSet.contains, hnil, CharSet.holds_nil]
    rw [never, search_fixed rfl, pass, take?_congr hnone]
  · next lo hi hone =>
    split
    · next heq =>
      subst heq
      obtain ⟨c, rfl⟩ := hs lo hone
      have hsame : ∀ d, (CharSet.singleton c).contains d = s.contains d := fun d => by
        rw [CharSet.contains_singleton, CharSet.contains, hone, Bool.eq_iff_iff]
        simp only [CharSet.holds_cons, CharSet.holds_nil, Bool.or_false, Bool.and_eq_true,
          decide_eq_true_eq, ← Char.toNat_inj]
        omega
      rw [search_fixed rfl, pass, Place.takeAll?, Char.ofNat_toNat, take?_congr hsame]
      cases l.take? s <;> rfl
    · exact search_fixed rfl l
  · exact search_fixed rfl l

variable {ss : List CharSet} {g : Expr → Option CharSet}

/-- A union holds the code points that either set holds, be they characters or not. -/
theorem holds_union (s t : CharSet) (n : Nat) :
    CharSet.holds (s.union t).ranges n =
      (CharSet.holds s.ranges n || CharSet.holds t.ranges n) := by
  have hinsert (s : CharSet) (r : Nat × Nat) : CharSet.holds (s.insert r.1 r.2).ranges n =
      (decide (r.1 ≤ n) && decide (n ≤ r.2) || CharSet.holds s.ranges n) := by
    unfold CharSet.insert
    split
    · rw [CharSet.holds_insertRange ‹_› s.ascending, Bool.decide_and]
    · rw [← Bool.decide_and, decide_eq_false (by omega), Bool.false_or]
  rw [CharSet.union]
  induction t.ranges with
  | nil => simp [CharSet.insertAll]
  | cons r rs ih =>
    rw [CharSet.insertAll, List.foldr_cons, hinsert, ← CharSet.insertAll, ih, CharSet.holds_cons,
      Bool.or_left_comm]

/-- A union of sets holds the code points that one of them holds. -/
theorem holds_unionAll (ss : List CharSet) (n : Nat) :
    CharSet.holds (unionAll ss).ranges n = ss.any (CharSet.holds ·.ranges n) := by
  have hfold (u : CharSet) : CharSet.holds (ss.foldl CharSet.union u).ranges n =
      (CharSet.holds u.ranges n || ss.any (CharSet.holds ·.ranges n)) := by
    induction ss generalizing u with
    | nil => simp
    | cons s ss ih => rw [List.foldl_cons, ih, holds_union, List.any_cons, Bool.or_assoc]
  exact (hfold .empty).trans (Bool.false_or _)

/-- A union of sets holds the characters that one of them holds. -/
theorem contains_unionAll (ss : List CharSet) (c : Char) :
    (unionAll ss).contains c = ss.any (·.contains c) := holds_unionAll ss c.toNat

/-- Some set is found where their union is. -/
theorem findSome?_take? (ss : List CharSet) (l : Place) :
    ss.findSome? (fun s => (l.take? s).map Place.index) =
      (l.take? (unionAll ss)).map Place.index := by
  obtain ⟨before, index, rest⟩ := l
  cases rest with
  | nil => simp [Place.take?]
  | cons c t =>
    simp only [Place.take?, contains_unionAll]
    induction ss with
    | nil => rfl
    | cons s ss ih =>
      rw [List.findSome?_cons, ih, List.any_cons]
      cases s.contains c <;> simp

/-- What is made of a list is made of its members. -/
theorem exists_of_mapM (h : bs.mapM g = some ss) : ∀ s ∈ ss, ∃ b ∈ bs, g b = some s := by
  induction bs generalizing ss with
  | nil =>
    obtain rfl : [] = ss := by simpa using h
    simp
  | cons b bs ih =>
    rw [List.mapM_cons] at h
    obtain ⟨s, hs, h⟩ := Option.bind_eq_some_iff.1 h
    obtain ⟨ss', hss, h⟩ := Option.bind_eq_some_iff.1 h
    obtain rfl := Option.some.inj h
    intro t ht
    rcases List.mem_cons.1 ht with rfl | ht
    · exact ⟨b, List.mem_cons_self, hs⟩
    · obtain ⟨c, hc, hgc⟩ := ih hss t ht
      exact ⟨c, List.mem_cons_of_mem _ hc, hgc⟩

/-- If each branch finds the characters of its own set, the first branch that finds anything is that
of the first set that does. -/
theorem findSome?_of_mapM (h : bs.mapM g = some ss) {l : Place}
    (hg : ∀ b ∈ bs, ∀ s, g b = some s → b.search l = (l.take? s).map Place.index) :
    bs.findSome? (·.search l) = ss.findSome? fun s => (l.take? s).map Place.index := by
  induction bs generalizing ss with
  | nil =>
    obtain rfl : [] = ss := by simpa using h
    rfl
  | cons b bs ih =>
    rw [List.mapM_cons] at h
    obtain ⟨s, hs, h⟩ := Option.bind_eq_some_iff.1 h
    obtain ⟨ss', hss, h⟩ := Option.bind_eq_some_iff.1 h
    obtain rfl := Option.some.inj h
    obtain ⟨hb, hbs⟩ := List.forall_mem_cons.1 hg
    rw [List.findSome?_cons, List.findSome?_cons, hb s hs, ih hss hbs]

/-- A branch that is one character finds it. -/
theorem search_of_char? {e : Expr} {s : CharSet} (h : e.char? = some s) (l : Place) :
    e.search l = (l.take? s).map Place.index := by
  unfold char? at h
  split at h
  · obtain rfl := Option.some.inj h
    rw [search_fixed rfl, pass, Place.takeAll?]
    cases l.take? (.singleton _) <;> rfl
  · exact absurd h (by simp)

/-- A branch that is a set finds a character of it. -/
theorem search_of_set? {e : Expr} {s : CharSet} (h : e.set? = some s) (l : Place) :
    e.search l = (l.take? s).map Place.index := by
  unfold set? at h
  split at h
  · obtain rfl := Option.some.inj h
    exact search_fixed rfl l
  · exact absurd h (by simp)

/-- What a character is found as is a code point of a character. -/
theorem exists_of_char? {e : Expr} {s : CharSet} {n : Nat} (h : e.char? = some s)
    (hn : CharSet.holds s.ranges n = true) : ∃ c : Char, c.toNat = n := by
  unfold char? at h
  split at h
  · next c =>
    obtain rfl := Option.some.inj h
    refine ⟨c, ?_⟩
    simp [CharSet.singleton, CharSet.range, CharSet.insert, CharSet.insertRange,
      CharSet.empty] at hn
    omega
  · exact absurd h (by simp)

/-- A tidy branch that is a set is not a single character. -/
theorem Tidy.of_set? {e : Expr} {s : CharSet} (he : e.Tidy) (h : e.set? = some s) : wide s := by
  unfold set? at h
  split at h
  · obtain rfl := Option.some.inj h
    exact he
  · exact absurd h (by simp)

/-- Ascending ranges that hold one code point alone are one range. -/
theorem eq_singleton_of_holds {m n : Nat} {rs : List (Nat × Nat)} (hrs : ascendsFrom m rs = true)
    (h : ∀ k, CharSet.holds rs k = true ↔ k = n) : rs = [(n, n)] := by
  cases rs with
  | nil => exact absurd ((h n).2 rfl) (by simp)
  | cons r rs =>
    obtain ⟨a, b⟩ := r
    obtain ⟨-, hab, hrest⟩ := ascendsFrom_cons.1 hrs
    have ha : a = n := (h a).1 (by simp [hab])
    have hb : b = n := (h b).1 (by simp [hab])
    cases rs with
    | nil => rw [ha, hb]
    | cons r rs =>
      obtain ⟨c, d⟩ := r
      obtain ⟨hbc, hcd, -⟩ := ascendsFrom_cons.1 hrest
      have hc : c = n := (h c).1 (by simp [hcd])
      omega

/-- A union of sets holds more than one code point if they do. -/
theorem unionAll_wide (h : ∀ s ∈ ss, wide s) : wide (unionAll ss) := by
  intro n hone
  have hmem (k : Nat) : ss.any (CharSet.holds ·.ranges k) = true ↔ k = n := by
    rw [← holds_unionAll, hone]
    simp only [CharSet.holds_cons, CharSet.holds_nil, Bool.or_false, Bool.and_eq_true,
      decide_eq_true_eq]
    omega
  obtain ⟨s, hs, hn⟩ := List.any_eq_true.1 ((hmem n).2 rfl)
  refine h s hs n (eq_singleton_of_holds s.ascending fun k => ⟨fun hk => ?_, ?_⟩)
  · exact (hmem k).1 (List.any_eq_true.2 ⟨s, hs, hk⟩)
  · rintro rfl
    exact hn

/-- A choice finds what the first branch finds that finds anything. -/
theorem search_ofBranches (bs : List Expr) (l : Place) :
    (ofBranches bs).search l = bs.findSome? (·.search l) := by
  fun_induction ofBranches bs with
  | case1 =>
    rw [never, search_fixed rfl, pass]
    unfold Place.take?
    split <;> rfl
  | case2 b =>
    rw [List.findSome?_cons]
    cases b.search l <;> rfl
  | case3 b bs _ ih =>
    rw [search_alt, ih, List.findSome?_cons]
    cases b.search l <;> rfl

/-- A flat choice finds what the first branch finds that finds anything. -/
theorem search_flatChoice (h : ∀ b ∈ bs, b.Tidy) (l : Place) :
    (flatChoice bs).search l = bs.findSome? (·.search l) := by
  unfold flatChoice
  split
  · next e =>
    rw [List.findSome?_cons]
    cases e.search l <;> rfl
  · split
    · next ss hss =>
      have hone : ∀ n, (unionAll ss).ranges = [(n, n)] → ∃ c : Char, c.toNat = n := by
        intro n hn
        have hmem : ss.any (CharSet.holds ·.ranges n) = true := by
          rw [← holds_unionAll, hn]
          simp
        obtain ⟨s, hs, hholds⟩ := List.any_eq_true.1 hmem
        obtain ⟨b, -, hb⟩ := exists_of_mapM hss s hs
        exact exists_of_char? hb hholds
      rw [search_ofSet hone, findSome?_of_mapM hss fun b _ s hs => search_of_char? hs l,
        findSome?_take?]
    · next ss _ hss =>
      have hwide : wide (unionAll ss) := by
        refine unionAll_wide fun s hs => ?_
        obtain ⟨b, hb, hset⟩ := exists_of_mapM hss s hs
        exact (h b hb).of_set? hset
      rw [search_ofSet fun n hn => absurd hn (hwide n),
        findSome?_of_mapM hss fun b _ s hs => search_of_set? hs l, findSome?_take?]
    · exact search_ofBranches bs l

/-! ## Choices behind shared parts -/

/-- It makes no difference which of two functions is tried that agree on all members. -/
theorem findSome?_congr {g g' : Expr → Option Nat} (h : ∀ b ∈ bs, g b = g' b) :
    bs.findSome? g = bs.findSome? g' := by
  induction bs with
  | nil => rfl
  | cons b bs ih =>
    obtain ⟨hb, hbs⟩ := List.forall_mem_cons.1 h
    rw [List.findSome?_cons, List.findSome?_cons, hb, ih hbs]

/-- What is no sequence is taken apart into itself. -/
theorem flatMap_parts {ps : List Expr} (h : ∀ p ∈ ps, p.atomic = true) : ps.flatMap parts = ps := by
  induction ps with
  | nil => rfl
  | cons p ps ih =>
    obtain ⟨hp, hps⟩ := List.forall_mem_cons.1 h
    rw [List.flatMap_cons, parts_of_atomic hp, ih hps, List.singleton_append]

/-- Behind shared parts that leave no choice, a branch finds what it finds as a whole. -/
theorem search_branch {shared : List Expr} (hshared : ∀ p ∈ shared, p.fixed = true) {b : Expr}
    (hb : b.Tidy) (hfront : shared <+: b.parts) (l : Place) :
    b.search l = (passAll shared l).bind (ofParts (b.parts.drop shared.length)).search := by
  obtain ⟨rest, hrest⟩ := hfront
  rw [← search_ofParts_append hshared, ← hrest, List.drop_left, hrest, ofParts_parts hb]

/-- Where the parts that its branches share leave no choice, a choice finds what the first branch
finds that finds anything. -/
theorem search_choice (h : ∀ e ∈ es, e.Tidy)
    (hshared : ∀ p ∈ sharedParts (es.flatMap branches), p.fixed = true) (l : Place) :
    (choice es).search l = es.findSome? (·.search l) := by
  have hbs := tidy_flatMap_branches h
  rw [← findSome?_search_flatMap_branches]
  by_cases hnil : sharedParts (es.flatMap branches) = []
  · rw [choice_of_eq_nil hnil]
    exact search_flatChoice hbs l
  · have hrests := tidy_flatMap_branches (tidy_rests hbs)
    have hbehind (l : Place) :
        (flatChoice ((rests (es.flatMap branches)).flatMap branches)).search l =
          (rests (es.flatMap branches)).findSome? (·.search l) := by
      rw [search_flatChoice hrests, findSome?_search_flatMap_branches]
    have hatomic : (sharedParts (es.flatMap branches)).flatMap parts =
        sharedParts (es.flatMap branches) :=
      flatMap_parts fun p hp =>
        let ⟨_, _, hp⟩ := exists_of_mem_sharedParts hp
        atomic_of_mem_parts hp
    have hsequence : (choice es).search l =
        (passAll (sharedParts (es.flatMap branches)) l).bind fun l =>
          (rests (es.flatMap branches)).findSome? (·.search l) := by
      rw [choice_of_ne_nil hnil, sequence, (sameCode_ofParts_joinLiterals _).search_eq,
        List.flatMap_append, hatomic, search_ofParts_append hshared, List.flatMap_singleton,
        ofParts_parts (tidy_flatChoice hrests), funext hbehind]
    rw [hsequence]
    cases hpass : passAll (sharedParts (es.flatMap branches)) l with
    | none =>
      refine (List.findSome?_eq_none_iff.2 fun b hb => ?_).symm
      rw [search_branch hshared (hbs b hb) (sharedParts_isPrefix hb), hpass, Option.bind_none]
    | some l' =>
      rw [Option.bind_some, rests, List.findSome?_map]
      refine findSome?_congr fun b hb => ?_
      rw [search_branch hshared (hbs b hb) (sharedParts_isPrefix hb), hpass, Option.bind_some]
      rfl

end Expr

end ModalLexer.Regex
