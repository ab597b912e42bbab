import ModalLexer.Proofs.Regex.Reading.Escape

/-!
# Reading a class with more behind it

A class in brackets is closed by its bracket alone: what is behind it is left as it is, and a
parenthesis behind a class that is not closed does not close it (`agree_readClass`).
-/

namespace ModalLexer.Regex

variable {f : Flags} {t u : Text}

/-! ## The opening bracket -/

/-- Hyphens that end within a text end there with more behind it as well. -/
theorem readHyphens_append {comment : Bool} {n m : Nat} {c : Char} {cs : Text}
    (h : readHyphens f comment n t = (m, c :: cs)) (u : Text) :
    readHyphens f comment n (t ++ u) = (m, c :: (cs ++ u)) := by
  fun_induction readHyphens f comment n t with
  | case1 => exact absurd (congrArg Prod.snd h) (by simp)
  | case2 n d ds ih => simpa [readHyphens] using ih h
  | case3 comment n ds hcomment ih => simpa [readHyphens, hcomment] using ih h
  | case4 comment n d ds hcomment hd hblank ih =>
    simpa [readHyphens, hcomment, hd, hblank] using ih h
  | case5 comment n d ds hcomment hd hblank hhash ih =>
    simpa [readHyphens, hcomment, hd, hblank, hhash] using ih h
  | case6 comment n d ds hcomment hd hblank hhash =>
    obtain ⟨rfl, hcs⟩ := Prod.mk.inj h
    obtain ⟨rfl, rfl⟩ := List.cons.inj hcs
    simp [readHyphens, hcomment, hd, hblank, hhash]

/-- What is left behind hyphens is the end of the text. -/
theorem readHyphens_isSuffix (f : Flags) (comment : Bool) (n : Nat) (t : Text) :
    (readHyphens f comment n t).2 <:+ t := by
  fun_induction readHyphens f comment n t with
  | case1 => exact List.suffix_rfl
  | case6 => exact List.suffix_rfl
  | _ => exact List.IsSuffix.trans ‹_› (List.suffix_cons _ _)

/-- Hyphens that go on to the end of a text leave a parenthesis behind it, unless a comment takes it
in. -/
theorem readHyphens_paren {comment : Bool} {n : Nat} (h : (readHyphens f comment n t).2 = []) :
    (readHyphens f comment n (t ++ [')'])).2 <:+ [')'] := by
  fun_induction readHyphens f comment n t with
  | case1 comment n => exact readHyphens_isSuffix f comment n [')']
  | case2 n d ds ih => simpa [readHyphens] using ih h
  | case3 comment n ds hcomment ih => simpa [readHyphens, hcomment] using ih h
  | case4 comment n d ds hcomment hd hblank ih =>
    simpa [readHyphens, hcomment, hd, hblank] using ih h
  | case5 comment n d ds hcomment hd hblank hhash ih =>
    simpa [readHyphens, hcomment, hd, hblank, hhash] using ih h
  | case6 comment n d ds hcomment hd hblank hhash => exact absurd h (by simp)

/-- A caret is passed over, with white space behind it. -/
theorem readCaret_of_caret {cs : Text} (h : f.skip t = '^' :: cs) :
    readCaret f t = (true, f.skip cs) := by
  rw [readCaret, h]
  rfl

/-- Without a caret, nothing but white space is passed over. -/
theorem readCaret_of_ne (h : ∀ cs, f.skip t ≠ '^' :: cs) : readCaret f t = (false, f.skip t) := by
  unfold readCaret
  split
  · next cs hskip => exact absurd hskip (h cs)
  · rfl

/-- A caret is found, or not, in the same way with more behind what follows it. -/
theorem readCaret_append {c : Char} {cs : Text} (h : (readCaret f t).2 = c :: cs) (u : Text) :
    readCaret f (t ++ u) = ((readCaret f t).1, c :: (cs ++ u)) := by
  by_cases hcaret : ∃ ds, f.skip t = '^' :: ds
  · obtain ⟨ds, hskip⟩ := hcaret
    rw [readCaret_of_caret hskip] at h ⊢
    rw [readCaret_of_caret (f.skip_append_of_cons hskip u), f.skip_append_of_cons h]
  · have hne : ∀ ds, f.skip t ≠ '^' :: ds := fun ds hds => hcaret ⟨ds, hds⟩
    rw [readCaret_of_ne hne] at h ⊢
    have hskip := f.skip_append_of_cons h u
    rw [readCaret_of_ne, hskip]
    intro ds hds
    obtain ⟨rfl, -⟩ := List.cons.inj (hskip.symm.trans hds)
    exact hne cs h

/-- Where nothing follows the caret, a parenthesis behind the text is all that may follow it. -/
theorem readCaret_paren (h : (readCaret f t).2 = []) : (readCaret f (t ++ [')'])).2 <:+ [')'] := by
  have hsuffix {t : Text} (h : f.skip t = []) : f.skip (t ++ [')']) <:+ [')'] := by
    rcases f.skip_paren h with h | h <;> simp [h]
  by_cases hcaret : ∃ ds, f.skip t = '^' :: ds
  · obtain ⟨ds, hskip⟩ := hcaret
    rw [readCaret_of_caret hskip] at h
    rw [readCaret_of_caret (f.skip_append_of_cons hskip _)]
    exact hsuffix h
  · have hne : ∀ ds, f.skip t ≠ '^' :: ds := fun ds hds => hcaret ⟨ds, hds⟩
    rw [readCaret_of_ne hne] at h
    rw [readCaret_of_ne]
    · exact hsuffix h
    · intro ds hds
      rcases f.skip_paren h with h' | h' <;> rw [h'] at hds <;> simp at hds

/-- A bracket that is opened in front of a text is opened with more behind it as well. -/
theorem openBehind_append (negated : Bool) (n : Nat) (c : Char) (cs u : Text) :
    openBehind negated n (c :: (cs ++ u)) =
      ((openBehind negated n (c :: cs)).1, (openBehind negated n (c :: cs)).2 ++ u) := by
  cases n with
  | zero =>
    by_cases hc : c = ']'
    · subst hc
      rfl
    · simp [openBehind, hc]
  | succ n => rfl

/-- What is left behind the opening of a bracket is the end of the text. -/
theorem openBehind_isSuffix (negated : Bool) (n : Nat) (t : Text) :
    (openBehind negated n t).2 <:+ t := by
  unfold openBehind
  split <;> simp

/-- What belongs to an opening bracket ends within a text, or a parenthesis behind the text is all
that may be left of it. -/
theorem openBracket_append (f : Flags) (t : Text) :
    (∀ u, openBracket f (t ++ u) = ((openBracket f t).1, (openBracket f t).2 ++ u)) ∨
      (openBracket f t).2 = [] ∧ (openBracket f (t ++ [')'])).2 <:+ [')'] := by
  have hbehind {negated : Bool} {n : Nat} {t : Text} (h : t <:+ [')']) :
      (openBehind negated n t).2 <:+ [')'] := (openBehind_isSuffix negated n t).trans h
  simp only [openBracket]
  cases hcaret : (readCaret f t).2 with
  | nil =>
    exact .inr ⟨rfl, hbehind ((readHyphens_isSuffix _ _ _ _).trans (readCaret_paren hcaret))⟩
  | cons c cs =>
    cases hread : readHyphens f false 0 (c :: cs) with
    | mk n rest =>
      cases rest with
      | nil =>
        refine .inr ⟨by cases n <;> rfl, hbehind ?_⟩
        rw [readCaret_append hcaret, ← List.cons_append]
        exact readHyphens_paren (congrArg Prod.snd hread)
      | cons d ds =>
        refine .inl fun u => ?_
        rw [readCaret_append hcaret, ← List.cons_append, readHyphens_append hread]
        exact openBehind_append _ n d ds u

/-! ## Names of sets -/

/-- No set has a parenthesis or a bar in its name. -/
theorem namedSet?_eq_none {name : Text} (h : ')' ∈ name ∨ '|' ∈ name) :
    namedSet? (String.ofList name) = none := by
  have hnot (s : String) (hs : ')' ∉ s.toList ∧ '|' ∉ s.toList) : String.ofList name ≠ s := by
    rintro rfl
    rw [String.toList_ofList] at hs
    exact h.elim hs.1 hs.2
  unfold namedSet?
  split
  -- Any other name is that of no set,
  case h_15 => rfl
  -- and the fourteen names of sets hold neither character.
  all_goals
    next hname => exact absurd hname (hnot _ (by decide))

/-- A caret in front of the name of a set takes the complement. -/
theorem readNamedSet?_caret (f : Flags) (t : Text) :
    readNamedSet? f (':' :: '^' :: t) = namedSetAt? f true t := rfl

/-- Without a caret, the set itself is taken. -/
theorem readNamedSet?_of_ne (f : Flags) (h : t.head? ≠ some '^') :
    readNamedSet? f (':' :: t) = namedSetAt? f false t := by
  cases t with
  | nil => rfl
  | cons c t =>
    have hc : c ≠ '^' := by simpa using h
    simp [readNamedSet?, hc]

/-- The name of a set is ended by a colon and a closing bracket. -/
theorem namedSetAt?_eq_none {negated : Bool}
    (h : ∀ rest, t.dropWhile (· != ':') ≠ ':' :: ']' :: rest) : namedSetAt? f negated t = none := by
  unfold namedSetAt?
  split
  · next rest hdrop => exact absurd hdrop (h rest)
  · rfl

/-- The set of a name that is ended so is looked up. -/
theorem namedSetAt?_eq_some {negated : Bool} {rest : Text}
    (h : t.dropWhile (· != ':') = ':' :: ']' :: rest) :
    namedSetAt? f negated t = (namedSet? (String.ofList (t.takeWhile (· != ':')))).map fun s =>
      (if negated then (f.close s).compl else f.close s, rest) := by
  unfold namedSetAt?
  rw [h]
  cases namedSet? (String.ofList (t.takeWhile (· != ':'))) <;> rfl

/-- The name of a set is read in the same way with more behind it. -/
theorem namedSetAt?_append (hu : Stops u) (f : Flags) (negated : Bool) (t : Text) :
    namedSetAt? f negated (t ++ u) =
      (namedSetAt? f negated t).map fun (s, rest) => (s, rest ++ u) := by
  have hhead : ∃ d v, u = d :: v ∧ (d = ')' ∨ d = '|') := by
    obtain ⟨v, rfl | rfl⟩ := hu
    · exact ⟨_, v, rfl, .inl rfl⟩
    · exact ⟨_, v, rfl, .inr rfl⟩
  obtain ⟨d, v, rfl, hd⟩ := hhead
  have hdrop := @List.dropWhile_append _ (· != ':') t (d :: v)
  have htake := @List.takeWhile_append _ (· != ':') t (d :: v)
  cases hown : t.dropWhile (· != ':') with
  | nil =>
    -- The name takes in the character behind the text, and no set has such a name.
    rw [namedSetAt?_eq_none (t := t) (by simp [hown])]
    have hall : t.takeWhile (· != ':') = t := by
      have := @List.takeWhile_append_dropWhile _ (· != ':') t
      rwa [hown, List.append_nil] at this
    have hname : (d :: v).takeWhile (· != ':') = d :: v.takeWhile (· != ':') :=
      List.takeWhile_cons_of_pos (by rcases hd with rfl | rfl <;> rfl)
    rw [if_pos (congrArg List.length hall), hname] at htake
    by_cases hclosed : ∃ rest, (t ++ d :: v).dropWhile (· != ':') = ':' :: ']' :: rest
    · obtain ⟨rest, hclosed⟩ := hclosed
      rw [namedSetAt?_eq_some hclosed, htake, namedSet?_eq_none]
      · rfl
      · rcases hd with rfl | rfl <;> simp
    · exact namedSetAt?_eq_none fun rest hrest => hclosed ⟨rest, hrest⟩
  | cons c cs =>
    have hshort : (t.takeWhile (· != ':')).length ≠ t.length := by
      have := congrArg List.length (@List.takeWhile_append_dropWhile _ (· != ':') t)
      rw [hown, List.length_append, List.length_cons] at this
      omega
    rw [hown, List.isEmpty_cons, if_neg (by simp)] at hdrop
    rw [if_neg hshort] at htake
    by_cases hclosed : ∃ rest, c :: cs = ':' :: ']' :: rest
    · obtain ⟨rest, hclosed⟩ := hclosed
      rw [hclosed] at hown hdrop
      rw [namedSetAt?_eq_some hown, namedSetAt?_eq_some hdrop, htake, Option.map_map]
      rfl
    · rw [namedSetAt?_eq_none (t := t) fun rest hrest => hclosed ⟨rest, hown.symm.trans hrest⟩]
      refine namedSetAt?_eq_none fun rest hrest => hclosed ?_
      rw [hdrop] at hrest
      cases cs with
      | nil =>
        obtain ⟨-, hbehind⟩ := List.cons.inj hrest
        obtain ⟨rfl, -⟩ := List.cons.inj hbehind
        rcases hd with hd | hd <;> exact absurd hd (by decide)
      | cons e es =>
        obtain ⟨rfl, hbehind⟩ := List.cons.inj hrest
        obtain ⟨rfl, -⟩ := List.cons.inj hbehind
        exact ⟨es, rfl⟩

/-- A set that is named in brackets is read in the same way with more behind it. -/
theorem readNamedSet?_append (hu : Stops u) (f : Flags) (t : Text) :
    readNamedSet? f (t ++ u) = (readNamedSet? f t).map fun (s, rest) => (s, rest ++ u) := by
  have hhead : u.head? ≠ some '^' ∧ u.head? ≠ some ':' := by
    obtain ⟨v, rfl | rfl⟩ := hu <;> simp
  have hne {t : Text} (h : t.head? ≠ some ':') : readNamedSet? f t = none := by
    cases t with
    | nil => rfl
    | cons c t =>
      have hc : c ≠ ':' := by simpa using h
      simp [readNamedSet?, hc]
  cases t with
  | nil =>
    rw [hne (t := []) (by simp)]
    exact hne hhead.2
  | cons c t =>
    by_cases hc : c = ':'
    · subst hc
      by_cases hcaret : t.head? = some '^'
      · obtain ⟨t, rfl⟩ : ∃ t', t = '^' :: t' := by
          cases t <;> simp_all
        simp only [List.cons_append, readNamedSet?_caret, namedSetAt?_append hu]
      · have hcaret' : (t ++ u).head? ≠ some '^' := by
          cases t with
          | nil => exact hhead.1
          | cons c t => exact hcaret
        rw [List.cons_append, readNamedSet?_of_ne f hcaret, readNamedSet?_of_ne f hcaret',
          namedSetAt?_append hu]
    · rw [hne (by simpa using hc), hne (by simpa using hc)]
      rfl

/-! ## Items and ranges -/

/-- An item that is not complete takes the parenthesis in, or is an assertion in front of braces. -/
theorem agree_readItem (hu : Stops u) (f : Flags) (t : Text) :
    Agree u (fun a rest => rest = [] ∨ (∃ b, a = .assertion b) ∧ Unclosed f rest) (readItem f t)
      (readItem f (t ++ u)) := by
  cases t with
  | nil =>
    rintro rfl x rest hwide
    obtain ⟨-, rfl⟩ := Prod.mk.inj (Except.ok.inj hwide)
    exact .inl rfl
  | cons c cs =>
    by_cases hc : c = '\\'
    · subst hc
      exact (agree_readEscape hu f cs).imp fun a rest h => h.imp_right fun h => ⟨h.1, h.2.1⟩
    · simp [readItem, Agree]

/-- The first character that counts in a text counts with more behind it. -/
theorem peek_append {comment : Bool} {c : Char} (h : peek f comment t = some c) (u : Text) :
    peek f comment (t ++ u) = some c := by
  fun_induction peek f comment t <;> simp_all [peek]

/-- A text in which nothing counts is white space, with a comment perhaps. -/
theorem dropBlank_eq_nil_of_peek {comment : Bool} (h : peek f comment t = none) :
    dropBlank false t = [] ∧ (comment = true → dropBlank true t = []) := by
  fun_induction peek f comment t with
  | case1 => simp [dropBlank]
  | case2 => exact absurd h (by simp)
  | case3 comment c cs hx hblank ih =>
    obtain ⟨hfalse, htrue⟩ := ih h
    refine ⟨by simp [dropBlank, hblank, hfalse], fun hcomment => ?_⟩
    cases hc : c != '\n' <;> simp [dropBlank, hc, hfalse, htrue hcomment]
  | case4 comment c cs hx hblank hhash ih =>
    obtain ⟨rfl, rfl⟩ : c = '#' ∧ comment = false := by simpa using hhash
    exact ⟨by simpa [dropBlank, hblank] using (ih h).2 rfl, fun h => absurd h (by simp)⟩
  | case5 => exact absurd h (by simp)

/-- Nothing is left of such a text. -/
theorem skip_eq_nil_of_peek (h : peek f false t = none) : f.skip t = [] := by
  unfold Flags.skip
  split
  · exact (dropBlank_eq_nil_of_peek h).1
  · next hx =>
    cases t with
    | nil => rfl
    | cons c cs => simp [peek, hx] at h

/-- Behind such a text, a parenthesis counts. -/
theorem peek_paren {comment : Bool} (h : peek f comment t = none) :
    peek f comment (t ++ [')']) = some ')' := by
  have hblank : CharSet.whiteSpace.contains ')' = false := rfl
  fun_induction peek f comment t <;> simp_all [peek]

/-- What an item or a range is taken for in front of a parenthesis, if it is not complete: at most
the parenthesis is left. -/
def LeavesParen {α : Type} (_ : α) (rest : Text) : Prop := rest.length ≤ 1

/-- Braces are no white space. -/
theorem skip_brace (f : Flags) (cs : Text) : f.skip ('\x7b' :: cs) = '\x7b' :: cs := by
  unfold Flags.skip
  split <;> rfl

/-- A range is read on in the same way with more behind it. One that is not complete takes the
parenthesis in. -/
theorem agree_readLast (hu : Stops u) (f : Flags) (first : Atom) (cs : Text) :
    Agree u LeavesParen (readLast f first cs) (readLast f first (cs ++ u)) := by
  rcases f.skip_append_stops hu cs with hskip | ⟨hnil, -, hskip⟩
  · rw [readLast, readLast, hskip]
    refine (agree_readItem hu f (f.skip cs)).bind (fun last rest => ?_) ?_
    · dsimp only
      split
      · split
        · rfl
        · exact agree_error _ fun _ => ⟨_, rfl⟩
      · exact agree_error _ fun _ => ⟨_, rfl⟩
    · rintro last rest s rest' (rfl | ⟨⟨a, rfl⟩, -⟩) hok
      · dsimp only at hok
        split at hok
        · split at hok
          · obtain ⟨-, rfl⟩ := Prod.mk.inj (Except.ok.inj hok)
            exact Nat.zero_le 1
          · exact absurd hok (by simp)
        · exact absurd hok (by simp)
      · exact absurd hok (by simp)
  · have herror {t : Text} (h : f.skip t = []) : readLast f first t = .error .classUnclosed := by
      rw [readLast, h]
      rfl
    rw [herror hnil]
    exact agree_error _ fun hu => ⟨_, herror (hskip hu)⟩

/-- A hyphen makes a range, unless the class ends behind it or a second one follows. -/
theorem readBehind_hyphen {first : Atom} {rest cs : Text} (h : f.skip rest = '-' :: cs) :
    readBehind f first rest =
      if peek f false cs = some ']' ∨ peek f false cs = some '-' then
        first.item >>= fun s => .ok (s, '-' :: cs)
      else readLast f first cs := by
  simp only [readBehind, h]
  split <;> simp_all

/-- Without a hyphen, an item stands alone. -/
theorem readBehind_of_ne {first : Atom} {rest cs : Text} {c : Char} (h : f.skip rest = c :: cs)
    (hc : c ≠ '-') : readBehind f first rest = first.item >>= fun s => .ok (s, c :: cs) := by
  rw [readBehind, h]
  split <;> simp_all

/-- What stands behind an item is read in the same way with more behind it, whether it makes a range
or not. -/
theorem agree_readBehind (hu : Stops u) (f : Flags) (first : Atom) (rest : Text) :
    Agree u LeavesParen (readBehind f first rest) (readBehind f first (rest ++ u)) := by
  cases hskip : f.skip rest with
  | nil =>
    rw [readBehind, hskip]
    rintro rfl s rest' hwide
    rcases f.skip_paren hskip with h | h
    · rw [readBehind_of_ne h (by decide)] at hwide
      cases hitem : first.item with
      | error e => exact absurd hwide (by simp [hitem, Bind.bind, Except.bind])
      | ok s =>
        rw [hitem] at hwide
        obtain ⟨-, rfl⟩ := Prod.mk.inj (Except.ok.inj hwide)
        exact Nat.le_refl 1
    · rw [readBehind, h] at hwide
      exact absurd hwide (by simp)
  | cons c cs =>
    have hwide := f.skip_append_of_cons hskip u
    by_cases hc : c = '-'
    · subst hc
      rw [readBehind_hyphen hskip, readBehind_hyphen hwide]
      cases hpeek : peek f false cs with
      | some d =>
        rw [peek_append hpeek]
        split
        · exact agree_map _ id ('-' :: cs)
        · exact agree_readLast hu f first cs
      | none =>
        have hown : readLast f first cs = .error .classUnclosed := by
          rw [readLast, skip_eq_nil_of_peek hpeek]
          rfl
        rw [if_neg (by simp), hown]
        rintro rfl
        rw [peek_paren hpeek, if_neg (by simp)]
        have hagree := agree_readLast hu f first cs
        rw [hown] at hagree
        exact hagree rfl
    · rw [readBehind_of_ne hskip hc, readBehind_of_ne hwide hc]
      exact agree_map _ id (c :: cs)

/-- An item or a range is read in the same way with more behind it. One that is not complete leaves
at most the parenthesis. -/
theorem agree_readRange (hu : Stops u) (f : Flags) (t : Text) :
    Agree u LeavesParen (readRange f t) (readRange f (t ++ u)) := by
  refine (agree_readItem hu f t).bind (fun first rest => agree_readBehind hu f first rest) ?_
  rintro first rest s rest' (rfl | ⟨⟨a, rfl⟩, cs, rfl, -⟩) hok
  · simp only [readBehind, f.skip_nil] at hok
    exact absurd hok (by simp)
  · simp only [readBehind, skip_brace] at hok
    exact absurd hok (by simp [Atom.item, Bind.bind, Except.bind])

/-! ## Whole classes -/

/-- A parenthesis does not close a class either. -/
theorem readBrackets_paren {b : Bracket} {outer : List Bracket} {n : Nat} (h : t.length ≤ n) :
    readBrackets f b outer n (t ++ [')']) = .error .classUnclosed := by
  induction t generalizing n with
  | nil =>
    cases n with
    | succ n => rfl
    | zero =>
      have hblank : CharSet.whiteSpace.contains ')' = false := rfl
      have hrange : readRange f [')'] = .error .classUnclosed := by
        change readBehind f (.char ')') [] = _
        rw [readBehind, f.skip_nil]
      simp [readBrackets, hblank, hrange]
  | cons c cs ih =>
    cases n with
    | zero => exact absurd h (by simp)
    | succ n => rw [List.cons_append, readBrackets, ih (Nat.le_of_succ_le_succ h)]

/-- What is skipped of a text is skipped of it with more behind it. -/
theorem length_sub_append (cs rest u : Text) :
    (cs ++ u).length - (rest ++ u).length = cs.length - rest.length := by
  rw [List.length_append, List.length_append]
  omega

/-- Where nothing of the text is left, the class is not closed, nor is it by a parenthesis. -/
theorem agree_of_length_le {b b' : Bracket} {outer outer' : List Bracket} {n n' : Nat}
    (hn : t.length ≤ n) (hn' : u = [')'] → t.length ≤ n') :
    Agree u Never (readBrackets f b outer n t) (readBrackets f b' outer' n' (t ++ u)) := by
  rw [readBrackets_of_length_le hn]
  refine agree_error _ fun hu => ?_
  subst hu
  exact ⟨_, readBrackets_paren (hn' rfl)⟩

/-- What ends a branch is no second half of an operation. -/
theorem ofChar?_head_append (hu : Stops u) (c : Char) (cs : Text) :
    (if (cs ++ u).head? = some c then SetOp.ofChar? c else none) =
      if cs.head? = some c then SetOp.ofChar? c else none := by
  cases cs with
  | cons d ds => rfl
  | nil =>
    have hnone {d : Char} (hd : SetOp.ofChar? d = none) :
        (if some d = some c then SetOp.ofChar? c else none) = none := by
      split
      · next hc => exact Option.some.inj hc ▸ hd
      · rfl
    obtain ⟨v, rfl | rfl⟩ := hu <;> exact hnone rfl

/-! ### One character of a class -/

section Equations

variable {b : Bracket} {outer : List Bracket} {c : Char} {cs : Text}

variable (hblank : ¬(f.extended && CharSet.whiteSpace.contains c) = true)

include hblank

/-- A comment is passed over where it is for show only. -/
theorem readBrackets_comment (hhash : (f.extended && decide (c = '#')) = true) :
    readBrackets f b outer 0 (c :: cs) =
      readBrackets f b outer (cs.length - (dropBlank true cs).length) cs := by
  rw [readBrackets.eq_def f b outer 0 (c :: cs)]
  dsimp only
  rw [if_neg hblank, if_pos hhash]

variable (hhash : ¬(f.extended && decide (c = '#')) = true)

include hhash

/-- The name of a set is an item. -/
theorem readBrackets_named {s : CharSet} {rest : Text} (hopen : c = '[')
    (hname : readNamedSet? f cs = some (s, rest)) :
    readBrackets f b outer 0 (c :: cs) = b.add f ⟨s, 0⟩ >>= fun b =>
      readBrackets f b outer (cs.length - rest.length) cs := by
  rw [readBrackets.eq_def f b outer 0 (c :: cs)]
  dsimp only
  rw [if_neg hblank, if_neg hhash, if_pos hopen, hname]
  dsimp only
  cases b.add f ⟨s, 0⟩ <;> rfl

/-- Any other opening bracket begins a class in the class. -/
theorem readBrackets_nested (hopen : c = '[') (hname : readNamedSet? f cs = none) :
    readBrackets f b outer 0 (c :: cs) = readBrackets f (openBracket f cs).1 (b :: outer)
      (cs.length - (openBracket f cs).2.length) cs := by
  rw [readBrackets.eq_def f b outer 0 (c :: cs)]
  dsimp only
  rw [if_neg hblank, if_neg hhash, if_pos hopen, hname]

/-- A closing bracket ends the outermost class. -/
theorem readBrackets_close (hclose : c = ']') : readBrackets f b [] 0 (c :: cs) =
    .ok (b.value f, cs) := by
  subst hclose
  rw [readBrackets.eq_def f b [] 0 (']' :: cs)]
  dsimp only
  rw [if_neg hblank, if_neg hhash, if_neg (by decide), if_pos rfl]

/-- A closing bracket makes an item of an inner class. -/
theorem readBrackets_closeInner (hclose : c = ']') (o : Bracket) :
    readBrackets f b (o :: outer) 0 (c :: cs) = o.add f (b.value f) >>= fun o =>
      readBrackets f o outer 0 cs := by
  subst hclose
  rw [readBrackets.eq_def f b (o :: outer) 0 (']' :: cs)]
  dsimp only
  rw [if_neg hblank, if_neg hhash, if_neg (by decide), if_pos rfl]
  cases o.add f (b.value f) <;> rfl

variable (hopen : ¬c = '[') (hclose : ¬c = ']')

include hopen hclose

/-- Two copies of the character of an operation start its second operand. -/
theorem readBrackets_operation {op : SetOp}
    (hop : (if cs.head? = some c then SetOp.ofChar? c else none) = some op) :
    readBrackets f b outer 0 (c :: cs) = readBrackets f (b.operate f op) outer 1 cs := by
  rw [readBrackets.eq_def f b outer 0 (c :: cs)]
  dsimp only
  rw [if_neg hblank, if_neg hhash, if_neg hopen, if_neg hclose, hop]

/-- All else is an item or a range. -/
theorem readBrackets_range
    (hop : (if cs.head? = some c then SetOp.ofChar? c else none) = none) :
    readBrackets f b outer 0 (c :: cs) = readRange f (c :: cs) >>= fun r =>
      b.add f ⟨r.1, 0⟩ >>= fun b => readBrackets f b outer (cs.length - r.2.length) cs := by
  rw [readBrackets.eq_def f b outer 0 (c :: cs)]
  dsimp only
  rw [if_neg hblank, if_neg hhash, if_neg hopen, if_neg hclose, hop]
  cases readRange f (c :: cs) with
  | error e => rfl
  | ok r =>
    dsimp only [Bind.bind, Except.bind]
    cases b.add f ⟨r.1, 0⟩ <;> rfl

end Equations

/-- Where a text is left with nothing but the parenthesis, the class is not closed. -/
theorem agree_of_bind_error {b : Bracket} {outer : List Bracket} {cs : Text} {e : SyntaxError}
    {wide : Except SyntaxError (CharSet × Text)}
    (h : Agree u LeavesParen (.error e : Except SyntaxError (CharSet × Text)) wide) :
    Agree u Never (.error e : Except SyntaxError (ClassPart × Text)) (wide >>= fun r =>
      b.add f ⟨r.1, 0⟩ >>= fun b =>
        readBrackets f b outer ((cs ++ u).length - r.2.length) (cs ++ u)) := by
  refine agree_error _ ?_
  rintro rfl
  cases wide with
  | error e => exact ⟨e, rfl⟩
  | ok r =>
    have hle : r.2.length ≤ 1 := h rfl r.1 r.2 rfl
    simp only [Bind.bind, Except.bind]
    cases b.add f ⟨r.1, 0⟩ with
    | error e => exact ⟨e, rfl⟩
    | ok b =>
      refine ⟨_, readBrackets_paren ?_⟩
      rw [List.length_append]
      simp only [List.length_cons, List.length_nil]
      omega

/-- A class is read on in the same way with more behind it, and a parenthesis does not close it. -/
theorem agree_readBrackets (hu : Stops u) (f : Flags) (b : Bracket) (outer : List Bracket) (n : Nat)
    (t : Text) :
    Agree u Never (readBrackets f b outer n t) (readBrackets f b outer n (t ++ u)) := by
  -- A part that cannot be added cannot be added with more behind it.
  have herror (e : SyntaxError) (k : Bracket → Except SyntaxError (ClassPart × Text)) :
      Agree u Never (.error e) ((.error e : Except SyntaxError Bracket) >>= k) :=
    agree_error e fun _ => ⟨e, rfl⟩
  fun_induction readBrackets f b outer n t with
  | case1 b outer n =>
    refine agree_error _ ?_
    rintro rfl
    exact ⟨_, readBrackets_paren (t := []) (Nat.zero_le n)⟩
  | case2 b outer n c cs ih => exact ih
  | case3 b outer c cs hblank ih =>
    rw [List.cons_append, readBrackets_blank hblank]
    exact ih
  | case4 b outer c cs hblank hhash ih =>
    rw [List.cons_append, readBrackets_comment hblank hhash]
    rcases dropBlank_append true cs with ⟨d, ds, hown, hwide⟩ | ⟨hown, comment, hwide⟩
    · rw [hown] at ih ⊢
      rw [hwide u, ← List.cons_append, length_sub_append]
      exact ih
    · rw [hown, hwide u]
      refine agree_of_length_le (Nat.le_refl _) ?_
      rintro rfl
      have hle := length_dropBlank_le comment [')']
      rw [List.length_append]
      omega
  | case5 b outer cs s rest hname e hadd hblank hhash =>
    have hwide := readNamedSet?_append hu f cs
    rw [hname] at hwide
    rw [List.cons_append, readBrackets_named hblank hhash rfl hwide, hadd]
    exact herror e _
  | case6 b outer cs s rest hname b' hadd hblank hhash ih =>
    have hwide := readNamedSet?_append hu f cs
    rw [hname] at hwide
    rw [List.cons_append, readBrackets_named hblank hhash rfl hwide, hadd, length_sub_append]
    exact ih
  | case7 b outer cs hname inner rest hopen hblank hhash ih =>
    have hwide := readNamedSet?_append hu f cs
    rw [hname] at hwide
    rw [List.cons_append, readBrackets_nested hblank hhash rfl hwide]
    rcases openBracket_append f cs with hwide | ⟨hnil, hsuffix⟩
    · rw [hwide u, hopen, length_sub_append]
      exact ih
    · rw [hopen] at hnil
      obtain rfl : rest = [] := hnil
      refine agree_of_length_le (Nat.le_refl _) ?_
      rintro rfl
      have hle := hsuffix.length_le
      rw [List.length_append]
      omega
  | case8 b cs hblank hhash hopen =>
    rw [List.cons_append, readBrackets_close hblank hhash rfl]
    rfl
  | case9 b cs o outer e hadd hblank hhash hopen =>
    rw [List.cons_append, readBrackets_closeInner hblank hhash rfl, hadd]
    exact herror e _
  | case10 b cs o outer b' hadd hblank hhash hopen ih =>
    rw [List.cons_append, readBrackets_closeInner hblank hhash rfl, hadd]
    exact ih
  | case11 b outer c cs hblank hhash hopen hclose op hop ih =>
    rw [List.cons_append, readBrackets_operation hblank hhash hopen hclose
      ((ofChar?_head_append hu c cs).trans hop)]
    exact ih
  | case12 b outer c cs hblank hhash hopen hclose hop e hread =>
    have hagree := agree_readRange hu f (c :: cs)
    rw [hread] at hagree
    rw [List.cons_append, readBrackets_range hblank hhash hopen hclose
      ((ofChar?_head_append hu c cs).trans hop)]
    exact agree_of_bind_error hagree
  | case13 b outer c cs hblank hhash hopen hclose hop s rest hread e hadd =>
    have hwide := agree_readRange hu f (c :: cs)
    rw [hread] at hwide
    rw [List.cons_append, readBrackets_range hblank hhash hopen hclose
      ((ofChar?_head_append hu c cs).trans hop), ← List.cons_append, show _ = _ from hwide]
    simp only [Bind.bind, Except.bind, hadd]
    exact agree_error e fun _ => ⟨e, rfl⟩
  | case14 b outer c cs hblank hhash hopen hclose hop s rest hread b' hadd ih =>
    have hwide := agree_readRange hu f (c :: cs)
    rw [hread] at hwide
    rw [List.cons_append, readBrackets_range hblank hhash hopen hclose
      ((ofChar?_head_append hu c cs).trans hop), ← List.cons_append, show _ = _ from hwide]
    simp only [Bind.bind, Except.bind, hadd, length_sub_append]
    exact ih

/-- A class is read in the same way with more behind it, and a parenthesis does not close it. -/
theorem agree_readClass (hu : Stops u) (f : Flags) (t : Text) :
    Agree u Never (readClass f t) (readClass f (t ++ u)) := by
  simp only [readClass]
  rcases openBracket_append f t with hwide | ⟨hnil, hsuffix⟩
  · rw [hwide u]
    exact agree_readBrackets hu f _ [] 0 _
  · rw [hnil, readBrackets_of_length_le (Nat.zero_le 0)]
    refine agree_error _ ?_
    rintro rfl
    rcases List.suffix_cons_iff.1 hsuffix with hparen | hempty
    · rw [hparen]
      exact ⟨_, readBrackets_paren (t := []) (Nat.zero_le 0)⟩
    · rw [List.suffix_nil.1 hempty]
      exact ⟨_, readBrackets_of_length_le (Nat.zero_le 0)⟩

end ModalLexer.Regex
