import ModalLexer.Proofs.Regex.Reading.Bracket

/-!
# Reading an element with more behind it

An element that is complete is read in the same way in front of a closing parenthesis or a bar,
which is left unread, unless a comment at its end takes that in (`follows_readAction`). One that is
not complete is not completed by a parenthesis, or has the parenthesis for its last character.
-/

namespace ModalLexer.Regex

variable {f : Flags} {t u : Text}

/-! ## Groups and flags -/

/-- Flags that end within a text end there with more behind it as well. -/
theorem readFlags_append {g : Flags} {seen : List Char} {on opens : Bool} {rest : Text}
    (h : readFlags f seen on t = .ok (g, opens, rest)) (u : Text) :
    readFlags f seen on (t ++ u) = .ok (g, opens, rest ++ u) := by
  fun_induction readFlags f seen on t <;> simp_all [readFlags]

/-- A parenthesis with no flags in front of it ends them, if anything does. -/
theorem readFlags_nil (seen : List Char) (on : Bool) :
    ∀ g opens rest, readFlags f seen on [')'] = .ok (g, opens, rest) →
      opens = false ∧ rest = [] := by
  intro g opens rest h
  simp only [readFlags, if_neg (show ')' ≠ ':' by decide), if_true] at h
  split at h
  · exact absurd h (by simp)
  · split at h
    · exact absurd h (by simp)
    · exact ⟨(congrArg (·.2.1) (Except.ok.inj h)).symm, (congrArg (·.2.2) (Except.ok.inj h)).symm⟩

/-- Flags that do not end within a text are ended by a parenthesis behind it, if by anything. -/
theorem readFlags_paren {e : SyntaxError} {seen : List Char} {on : Bool}
    (h : readFlags f seen on t = .error e) :
    ∀ g opens rest, readFlags f seen on (t ++ [')']) = .ok (g, opens, rest) →
      opens = false ∧ rest = [] := by
  fun_induction readFlags f seen on t with
  | case1 f seen on => exact readFlags_nil seen on
  | case8 f seen on cs h₁ h₂ h₃ ih =>
    intro g opens rest hwide
    simp only [List.cons_append, readFlags, h₁, h₂, h₃] at hwide
    exact ih h g opens rest hwide
  | case9 f seen on c cs h₁ h₂ h₃ h₄ g' hset ih =>
    intro g opens rest hwide
    simp only [List.cons_append, readFlags, h₁, h₂, h₃, h₄, hset] at hwide
    exact ih h g opens rest hwide
  | _ =>
    intro g opens rest hwide
    simp_all [readFlags]

/-- A parenthesis is neither a letter nor a number. The tables are searched one by one, as they are
written, since to build their union is slow. -/
theorem nameContinue_paren :
    Unicode.nameStart.contains ')' = false ∧ Unicode.nameContinue.contains ')' = false := by
  have htable (rs : List (Nat × Nat)) (h : CharSet.holds rs ')'.toNat = false) :
      (CharSet.ofRanges rs).contains ')' = false := (CharSet.contains_ofRanges rs ')').trans h
  have hother : Unicode.otherLetter.contains ')' = false := htable _ (by decide +kernel)
  have hmodifier : Unicode.modifierLetter.contains ')' = false := htable _ (by decide +kernel)
  have htitle : Unicode.titleLetter.contains ')' = false := htable _ (by decide +kernel)
  have hupper : Unicode.upperLetter.contains ')' = false := by
    rw [Unicode.upperLetter, CharSet.contains_insertAll, CharSet.contains_ofRanges]
    decide +kernel
  have hlower : Unicode.lowerLetter.contains ')' = false := by
    rw [Unicode.lowerLetter, CharSet.contains_insertAll, CharSet.contains_ofRanges]
    decide +kernel
  have hletterNumber : Unicode.letterNumber.contains ')' = false := htable _ (by decide +kernel)
  have hotherLower : Unicode.otherLowercase.contains ')' = false := htable _ (by decide +kernel)
  have hotherUpper : Unicode.otherUppercase.contains ')' = false := htable _ (by decide +kernel)
  have hotherAlphabetic : Unicode.otherAlphabetic.contains ')' = false :=
    htable _ (by decide +kernel)
  have hnew : Unicode.newAlphabetic.contains ')' = false := htable _ (by decide +kernel)
  have hdecimal : Unicode.decimalNumber.contains ')' = false := htable _ (by decide +kernel)
  have hotherNumber : Unicode.otherNumber.contains ')' = false := htable _ (by decide +kernel)
  have hnewNumber : Unicode.newNumber.contains ')' = false := htable _ (by decide +kernel)
  have hstart : Unicode.nameStart.contains ')' = false := by
    simp only [Unicode.nameStart, Unicode.alphabetic, Unicode.letter, Unicode.casedLetter,
      List.foldl_cons, List.foldl_nil, CharSet.contains_union, hother, hmodifier, htitle, hupper,
      hlower, hletterNumber, hotherLower, hotherUpper, hotherAlphabetic, hnew, Bool.or_self]
  refine ⟨hstart, ?_⟩
  simp only [Unicode.nameContinue, Unicode.number, CharSet.contains_union, hstart, hdecimal,
    hletterNumber, hotherNumber, hnewNumber, Bool.or_self]

/-- No group has a parenthesis in its name. -/
theorem inGroupName_paren (first : Bool) : inGroupName first ')' = false := by
  simp only [inGroupName, nameContinue_paren.1, nameContinue_paren.2]
  cases first <;> rfl

/-- The name of a group is not ended by a parenthesis. -/
theorem agree_readGroupName (name t u : Text) :
    Agree u Never (readGroupName name t) (readGroupName name (t ++ u)) := by
  fun_induction readGroupName name t with
  | case1 name =>
    refine agree_error _ ?_
    rintro rfl
    refine ⟨.groupName, ?_⟩
    rw [List.nil_append, readGroupName, if_neg (by decide), inGroupName_paren]
    rfl
  | case2 cs =>
    exact agree_error _ fun _ => ⟨.groupName, rfl⟩
  | case3 name cs hname =>
    simp [readGroupName, hname, Agree]
  | case4 name c cs hc hin ih =>
    rw [List.cons_append, readGroupName, if_neg hc, if_pos hin]
    exact ih
  | case5 name c cs hc hin =>
    refine agree_error _ fun _ => ⟨.groupName, ?_⟩
    rw [List.cons_append, readGroupName, if_neg hc, if_neg hin]

/-! ## Repetitions -/

/-- White space drops to the same place with more behind it. -/
theorem dropWhile_blank_append (hu : Stops u) (t : Text) :
    (t ++ u).dropWhile CharSet.whiteSpace.contains =
      t.dropWhile CharSet.whiteSpace.contains ++ u := by
  have hblank : u.dropWhile CharSet.whiteSpace.contains = u := by
    obtain ⟨v, rfl | rfl⟩ := hu <;> rfl
  rw [List.dropWhile_append]
  split
  · next h => rw [hblank, List.isEmpty_iff.1 h, List.nil_append]
  · rfl

/-- A number that is followed by something is read in the same way with more behind it, and one that
is not leaves at most the parenthesis. -/
theorem readCount_append (hu : Stops u) (f : Flags) (t : Text) :
    (∀ n c cs, readCount f t = .ok (n, c :: cs) →
        readCount f (t ++ u) = .ok (n, c :: (cs ++ u))) ∧
      ((∀ n c cs, readCount f t ≠ .ok (n, c :: cs)) → u = [')'] →
        ∀ n rest, readCount f (t ++ u) = .ok (n, rest) → rest = [')'] ∨ rest = []) := by
  simp only [readCount, dropWhile_blank_append hu]
  generalize t.dropWhile CharSet.whiteSpace.contains = w
  cases hread : takeCounting f Char.isDigit [] w with
  | mk digits rest =>
    cases rest with
    | nil =>
      constructor
      · intro n c cs h
        cases hcount : countOf digits <;> simp [hcount, Bind.bind, Except.bind] at h
      · rintro - rfl n rest h
        cases hcount : countOf (takeCounting f Char.isDigit [] (w ++ [')'])).1 with
        | error e => simp [hcount, Bind.bind, Except.bind] at h
        | ok m =>
          simp only [hcount, Bind.bind, Except.bind] at h
          obtain ⟨-, rfl⟩ := Prod.mk.inj (Except.ok.inj h)
          rcases takeCounting_paren (by decide) (congrArg Prod.snd hread) with h | h
          · exact .inl (by rw [h]; rfl)
          · exact .inr (by rw [h]; rfl)
    | cons c cs =>
      rw [takeCounting_append hread]
      simp only [← List.cons_append, dropWhile_blank_append hu]
      cases countOf digits with
      | error e => simp [Bind.bind, Except.bind]
      | ok m =>
        simp only [Bind.bind, Except.bind, Except.ok.injEq, Prod.mk.injEq]
        constructor
        · rintro n d ds ⟨rfl, hrest⟩
          rw [hrest]
          exact ⟨rfl, rfl⟩
        · rintro hne rfl n rest ⟨rfl, rfl⟩
          cases hdrop : (c :: cs).dropWhile CharSet.whiteSpace.contains with
          | nil => exact .inl rfl
          | cons d ds => exact absurd (by rw [hdrop]) (hne _ d ds)

/-- There is no number in the empty text. -/
theorem readCount_nil (f : Flags) : readCount f [] = .error .bounds := by
  rw [readCount, List.dropWhile_nil, takeCounting_nil]
  rfl

/-- There is no number in a parenthesis. -/
theorem readCount_parenthesis (f : Flags) : readCount f [')'] = .error .bounds := by
  rw [readCount, List.dropWhile_cons_of_neg (by decide), takeCounting_cons, if_neg (by decide)]
  rfl

/-- What needs more than a parenthesis behind a number agrees if it agrees behind numbers. -/
theorem agree_readCount_bind (hu : Stops u) (f : Flags) (t : Text)
    {k : Nat × Text → Except SyntaxError (Bounds × Text)}
    (hk : ∀ n c cs, Agree u Never (k (n, c :: cs)) (k (n, c :: (cs ++ u))))
    (hfail : ∀ n rest, rest = [')'] ∨ rest = [] → ∃ e, k (n, rest) = .error e) :
    Agree u Never (readCount f t >>= k) (readCount f (t ++ u) >>= k) := by
  obtain ⟨hcons, hnot⟩ := readCount_append hu f t
  have herror (hne : ∀ n c cs, readCount f t ≠ .ok (n, c :: cs)) (hu : u = [')']) :
      ∃ e, (readCount f (t ++ u) >>= k) = .error e := by
    cases hwide : readCount f (t ++ u) with
    | error e => exact ⟨e, rfl⟩
    | ok r => exact hfail r.1 r.2 (hnot hne hu r.1 r.2 hwide)
  cases hown : readCount f t with
  | error e => exact agree_error e (herror (by simp [hown]))
  | ok r =>
    obtain ⟨n, rest⟩ := r
    cases rest with
    | nil =>
      obtain ⟨e, he⟩ := hfail n [] (.inr rfl)
      change Agree u Never (k (n, [])) _
      rw [he]
      exact agree_error e (herror (by simp [hown]))
    | cons c cs =>
      rw [hcons n c cs hown]
      exact hk n c cs

/-- Bounds are not closed by anything but a brace. -/
theorem closeBounds_of_ne {n m : Nat} {c : Char} {cs : Text} (hc : c ≠ '\x7d') :
    closeBounds n m (c :: cs) = .error .bounds := by
  simp [closeBounds, hc]

/-- Behind the comma, all but a brace is read as the upper bound. -/
theorem readUpper_of_ne {n : Nat} {c : Char} {cs : Text} (hc : c ≠ '\x7d') :
    readUpper f n (c :: cs) = readCount f (c :: cs) >>= fun r => closeBounds n r.1 r.2 := by
  simp [readUpper, hc]

/-- A lower bound is followed by a brace or by a comma. -/
theorem boundsFrom_of_ne {n : Nat} {c : Char} {cs : Text} (hc : c ≠ '\x7d') (hcomma : c ≠ ',') :
    boundsFrom f n (c :: cs) = .error .bounds := by
  simp [boundsFrom, hc, hcomma]

/-- Bounds are closed in the same way with more behind what follows them. -/
theorem agree_closeBounds (n m : Nat) (c : Char) (cs u : Text) :
    Agree u Never (closeBounds n m (c :: cs)) (closeBounds n m (c :: (cs ++ u))) := by
  by_cases hc : c = '\x7d'
  · subst hc
    simp only [closeBounds]
    split
    · rfl
    · exact agree_error _ fun _ => ⟨_, rfl⟩
  · rw [closeBounds_of_ne hc]
    exact agree_error _ fun _ => ⟨_, closeBounds_of_ne hc⟩

/-- A parenthesis does not complete bounds behind their comma. -/
theorem agree_readUpper (hu : Stops u) (f : Flags) (n : Nat) (t : Text) :
    Agree u Never (readUpper f n (f.skip t)) (readUpper f n (f.skip (t ++ u))) := by
  have hnil : readUpper f n [] = .error .bounds := by
    simp [readUpper, readCount_nil, Bind.bind, Except.bind]
  have hparen : readUpper f n [')'] = .error .bounds := by
    rw [readUpper_of_ne (by decide), readCount_parenthesis]
    rfl
  cases hskip : f.skip t with
  | nil =>
    rw [hnil]
    refine agree_error _ ?_
    rintro rfl
    rcases f.skip_paren hskip with h | h
    · exact ⟨_, by rw [h]; exact hparen⟩
    · exact ⟨_, by rw [h]; exact hnil⟩
  | cons c cs =>
    rw [f.skip_append_of_cons hskip]
    by_cases hc : c = '\x7d'
    · subst hc
      rfl
    · rw [readUpper_of_ne hc, readUpper_of_ne hc, ← List.cons_append]
      refine agree_readCount_bind hu f (c :: cs) (fun m d ds => agree_closeBounds n m d ds u)
        fun m rest hrest => ?_
      rcases hrest with rfl | rfl <;> exact ⟨_, rfl⟩

/-- Nor does it complete them behind the lower bound. -/
theorem agree_boundsFrom (hu : Stops u) (f : Flags) (n : Nat) (c : Char) (cs : Text) :
    Agree u Never (boundsFrom f n (c :: cs)) (boundsFrom f n (c :: (cs ++ u))) := by
  by_cases hc : c = '\x7d'
  · subst hc
    rfl
  · by_cases hcomma : c = ','
    · subst hcomma
      exact agree_readUpper hu f n cs
    · rw [boundsFrom_of_ne hc hcomma]
      exact agree_error _ fun _ => ⟨_, boundsFrom_of_ne hc hcomma⟩

/-- Bounds are read in the same way with more behind them, and a parenthesis does not close them. -/
theorem agree_readBounds (hu : Stops u) (f : Flags) (t : Text) :
    Agree u Never (readBounds f t) (readBounds f (t ++ u)) := by
  unfold readBounds
  rcases f.skip_append_stops hu t with hskip | ⟨hnil, -, hskip⟩
  · rw [hskip]
    refine agree_readCount_bind hu f (f.skip t) (fun n c cs => agree_boundsFrom hu f n c cs)
      fun n rest hrest => ?_
    rcases hrest with rfl | rfl <;> exact ⟨_, rfl⟩
  · rw [hnil, readCount_nil]
    refine agree_error _ fun hu => ⟨.bounds, ?_⟩
    rw [hskip hu, readCount_nil]
    rfl

/-! ## Elements -/

/-- The question mark behind bounds is found, or not, in the same way with more behind it. -/
theorem readLazy_append (hu : Stops u) (b : Bounds) (rest : Text) :
    readLazy b (rest ++ u) = ((readLazy b rest).1, (readLazy b rest).2 ++ u) := by
  cases rest with
  | nil => obtain ⟨v, rfl | rfl⟩ := hu <;> rfl
  | cons c cs =>
    by_cases hc : c = '?'
    · subst hc
      rfl
    · simp [readLazy, hc]

/-- What an element is taken for in front of a parenthesis, if it is not complete, where `t` is the
source behind its first character: an item or a change of flags that the parenthesis is part of, or
an item in front of braces that are not closed. -/
def ActionFails (f : Flags) (t : Text) (a : Action) (rest : Text) : Prop :=
  (∃ b depth, a = .push b depth) ∧ (rest = [] ∨ Unclosed f rest ∧ rest <:+ t ++ [')']) ∨
    (∃ g, a = .setFlags g) ∧ rest = []

/-- What is asked for leaves the flags as they are. -/
def Action.KeepsFlags (a : Action) : Prop :=
  ∀ r r' : Reader, r.act a = .ok r' → r'.flags = r.flags

/-- What is made of an element, and what is made of it with `u` behind it: the same, unless a
comment at the end of the element takes `u` in. -/
def Follows (u : Text) (f : Flags) (t : Text) (own wide : Except SyntaxError (Action × Text)) :
    Prop :=
  match own with
  | .ok (a, rest) =>
    wide = .ok (a, rest ++ u) ∨
      (f.extended = true ∧ a.KeepsFlags) ∧ rest = [] ∧ (u = [')'] → wide = .ok (a, []))
  | .error _ => u = [')'] → ∀ a rest, wide = .ok (a, rest) → ActionFails f t a rest

/-- What agrees in what it makes of an element follows. -/
theorem Agree.follows {own wide : Except SyntaxError (Action × Text)}
    (h : Agree u (ActionFails f t) own wide) : Follows u f t own wide := by
  cases own with
  | error e => exact h
  | ok r => exact .inl h

/-- White space and comments leave the flags as they are. -/
theorem keepsFlags_skip : Action.skip.KeepsFlags := by
  rintro r r' h
  obtain rfl := Except.ok.inj h
  rfl

/-- A group that captures is read under the flags around it. -/
theorem keepsFlags_openCapture : Action.openCapture.KeepsFlags := by
  rintro r r' h
  obtain rfl := Except.ok.inj h
  rfl

/-- A repetition leaves the flags as they are. -/
theorem keepsFlags_repeatLast (b : Bounds) (lazy : Bool) :
    (Action.repeatLast b lazy).KeepsFlags := by
  intro r r' h
  simp only [Reader.act, Reader.repeatLast] at h
  split at h
  · obtain rfl := Except.ok.inj h
    rfl
  · exact absurd h (by simp)

/-- Whether flags stand behind a question mark, and not the name of a group or a look around. -/
def opensFlags : Text → Bool
  | '=' :: _ | '!' :: _ | '<' :: _ | 'P' :: '<' :: _ => false
  | _ => true

/-- The first two characters behind a question mark tell. -/
theorem opensFlags_cons (c : Char) (cs : Text) :
    opensFlags (c :: cs) =
      (c != '=' && c != '!' && c != '<' && !(c == 'P' && cs.head? == some '<')) := by
  unfold opensFlags
  cases cs <;> split <;> simp_all [← Decidable.imp_iff_not_or]

/-- They tell the same with more behind them, if a branch ends there. -/
theorem opensFlags_append (hu : Stops u) (cs : Text) : opensFlags (cs ++ u) = opensFlags cs := by
  cases cs with
  | nil => obtain ⟨v, rfl | rfl⟩ := hu <;> rfl
  | cons c cs =>
    have hhead : ((cs ++ u).head? == some '<') = (cs.head? == some '<') := by
      cases cs with
      | nil => obtain ⟨v, rfl | rfl⟩ := hu <;> rfl
      | cons d ds => rfl
    rw [List.cons_append, opensFlags_cons, opensFlags_cons, hhead]

/-- The change of flags, or the group that is opened under other flags. -/
theorem readOpening_of_opensFlags {cs : Text} (h : opensFlags cs = true) (f : Flags) :
    readOpening f ('?' :: cs) = readFlags f [] true cs >>= fun r =>
      .ok (if r.2.1 then .openGroup r.1 else .setFlags r.1, r.2.2) := by
  unfold readOpening
  split <;> simp_all [opensFlags]

/-- A change of flags that is complete is read in the same way with more behind it, and one that is
not may be completed by a parenthesis. -/
theorem follows_flags (f : Flags) (cs u v : Text) :
    Follows u f v
      (readFlags f [] true cs >>= fun r =>
        .ok (if r.2.1 then .openGroup r.1 else .setFlags r.1, r.2.2))
      (readFlags f [] true (cs ++ u) >>= fun r =>
        .ok (if r.2.1 then .openGroup r.1 else .setFlags r.1, r.2.2)) := by
  cases hown : readFlags f [] true cs with
  | ok r =>
    rw [readFlags_append hown u]
    exact .inl rfl
  | error e =>
    rintro rfl a rest hwide
    cases hread : readFlags f [] true (cs ++ [')']) with
    | error e => simp [hread, Bind.bind, Except.bind] at hwide
    | ok r =>
      obtain ⟨hopens, hrest⟩ := readFlags_paren hown _ _ _ hread
      rw [hread] at hwide
      obtain ⟨rfl, rfl⟩ := Prod.mk.inj (Except.ok.inj hwide)
      exact .inr ⟨⟨r.1, by rw [hopens]; rfl⟩, hrest⟩

/-- A group that has a name is opened in the same way with more behind it. -/
theorem agree_readNamed (t u v : Text) :
    Agree u (ActionFails f v) (readNamed t) (readNamed (t ++ u)) :=
  (agree_readGroupName [] t u).bind (fun _ _ => rfl) fun _ _ _ _ h => h.elim

/-- What stands behind an opening parenthesis is read in the same way with more behind it. -/
theorem follows_readOpening (hu : Stops u) (f : Flags) (w v : Text) :
    Follows u f v (readOpening f w) (readOpening f (w ++ u)) := by
  have herror (e : SyntaxError) : Follows u f v (.error e) (.error e) :=
    (agree_error e fun _ => ⟨e, rfl⟩).follows
  have hname (t : Text) : Follows u f v (readNamed t) (readNamed (t ++ u)) :=
    (agree_readNamed t u v).follows
  cases w with
  | nil => obtain ⟨v, rfl | rfl⟩ := hu <;> exact .inl rfl
  | cons c cs =>
    by_cases hc : c = '?'
    · subst hc
      by_cases hflags : opensFlags cs = true
      · rw [List.cons_append, readOpening_of_opensFlags hflags, readOpening_of_opensFlags]
        · exact follows_flags f cs u v
        · rwa [opensFlags_append hu]
      · unfold opensFlags at hflags
        split at hflags
        · exact herror _
        · exact herror _
        · next ds =>
          cases ds with
          | nil => obtain ⟨v, rfl | rfl⟩ := hu <;> exact hname []
          | cons d ds =>
            by_cases hd : d = '=' ∨ d = '!'
            · rcases hd with rfl | rfl <;> exact herror _
            · rw [not_or] at hd
              simpa [readOpening, hd] using hname (d :: ds)
        · exact hname _
        · exact absurd rfl hflags
    · have hopen (t : Text) : readOpening f (c :: t) = .ok (.openCapture, c :: t) := by
        simp [readOpening, hc]
      rw [List.cons_append, hopen, hopen]
      exact .inl rfl

/-- So it is if white space and comments stand before it. -/
theorem follows_readOpening_skip (hu : Stops u) (f : Flags) (t v : Text) :
    Follows u f v (readOpening f (f.skip t)) (readOpening f (f.skip (t ++ u))) := by
  rcases f.skip_append_stops hu t with hskip | ⟨hnil, hx, hskip⟩
  · rw [hskip]
    exact follows_readOpening hu f (f.skip t) v
  · rw [hnil]
    refine .inr ⟨⟨hx, keepsFlags_openCapture⟩, rfl, fun hu => ?_⟩
    rw [hskip hu]
    rfl

/-- Bounds of one character are followed by the same with more behind them. -/
theorem follows_readLazy (hu : Stops u) (f : Flags) (b : Bounds) (rest v : Text) :
    Follows u f v (.ok (readLazy b rest)) (.ok (readLazy b (rest ++ u))) := by
  rw [readLazy_append hu]
  exact .inl rfl

/-- Bounds between braces are followed by the same, unless a comment takes it in. -/
theorem follows_readBounds (hu : Stops u) (f : Flags) (cs v : Text) :
    Follows u f v (readBounds f cs >>= fun r => .ok (readLazy r.1 (f.skip r.2)))
      (readBounds f (cs ++ u) >>= fun r => .ok (readLazy r.1 (f.skip r.2))) := by
  have hagree := agree_readBounds hu f cs
  cases hown : readBounds f cs with
  | error e =>
    rw [hown] at hagree
    intro hparen a rest hwide
    cases hread : readBounds f (cs ++ u) with
    | error e => simp [hread, Bind.bind, Except.bind] at hwide
    | ok r => exact (hagree hparen _ _ hread).elim
  | ok r =>
    rw [hown] at hagree
    rw [show readBounds f (cs ++ u) = _ from hagree]
    rcases f.skip_append_stops hu r.2 with hskip | ⟨hnil, hx, hskip⟩
    · simp only [Bind.bind, Except.bind, hskip]
      exact follows_readLazy hu f r.1 (f.skip r.2) v
    · simp only [Bind.bind, Except.bind, hnil]
      refine .inr ⟨⟨hx, keepsFlags_repeatLast _ _⟩, rfl, fun hu => ?_⟩
      rw [hskip hu]
      rfl

/-- An element is read in the same way with more behind it, unless a comment takes that in. -/
theorem follows_readAction (hu : Stops u) (f : Flags) (c : Char) (cs : Text) :
    Follows u f cs (readAction f c cs) (readAction f c (cs ++ u)) := by
  unfold readAction
  split
  · exact .inl rfl
  · split
    · next hx =>
      rw [Bool.and_eq_true] at hx
      rcases dropBlank_append true cs with ⟨d, ds, hown, hwide⟩ | ⟨hown, b, hwide⟩
      · rw [hown, hwide u]
        exact .inl rfl
      · rw [hown, hwide u]
        cases b with
        | false =>
          rw [hu.dropBlank_eq]
          exact .inl rfl
        | true =>
          refine .inr ⟨⟨hx.1, keepsFlags_skip⟩, rfl, ?_⟩
          rintro rfl
          rfl
    · split
      · exact follows_readOpening_skip hu f cs cs
      · exact .inl rfl
      · exact .inl rfl
      · refine Agree.follows ?_
        refine (agree_readClass hu f cs).bind (fun p rest => rfl) (fun _ _ _ _ h => h.elim)
      · exact follows_readLazy hu f _ cs cs
      · exact follows_readLazy hu f _ cs cs
      · exact follows_readLazy hu f _ cs cs
      · exact follows_readBounds hu f cs cs
      · exact .inl rfl
      · exact .inl rfl
      · exact .inl rfl
      · refine Agree.follows ?_
        refine (agree_readEscape hu f cs).bind (fun p rest => rfl) fun p rest a rest' h hok => ?_
        obtain ⟨rfl, rfl⟩ := Prod.mk.inj (Except.ok.inj hok)
        exact .inl ⟨⟨p, 0, rfl⟩, h.imp_right And.right⟩
      · exact .inl (by simp [*])

end ModalLexer.Regex
