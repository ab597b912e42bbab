import ModalLexer.Regex.Reader

/-!
# Reading a source with more behind it

A part of a regular expression that is read to its end is read in the same way in front of a closing
parenthesis or a bar, and these are left unread (`Agree`). A part that is not complete stays
incomplete in front of a closing parenthesis: the reader then fails as well, or goes over the
parenthesis as over one more character of the part.
-/

namespace ModalLexer.Regex

/-- The text begins with a character that ends a branch. -/
def Stops (u : Text) : Prop := ∃ v, u = ')' :: v ∨ u = '|' :: v

/-- A closing parenthesis ends a branch. -/
theorem stops_paren (v : Text) : Stops (')' :: v) := ⟨v, .inl rfl⟩

/-- What a reader makes of a text, and what it makes of the text with `u` behind it: the same, if it
succeeds; and if it does not, and a parenthesis stands behind the text, only what `fails` admits. -/
def Agree {α : Type} (u : Text) (fails : α → Text → Prop)
    (own wide : Except SyntaxError (α × Text)) : Prop :=
  match own with
  | .ok (x, rest) => wide = .ok (x, rest ++ u)
  | .error _ => u = [')'] → ∀ x rest, wide = .ok (x, rest) → fails x rest

/-- The reader fails. -/
def Never {α : Type} (_ : α) (_ : Text) : Prop := False

/-- The reader goes over the parenthesis. -/
def Overruns {α : Type} (_ : α) (rest : Text) : Prop := rest = []

variable {α β : Type} {f : Flags} {t u : Text} {fails : α → Text → Prop} {fails' : β → Text → Prop}
  {own wide : Except SyntaxError (α × Text)}

/-- Failures agree, if the reader fails with a parenthesis behind the text as well. -/
theorem agree_error (e : SyntaxError) (hwide : u = [')'] → ∃ e', wide = .error e') :
    Agree u fails (.error e) wide := by
  intro hu x rest hok
  obtain ⟨e', he⟩ := hwide hu
  rw [he] at hok
  exact absurd hok (by simp)

/-- What is admitted where the reader fails may be weakened. -/
theorem Agree.imp {fails' : α → Text → Prop} (h : Agree u fails own wide)
    (hfails : ∀ x rest, fails x rest → fails' x rest) : Agree u fails' own wide := by
  cases own with
  | ok r => exact h
  | error e => exact fun hu x rest hok => hfails x rest (h hu x rest hok)

/-- What is read next is read in the same way, if what is read behind an overrun is an overrun. -/
theorem Agree.bind {k k' : α × Text → Except SyntaxError (β × Text)} (h : Agree u fails own wide)
    (hk : ∀ x rest, Agree u fails' (k (x, rest)) (k' (x, rest ++ u)))
    (hfails : ∀ x rest y rest', fails x rest → k' (x, rest) = .ok (y, rest') → fails' y rest') :
    Agree u fails' (own >>= k) (wide >>= k') := by
  cases own with
  | ok r =>
    obtain ⟨x, rest⟩ := r
    obtain rfl : wide = .ok (x, rest ++ u) := h
    exact hk x rest
  | error e =>
    intro hu y rest' hok
    cases wide with
    | error e' => exact absurd hok (by simp [Bind.bind, Except.bind])
    | ok r =>
      obtain ⟨x, rest⟩ := r
      exact hfails x rest y rest' (h hu x rest rfl) hok

/-- What is made of all that has been read agrees, if what has been read is the same. -/
theorem agree_map {fails : β → Text → Prop} (x : Except SyntaxError α) (g : α → β) (rest : Text) :
    Agree u fails (x >>= fun a => .ok (g a, rest)) (x >>= fun a => .ok (g a, rest ++ u)) := by
  cases x with
  | error e => exact agree_error _ fun _ => ⟨_, rfl⟩
  | ok a => rfl

/-! ## White space -/

/-- Dropping white space ends within a text, or behind it, in a comment or not. -/
theorem dropBlank_append (comment : Bool) (t : Text) :
    (∃ c cs, dropBlank comment t = c :: cs ∧ ∀ u, dropBlank comment (t ++ u) = c :: (cs ++ u)) ∨
      dropBlank comment t = [] ∧ ∃ b, ∀ u, dropBlank comment (t ++ u) = dropBlank b u := by
  fun_induction dropBlank comment t with
  | case1 comment => exact .inr ⟨rfl, comment, fun _ => rfl⟩
  | case2 c cs ih => simpa [dropBlank] using ih
  | case3 comment c cs hcomment hblank ih => simpa [dropBlank, hcomment, hblank] using ih
  | case4 comment cs hcomment hblank ih => simpa [dropBlank, hcomment, hblank] using ih
  | case5 comment c cs hcomment hblank hhash =>
    exact .inl ⟨c, cs, rfl, fun u => by simp [dropBlank, hcomment, hblank, hhash]⟩

/-- Neither white space nor a comment begins with a character that ends a branch. -/
theorem Stops.dropBlank_eq (h : Stops u) : dropBlank false u = u := by
  obtain ⟨v, rfl | rfl⟩ := h <;> rfl

/-- The next character that counts stands in a text, or behind it, unless a comment is open at its
end. -/
theorem Flags.skip_append (f : Flags) (t : Text) :
    (∃ c cs, f.skip t = c :: cs ∧ ∀ u, f.skip (t ++ u) = c :: (cs ++ u)) ∨
      f.skip t = [] ∧ ((∀ u, Stops u → f.skip (t ++ u) = u) ∨
        f.extended = true ∧ ∀ u, f.skip (t ++ u) = dropBlank true u) := by
  unfold skip
  by_cases hx : f.extended = true
  · simp only [if_pos hx]
    refine (dropBlank_append false t).imp_right fun ⟨hnil, b, hb⟩ => ⟨hnil, ?_⟩
    cases b with
    | false => exact .inl fun u hu => (hb u).trans hu.dropBlank_eq
    | true => exact .inr ⟨hx, hb⟩
  · simp only [if_neg hx]
    cases t with
    | nil => exact .inr ⟨rfl, .inl fun _ _ => rfl⟩
    | cons c cs => exact .inl ⟨c, cs, rfl, fun _ => rfl⟩

/-- What counts in a text counts with more behind it. -/
theorem Flags.skip_append_of_cons {c : Char} {cs : Text} (h : f.skip t = c :: cs) (u : Text) :
    f.skip (t ++ u) = c :: (cs ++ u) := by
  rcases f.skip_append t with ⟨d, ds, hskip, hu⟩ | ⟨hnil, -⟩
  · rw [h] at hskip
    obtain ⟨rfl, rfl⟩ := List.cons.inj hskip
    exact hu u
  · rw [h] at hnil
    exact absurd hnil (by simp)

/-- In front of a parenthesis, at the latest the parenthesis counts, unless it is in a comment. -/
theorem Flags.skip_paren (h : f.skip t = []) :
    f.skip (t ++ [')']) = [')'] ∨ f.skip (t ++ [')']) = [] := by
  rcases f.skip_append t with ⟨c, cs, hne, -⟩ | ⟨-, hu | ⟨-, hu⟩⟩
  · rw [h] at hne
    exact absurd hne (by simp)
  · exact .inl (hu _ (stops_paren []))
  · exact .inr (hu _)

/-- What is left in front of the next character that counts is left with more behind it, unless a
comment that is open takes that in. -/
theorem Flags.skip_append_stops (hu : Stops u) (f : Flags) (t : Text) :
    f.skip (t ++ u) = f.skip t ++ u ∨
      f.skip t = [] ∧ f.extended = true ∧ (u = [')'] → f.skip (t ++ u) = []) := by
  rcases f.skip_append t with ⟨c, cs, hskip, happend⟩ | ⟨hnil, happend | ⟨hx, happend⟩⟩
  · exact .inl ((happend u).trans (by rw [hskip]; rfl))
  · exact .inl ((happend u hu).trans (by rw [hnil]; rfl))
  · refine .inr ⟨hnil, hx, ?_⟩
    rintro rfl
    exact happend _

/-- Nothing counts in the empty text. -/
@[simp] theorem Flags.skip_nil (f : Flags) : f.skip [] = [] := by
  unfold skip
  split <;> rfl

/-! ## Characters of one kind -/

section Taking

variable {p : Char → Bool} {taken w : Text}

/-- Nothing is taken from the empty text. -/
theorem takeCounting_nil : takeCounting f p taken [] = (taken.reverse, []) := by
  unfold takeCounting
  rfl

/-- A character of the kind is taken, and any other is left. -/
theorem takeCounting_cons (c : Char) (cs : Text) :
    takeCounting f p taken (c :: cs) =
      if p c then takeCounting f p (c :: taken) (f.skip cs) else (taken.reverse, c :: cs) := by
  rw [takeCounting]

/-- What is taken and followed by something within a text is so with more behind it as well. -/
theorem takeCounting_append {c : Char} {cs : Text} (h : takeCounting f p taken t = (w, c :: cs))
    (u : Text) : takeCounting f p taken (t ++ u) = (w, c :: (cs ++ u)) := by
  fun_induction takeCounting f p taken t with
  | case1 taken => exact absurd (congrArg Prod.snd h) (by simp)
  | case2 taken d ds hd hle ih =>
    rw [List.cons_append, takeCounting_cons, if_pos hd]
    cases hskip : f.skip ds with
    | nil =>
      rw [hskip, takeCounting_nil] at h
      exact absurd (congrArg Prod.snd h) (by simp)
    | cons e es =>
      rw [f.skip_append_of_cons hskip, ← List.cons_append, ← hskip]
      exact ih h
  | case3 taken d ds hd =>
    obtain ⟨rfl, hcs⟩ := Prod.mk.inj h
    obtain ⟨rfl, rfl⟩ := List.cons.inj hcs
    rw [List.cons_append, takeCounting_cons, if_neg hd]

/-- If all of a text is taken, a parenthesis behind it is left, unless it is in a comment. -/
theorem takeCounting_paren (hp : p ')' = false) (h : (takeCounting f p taken t).2 = []) :
    (takeCounting f p taken (t ++ [')'])).2 = [')'] ∨
      (takeCounting f p taken (t ++ [')'])).2 = [] := by
  have hstop (taken : Text) : (takeCounting f p taken [')']).2 = [')'] := by
    rw [takeCounting_cons, hp]
    rfl
  fun_induction takeCounting f p taken t with
  | case1 taken => exact .inl (hstop taken)
  | case2 taken d ds hd hle ih =>
    rw [List.cons_append, takeCounting_cons, if_pos hd]
    cases hskip : f.skip ds with
    | nil =>
      rcases f.skip_paren hskip with hparen | hnil
      · rw [hparen]
        exact .inl (hstop _)
      · rw [hnil, takeCounting_nil]
        exact .inr rfl
    | cons e es =>
      rw [f.skip_append_of_cons hskip, ← List.cons_append, ← hskip]
      exact ih h
  | case3 taken d ds hd => exact absurd h (by simp)

end Taking

/-! ## Escapes -/

/-- A name between braces has to be closed. -/
theorem readBraced_of_nil {name : Text} (h : f.skip t = []) :
    readBraced f name t = .error .escape := by
  rw [readBraced]
  split <;> simp_all

/-- A name between braces goes on up to a closing brace. -/
theorem readBraced_of_cons {name cs : Text} {c : Char} (h : f.skip t = c :: cs) :
    readBraced f name t =
      if c = '\x7d' then .ok (name.reverse, cs) else readBraced f (c :: name) cs := by
  rw [readBraced]
  split <;> simp_all

/-- A parenthesis does not close a name between braces. -/
theorem agree_readBraced (f : Flags) (name t u : Text) :
    Agree u Never (readBraced f name t) (readBraced f name (t ++ u)) := by
  fun_induction readBraced f name t with
  | case1 name t hskip =>
    rintro rfl x rest hwide
    rcases f.skip_paren hskip with h | h
    · rw [readBraced_of_cons h, if_neg (by decide), readBraced_of_nil f.skip_nil] at hwide
      exact absurd hwide (by simp)
    · rw [readBraced_of_nil h] at hwide
      exact absurd hwide (by simp)
  | case2 name t cs hskip => exact readBraced_of_cons (f.skip_append_of_cons hskip u)
  | case3 name t c cs hskip hc ih =>
    rw [readBraced_of_cons (f.skip_append_of_cons hskip u), if_neg hc]
    exact ih

/-- A parenthesis is no hexadecimal digit. -/
theorem agree_readHex (f : Flags) (n acc : Nat) (t u : Text) :
    Agree u Never (readHex f n acc t) (readHex f n acc (t ++ u)) := by
  fun_induction readHex f n acc t with
  | case1 acc t => rfl
  | case2 acc t n hskip =>
    rintro rfl x rest hwide
    rw [readHex] at hwide
    rcases f.skip_paren hskip with h | h <;> rw [h] at hwide <;>
      exact absurd hwide (by simp [hexValue?])
  | case3 acc t n c cs hskip d hd ih => simpa [readHex, f.skip_append_of_cons hskip, hd] using ih
  | case4 acc t n c cs hskip hd =>
    rintro rfl x rest hwide
    simp [readHex, f.skip_append_of_cons hskip, hd] at hwide

/-- A code point between braces has to be closed. -/
theorem readBracedHex_of_nil {acc : Option Nat} (h : f.skip t = []) :
    readBracedHex f acc t = .error .escape := by
  rw [readBracedHex]
  split <;> simp_all

/-- A code point between braces goes on with hexadecimal digits, up to a closing brace. -/
theorem readBracedHex_of_cons {acc : Option Nat} {cs : Text} {c : Char} (h : f.skip t = c :: cs) :
    readBracedHex f acc t =
      if c = '\x7d' then acc.elim (.error .escape) fun n => .ok (n, cs)
      else (hexValue? c).elim (.error .escape) fun d =>
        readBracedHex f (some (16 * acc.getD 0 + d)) cs := by
  rw [readBracedHex]
  split
  · simp_all
  · next hskip =>
    rw [h] at hskip
    obtain ⟨rfl, rfl⟩ := List.cons.inj hskip
    split
    · cases acc <;> rfl
    · cases hexValue? c <;> rfl

/-- A parenthesis does not close a code point between braces. -/
theorem agree_readBracedHex (f : Flags) (acc : Option Nat) (t u : Text) :
    Agree u Never (readBracedHex f acc t) (readBracedHex f acc (t ++ u)) := by
  fun_induction readBracedHex f acc t with
  | case1 acc t hskip =>
    rintro rfl x rest hwide
    rcases f.skip_paren hskip with h | h
    · rw [readBracedHex_of_cons h] at hwide
      exact absurd hwide (by simp [hexValue?])
    · rw [readBracedHex_of_nil h] at hwide
      exact absurd hwide (by simp)
  | case2 t cs n hskip => exact readBracedHex_of_cons (f.skip_append_of_cons hskip u)
  | case3 t cs hskip =>
    rintro rfl x rest hwide
    rw [readBracedHex_of_cons (f.skip_append_of_cons hskip _)] at hwide
    exact absurd hwide (by simp)
  | case4 acc t c cs hskip hc d hd ih =>
    rw [readBracedHex_of_cons (f.skip_append_of_cons hskip u), if_neg hc, hd]
    exact ih
  | case5 acc t c cs hskip hc hd =>
    rintro rfl x rest hwide
    rw [readBracedHex_of_cons (f.skip_append_of_cons hskip _), if_neg hc, hd] at hwide
    exact absurd hwide (by simp)

/-- What stands behind a code point is left as it is. -/
theorem agree_ofCodePoint (n : Nat) (rest u : Text) :
    Agree u Never (ofCodePoint n rest) (ofCodePoint n (rest ++ u)) := by
  unfold ofCodePoint
  split
  · rfl
  · exact agree_error _ fun _ => ⟨_, rfl⟩

/-- What stands behind the digits of a code point is left as it is. -/
theorem agree_ofDigits (f : Flags) (digits n : Nat) (rest u : Text) :
    Agree u Never (ofDigits f digits n rest) (ofDigits f digits n (rest ++ u)) := by
  unfold ofDigits
  split
  · exact agree_error _ fun _ => ⟨_, rfl⟩
  · exact agree_ofCodePoint n rest u

/-- Without a brace, a code point has a fixed number of digits. -/
theorem readCodePoint_of_ne {digits : Nat} (h : ∀ cs, f.skip t ≠ '\x7b' :: cs) :
    readCodePoint f digits t = readHex f digits 0 t >>= fun r => ofDigits f digits r.1 r.2 := by
  unfold readCodePoint
  split
  · next cs hskip => exact absurd hskip (h cs)
  · rfl

/-- A parenthesis does not complete a code point. -/
theorem agree_readCodePoint (f : Flags) (digits : Nat) (t u : Text) :
    Agree u Never (readCodePoint f (digits + 1) t) (readCodePoint f (digits + 1) (t ++ u)) := by
  have hhex : Agree u Never
      (readHex f (digits + 1) 0 t >>= fun r => ofDigits f (digits + 1) r.1 r.2)
      (readHex f (digits + 1) 0 (t ++ u) >>= fun r => ofDigits f (digits + 1) r.1 r.2) :=
    (agree_readHex f _ 0 t u).bind (fun n rest => agree_ofDigits f _ n rest u)
      (fun _ _ _ _ h => h.elim)
  cases hskip : f.skip t with
  | nil =>
    have hown : (readHex f (digits + 1) 0 t >>= fun r => ofDigits f (digits + 1) r.1 r.2) =
        .error .escape := by
      rw [readHex, hskip]
      rfl
    rw [readCodePoint_of_ne (by simp [hskip]), hown]
    rw [hown] at hhex
    rintro rfl
    rw [readCodePoint_of_ne (by rcases f.skip_paren hskip with h | h <;> simp [h])]
    exact hhex rfl
  | cons c cs =>
    have hwide := f.skip_append_of_cons hskip u
    by_cases hc : c = '\x7b'
    · subst hc
      unfold readCodePoint
      rw [hskip, hwide]
      exact (agree_readBracedHex f none cs u).bind (fun n rest => agree_ofCodePoint n rest u)
        (fun _ _ _ _ h => h.elim)
    · rw [readCodePoint_of_ne (by simp [hskip, hc]), readCodePoint_of_ne (by simp [hwide, hc])]
      exact hhex

/-- A parenthesis behind `\p` is taken for the letter of a property. -/
theorem agree_readPropertyName (f : Flags) (t u : Text) :
    Agree u Overruns (readPropertyName f t) (readPropertyName f (t ++ u)) := by
  unfold readPropertyName
  cases hskip : f.skip t with
  | nil =>
    rintro rfl x rest hwide
    rcases f.skip_paren hskip with h | h
    · rw [h] at hwide
      exact (congrArg Prod.snd (Except.ok.inj hwide)).symm
    · rw [h] at hwide
      exact absurd hwide (by simp)
  | cons c cs =>
    rw [f.skip_append_of_cons hskip]
    by_cases hslash : c = '\\'
    · subst hslash
      exact agree_error _ fun _ => ⟨_, rfl⟩
    · by_cases hbrace : c = '\x7b'
      · subst hbrace
        exact (agree_readBraced f [] cs u).imp fun _ _ h => h.elim
      · simp only [Agree]

/-- A property is read with the parenthesis for its letter, or not at all. -/
theorem agree_readProperty (f : Flags) (negated : Bool) (t u : Text) :
    Agree u Overruns (readProperty f negated t) (readProperty f negated (t ++ u)) := by
  refine (agree_readPropertyName f t u).bind (fun name rest => agree_map _ id rest)
    fun name rest s rest' hrest h => ?_
  obtain rfl : rest = [] := hrest
  cases hset : lookUpProperty f negated name with
  | error e => simp [hset, Bind.bind, Except.bind] at h
  | ok s =>
    simp only [hset, Bind.bind, Except.bind] at h
    exact (congrArg Prod.snd (Except.ok.inj h)).symm

/-! ### Word edges -/

/-- What stands behind `\b` where no word edge is named: braces that are not closed. -/
def Unclosed (f : Flags) (rest : Text) : Prop :=
  ∃ cs, rest = '\x7b' :: cs ∧ (f.skip cs = [')'] ∨ f.skip cs = [])

/-- A word edge is named by a letter or a hyphen behind the brace. -/
theorem readEdge_of_cons {cs ds : Text} {c : Char} (h : f.skip cs = c :: ds) :
    readEdge f ('\x7b' :: cs) =
      if inEdgeName c then
        closeEdge (takeCounting f inEdgeName [] (c :: ds)).1
          (takeCounting f inEdgeName [] (c :: ds)).2
      else .ok (.boundary, '\x7b' :: cs) := by
  rw [readEdge, h]

/-- A brace with nothing behind it is no word edge, and neither is it left alone. -/
theorem readEdge_of_nil {cs : Text} (h : f.skip cs = []) :
    readEdge f ('\x7b' :: cs) = .error .escape := by
  rw [readEdge, h]

/-- Without a brace, a word edge has no name. -/
theorem readEdge_of_ne (h : ∀ cs, t ≠ '\x7b' :: cs) : readEdge f t = .ok (.boundary, t) := by
  unfold readEdge
  split
  · next cs => exact absurd rfl (h cs)
  · rfl

/-- A name is not closed by anything but a brace. -/
theorem closeEdge_of_ne {name cs : Text} {c : Char} (hc : c ≠ '\x7d') :
    closeEdge name (c :: cs) = .error .escape := by
  simp [closeEdge, hc]

/-- A name that is followed by something is closed, or not, in the same way with more behind it. -/
theorem agree_closeEdge {fails : WordEdge → Text → Prop} (name : Text) (c : Char) (cs u : Text) :
    Agree u fails (closeEdge name (c :: cs)) (closeEdge name (c :: (cs ++ u))) := by
  by_cases hc : c = '\x7d'
  · subst hc
    exact agree_map (edgeOfName name) id cs
  · rw [closeEdge_of_ne hc, closeEdge_of_ne hc]
    exact agree_error _ fun _ => ⟨_, rfl⟩

/-- A word edge is read in the same way with more behind it, but braces that are not closed are left
alone in front of a parenthesis. -/
theorem agree_readEdge (hu : Stops u) (f : Flags) (t : Text) :
    Agree u (fun _ rest => Unclosed f rest ∧ rest = t ++ [')']) (readEdge f t)
      (readEdge f (t ++ u)) := by
  by_cases hbrace : ∃ cs, t = '\x7b' :: cs
  · obtain ⟨cs, rfl⟩ := hbrace
    cases hskip : f.skip cs with
    | nil =>
      rw [readEdge_of_nil hskip]
      rintro rfl x rest hwide
      rw [List.cons_append] at hwide
      rcases f.skip_paren hskip with h | h
      · rw [readEdge_of_cons h, if_neg (by decide)] at hwide
        obtain ⟨-, rfl⟩ := Prod.mk.inj (Except.ok.inj hwide)
        exact ⟨⟨_, rfl, .inl h⟩, rfl⟩
      · rw [readEdge_of_nil h] at hwide
        exact absurd hwide (by simp)
    | cons c ds =>
      have hwide : readEdge f ('\x7b' :: cs ++ u) = _ :=
        readEdge_of_cons (f.skip_append_of_cons hskip u)
      rw [readEdge_of_cons hskip, hwide]
      split
      · cases hname : takeCounting f inEdgeName [] (c :: ds) with
        | mk name rest =>
          cases rest with
          | nil =>
            refine agree_error _ ?_
            rintro rfl
            rcases takeCounting_paren (by decide) (congrArg Prod.snd hname) with h | h
            · exact ⟨_, by rw [← List.cons_append, h]; exact closeEdge_of_ne (by decide)⟩
            · exact ⟨_, by rw [← List.cons_append, h]; rfl⟩
          | cons d es =>
            rw [← List.cons_append, takeCounting_append hname]
            exact agree_closeEdge name d es u
      · rfl
  · have hne : ∀ cs, t ≠ '\x7b' :: cs := fun cs h => hbrace ⟨cs, h⟩
    have hne' : ∀ cs, t ++ u ≠ '\x7b' :: cs := by
      cases t with
      | nil => obtain ⟨v, rfl | rfl⟩ := hu <;> simp
      | cons c t => simpa using fun h => hne t (by rw [h])
    rw [readEdge_of_ne hne, readEdge_of_ne hne']
    rfl

/-- What an escape is taken for in front of a parenthesis, if it is not complete: the parenthesis is
part of it, or a word edge stands before braces that are not closed. -/
def EscapeFails (f : Flags) (t : Text) (a : Atom) (rest : Text) : Prop :=
  rest = [] ∨ (∃ b, a = .assertion b) ∧ Unclosed f rest ∧ rest <:+ t ++ [')']

/-- A complete escape is read in the same way with more behind it, and one that is not complete is
taken for no more than `EscapeFails` admits. -/
theorem agree_readEscape (hu : Stops u) (f : Flags) (t : Text) :
    Agree u (EscapeFails f t) (readEscape f t) (readEscape f (t ++ u)) := by
  cases t with
  | nil =>
    rintro rfl x rest hwide
    obtain ⟨-, rfl⟩ := Prod.mk.inj (Except.ok.inj hwide)
    exact .inl rfl
  | cons c cs =>
    rw [List.cons_append]
    unfold readEscape
    dsimp only
    split
    · rfl
    · split
      · rfl
      · split
        · exact (agree_readCodePoint f 1 cs u).imp fun _ _ h => h.elim
        · exact (agree_readCodePoint f 3 cs u).imp fun _ _ h => h.elim
        · exact (agree_readCodePoint f 7 cs u).imp fun _ _ h => h.elim
        · rfl
        · rfl
        · rfl
        · rfl
        · rfl
        · rfl
        · rfl
        · rfl
        · refine (agree_readEdge hu f cs).bind (fun e rest => rfl) fun e rest y rest' h hok => ?_
          obtain ⟨hy, rfl⟩ := Prod.mk.inj (Except.ok.inj hok)
          exact .inr ⟨⟨_, hy.symm⟩, h.1, h.2 ▸ List.suffix_cons _ _⟩
        · rfl
        · rfl
        · rfl
        · refine (agree_readProperty f _ cs u).bind (fun s rest => rfl)
            fun s rest y rest' h hok => ?_
          obtain ⟨-, rfl⟩ := Prod.mk.inj (Except.ok.inj hok)
          exact .inl h
        · refine (agree_readProperty f _ cs u).bind (fun s rest => rfl)
            fun s rest y rest' h hok => ?_
          obtain ⟨-, rfl⟩ := Prod.mk.inj (Except.ok.inj hok)
          exact .inl h
        · exact agree_error _ fun _ => ⟨_, rfl⟩

end ModalLexer.Regex
