import ModalLexer.Proofs.Assignment.Rendering

/-!
# Renderings tell programs

Names are put into the sentences of a rendering as they are, and may hold anything that a sentence
holds. Still no name can pass for another part of its sentence. What a sentence says of a value is
written without blanks, so behind the last blank of a sentence there is its value, and in front of
it the name (`Variable.eq_of_render_eq`). Different values are written in different ways
(`renderValue_injective`).

Where names do not break a line, the rendering falls into its sentences again
(`Program.splitOn_render`), and each of them tells the variable in its place. So nothing of a
program is lost (`Program.rendering_tells_program`).
-/

namespace ModalLexer.Assignment

/-! ## Sentences tell variables -/

/-- A number is read back from the digits that it is written with. -/
theorem decimalValue_toDigits (n : ℕ) : decimalValue (Nat.toDigits 10 n) = n := by
  rw [decimalValue, ← Nat.ofDigitChars_eq_foldl, Nat.ofDigitChars_ten_toDigits]

/-- So an integer is read back from its sign and its digits. -/
theorem eq_decimalValue_repr (i : ℤ) :
    i = if '-' ∈ i.repr.toList then -(decimalValue i.repr.toList.tail : ℤ)
      else decimalValue i.repr.toList := by
  have hminus : '-' ∉ Nat.toDigits 10 i.toNat := not_mem_toDigits (by decide) _
  rw [Int.repr_eq_if]
  by_cases hi : 0 ≤ i
  · simp only [if_pos hi, Nat.toList_repr, if_neg hminus, decimalValue_toDigits]
    omega
  · simp [if_neg hi, decimalValue_toDigits]
    omega

/-- What a sentence says of a value tells the value. -/
theorem renderValue_injective : Function.Injective renderValue := by
  -- No integer is written with a letter, such as the first one of `unset`.
  have hunset (v : Int64) : renderValue (some v) ≠ renderValue none := by
    intro h
    have hmem : 'u' ∈ (renderValue (some v)).toList := by rw [h]; decide
    exact not_mem_repr (by decide) (by decide) v.toInt hmem
  intro a b h
  cases a with
  | none =>
    cases b with
    | none => rfl
    | some w => exact absurd h.symm (hunset w)
  | some v =>
    cases b with
    | none => exact absurd h (hunset v)
    | some w =>
      have hrepr : v.toInt.repr = w.toInt.repr := h
      have hint : v.toInt = w.toInt := by
        rw [eq_decimalValue_repr v.toInt, hrepr, ← eq_decimalValue_repr]
      rw [Int64.toInt_inj.1 hint]

/-- Where two texts that are the same have their last `c`, they have the same in front of it and the
same behind it. -/
theorem eq_of_append_cons_eq {c : Char} {s t u v : Text} (h : s ++ c :: u = t ++ c :: v)
    (hu : c ∉ u) (hv : c ∉ v) : s = t ∧ u = v := by
  rcases List.append_eq_append_iff.1 h with ⟨w, rfl, hw⟩ | ⟨w, rfl, hw⟩
  · cases w with
    | nil => exact ⟨by simp, (List.cons.inj hw).2⟩
    | cons d w =>
      -- Otherwise `u` would go on to the last `c` of the other text.
      obtain ⟨-, rfl⟩ := List.cons.inj hw
      exact absurd (by simp) hu
  · cases w with
    | nil => exact ⟨by simp, (List.cons.inj hw).2.symm⟩
    | cons d w =>
      obtain ⟨-, rfl⟩ := List.cons.inj hw
      exact absurd (by simp) hv

/-- Under one number, the sentence of a variable tells the variable, whatever its name holds. -/
theorem Variable.eq_of_render_eq {n : ℕ} {v w : Variable}
    (h : (v.render n).toList = (w.render n).toList) : v = w := by
  have hblank (value : Option Int64) : ' ' ∉ (renderValue value).toList ++ ['.'] := by
    simp [not_mem_renderValue]
  rw [Variable.toList_render, Variable.toList_render] at h
  obtain ⟨hfront, hbehind⟩ := eq_of_append_cons_eq h (hblank _) (hblank _)
  have hname : v.name = w.name :=
    List.append_cancel_right (List.append_cancel_left hfront)
  have hvalue : v.value = w.value :=
    renderValue_injective (String.toList_inj.1 (List.append_cancel_right hbehind))
  cases v
  cases w
  exact congrArg₂ Variable.mk hname hvalue

/-! ## Lines tell sentences -/

/-- The lines of a rendering are the sentences, if there is one and no name breaks a line. -/
theorem Program.splitOn_render {p : Program} (hne : p.declared ≠ [])
    (h : ∀ v ∈ p.declared, '\n' ∉ v.name) : p.render.toList.splitOn '\n' = p.sentences := by
  rw [p.toList_render]
  exact List.splitOn_intercalate '\n' (p.lineFeed_not_mem_sentences h)
    (List.mapIdx_ne_nil_iff.2 hne)

/-- The sentences tell the program. -/
theorem Program.eq_of_sentences_eq {p q : Program} (h : p.sentences = q.sentences) : p = q := by
  have hlength : p.declared.length = q.declared.length := by
    rw [← p.length_sentences, ← q.length_sentences, h]
  have hdeclared : p.declared = q.declared := by
    refine List.ext_getElem hlength fun i hi hi' => ?_
    have hsentence : p.sentences[i]? = q.sentences[i]? := by rw [h]
    simp only [Program.sentences, List.getElem?_mapIdx, List.getElem?_eq_getElem hi,
      List.getElem?_eq_getElem hi', Option.map_some, Option.some.injEq] at hsentence
    exact Variable.eq_of_render_eq hsentence
  cases p
  cases q
  exact congrArg Program.mk hdeclared

/-- Only the empty program is rendered as the empty text. -/
theorem Program.render_eq_empty_iff {p : Program} : p.render = "" ↔ p.declared = [] := by
  constructor
  · intro h
    have htext : ['\n'].intercalate p.sentences = [] := by
      rw [← p.toList_render, h]
      rfl
    cases hsentences : p.sentences with
    | nil => exact List.mapIdx_eq_nil_iff.1 hsentences
    | cons l ls =>
      -- The first sentence stands in the text, and it is not empty.
      have hmem : l ∈ p.sentences := by simp [hsentences]
      obtain ⟨i, hi, rfl⟩ := List.mem_mapIdx.1 hmem
      rw [hsentences, Variable.toList_render] at htext
      cases ls <;> simp [List.intercalate_cons_cons] at htext
  · intro h
    rw [Program.render, h]
    rfl

/-- The rendering of a program tells the program, if no name breaks a line: two such programs with
the same rendering are the same. The lines are the sentences, one for each variable, and the
sentence of a variable depends on its place and on the variable alone. Only the empty program is
rendered as the empty text. -/
theorem Program.rendering_tells_program {p : Program} (h : ∀ v ∈ p.declared, '\n' ∉ v.name) :
    (∀ q : Program, (∀ v ∈ q.declared, '\n' ∉ v.name) → p.render = q.render → p = q) ∧
      (p.declared ≠ [] → p.render.toList.splitOn '\n' =
        p.declared.mapIdx fun i v => (v.render (i + 1)).toList) ∧
      (p.render = "" ↔ p.declared = []) := by
  refine ⟨fun q hq hrender => ?_, fun hne => p.splitOn_render hne h, Program.render_eq_empty_iff⟩
  by_cases hp : p.declared = []
  · have hempty : q.declared = [] :=
      Program.render_eq_empty_iff.1 (hrender ▸ Program.render_eq_empty_iff.2 hp)
    exact Program.eq_of_sentences_eq (by rw [Program.sentences, Program.sentences, hp, hempty])
  · have hne : q.declared ≠ [] := fun hq =>
      hp (Program.render_eq_empty_iff.1 (hrender ▸ Program.render_eq_empty_iff.2 hq))
    refine Program.eq_of_sentences_eq ?_
    rw [← Program.splitOn_render hp h, ← Program.splitOn_render hne hq, hrender]

/-- A name may look like the end of its sentence. The first of these two programs still cannot be
taken for the second one, whose value is what the name pretends. -/
theorem Program.rendering_tells_program_of_pretence :
    let p : Program := ⟨[⟨['x', ' ', 'i', 's', ' ', '1', '.'], none⟩, ⟨[], some Int64.minValue⟩]⟩
    let q : Program := ⟨[⟨['x'], some 1⟩, ⟨[], some Int64.minValue⟩]⟩
    (∀ v ∈ p.declared, '\n' ∉ v.name) ∧ (∀ v ∈ q.declared, '\n' ∉ v.name) ∧ p.render ≠ q.render ∧
      p.render.toList.splitOn '\n' = ["1) The value of x is 1. is unset.".toList,
        "2) The value of  is -9223372036854775808.".toList] ∧ p.render ≠ "" := by
  intro p q
  have hp : ∀ v ∈ p.declared, '\n' ∉ v.name := by decide
  have hq : ∀ v ∈ q.declared, '\n' ∉ v.name := by decide
  obtain ⟨htells, hlines, hempty⟩ := Program.rendering_tells_program hp
  have hne : p ≠ q := by decide
  refine ⟨hp, hq, fun h => hne (htells q hq h), hlines (by decide), ?_⟩
  rw [Ne, hempty]
  decide

end ModalLexer.Assignment
