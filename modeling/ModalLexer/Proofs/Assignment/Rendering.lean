import ModalLexer.Proofs.Assignment.Programs

/-!
# Renderings line by line

A program is rendered as one sentence per variable, and the sentences stand on lines of their own.
No sentence goes on to another line unless a name does (`Variable.lineFeed_not_mem_render`), and the
names that are read from a source are words (`isName_of_parse`). So there are as many lines as
variables (`Program.count_lineFeed_render`).
-/

namespace ModalLexer.Assignment

/-! ## Values -/

/-- A number is written with digits alone. -/
theorem not_mem_toDigits {c : Char} (hdigit : c.isDigit = false) (n : ℕ) :
    c ∉ Nat.toDigits 10 n := by
  intro h
  have hdigit' : c.isDigit = true := Nat.isDigit_of_mem_toDigits (by decide) (by decide) h
  rw [hdigit] at hdigit'
  exact absurd hdigit' (by decide)

/-- An integer is written with digits and a minus. -/
theorem not_mem_repr {c : Char} (hdigit : c.isDigit = false) (hminus : c ≠ '-') (i : ℤ) :
    c ∉ i.repr.toList := by
  rw [Int.repr_eq_if]
  split <;> simp [not_mem_toDigits hdigit, hminus]

/-- A value is written as an integer or in letters. -/
theorem not_mem_renderValue {c : Char} (hdigit : c.isDigit = false) (hminus : c ≠ '-')
    (hunset : c ∉ "unset".toList) (value : Option Int64) : c ∉ (renderValue value).toList := by
  cases value with
  | none => exact hunset
  | some v => exact not_mem_repr hdigit hminus v.toInt

/-! ## Sentences -/

/-- The text of a sentence. Its last blank is the one in front of the value. -/
theorem Variable.toList_render (n : ℕ) (v : Variable) :
    (v.render n).toList = (n.repr ++ ") The value of ").toList ++ (v.name ++ " is".toList) ++
      ' ' :: ((renderValue v.value).toList ++ ['.']) := by
  have hrender : v.render n = n.repr ++ ") The value of " ++ String.ofList v.name ++ " is " ++
      renderValue v.value ++ "." := rfl
  simp [hrender]

/-- The sentence of a variable is a line if its name does not break it. -/
theorem Variable.lineFeed_not_mem_render {v : Variable} (h : '\n' ∉ v.name) (n : ℕ) :
    '\n' ∉ (v.render n).toList := by
  have hvalue : '\n' ∉ (renderValue v.value).toList :=
    not_mem_renderValue (by decide) (by decide) (by decide) v.value
  have hnumber : '\n' ∉ Nat.toDigits 10 n := not_mem_toDigits (by decide) n
  simp [Variable.toList_render, h, hvalue, hnumber]

/-! ## Lines -/

/-- Lines with a line feed behind each of them hold as many line feeds. -/
theorem count_lineFeed_intercalate {ls : List Text} (hne : ls ≠ []) (h : ∀ l ∈ ls, '\n' ∉ l) :
    (['\n'].intercalate ls ++ ['\n']).count '\n' = ls.length := by
  induction ls with
  | nil => exact absurd rfl hne
  | cons l ls ih =>
    have hl : l.count '\n' = 0 := List.count_eq_zero.2 (h l List.mem_cons_self)
    cases ls with
    | nil => simp [hl]
    | cons l' ls =>
      have hrest := ih (by simp) fun k hk => h k (List.mem_cons_of_mem _ hk)
      rw [List.intercalate_cons_cons, List.append_assoc, List.count_append, List.count_append, hl,
        hrest]
      simp [Nat.add_comm]

/-- The sentences of a program, numbered from 1. -/
def Program.sentences (p : Program) : List Text :=
  p.declared.mapIdx fun i v => (v.render (i + 1)).toList

/-- There is one for each variable. -/
theorem Program.length_sentences (p : Program) : p.sentences.length = p.declared.length :=
  List.length_mapIdx

/-- The rendering has a line feed between one sentence and the next. -/
theorem Program.toList_render (p : Program) : p.render.toList = ['\n'].intercalate p.sentences := by
  have htexts :
      (p.declared.mapIdx fun i v => v.render (i + 1)).map String.toList = p.sentences := by
    simp [Program.sentences, List.mapIdx_eq_zipIdx_map, Function.comp_def]
  rw [Program.render, String.toList_intercalate, htexts]
  rfl

/-- No sentence has one inside if the names do not break a line. -/
theorem Program.lineFeed_not_mem_sentences {p : Program} (h : ∀ v ∈ p.declared, '\n' ∉ v.name) :
    ∀ l ∈ p.sentences, '\n' ∉ l := by
  intro l hl
  obtain ⟨i, hi, rfl⟩ := List.mem_mapIdx.1 hl
  exact Variable.lineFeed_not_mem_render (h _ (List.getElem_mem hi)) _

/-- So the rendering has as many lines as the program has variables. -/
theorem Program.count_lineFeed_render {p : Program} (hne : p.declared ≠ [])
    (h : ∀ v ∈ p.declared, '\n' ∉ v.name) :
    (p.render ++ "\n").toList.count '\n' = p.declared.length := by
  have hlines : (p.render ++ "\n").toList = ['\n'].intercalate p.sentences ++ ['\n'] := by
    rw [String.toList_append, p.toList_render]
    rfl
  have hsentences : p.sentences ≠ [] := List.mapIdx_ne_nil_iff.2 hne
  rw [hlines, count_lineFeed_intercalate hsentences (p.lineFeed_not_mem_sentences h),
    p.length_sentences]

/-! ## Names of a source -/

/-- The entries of items have names. -/
theorem Items.isName {t : Text} {es : List Entry} (h : Items t es) : ∀ e ∈ es, IsName e.name := by
  induction h with
  | nil => exact List.forall_mem_nil _
  | cons ht _ _ ih =>
    cases ht with
    | mk hn => exact List.forall_mem_cons.2 ⟨hn, ih⟩

/-- The entry of a tail has a name. -/
theorem Tail.isName {t : Text} {e : Entry} (h : Tail t e) : IsName e.name := by
  cases h with
  | name hn => exact hn
  | opened hn => exact hn
  | value hn => exact hn

/-- The entries of a source have names. -/
theorem Source.isName {t : Text} {es : List Entry} (h : Source t es) :
    ∀ e ∈ es, IsName e.name := by
  cases h with
  | closed _ ht => exact ht.isName
  | unclosed _ ht hu =>
    exact List.forall_mem_append.2 ⟨ht.isName, List.forall_mem_singleton.2 hu.isName⟩

/-- So the variables of a program that is read from a source have names. -/
theorem isName_of_parse {source : Text} {p : Program} (h : parse source = .ok p) :
    ∀ v ∈ p.declared, IsName v.name := by
  obtain ⟨es, hes, -, hdeclared⟩ := exists_entries_of_parse h
  rw [hdeclared]
  intro v hv
  obtain ⟨e, he, rfl⟩ := List.mem_map.1 hv
  exact hes.isName e he

/-- Such names do not break a line. -/
theorem lineFeed_not_mem_name {source : Text} {p : Program} (h : parse source = .ok p) :
    ∀ v ∈ p.declared, '\n' ∉ v.name := by
  intro v hv hmem
  have hchar := (isName_of_parse h v hv).2 '\n' hmem
  exact absurd hchar (by decide)

end ModalLexer.Assignment
