import ModalLexer.Transition

/-!
# Keys of transitions

A key is empty, or it begins with `&`, or it is a name, of which `@self` stands for the active one
(`Transition.key_cases`); a lemma for each form says what is read. A key that is read is written
again as it was (`Transition.key_of_ofKey`). A transition is read again as it was unless it is
written in the form of another one, which happens to four kinds of transitions that no key stands
for (`Transition.ofKey_key_iff`). So reading and writing are inverse to each other exactly where
they can be (`Transition.ofKey_inverse_key`).
-/

namespace ModalLexer.Transition

/-! ## The forms of a key -/

/-- A key is empty, or begins with `&`, or is a name. -/
theorem key_cases (k : String) :
    k = "" ∨ (∃ target, k = "&" ++ target) ∨ (k ≠ "" ∧ ∀ target, k ≠ "&" ++ target) := by
  by_cases hempty : k = ""
  · exact .inl hempty
  · by_cases hbehind : ∃ target, k = "&" ++ target
    · exact .inr (.inl hbehind)
    · exact .inr (.inr ⟨hempty, not_exists.1 hbehind⟩)

/-- Behind `&` stands the name to move to, if any. -/
theorem ofKey_ampersand (target : String) :
    ofKey ("&" ++ target) = .ok (if target = "" then skip else goto target) := by
  have hkey : ("&" ++ target).toList = '&' :: target.toList := by simp
  unfold ofKey
  rw [hkey]
  cases htarget : target.toList with
  | nil =>
    obtain rfl : target = "" := String.toList_eq_nil_iff.1 htarget
    rfl
  | cons c cs =>
    have hne : target ≠ "" := by
      rintro rfl
      simp at htarget
    simp [hne, ← htarget]

/-- Any other key but the empty one makes a token: of the active name, or of the name that it is. -/
theorem ofKey_name {k : String} (hne : k ≠ "") (hbehind : ∀ target, k ≠ "&" ++ target) :
    ofKey k = .ok (if k = "@self" then produceSelf else produce k) := by
  have hother {cs : Text} (htarget : k.toList = '&' :: cs) : False :=
    hbehind (String.ofList cs) (String.toList_inj.1 (by simp [htarget]))
  unfold ofKey
  split
  · next hkey => exact absurd (String.toList_eq_nil_iff.1 hkey) hne
  · next hkey => exact (hother hkey).elim
  · next hkey => exact (hother hkey).elim
  · rfl

/-! ## Reading and writing -/

/-- A transition that a key stands for is written as this key. -/
theorem key_of_ofKey {k : String} {t : Transition} (h : ofKey k = .ok t) : t.key = k := by
  rcases key_cases k with rfl | ⟨target, rfl⟩ | ⟨hne, hbehind⟩
  · exact absurd h (by simp [ofKey])
  · rw [ofKey_ampersand] at h
    obtain rfl := Except.ok.inj h
    split
    · next htarget => rw [htarget]; rfl
    · rfl
  · rw [ofKey_name hne hbehind] at h
    obtain rfl := Except.ok.inj h
    split
    · next hself => exact hself.symm
    · rfl

/-- Only the empty key stands for nothing. -/
theorem ofKey_eq_error_iff {k : String} {e : ConfigurationError} :
    ofKey k = .error e ↔ k = "" ∧ e = .emptyKey := by
  rcases key_cases k with rfl | ⟨target, rfl⟩ | ⟨hne, hbehind⟩
  · have hempty : ofKey "" = .error .emptyKey := rfl
    simp [hempty, eq_comm]
  · simp [ofKey_ampersand]
  · simp [ofKey_name hne hbehind, hne]

/-- A transition is read as what it was from the key that it is written as, unless this key stands
for another one or for none: that of a move to the empty name is `&`, and a token may have a name
which is no plain name in a key. -/
theorem ofKey_key_iff {t : Transition} :
    ofKey t.key = .ok t ↔ t ≠ goto "" ∧ t ≠ produce "" ∧ t ≠ produce "@self" ∧
      ∀ name, t ≠ produce ("&" ++ name) := by
  cases t with
  | skip => simp [key, ofKey]
  | produceSelf =>
    have hself : ofKey "@self" = .ok produceSelf := rfl
    simp [key, hself]
  | goto target =>
    rw [key, ofKey_ampersand]
    by_cases htarget : target = "" <;> simp [htarget]
  | produce name =>
    rcases key_cases name with rfl | ⟨target, rfl⟩ | ⟨hne, hbehind⟩
    · simp [key, ofKey]
    · have hread : ofKey ("&" ++ target) ≠ .ok (produce ("&" ++ target)) := by
        rw [ofKey_ampersand]
        split <;> simp
      simp [key, hread]
    · rw [key, ofKey_name hne hbehind]
      by_cases hself : name = "@self" <;> simp [hself, hne, hbehind]

/-- No key stands for a transition that makes a token named `@self`. -/
theorem ofKey_ne_produce_self (k : String) : ofKey k ≠ .ok (produce "@self") := by
  intro h
  have hkey : ofKey (produce "@self").key = .ok (produce "@self") := by rw [key_of_ofKey h, h]
  exact (ofKey_key_iff.1 hkey).2.2.1 rfl

/-- Reading a key and writing a transition undo each other wherever they can. Every key but the
empty one is read, and what is read is written as the same key. Every transition is written as a key
from which it is read again, but for those that no key stands for: a move to the empty name, and
tokens with the empty name, with the name `@self`, or with a name that begins with `&`. -/
theorem ofKey_inverse_key :
    (∀ k : String, (ofKey k).map key = if k = "" then .error .emptyKey else .ok k) ∧
      ∀ t : Transition, ofKey t.key = .ok t ↔ t ≠ goto "" ∧ t ≠ produce "" ∧ t ≠ produce "@self" ∧
        ∀ name, t ≠ produce ("&" ++ name) := by
  refine ⟨fun k => ?_, fun t => ofKey_key_iff⟩
  cases h : ofKey k with
  | error e =>
    obtain ⟨rfl, rfl⟩ := ofKey_eq_error_iff.1 h
    rfl
  | ok t =>
    have hne : k ≠ "" := by
      rintro rfl
      rw [ofKey_eq_error_iff.2 ⟨rfl, rfl⟩] at h
      exact absurd h (by simp)
    rw [if_neg hne, Except.map, key_of_ofKey h]

end ModalLexer.Transition
