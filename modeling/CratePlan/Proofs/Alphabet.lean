import CratePlan.Identifier.Word
import Mathlib.Data.List.Basic

/-! The classes of characters that generated names are made of, and what the case maps do to a
single character of them. All of these characters are ASCII, where the case maps of Unicode are the
familiar ones; facts about one character are therefore settled by going through the 128 codes. -/

namespace CratePlan.Identifier

open Text

/-- A small letter, a digit or an underscore, as in the stem of a source file. -/
def isStemChar (c : Char) : Bool :=
  c.isLower || c.isDigit || c = '_'

/-- A capital, a digit or an underscore, as in the name of an enum or of a variant. -/
def isShoutChar (c : Char) : Bool :=
  c.isUpper || c.isDigit || c = '_'

/-- Every character of a text belongs to a class. -/
def Spelled (p : Char → Bool) (s : String) : Prop :=
  ∀ c ∈ s.toList, p c

instance (p : Char → Bool) (s : String) : Decidable (Spelled p s) :=
  decidable_of_iff (s.toList.all p) List.all_eq_true

theorem Spelled.mono {p q : Char → Bool} {s : String} (h : Spelled p s)
    (hpq : ∀ c, p c → q c) : Spelled q s :=
  fun c hc => hpq c (h c hc)

theorem spelled_append_iff {p : Char → Bool} {s t : String} :
    Spelled p (s ++ t) ↔ Spelled p s ∧ Spelled p t := by
  unfold Spelled
  rw [String.toList_append, List.forall_mem_append]

theorem Spelled.append {p : Char → Bool} {s t : String} (hs : Spelled p s) (ht : Spelled p t) :
    Spelled p (s ++ t) :=
  spelled_append_iff.mpr ⟨hs, ht⟩

theorem spelled_ofList {p : Char → Bool} {cs : List Char} (h : ∀ c ∈ cs, p c) :
    Spelled p (String.ofList cs) := by
  intro c hc
  rw [String.toList_ofList] at hc
  exact h c hc

/-- At least one character, and all of them from a class. -/
structure Written (p : Char → Bool) (s : String) : Prop where
  spelled : Spelled p s
  ne_empty : s ≠ ""

instance (p : Char → Bool) (s : String) : Decidable (Written p s) :=
  decidable_of_iff (Spelled p s ∧ s ≠ "") ⟨fun h => ⟨h.1, h.2⟩, fun h => ⟨h.spelled, h.ne_empty⟩⟩

theorem Written.mono {p q : Char → Bool} {s : String} (h : Written p s)
    (hpq : ∀ c, p c → q c) : Written q s :=
  ⟨h.spelled.mono hpq, h.ne_empty⟩

theorem Written.append {p : Char → Bool} {s t : String} (hs : Written p s) (ht : Spelled p t) :
    Written p (s ++ t) := by
  refine ⟨hs.spelled.append ht, fun hempty => hs.ne_empty ?_⟩
  rw [← String.toList_inj, String.toList_append] at hempty
  exact String.toList_inj.mp (List.append_eq_nil_iff.mp hempty).1

theorem Spelled.append_written {p : Char → Bool} {s t : String} (hs : Spelled p s)
    (ht : Written p t) : Written p (s ++ t) := by
  refine ⟨hs.append ht.spelled, fun hempty => ht.ne_empty ?_⟩
  rw [← String.toList_inj, String.toList_append] at hempty
  exact String.toList_inj.mp (List.append_eq_nil_iff.mp hempty).2

theorem written_ofList {p : Char → Bool} {cs : List Char} (h : ∀ c ∈ cs, p c) (hne : cs ≠ []) :
    Written p (String.ofList cs) := by
  refine ⟨spelled_ofList h, fun hempty => hne ?_⟩
  rw [← String.toList_ofList (l := cs), hempty]
  rfl

theorem Written.toList_ne_nil {p : Char → Bool} {s : String} (h : Written p s) :
    s.toList ≠ [] :=
  fun hnil => h.ne_empty (String.toList_inj.mp hnil)

/-- A property of the first 128 codes is a property of every ASCII character. -/
theorem of_ascii {p : Char → Prop} (h : ∀ n < 128, p (Char.ofNat n)) {c : Char}
    (hc : c.toNat < 128) : p c := by
  rw [← Char.ofNat_toNat c]
  exact h c.toNat hc

theorem isWordChar_lt {c : Char} (h : isWordChar c) : c.toNat < 128 := by
  change (((decide (65 ≤ c.toNat ∧ c.toNat ≤ 90) ||
      (decide (97 ≤ c.toNat) && decide (c.toNat ≤ 122))) ||
    (decide (48 ≤ c.toNat) && decide (c.toNat ≤ 57))) || decide (c = '_')) = true at h
  simp only [Bool.or_eq_true, Bool.and_eq_true, decide_eq_true_eq] at h
  rcases h with h | rfl
  · omega
  · decide

/-- What holds of every word character among the first 128 codes holds of every word character. -/
theorem of_wordChar {p : Char → Prop} (h : ∀ n < 128, isWordChar (Char.ofNat n) → p (Char.ofNat n))
    {c : Char} (hc : isWordChar c) : p c :=
  of_ascii (p := fun c => isWordChar c → p c) h (isWordChar_lt hc) hc

theorem isAlpha_iff {c : Char} : c.isAlpha ↔ c.isUpper ∨ c.isLower := by
  rw [← Bool.or_eq_true]
  exact Iff.rfl

theorem isWordChar_of_isStemChar (c : Char) (h : isStemChar c) : isWordChar c := by
  simp only [isStemChar, isWordChar, Char.isAlphanum, isAlpha_iff, Bool.or_eq_true] at h ⊢
  rcases h with (h | h) | h
  · exact Or.inl (Or.inl (Or.inr h))
  · exact Or.inl (Or.inr h)
  · exact Or.inr h

theorem isWordChar_of_isShoutChar (c : Char) (h : isShoutChar c) : isWordChar c := by
  simp only [isShoutChar, isWordChar, Char.isAlphanum, isAlpha_iff, Bool.or_eq_true] at h ⊢
  rcases h with (h | h) | h
  · exact Or.inl (Or.inl (Or.inl h))
  · exact Or.inl (Or.inr h)
  · exact Or.inr h

theorem isStemChar_of_isLower {c : Char} (h : c.isLower) : isStemChar c := by
  simp only [isStemChar, h, Bool.true_or]

theorem isAlphanum_of_isLower {c : Char} (h : c.isLower) : c.isAlphanum := by
  rw [Char.isAlphanum, Bool.or_eq_true]
  exact Or.inl (isAlpha_iff.mpr (Or.inr h))

theorem isWordChar_of_isAlphanum (c : Char) (h : c.isAlphanum) : isWordChar c := by
  simp only [isWordChar, h, Bool.true_or]

/-- Identifiers start with a letter or an underscore, and these are word characters. -/
theorem isWordChar_of_starter {c : Char} (h : c.isAlpha || c = '_') : isWordChar c := by
  simp only [isWordChar, Char.isAlphanum, Bool.or_eq_true] at h ⊢
  exact h.imp_left Or.inl

theorem isDigit_of_starter {c : Char} (h : c.isAlpha || c = '_') : c.isDigit = false :=
  of_wordChar (p := fun c => (c.isAlpha || c = '_') = true → c.isDigit = false) (by decide)
    (isWordChar_of_starter h) h

theorem isDigit_toUpper_of_starter {c : Char} (h : c.isAlpha || c = '_') :
    c.toUpper.isDigit = false :=
  of_wordChar (p := fun c => (c.isAlpha || c = '_') = true → c.toUpper.isDigit = false)
    (by decide) (isWordChar_of_starter h) h

theorem isAlphanum_of_isWordChar {c : Char} (h : isWordChar c) (hc : c ≠ '_') : c.isAlphanum := by
  simpa only [isWordChar, hc, decide_false, Bool.or_false] using h

theorem lowerChar_of_wordChar {c : Char} (h : isWordChar c) : lowerChar c = [c.toLower] :=
  if_pos (isWordChar_lt h)

theorem upperChar_of_wordChar {c : Char} (h : isWordChar c) : upperChar c = [c.toUpper] :=
  if_pos (isWordChar_lt h)

theorem snakeChar_of_wordChar {c : Char} (h : isWordChar c) : snakeChar c = [c.toLower] := by
  rw [snakeChar, if_neg, lowerChar_of_wordChar h]
  exact of_wordChar (p := fun c => ¬(c = '-' ∨ c = ' ')) (by decide) h

theorem isStemChar_toLower {c : Char} (h : isWordChar c) : isStemChar c.toLower :=
  of_wordChar (p := fun c => isStemChar c.toLower) (by decide) h

theorem isShoutChar_toUpper {c : Char} (h : isWordChar c) : isShoutChar c.toUpper :=
  of_wordChar (p := fun c => isShoutChar c.toUpper) (by decide) h

/-- Raising a character of a stem can be undone. -/
theorem toLower_toUpper {c : Char} (h : isStemChar c) : c.toUpper.toLower = c :=
  of_wordChar (p := fun c => isStemChar c → c.toUpper.toLower = c) (by decide)
    (isWordChar_of_isStemChar c h) h

theorem isAlphanum_toUpper {c : Char} (h : c.isAlphanum) : c.toUpper.isAlphanum :=
  of_wordChar (p := fun c => c.isAlphanum → c.toUpper.isAlphanum) (by decide)
    (isWordChar_of_isAlphanum c h) h

theorem toLower_ne_underscore {c : Char} (h : c.isAlphanum) : c.toLower ≠ '_' :=
  of_wordChar (p := fun c => c.isAlphanum → c.toLower ≠ '_') (by decide)
    (isWordChar_of_isAlphanum c h) h

theorem toUpper_of_not_isLower {c : Char} (h : c.isAlphanum) (hc : c.isLower = false) :
    c.toUpper = c :=
  of_wordChar (p := fun c => c.isLower = false → c.toUpper = c) (by decide)
    (isWordChar_of_isAlphanum c h) hc

end CratePlan.Identifier
