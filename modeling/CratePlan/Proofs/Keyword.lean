import CratePlan.Identifier.Keyword
import CratePlan.Proofs.CaseConversion

/-! Keywords under a change of case. A name is a keyword in any mix of case or in none, and no keyword
has an underscore: a name that has one is none, and since snake case only lowers letters and adds
underscores, it cannot turn another name into a keyword. -/

namespace CratePlan.Identifier

open Text

theorem toList_asciiLower (s : String) : (asciiLower s).toList = s.toList.map Char.toLower := by
  rw [asciiLower, String.toList_ofList]

theorem lowerFrom_of_ascii {before cs : List Char} (h : ∀ c ∈ cs, c.toNat < 128) :
    lowerFrom before cs = cs.map Char.toLower := by
  induction cs generalizing before with
  | nil => rfl
  | cons c rest ih =>
      have hc : c.toNat < 128 := h c List.mem_cons_self
      have hsigma : c ≠ 'Σ' := by
        rintro rfl
        exact absurd hc (by decide)
      rw [lowerFrom, if_neg hsigma, lowerChar, if_pos hc,
        ih fun d hd => h d (List.mem_cons_of_mem c hd)]
      rfl

/-- Lowering an ASCII text is lowering its letters. -/
theorem lowercase_of_ascii {s : String} (h : ∀ c ∈ s.toList, c.toNat < 128) :
    lowercase s = asciiLower s := by
  rw [lowercase, lowerFrom_of_ascii h, asciiLower]

theorem spelled_of_mem_keywords : ∀ word ∈ keywords, Spelled isWordChar word := by
  decide

theorem map_lowercase_keywords : keywords.map lowercase = keywords.map asciiLower :=
  List.map_congr_left fun word hword =>
    lowercase_of_ascii fun c hc => isWordChar_lt (spelled_of_mem_keywords word hword c hc)

theorem asciiLower_asciiLower {s : String} (h : Spelled isWordChar s) :
    asciiLower (asciiLower s) = asciiLower s := by
  have hchar : ∀ c ∈ s.toList, c.toLower.toLower = c.toLower := fun c hc =>
    of_wordChar (p := fun c => c.toLower.toLower = c.toLower) (by decide) (h c hc)
  rw [← String.toList_inj, toList_asciiLower, toList_asciiLower, List.map_map]
  exact List.map_congr_left hchar

theorem isKeyword_iff {name : String} :
    isKeyword name = true ↔ ∃ word ∈ keywords, asciiLower word = asciiLower name := by
  simp only [isKeyword, List.any_eq_true, decide_eq_true_eq]

theorem isKeyword_of_mem {name : String} (h : name ∈ keywords) : isKeyword name = true :=
  isKeyword_iff.mpr ⟨name, h, rfl⟩

theorem notMem_keywords_of_not_isKeyword {name : String} (h : isKeyword name = false) :
    name ∉ keywords :=
  fun hmem => Bool.false_ne_true (h.symm.trans (isKeyword_of_mem hmem))

/-- Whether a name is a keyword does not depend on its case. -/
theorem isKeyword_asciiLower {name : String} (h : Spelled isWordChar name) :
    isKeyword (asciiLower name) = isKeyword name := by
  rw [Bool.eq_iff_iff, isKeyword_iff, isKeyword_iff, asciiLower_asciiLower h]

theorem isKeyword_of_underscore {name : String} (h : '_' ∈ name.toList) :
    isKeyword name = false := by
  have hwords : ∀ word ∈ keywords, '_' ∉ (asciiLower word).toList := by
    decide
  rw [Bool.eq_false_iff, Ne, isKeyword_iff]
  rintro ⟨word, hword, heq⟩
  have hlower : '_' ∈ (asciiLower name).toList := by
    rw [toList_asciiLower]
    exact List.mem_map_of_mem (f := Char.toLower) h
  exact hwords word hword (heq ▸ hlower)

/-! ### Guards -/

theorem startsWithDigit_eq_false {name : String}
    (h : ∀ c ∈ name.toList.head?, c.isDigit = false) : startsWithDigit name = false := by
  rw [startsWithDigit, Option.any_eq_false]
  exact fun c hc => Bool.not_eq_true _ ▸ h c hc

theorem startsWithDigit_append {front : String} (h : front ≠ "") (rest : String) :
    startsWithDigit (front ++ rest) = startsWithDigit front := by
  rw [startsWithDigit, startsWithDigit, String.toList_append,
    List.head?_append_of_ne_nil _ fun hnil => h (String.toList_inj.mp hnil)]

/-- Word characters with an underscore among them and no digit at the start. Put before a name, such
a text makes it safe, and it stays one whatever word characters follow. -/
structure IsGuard (s : String) : Prop where
  written : Written isWordChar s
  no_digit : startsWithDigit s = false
  underscore : '_' ∈ s.toList

instance (s : String) : Decidable (IsGuard s) :=
  decidable_of_iff (Written isWordChar s ∧ startsWithDigit s = false ∧ '_' ∈ s.toList)
    ⟨fun h => ⟨h.1, h.2.1, h.2.2⟩, fun h => ⟨h.written, h.no_digit, h.underscore⟩⟩

theorem IsGuard.append {front rest : String} (h : IsGuard front) (hrest : Spelled isWordChar rest) :
    IsGuard (front ++ rest) := by
  refine ⟨h.written.append hrest, ?_, ?_⟩
  · rw [startsWithDigit_append h.written.ne_empty, h.no_digit]
  · rw [String.toList_append]
    exact List.mem_append_left _ h.underscore

/-! ### Snake case -/

/-- Snake case that adds no underscore to a text, nor finds one in it, only lowers it. -/
theorem snakePass_of_no_underscore {before : Option Char} {cs : List Char}
    (h : ∀ c ∈ cs, isWordChar c) (hnone : '_' ∉ snakePass before cs) :
    snakePass before cs = cs.map Char.toLower := by
  induction cs generalizing before with
  | nil => rfl
  | cons c rest ih =>
      have hc : isWordChar c := h c List.mem_cons_self
      have hrest : ∀ x ∈ rest, isWordChar x := fun x hx => h x (List.mem_cons_of_mem c hx)
      rw [snakePass, snakeChar_of_wordChar hc] at hnone ⊢
      cases hmark : startsWord before c rest with
      | true => simp [hmark] at hnone
      | false =>
          have htail : '_' ∉ snakePass (some c) rest := fun hmem => hnone (by simp [hmem])
          rw [ih hrest htail]
          rfl

theorem snakeCase_of_no_underscore {s : String} (h : Spelled isWordChar s)
    (hnone : '_' ∉ (snakeCase s).toList) : snakeCase s = asciiLower s := by
  rw [toList_snakeCase h] at hnone
  rw [← String.toList_inj, toList_snakeCase h, toList_asciiLower,
    snakePass_of_no_underscore h hnone]

theorem isKeyword_snakeCase {s : String} (h : Spelled isWordChar s) (hfree : isKeyword s = false) :
    isKeyword (snakeCase s) = false := by
  by_cases hunderscore : '_' ∈ (snakeCase s).toList
  · exact isKeyword_of_underscore hunderscore
  · rw [snakeCase_of_no_underscore h hunderscore, isKeyword_asciiLower h, hfree]

theorem startsWithDigit_snakeCase {s : String} (h : Spelled isWordChar s) :
    startsWithDigit (snakeCase s) = startsWithDigit s := by
  rw [startsWithDigit, startsWithDigit, toList_snakeCase h]
  cases hcs : s.toList with
  | nil => rfl
  | cons c rest =>
      have hc : isWordChar c := h c (hcs ▸ List.mem_cons_self)
      have hstart : startsWord none c rest = false := by simp [startsWord]
      rw [snakePass, snakeChar_of_wordChar hc, hstart]
      exact of_wordChar (p := fun c => c.toLower.isDigit = c.isDigit) (by decide) hc

end CratePlan.Identifier
