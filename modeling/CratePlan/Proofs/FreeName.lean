import CratePlan.Proofs.LegalName
import CratePlan.Proofs.Renaming

/-! Names that need no further change. The stems of model files and the names of methods are made
free by a guard, and the snake case that follows keeps them so. Fields go another way: a reserved one
is escaped, and one in capitals is kept as it stands even where it spells a keyword. -/

namespace CratePlan

open Text Identifier

namespace Naming

/-- A name over a class of characters that can stay as it is: not empty, no digit at its start, and
not reserved in whatever case it is read. -/
structure IsFree (naming : Naming) (p : Char → Bool) (name : String) : Prop where
  written : Written p name
  no_digit : startsWithDigit name = false
  not_reserved : naming.isReserved name = false

theorem IsFree.respelled {naming : Naming} {p q : Char → Bool} {name : String}
    (h : naming.IsFree p name) (hname : Written q name) : naming.IsFree q name :=
  ⟨hname, h.no_digit, h.not_reserved⟩

theorem IsFree.mono {naming : Naming} {p q : Char → Bool} {name : String} (h : naming.IsFree p name)
    (hpq : ∀ c, p c → q c) : naming.IsFree q name :=
  h.respelled (h.written.mono hpq)

/-- What a raw text keeps when it is sanitized is over the right class of characters. -/
theorem isFree_sanitize_iff {naming : Naming} {raw : String} :
    naming.IsFree isWordChar (sanitize raw) ↔
      sanitize raw ≠ "" ∧ naming.isReserved (sanitize raw) = false ∧
        startsWithDigit (sanitize raw) = false :=
  ⟨fun h => ⟨h.written.ne_empty, h.not_reserved, h.no_digit⟩,
    fun ⟨hne, hreserved, hdigit⟩ => ⟨⟨spelled_sanitize raw, hne⟩, hdigit, hreserved⟩⟩

/-- Naming whose reserved words are the keywords. -/
def GoesByKeywords (naming : Naming) : Prop :=
  naming.reserved.words = keywords.map lowercase

theorem goesByKeywords_naming (settings : Settings) : settings.naming.GoesByKeywords :=
  rfl

section

variable {naming : Naming} (hnaming : naming.GoesByKeywords)

include hnaming

/-- Among ASCII names the reserved ones are the keywords in any mix of case. -/
theorem isReserved_of_ascii {name : String} (h : ∀ c ∈ name.toList, c.toNat < 128) :
    naming.isReserved name = isKeyword name := by
  rw [isReserved, ReservedTable.isReserved, hnaming, map_lowercase_keywords, lowercase_of_ascii h,
    Bool.eq_iff_iff, isKeyword_iff, List.contains_iff_mem, List.mem_map]

theorem isReserved_of_spelled {name : String} (h : Spelled isWordChar name) :
    naming.isReserved name = isKeyword name :=
  isReserved_of_ascii hnaming fun c hc => isWordChar_lt (h c hc)

/-- A guard is free, and with it every name that it is put before. -/
theorem isFree_of_isGuard {name : String} (h : IsGuard name) : naming.IsFree isWordChar name := by
  refine ⟨h.written, h.no_digit, ?_⟩
  rw [isReserved_of_spelled hnaming h.written.spelled, isKeyword_of_underscore h.underscore]

theorem IsFree.isLegal {name : String} (h : naming.IsFree isWordChar name) : IsLegal name := by
  have hreserved := h.not_reserved
  rw [isReserved_of_spelled hnaming h.written.spelled] at hreserved
  exact ⟨h.written, h.no_digit, notMem_keywords_of_not_isKeyword hreserved⟩

/-- Snake case keeps a name free. -/
theorem IsFree.snakeCase {name : String} (h : naming.IsFree isWordChar name) :
    naming.IsFree isStemChar (snakeCase name) := by
  have hspelled := h.written.spelled
  have hfree : isKeyword name = false := by
    rw [← isReserved_of_spelled hnaming hspelled, h.not_reserved]
  have hsnake := h.written.snakeCase
  refine ⟨hsnake, ?_, ?_⟩
  · rw [startsWithDigit_snakeCase hspelled, h.no_digit]
  · rw [isReserved_of_spelled hnaming (hsnake.spelled.mono isWordChar_of_isStemChar),
      isKeyword_snakeCase hspelled hfree]

end

/-! ### Stems of models and names of methods -/

section

variable {naming : Naming} (hnaming : naming.GoesByKeywords)

include hnaming

theorem isFree_guarded {front name : String} (hfront : IsGuard front)
    (hname : Written isWordChar name) : naming.IsFree isWordChar (naming.guarded front name) := by
  unfold guarded
  split_ifs with h
  · exact isFree_of_isGuard hnaming (hfront.append hname.spelled)
  · rw [Bool.not_eq_true, Bool.or_eq_false_iff] at h
    exact ⟨hname, h.2, h.1⟩

omit hnaming in
theorem guarded_of_isFree {front name : String} (h : naming.IsFree isWordChar name) :
    naming.guarded front name = name := by
  rw [guarded, h.not_reserved, h.no_digit]
  rfl

theorem modelStem_isFree (raw : String) : naming.IsFree isStemChar (naming.modelStem raw).name := by
  rw [name_modelStem]
  exact (isFree_guarded hnaming (by decide) (naming.modelStart_written raw)).snakeCase hnaming

theorem methodName_isFree (raw : String) :
    naming.IsFree isStemChar (naming.methodName raw).name := by
  rw [name_methodName]
  split_ifs with hempty
  · exact (isFree_of_isGuard hnaming (by decide)).respelled (by decide)
  · exact (isFree_guarded hnaming (by decide) ⟨spelled_sanitize raw, hempty⟩).snakeCase hnaming

end

end Naming

/-- Under any settings the stem of a model's file and the name of a method are free, whatever the raw
name is: small letters, digits and underscores, at least one of them, no digit at the start, and no
reserved word in any mix of case. -/
theorem stems_and_methods_are_free (settings : Settings) (raw : String) :
    settings.naming.IsFree isStemChar (settings.naming.modelStem raw).name ∧
      settings.naming.IsFree isStemChar (settings.naming.methodName raw).name := by
  have hnaming := Naming.goesByKeywords_naming settings
  exact ⟨Naming.modelStem_isFree hnaming raw, Naming.methodName_isFree hnaming raw⟩

/-! ### Fields -/

theorem ReservedTable.isUsable_iff {table : ReservedTable} {name : String} :
    table.isUsable name = true ↔
      name ≠ "" ∧ table.isReserved name = false ∧ startsWithDigit name = false := by
  simp only [isUsable, Bool.and_eq_true, bne_iff_ne, Bool.not_eq_true', and_assoc]

namespace Naming

theorem IsFree.isUsable {naming : Naming} {p : Char → Bool} {name : String}
    (h : naming.IsFree p name) : naming.reserved.isUsable name = true :=
  ReservedTable.isUsable_iff.mpr ⟨h.written.ne_empty, h.not_reserved, h.no_digit⟩

variable {naming : Naming} (hnaming : naming.GoesByKeywords)

include hnaming

/-- What a word is escaped to can be used, whatever the replacements are: a replacement is taken only
if it can be used itself. -/
theorem isUsable_escape {name : String} (h : Spelled isWordChar name) :
    naming.reserved.isUsable (naming.escape name) = true := by
  have hbehind : naming.reserved.isUsable ("_" ++ name) = true :=
    (isFree_of_isGuard hnaming (.append (by decide) h)).isUsable
  unfold escape ReservedTable.escape
  split
  · split_ifs with husable
    · exact husable
    · exact hbehind
  · exact hbehind

/-- A field that is not kept as a constant gets a name that can be used. -/
theorem isUsable_fieldName {raw : String}
    (h : looksConstant (sanitize (replaceChar '-' "_" raw)) = false) :
    naming.reserved.isUsable (naming.fieldName raw).name = true := by
  rw [name_fieldName, h, name_escapeReserved]
  by_cases hempty : sanitize (replaceChar '-' "_" raw) = ""
  · rw [if_pos hempty]
    exact (isFree_of_isGuard hnaming (by decide)).isUsable
  · have hsnake := (Written.snakeCase ⟨spelled_sanitize _, hempty⟩).mono isWordChar_of_isStemChar
    rw [if_neg hempty, if_neg Bool.false_ne_true]
    by_cases hreserved : naming.isReserved (snakeCase (sanitize (replaceChar '-' "_" raw))) = true
    · -- what a word is escaped to does not start with a digit, so nothing more is put before it
      have hescape := isUsable_escape hnaming hsnake.spelled
      have hdigit := (ReservedTable.isUsable_iff.mp hescape).2.2
      rw [if_pos hreserved, if_neg (Bool.not_eq_true _ ▸ hdigit)]
      exact hescape
    · rw [if_neg hreserved]
      split_ifs with hdigit
      · exact (isFree_of_isGuard hnaming (.append (by decide) hsnake.spelled)).isUsable
      · exact ReservedTable.isUsable_iff.mpr
          ⟨hsnake.ne_empty, Bool.not_eq_true _ ▸ hreserved, Bool.not_eq_true _ ▸ hdigit⟩

omit hnaming in
theorem fieldName_of_looksConstant {raw : String}
    (h : looksConstant (sanitize (replaceChar '-' "_" raw)) = true) :
    (naming.fieldName raw).name = sanitize (replaceChar '-' "_" raw) := by
  have hne : sanitize (replaceChar '-' "_" raw) ≠ "" :=
    (isLegal_of_looksConstant h).written.ne_empty
  rw [name_fieldName, if_neg hne, if_pos h]

end Naming

/-- Under any settings the name of a field or parameter is not empty and does not start with a digit,
and it is reserved only where a raw name in capitals and underscores is kept as it stands: exactly if
that is a keyword in capitals. -/
theorem fieldName_isReserved_iff (settings : Settings) (raw : String) :
    let naming := settings.naming
    let clean := sanitize (replaceChar '-' "_" raw)
    naming.parameterName raw = naming.fieldName raw ∧
      (naming.fieldName raw).name ≠ "" ∧
      startsWithDigit (naming.fieldName raw).name = false ∧
      (looksConstant clean = true → (naming.fieldName raw).name = clean) ∧
      (naming.isReserved (naming.fieldName raw).name = true ↔
        looksConstant clean = true ∧ isKeyword clean = true) := by
  intro naming clean
  have hnaming := Naming.goesByKeywords_naming settings
  refine ⟨rfl, ?_⟩
  cases hconstant : looksConstant clean with
  | true =>
      have hname : (naming.fieldName raw).name = clean := Naming.fieldName_of_looksConstant hconstant
      have hlegal := isLegal_of_looksConstant hconstant
      rw [hname, Naming.isReserved_of_spelled hnaming hlegal.written.spelled]
      exact ⟨hlegal.written.ne_empty, hlegal.no_digit, fun _ => rfl, by simp⟩
  | false =>
      obtain ⟨hne, hreserved, hdigit⟩ :=
        ReservedTable.isUsable_iff.mp (Naming.isUsable_fieldName hnaming hconstant)
      refine ⟨hne, hdigit, fun h => absurd h Bool.false_ne_true, ?_⟩
      rw [Naming.isReserved, hreserved]
      simp

/-- A field `SELF` keeps its name, and the same naming calls that name reserved. -/
theorem field_in_capitals_stays_reserved :
    let naming := ({} : Settings).naming
    (naming.fieldName "SELF").name = "SELF" ∧ (naming.parameterName "SELF").name = "SELF" ∧
      naming.isReserved "SELF" = true := by
  decide +kernel

end CratePlan
