import CratePlan.Naming.Variant
import CratePlan.Proofs.Alphabet
import CratePlan.Settings.Basic

/-! The names of numbers. Signs and points become words, and everything else stays; the word for a
character is told by its first letter, which no number has, so a name is read back from the left in one
way only. The name of the empty literal cannot be read like that, so it is no number's. -/

namespace CratePlan

open Text Identifier

namespace Naming

/-- What a character of a number becomes in its name. -/
def numberChars (c : Char) : List Char :=
  if c = '-' then "MINUS_".toList
  else if c = '+' then "PLUS_".toList
  else if c = '.' then "_DOT_".toList
  else [c]

theorem toList_numberName (value : String) :
    (numberName value).toList = value.toList.flatMap numberChars := by
  simp only [numberName, replaceChar, String.toList_ofList, List.flatMap_assoc]
  refine List.flatMap_congr fun c _ => ?_
  unfold numberChars
  split_ifs with hminus hplus hdot
  · decide
  · rw [List.flatMap_singleton, if_pos hplus]
    decide
  · rw [List.flatMap_singleton, if_neg hplus, List.flatMap_singleton, if_pos hdot]
  · rw [List.flatMap_singleton, if_neg hplus, List.flatMap_singleton, if_neg hdot]

/-- A character that none of the words for signs starts with. -/
def isNumberChar (c : Char) : Bool :=
  c ≠ 'M' && c ≠ 'P' && c ≠ '_'

/-- The character of a number that is told by the first character of what it becomes. -/
def numberChar (c : Char) : Char :=
  if c = 'M' then '-' else if c = 'P' then '+' else if c = '_' then '.' else c

theorem head?_numberChars_append {c : Char} (h : isNumberChar c) (cs : List Char) :
    (numberChars c ++ cs).head?.map numberChar = some c := by
  unfold numberChars
  split_ifs with hminus hplus hdot
  · rw [hminus]
    rfl
  · rw [hplus]
    rfl
  · rw [hdot]
    rfl
  · simp only [isNumberChar, ne_eq, Bool.and_eq_true, decide_eq_true_eq] at h
    rw [List.singleton_append, List.head?_cons, Option.map_some, numberChar, if_neg h.1.1,
      if_neg h.1.2, if_neg h.2]

theorem eq_numberChar_of_append {c d : Char} {cs ds : List Char} (hc : isNumberChar c)
    (h : numberChars c ++ cs = d :: ds) : c = numberChar d := by
  have hread := head?_numberChars_append hc cs
  rw [h] at hread
  exact (Option.some.inj hread).symm

theorem flatMap_numberChars_inj {cs ds : List Char} (hcs : ∀ c ∈ cs, isNumberChar c)
    (hds : ∀ d ∈ ds, isNumberChar d) (h : cs.flatMap numberChars = ds.flatMap numberChars) :
    cs = ds := by
  induction cs generalizing ds with
  | nil =>
      cases ds with
      | nil => rfl
      | cons d rest =>
          have hread := head?_numberChars_append (hds d List.mem_cons_self) (rest.flatMap numberChars)
          rw [← List.flatMap_cons, ← h] at hread
          cases hread
  | cons c cs ih =>
      rw [List.forall_mem_cons] at hcs
      have hread := head?_numberChars_append hcs.1 (cs.flatMap numberChars)
      rw [← List.flatMap_cons, h] at hread
      cases ds with
      | nil => cases hread
      | cons d rest =>
          rw [List.forall_mem_cons] at hds
          rw [List.flatMap_cons, head?_numberChars_append hds.1] at hread
          cases hread
          rw [List.flatMap_cons, List.flatMap_cons] at h
          rw [ih hcs.2 hds.2 (List.append_cancel_left h)]

/-- The name of a number can be read back, so that different numbers have different names. -/
theorem numberName_inj {a b : String} (ha : Spelled isNumberChar a) (hb : Spelled isNumberChar b) :
    numberName a = numberName b ↔ a = b := by
  refine ⟨fun h => String.toList_inj.mp (flatMap_numberChars_inj ha hb ?_), congrArg numberName⟩
  rw [← toList_numberName, ← toList_numberName, h]

/-- No number is called like the empty literal. Its name would have to start with an `E` and the word
for a minus sign, and that word goes on otherwise. -/
theorem flatMap_numberChars_ne_emptyName {cs : List Char} (h : ∀ c ∈ cs, isNumberChar c) :
    cs.flatMap numberChars ≠ "EMPTY".toList := by
  intro heq
  cases cs with
  | nil => cases heq
  | cons first cs =>
      rw [List.forall_mem_cons] at h
      obtain rfl : first = 'E' := eq_numberChar_of_append h.1 heq
      have hcs : cs.flatMap numberChars = "MPTY".toList := (List.cons.inj heq).2
      cases cs with
      | nil => cases hcs
      | cons second rest =>
          obtain rfl : second = '-' :=
            eq_numberChar_of_append (h.2 second List.mem_cons_self) hcs
          exact absurd (List.cons.inj (List.cons.inj hcs).2).1 (by decide)

theorem numberName_ne_emptyName {literal : String} (h : Spelled isNumberChar literal) :
    numberName literal ≠ "EMPTY" := fun heq =>
  flatMap_numberChars_ne_emptyName h (by rw [← toList_numberName, heq])

/-! ### Literals of a datatype -/

/-- A character of a number: a digit, a sign, a point, or the mark of an exponent. -/
def isNumeralChar (c : Char) : Bool :=
  c.isDigit || c = '+' || c = '-' || c = '.' || c = 'e' || c = 'E'

theorem isNumberChar_of_isNumeralChar (c : Char) (h : isNumeralChar c) : isNumberChar c := by
  simp only [isNumberChar, ne_eq, Bool.and_eq_true, decide_eq_true_eq]
  refine ⟨⟨?_, ?_⟩, ?_⟩
  all_goals
    rintro rfl
    exact absurd h (by decide)

variable (naming : Naming)

theorem name_variantName_of_number {literal datatype : String} (hempty : literal ≠ "")
    (h : isNumeric datatype = true) :
    (naming.variantName literal datatype).name = numberName literal := by
  rw [variantName, if_neg hempty, if_pos h]

end Naming

/-- For a numeric datatype, literals of digits, signs, points and exponent marks have one variant name
if and only if they are one literal; the empty literal is no exception. -/
theorem number_variants_meet_iff (naming : Naming) {datatype : String}
    (hnumeric : Naming.isNumeric datatype = true) {a b : String}
    (ha : Spelled Naming.isNumeralChar a) (hb : Spelled Naming.isNumeralChar b) :
    (naming.variantName a datatype).name = (naming.variantName b datatype).name ↔ a = b := by
  have hname {literal : String} (hne : literal ≠ "") :=
    naming.name_variantName_of_number hne hnumeric
  have hempty : (naming.variantName "" datatype).name = "EMPTY" := by
    rw [Naming.variantName, if_pos rfl]
  have ha' := ha.mono Naming.isNumberChar_of_isNumeralChar
  have hb' := hb.mono Naming.isNumberChar_of_isNumeralChar
  rcases eq_or_ne a "" with rfl | hea
  · rcases eq_or_ne b "" with rfl | heb
    · exact iff_of_true rfl rfl
    · rw [hempty, hname heb]
      exact iff_of_false (Naming.numberName_ne_emptyName hb').symm heb.symm
  · rcases eq_or_ne b "" with rfl | heb
    · rw [hempty, hname hea]
      exact iff_of_false (Naming.numberName_ne_emptyName ha') hea
    · rw [hname hea, hname heb, Naming.numberName_inj ha' hb']

/-- The literals `1-e` and `1e-` have different names, and so do the empty literal and `E`. -/
theorem number_variants_meet_of_exponents :
    let nameOf (literal : String) := (({} : Settings).naming.variantName literal "integer").name
    (nameOf "1-e" = "1MINUS_e" ∧ nameOf "1e-" = "1eMINUS_" ∧ nameOf "1-e" ≠ nameOf "1e-") ∧
      nameOf "" = "EMPTY" ∧ nameOf "E" = "E" ∧ nameOf "" ≠ nameOf "E" := by
  intro nameOf
  have hinteger : Naming.isNumeric "integer" = true := by decide
  have hmeet {a b : String} (ha : Spelled Naming.isNumeralChar a)
      (hb : Spelled Naming.isNumeralChar b) : nameOf a = nameOf b ↔ a = b :=
    number_variants_meet_iff ({} : Settings).naming hinteger ha hb
  refine ⟨⟨by decide +kernel, by decide +kernel, fun h => ?_⟩, by decide +kernel, by decide +kernel,
    fun h => ?_⟩
  · exact absurd ((hmeet (by decide) (by decide)).mp h) (by decide)
  · exact absurd ((hmeet (by decide) (by decide)).mp h) (by decide)

end CratePlan
