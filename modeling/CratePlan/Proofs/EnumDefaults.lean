import CratePlan.Proofs.EmbeddedText
import CratePlan.Proofs.PlanRecords
import Mathlib.Data.List.Infix

/-! The defaults of enums. A default is looked for among the literals of its enum as it would stand in
generated code, and becomes the constant of the first literal that stands there the same. Numbers stand
there as they are; other texts are escaped, which forgets what kind of blank parted two words and whether a
comment delimiter was broken up before, and nothing else. -/

namespace CratePlan

namespace Literal

open Text

/-- Escaping forgets what flattening and the breaking of comment delimiters forget, and nothing else. -/
theorem escape_eq_escape_iff {a b : String} :
    escape a = escape b ↔ breakComments (flatten a) = breakComments (flatten b) := by
  constructor
  · intro h
    have hread := congrArg (fun s => unescapeChars s.toList) h
    simp only [toList_escape_eq_flatMap, unescapeChars_flatMap] at hread
    exact String.toList_inj.mp (Option.some.inj hread)
  · intro h
    rw [← String.toList_inj, toList_escape_eq_flatMap, toList_escape_eq_flatMap, h]

/-- A text that has neither tabs, line ends nor comment delimiters. -/
structure IsPlain (text : String) : Prop where
  one_line : ∀ c ∈ text.toList, c ≠ '\t' ∧ c ≠ '\r' ∧ c ≠ '\n'
  closes_no_comment : ¬['*', '/'] <:+: text.toList
  opens_no_comment : ¬['/', '*'] <:+: text.toList

instance (text : String) : Decidable (IsPlain text) :=
  decidable_of_iff ((text.toList.all fun c => c ≠ '\t' ∧ c ≠ '\r' ∧ c ≠ '\n') = true ∧
      ¬['*', '/'] <:+: text.toList ∧ ¬['/', '*'] <:+: text.toList)
    ⟨fun ⟨hline, hcloses, hopens⟩ =>
        ⟨fun c hc => of_decide_eq_true (List.all_eq_true.mp hline c hc), hcloses, hopens⟩,
      fun h => ⟨List.all_eq_true.mpr fun c hc => decide_eq_true (h.one_line c hc),
        h.closes_no_comment, h.opens_no_comment⟩⟩

theorem IsPlain.breakComments_flatten {text : String} (h : IsPlain text) :
    breakComments (flatten text) = text := by
  have hself : ∀ c ∈ text.toList, flattenChar c = c := by
    intro c hc
    obtain ⟨htab, hreturn, hfeed⟩ := h.one_line c hc
    rw [flattenChar, if_neg (by simp [htab, hreturn, hfeed])]
  rw [← String.toList_inj, toList_breakComments, toList_flatten, List.map_congr_left hself,
    List.map_id', breakChars, replacePairChars_of_not_infix h.closes_no_comment,
    replacePairChars_of_not_infix h.opens_no_comment]

end Literal

namespace Naming

open Literal

/-- Two texts are one literal of a datatype: equal as they stand for numbers, and otherwise equal once
tabs and line ends are spaces and comment delimiters are broken up. -/
def SameLiteral (datatype a b : String) : Prop :=
  if isNumeric datatype then a = b else breakComments (flatten a) = breakComments (flatten b)

theorem literalText_eq_iff (datatype a b : String) :
    literalText a datatype = literalText b datatype ↔ SameLiteral datatype a b := by
  rw [literalText, literalText, SameLiteral]
  split_ifs
  · exact Iff.rfl
  · exact escape_eq_escape_iff

/-- Numbers and plain texts are one literal only if they are one text. -/
theorem sameLiteral_iff_eq {datatype a b : String}
    (h : isNumeric datatype = true ∨ (IsPlain a ∧ IsPlain b)) : SameLiteral datatype a b ↔ a = b := by
  rw [SameLiteral]
  split_ifs with hnumeric
  · exact Iff.rfl
  · obtain ⟨ha, hb⟩ := h.resolve_left hnumeric
    rw [ha.breakComments_flatten, hb.breakComments_flatten]

variable (naming : Naming)

/-- The default of a restricted property is that of the first of its literals that stands in generated
code as the default would. -/
theorem defaultValue_planField {property : Property} {raw : String} (henum : property.isEnum = true)
    (hraw : property.defaultValue = some raw) :
    let planned := (naming.planField property).value
    planned.defaultValue = some (((property.enumValues.find? fun entry =>
        literalText entry planned.baseType = literalText raw planned.baseType).map fun entry =>
          defaultConstant (naming.variantName entry planned.baseType).name
            (naming.enumName property.name).name).getD raw) := by
  simp only [planField, henum, hraw, if_true, Option.bind_some, Option.map_some, constantFor?,
    planEnum, value_planVariants, List.find?_map, Option.map_map]
  rfl

section

variable {naming} {property : Property} {raw : String} (henum : property.isEnum = true)
  (hraw : property.defaultValue = some raw)

include henum hraw

theorem defaultValue_of_first {before after : List String} {entry : String}
    (hentries : property.enumValues = before ++ entry :: after)
    (hbefore : ∀ e ∈ before, ¬SameLiteral (naming.planField property).value.baseType e raw)
    (hentry : SameLiteral (naming.planField property).value.baseType entry raw) :
    (naming.planField property).value.defaultValue =
      some ((naming.enumName property.name).name ++ "_" ++
        (naming.variantName entry (naming.planField property).value.baseType).name) := by
  have hfirst : property.enumValues.find? (fun e =>
      literalText e (naming.planField property).value.baseType =
        literalText raw (naming.planField property).value.baseType) = some entry := by
    rw [List.find?_eq_some_iff_append]
    refine ⟨decide_eq_true ((literalText_eq_iff _ _ _).mpr hentry), before, after, hentries, ?_⟩
    intro e he
    rw [Bool.not_eq_true', decide_eq_false_iff_not, literalText_eq_iff]
    exact hbefore e he
  rw [naming.defaultValue_planField henum hraw, hfirst]
  rfl

theorem defaultValue_of_none
    (hnone : ∀ e ∈ property.enumValues,
      ¬SameLiteral (naming.planField property).value.baseType e raw) :
    (naming.planField property).value.defaultValue = some raw := by
  have hfind : property.enumValues.find? (fun e =>
      literalText e (naming.planField property).value.baseType =
        literalText raw (naming.planField property).value.baseType) = none := by
    rw [List.find?_eq_none]
    intro e he
    rw [decide_eq_true_eq, literalText_eq_iff]
    exact hnone e he
  rw [naming.defaultValue_planField henum hraw, hfind]
  rfl

end

end Naming

open Literal in
/-- The default of a restricted property is the constant of the first of its literals that is the same
literal as the raw default: the name of the enum, an underscore, and the name of that literal's variant. A
default that is none of the literals stays as it is. So defaults go by equality of texts wherever no other
text is the same literal, as with numbers and with texts that have neither tabs, line ends nor comment
delimiters. -/
theorem default_is_constant_of_first_literal (naming : Naming) {property : Property} {raw : String}
    (henum : property.isEnum = true) (hraw : property.defaultValue = some raw) :
    let planned := (naming.planField property).value
    let enumName := (naming.enumName property.name).name
    let constant (entry : String) :=
      enumName ++ "_" ++ (naming.variantName entry planned.baseType).name
    let same (entry : String) := Naming.SameLiteral planned.baseType entry raw
    planned.enumPlan.map EnumPlan.name = some enumName ∧
      (∀ before entry after, property.enumValues = before ++ entry :: after →
        (∀ e ∈ before, ¬same e) → same entry → planned.defaultValue = some (constant entry)) ∧
      ((∀ e ∈ property.enumValues, ¬same e) → planned.defaultValue = some raw) ∧
      ((∀ e ∈ property.enumValues, same e → e = raw) →
        planned.defaultValue =
          some (if raw ∈ property.enumValues then constant raw else raw)) ∧
      ((Naming.isNumeric planned.baseType = true ∨
          (IsPlain raw ∧ ∀ e ∈ property.enumValues, IsPlain e)) →
        ∀ e ∈ property.enumValues, same e → e = raw) := by
  intro planned enumName constant same
  have hself : same raw := (Naming.literalText_eq_iff _ _ _).mp rfl
  refine ⟨?name, fun before entry after => Naming.defaultValue_of_first henum hraw,
    Naming.defaultValue_of_none henum hraw, fun honly => ?told, fun hplain e he hsame => ?plain⟩
  case name => rw [naming.enumPlan_planField henum, Option.map_some, Naming.planEnum]
  case told =>
    split_ifs with hmem
    · obtain ⟨before, after, hentries, hbefore⟩ := List.eq_append_cons_of_mem hmem
      refine Naming.defaultValue_of_first henum hraw hentries (fun e he hsame => hbefore ?_) hself
      rw [← honly e (hentries ▸ List.mem_append_left _ he) hsame]
      exact he
    · refine Naming.defaultValue_of_none henum hraw fun e he hsame => hmem ?_
      rw [← honly e he hsame]
      exact he
  case plain =>
    refine (Naming.sameLiteral_iff_eq ?_).mp hsame
    exact hplain.imp_right fun h => ⟨h.2 e he, h.1⟩

/-- A default with a tab is the literal with a space, and a plain default that is no literal stays. -/
theorem default_is_constant_of_first_literal_of_shift :
    let naming := ({} : Settings).naming
    let shift (raw : String) : Property :=
      { name := "shift", schema := .primitive "string", isEnum := true
        enumValues := ["day off", "night"], defaultValue := some raw }
    (shift "day\toff").isEnum = true ∧ (shift "day\toff").defaultValue = some "day\toff" ∧
      (naming.planField (shift "day\toff")).value.defaultValue = some "SHIFT_DAY_OFF" ∧
      (naming.planField (shift "late")).value.defaultValue = some "late" := by
  intro naming shift
  obtain ⟨_, hfirst, _⟩ :=
    default_is_constant_of_first_literal naming (show (shift "day\toff").isEnum = true from rfl) rfl
  obtain ⟨_, _, _, htold, hplain⟩ :=
    default_is_constant_of_first_literal naming (show (shift "late").isEnum = true from rfl) rfl
  have hsame : Naming.SameLiteral (naming.planField (shift "day\toff")).value.baseType
      "day off" "day\toff" := (Naming.literalText_eq_iff _ _ _).mp (by decide +kernel)
  refine ⟨rfl, rfl, ?_, ?_⟩
  · exact (hfirst [] "day off" ["night"] rfl (List.forall_mem_nil _) hsame).trans (by decide +kernel)
  · have htexts : ∀ text ∈ ["late", "day off", "night"], Literal.IsPlain text := by decide +kernel
    rw [List.forall_mem_cons] at htexts
    exact (htold (hplain (Or.inr htexts))).trans (by decide +kernel)

/-- The literals `a` tab `b` and `a b` stand in generated code alike. Where both are there, the default
`a b` becomes the constant of the first; and where only the second is, the default with the tab becomes
its constant. -/
theorem default_meets_literal_of_other_text :
    let naming := ({} : Settings).naming
    let property (literals : List String) (raw : String) : Property :=
      { name := "x", schema := .primitive "string", isEnum := true
        enumValues := literals, defaultValue := some raw }
    let both := (naming.planField (property ["a\tb", "a b"] "a b")).value
    let spaced := (naming.planField (property ["a b"] "a\tb")).value
    both.defaultValue = some "X_AB" ∧ (naming.variantName "a b" both.baseType).name = "A_B" ∧
      spaced.defaultValue = some "X_A_B" ∧ "a\tb" ∉ ["a b"] := by
  decide +kernel

end CratePlan
