import CratePlan.Proofs.LegalName
import CratePlan.Proofs.PlanRecords

/-! The names in a plan are legal whenever its settings come from a text that was accepted. The
rules for settings are what this rests on: they look at exactly the texts that naming lets through
as they stand, the preferred spellings of words and the names of symbols. -/

namespace CratePlan

namespace Naming

variable {naming : Naming} (hnaming : naming.KeepsRules)

include hnaming

theorem varName_planField_isLegal (property : Property) :
    IsLegal (naming.planField property).value.varName :=
  fieldName_isLegal hnaming property.name

theorem paramName_planParameter_isLegal (parameter : Parameter) :
    IsLegal (naming.planParameter parameter).value.paramName :=
  fieldName_isLegal hnaming parameter.name

/-- The enum of a property has a legal name, and so have its variants unless they stand for
numbers. -/
theorem enumPlan_planField_isLegal (property : Property) :
    ∀ e ∈ (naming.planField property).value.enumPlan, IsLegal e.name ∧
      (isNumeric (naming.planField property).value.baseType = false →
        ∀ v ∈ e.variants, IsLegal v.name) := by
  intro e he
  rw [name_of_mem_enumPlan naming he, variants_of_mem_enumPlan naming he]
  refine ⟨enumName_isLegal naming property.name, fun hdatatype v hv => ?_⟩
  obtain ⟨literal, _, rfl⟩ := List.mem_map.mp hv
  exact variantName_isLegal hnaming hdatatype literal

end Naming

/-- Under settings from an accepted text, every plan names its fields, parameters and enums with
plain identifiers, and its variants too where they do not stand for numbers. -/
theorem plan_names_are_legal {text : String} {settings : Settings}
    (htext : Settings.ofText text = .ok settings) (document : Document) :
    (∀ model ∈ ((Planner.ofSettings settings).plan document).models, ∀ field ∈ model.fields,
      IsLegal field.varName ∧ ∀ e ∈ field.enumPlan, IsLegal e.name ∧
        (Naming.isNumeric field.baseType = false → ∀ v ∈ e.variants, IsLegal v.name)) ∧
    ∀ api ∈ ((Planner.ofSettings settings).plan document).apis, ∀ p ∈ api.operations,
      ∀ parameter ∈ p.operation.parameters, IsLegal parameter.paramName := by
  have hnaming := Naming.keepsRules_naming (Settings.keepsRules_of_ofText htext)
  constructor
  · intro model hmodel field hfield
    obtain ⟨source, _, rfl⟩ := List.mem_map.mp hmodel
    rw [Naming.fields_planModel] at hfield
    obtain ⟨property, _, rfl⟩ := List.mem_map.mp hfield
    exact ⟨Naming.varName_planField_isLegal hnaming property,
      Naming.enumPlan_planField_isLegal hnaming property⟩
  · intro api hapi p hp parameter hparameter
    obtain ⟨o, _, ho⟩ := Naming.exists_of_mem_operations _ hapi hp
    rw [ho, Naming.parameters_planOperation] at hparameter
    obtain ⟨source, _, rfl⟩ := List.mem_map.mp hparameter
    exact Naming.paramName_planParameter_isLegal hnaming source

/-- A preferred spelling and a name for a symbol reach the plan, and the names there are legal. -/
theorem plan_names_are_legal_of_sample :
    let text := "[reserved_words_mappings]\ntype = \"kind\"\n[symbol_aliases]\n\"~~\" = \"Wave\"\n"
    let settings : Settings :=
      { replacements := ⟨[("type", "kind")]⟩, symbols := ⟨[("~~", "Wave")]⟩ }
    let property : Property :=
      { name := "type", schema := .primitive "string", isEnum := true, enumValues := ["~~", "self"] }
    let document : Document := { models := [⟨"Pet", none, [property]⟩] }
    Settings.ofText text = .ok settings ∧
      ∃ model ∈ ((Planner.ofSettings settings).plan document).models, ∃ field ∈ model.fields,
        field.varName = "kind" ∧ IsLegal "kind" ∧
        IsLegal "MODEL_TYPE" ∧ IsLegal "WAVE" ∧ IsLegal "_SELF" := by
  intro text settings property document
  have htext : Settings.ofText text = .ok settings := by
    have hoption : (Settings.ofText text).toOption = some settings := by decide +kernel
    cases hread : Settings.ofText text with
    | error => rw [hread] at hoption; cases hoption
    | ok found => rw [hread] at hoption; cases hoption; rfl
  obtain ⟨model, hmodel, field, hfield, hvar, henum, hbase⟩ :
      ∃ model ∈ ((Planner.ofSettings settings).plan document).models, ∃ field ∈ model.fields,
        field.varName = "kind" ∧
        field.enumPlan = some ⟨"MODEL_TYPE", [⟨"WAVE", "~~"⟩, ⟨"_SELF", "self"⟩]⟩ ∧
        Naming.isNumeric field.baseType = false := by
    decide +kernel
  obtain ⟨hlegal, henums⟩ := (plan_names_are_legal htext document).1 model hmodel field hfield
  obtain ⟨hname, hvariants⟩ := henums _ henum
  rw [hvar] at hlegal
  exact ⟨htext, model, hmodel, field, hfield, hvar, hlegal, hname,
    hvariants hbase ⟨"WAVE", "~~"⟩ (by decide), hvariants hbase ⟨"_SELF", "self"⟩ (by decide)⟩

end CratePlan
