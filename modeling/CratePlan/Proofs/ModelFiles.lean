import CratePlan.Proofs.FreeName
import CratePlan.Proofs.InterfaceFiles

/-! Which models of a plan share their files, and which of these do so silently. A file is named for a
stem and its documentation for the Pascal case of that stem, so models that share the one share the
other. Naming warns whenever it changes the name of a model, but every model is planned as if it stood
alone: that two of them meet is noted nowhere. -/

namespace CratePlan

open Text Identifier

/-- A warning is among the diagnostics of a model. -/
def ModelPlan.IsWarned (plan : ModelPlan) : Prop :=
  ∃ d ∈ plan.diagnostics, d.severity = .warning

/-- Two models are written to one source file or to one page of documentation. -/
def ModelPlan.Overlaps (a b : ModelPlan) : Prop :=
  a.path = b.path ∨ a.docPath = b.docPath

namespace Naming

variable (naming : Naming) (layout : Output.Layout)

/-- A warning is among the notes on the fields of a model. -/
def WarnsOfFields (model : Model) : Prop :=
  ∃ field ∈ naming.planFields model.name [] model.properties,
    ∃ d ∈ field.notes, d.severity = .warning

/-- Nothing is noted on the name of a model exactly if its sanitized name is free as it is. -/
theorem notes_modelName_eq_nil_iff (raw : String) :
    (naming.modelName raw).notes = [] ↔
      naming.IsFree isWordChar (sanitize (naming.affixed raw)) := by
  rw [modelName, Named.notes_map, notes_modelStem_eq_nil_iff, isFree_sanitize_iff]

theorem hasWarning_modelName_iff (raw : String) :
    HasWarning (naming.modelName raw).notes ↔
      ¬naming.IsFree isWordChar (sanitize (naming.affixed raw)) := by
  rw [(naming.modelName_onlyWarns raw).hasWarning_iff, Ne, notes_modelName_eq_nil_iff]

theorem isWarned_planModel_iff (model : Model) :
    (naming.planModel layout model).IsWarned ↔
      ¬naming.IsFree isWordChar (sanitize (naming.affixed model.name)) ∨
        naming.WarnsOfFields model := by
  rw [← naming.hasWarning_modelName_iff, WarnsOfFields]
  exact hasWarning_append_iff.trans (or_congr hasWarning_map_locate_iff hasWarning_flatMap_iff)

theorem modelStem_of_isFree {raw : String}
    (h : naming.IsFree isWordChar (sanitize (naming.affixed raw))) :
    (naming.modelStem raw).name = snakeCase (sanitize (naming.affixed raw)) := by
  rw [name_modelStem, modelStart, if_neg h.written.ne_empty, guarded_of_isFree h]

theorem modelName_of_isFree {raw : String}
    (h : naming.IsFree isWordChar (sanitize (naming.affixed raw))) :
    (naming.modelName raw).name = pascalCase (snakeCase (sanitize (naming.affixed raw))) := by
  rw [modelName, Named.name_map, naming.modelStem_of_isFree h]

theorem path_planModel_eq_iff (a b : Model) :
    (naming.planModel layout a).path = (naming.planModel layout b).path ↔
      (naming.modelStem a.name).name = (naming.modelStem b.name).name := by
  have ha := (naming.modelStem_written a.name).mono isWordChar_of_isStemChar
  have hb := (naming.modelStem_written b.name).mono isWordChar_of_isStemChar
  simp only [planModel]
  rw [layout.modelFile_eq ha, layout.modelFile_eq hb, Output.join_stem_eq_iff (by decide)]

theorem docPath_planModel_eq_iff (a b : Model) :
    (naming.planModel layout a).docPath = (naming.planModel layout b).docPath ↔
      (naming.modelName a.name).name = (naming.modelName b.name).name := by
  simp only [planModel, modelDocStem]
  rw [layout.modelDocFile_eq (naming.modelName_written a.name),
    layout.modelDocFile_eq (naming.modelName_written b.name), Output.join_stem_eq_iff (by decide)]

/-- Models that share their source file share their documentation too, so they overlap exactly if
their types have one name. -/
theorem overlaps_planModel_iff (a b : Model) :
    (naming.planModel layout a).Overlaps (naming.planModel layout b) ↔
      (naming.modelName a.name).name = (naming.modelName b.name).name := by
  rw [ModelPlan.Overlaps, path_planModel_eq_iff, docPath_planModel_eq_iff, modelName, modelName,
    Named.name_map, Named.name_map]
  exact ⟨fun h => h.elim (congrArg pascalCase) id, Or.inr⟩

end Naming

/-- Two models of a plan overlap without a warning on either exactly if the names of both go through
as they are, these names have one Pascal case, and neither model has a field to warn about. -/
theorem models_overlap_silently_iff (planner : Planner) (document : Document) :
    let planOf := planner.naming.planModel planner.layout
    let clean (model : Model) := sanitize (planner.naming.affixed model.name)
    let isPlain (model : Model) :=
      planner.naming.IsFree isWordChar (clean model) ∧ ¬planner.naming.WarnsOfFields model
    (planner.plan document).models = document.models.map planOf ∧
      ∀ a b : Model, (planOf a).Overlaps (planOf b) ∧ ¬(planOf a).IsWarned ∧ ¬(planOf b).IsWarned ↔
        isPlain a ∧ isPlain b ∧
          pascalCase (snakeCase (clean a)) = pascalCase (snakeCase (clean b)) := by
  intro planOf clean isPlain
  refine ⟨rfl, fun a b => ?_⟩
  have hquiet (model : Model) : ¬(planOf model).IsWarned ↔ isPlain model := by
    rw [planner.naming.isWarned_planModel_iff, not_or, not_not]
  rw [hquiet, hquiet, planner.naming.overlaps_planModel_iff, and_comm, and_assoc]
  refine and_congr_right fun ha => and_congr_right fun hb => ?_
  rw [planner.naming.modelName_of_isFree ha.1, planner.naming.modelName_of_isFree hb.1]

/-- The models `Pet` and `pet` overlap in both of their files, and nothing is noted on either. -/
theorem models_overlap_silently_of_pet :
    let document : Document := { models := [{ name := "Pet" }, { name := "pet" }] }
    let models := ((Planner.ofSettings { outputFolder := "out" }).plan document).models
    models.map ModelPlan.path = ["out/src/models/pet.rs", "out/src/models/pet.rs"] ∧
      models.map ModelPlan.docPath = ["out/docs/Pet.md", "out/docs/Pet.md"] ∧
      models.map ModelPlan.diagnostics = [[], []] := by
  decide +kernel

end CratePlan
