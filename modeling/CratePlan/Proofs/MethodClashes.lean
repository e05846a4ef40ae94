import CratePlan.Proofs.FreeName
import CratePlan.Proofs.PlanRecords

/-! Names that meet inside an interface. Two parameters of an operation may get one name, and so may
two operations of a group. Planning warns of a name that it has to replace and of a request method
that is missing, but each parameter and each operation is planned as if it stood alone: that two names
meet is noted nowhere, so a clash goes without a warning exactly where nothing else is to be warned
of. -/

namespace CratePlan

open Text Identifier

/-- A warning is among the diagnostics of a method. -/
def OperationPlan.IsWarned (plan : OperationPlan) : Prop :=
  HasWarning plan.diagnostics

/-- The names of the parameters of a method, in their order. -/
def OperationPlan.paramNames (plan : OperationPlan) : List String :=
  plan.parameters.map ParameterPlan.paramName

/-! ### What warns -/

theorem not_hasWarning_unmappedNotes (schema : Schema) : ¬HasWarning (unmappedNotes schema) := by
  unfold unmappedNotes
  split
  · exact not_hasWarning_info _ _
  · exact not_hasWarning_nil

namespace Naming

variable (naming : Naming)

theorem hasWarning_methodNotes_iff {label : String} :
    HasWarning (methodNotes label) ↔ label = "" := by
  unfold methodNotes
  split_ifs with hempty
  · exact iff_of_true (hasWarning_warning _ _) hempty
  · exact iff_of_false not_hasWarning_nil hempty

theorem hasWarning_methodName_iff (raw : String) :
    HasWarning (naming.methodName raw).notes ↔ ¬naming.IsFree isWordChar (sanitize raw) := by
  rw [(naming.methodName_onlyWarns raw).hasWarning_iff, Ne, notes_methodName_eq_nil_iff,
    isFree_sanitize_iff]

theorem not_hasWarning_escapeReserved (name : String) :
    ¬HasWarning (naming.escapeReserved name).notes := by
  unfold escapeReserved
  split_ifs
  · exact not_hasWarning_info _ _
  · exact not_hasWarning_nil

/-- Of what can happen to the name of a field, only that it keeps no character is warned of. -/
theorem hasWarning_fieldName_iff (raw : String) :
    HasWarning (naming.fieldName raw).notes ↔ sanitize (replaceChar '-' "_" raw) = "" := by
  unfold fieldName
  dsimp only
  split_ifs with hempty hconstant
  · exact iff_of_true (hasWarning_warning _ _) hempty
  · exact iff_of_false not_hasWarning_nil hempty
  · refine iff_of_false ?_ hempty
    rw [Named.notes_andThen, hasWarning_append_iff, not_or]
    refine ⟨naming.not_hasWarning_escapeReserved _, ?_⟩
    split_ifs
    · exact not_hasWarning_info _ _
    · exact not_hasWarning_nil

theorem hasWarning_planParameter_iff (parameter : Parameter) :
    HasWarning (naming.planParameter parameter).notes ↔
      sanitize (replaceChar '-' "_" parameter.name) = "" := by
  rw [← naming.hasWarning_fieldName_iff, planParameter]
  dsimp only [parameterName]
  rw [hasWarning_append_iff, or_iff_right (not_hasWarning_unmappedNotes parameter.schema)]

/-! ### Operations that nothing is warned of -/

/-- An operation whose identifier can stay as it is, that has a request method, and each of whose
parameters keeps a character of its name. -/
structure IsPlain (operation : Operation) : Prop where
  id_free : naming.IsFree isWordChar (sanitize operation.id)
  has_method : methodLabel operation.method ≠ ""
  params_named : ∀ parameter ∈ operation.parameters,
    sanitize (replaceChar '-' "_" parameter.name) ≠ ""

theorem isWarned_planOperation_iff (operation : Operation) :
    (naming.planOperation operation).IsWarned ↔
      (HasWarning (naming.methodName operation.id).notes ∨
        HasWarning (methodNotes (methodLabel operation.method))) ∨
      ∃ parameter ∈ operation.parameters, HasWarning (naming.planParameter parameter).notes := by
  rw [OperationPlan.IsWarned, planOperation]
  dsimp only
  rw [hasWarning_append_iff, hasWarning_map_locate_iff, hasWarning_append_iff, planParameters,
    List.flatMap_map, hasWarning_flatMap_iff]
  simp only [hasWarning_map_locate_iff]

theorem not_isWarned_planOperation_iff (operation : Operation) :
    ¬(naming.planOperation operation).IsWarned ↔ naming.IsPlain operation := by
  rw [isWarned_planOperation_iff, hasWarning_methodName_iff, hasWarning_methodNotes_iff]
  simp only [hasWarning_planParameter_iff, not_or, not_not, not_exists, not_and]
  constructor
  · rintro ⟨⟨hid, hmethod⟩, hparams⟩
    exact ⟨hid, hmethod, hparams⟩
  · intro h
    exact ⟨⟨h.id_free, h.has_method⟩, h.params_named⟩

theorem methodName_of_isFree {raw : String} (h : naming.IsFree isWordChar (sanitize raw)) :
    (naming.methodName raw).name = snakeCase (sanitize raw) := by
  rw [name_methodName, if_neg h.written.ne_empty, guarded_of_isFree h]

theorem paramNames_planOperation (operation : Operation) :
    (naming.planOperation operation).paramNames =
      operation.parameters.map fun parameter => (naming.fieldName parameter.name).name := by
  rw [OperationPlan.paramNames, parameters_planOperation, List.map_map]
  rfl

end Naming

/-- Two parameters of one operation, or two operations with one tag, get one name without a warning
exactly if nothing else is to be warned of on the operations: their identifiers can stay as they are,
they have request methods, and each of their parameters keeps a character of its name. Such
identifiers meet if they have one snake case. -/
theorem clashes_are_silent_iff (planner : Planner) (document : Document) :
    let naming := planner.naming
    let apis := (planner.plan document).apis
    let planOf := naming.planOperation
    apis.map (fun api => api.operations.map Positioned.operation) =
        apis.map (fun api =>
          (document.operations.filter fun o => Naming.tagKey o.tag = api.tag).map planOf) ∧
      (∀ o : Operation, ¬(planOf o).paramNames.Nodup ∧ ¬(planOf o).IsWarned ↔
        naming.IsPlain o ∧
          ¬(o.parameters.map fun parameter => (naming.fieldName parameter.name).name).Nodup) ∧
      ∀ a b : Operation, (planOf a).methodName = (planOf b).methodName ∧
          ¬(planOf a).IsWarned ∧ ¬(planOf b).IsWarned ↔
        naming.IsPlain a ∧ naming.IsPlain b ∧
          snakeCase (sanitize a.id) = snakeCase (sanitize b.id) := by
  intro naming apis planOf
  have hquiet (o : Operation) : ¬(planOf o).IsWarned ↔ naming.IsPlain o :=
    naming.not_isWarned_planOperation_iff o
  refine ⟨?groups, fun o => ?parameters, fun a b => ?operations⟩
  case groups => exact List.map_congr_left fun api hapi => naming.map_operation_of_mem_planApis hapi
  case parameters => rw [hquiet, naming.paramNames_planOperation, and_comm]
  case operations =>
    rw [hquiet, hquiet, and_comm, and_assoc]
    refine and_congr_right fun ha => and_congr_right fun hb => ?_
    rw [← naming.methodName_of_isFree ha.id_free, ← naming.methodName_of_isFree hb.id_free]
    rfl

/-- The parameters `id` in the path and `id` in the query get one name, the operations `getPet` and
`get_pet` with one tag get one name, and nothing is noted on any of them. -/
theorem clashes_go_unreported :
    let operation : Operation :=
      { id := "getPet", method := "GET", tag := some "pet"
        parameters :=
          [{ name := "id", schema := .primitive "string", place := .path, required := true },
            { name := "id", schema := .primitive "string" }] }
    let document : Document :=
      { operations := [operation, { id := "get_pet", method := "GET", tag := some "pet" }] }
    let apis := ((Planner.ofSettings {}).plan document).apis
    let methods := apis.map fun api => api.operations.map Positioned.operation
    methods.map (fun group => group.map OperationPlan.methodName) = [["get_pet", "get_pet"]] ∧
      methods.map (fun group => group.map OperationPlan.paramNames) = [[["id", "id"], []]] ∧
      methods.map (fun group => group.map OperationPlan.diagnostics) = [[[], []]] := by
  decide +kernel

end CratePlan
