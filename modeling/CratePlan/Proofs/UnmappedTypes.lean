import CratePlan.Proofs.Attribution
import Mathlib.Data.List.Forall2

/-! Basic types that the table of types does not know. The tag of such a type stands for itself in the
generated code, and a remark says so wherever a property or a parameter has it, however deep inside
containers. The type of a result is made up by the same rules, but nothing is ever noted on it: its tag
is remarked on only where a parameter of the same operation has that tag too. -/

namespace CratePlan

/-- The innermost type is a basic type whose tag has no type of its own. -/
def Schema.HasUnmapped (schema : Schema) (tag : String) : Prop :=
  schema.base = .primitive tag ∧ RustType.isKnownTag tag = false

/-- What is said of a tag that has no type of its own. -/
def unmappedText (tag : String) : String :=
  s!"no Rust type for '{tag}', used as-is"

/-- A remark on a tag is among diagnostics. -/
def ReportsTag (ds : List Diagnostic) (tag : String) : Prop :=
  ∃ d ∈ ds, d.severity = .info ∧ d.phase = planningPhase ∧ d.message = unmappedText tag

theorem unmappedText_inj {a b : String} : unmappedText a = unmappedText b ↔ a = b := by
  unfold unmappedText
  rw [String.append_left_inj]
  exact String.append_right_inj _

theorem unmappedTag?_eq_some_iff {schema : Schema} {tag : String} :
    RustType.unmappedTag? schema = some tag ↔ schema.HasUnmapped tag := by
  unfold RustType.unmappedTag? Schema.HasUnmapped
  cases schema.base with
  | primitive own =>
      dsimp only
      rw [Schema.primitive.injEq]
      cases hknown : RustType.isKnownTag own with
      | true =>
          refine ⟨fun h => absurd h (Option.some_ne_none tag).symm, ?_⟩
          rintro ⟨rfl, hunknown⟩
          rw [hknown] at hunknown
          cases hunknown
      | false =>
          rw [if_neg Bool.false_ne_true, Option.some.injEq]
          refine ⟨?_, And.left⟩
          rintro rfl
          exact ⟨rfl, hknown⟩
  | array items => simp
  | map values => simp
  | model name => simp

/-! ### Where a remark on a tag can come from -/

theorem reportsTag_append_iff {first second : List Diagnostic} {tag : String} :
    ReportsTag (first ++ second) tag ↔ ReportsTag first tag ∨ ReportsTag second tag := by
  simp only [ReportsTag, List.mem_append, or_and_right, exists_or]

/-- Naming does not speak of tags. -/
theorem AllOfNaming.not_reportsTag {ds : List Diagnostic} (h : AllOfNaming ds) (tag : String) :
    ¬ReportsTag ds tag := by
  rintro ⟨d, hd, _, hphase, _⟩
  rw [(h d hd).phase] at hphase
  exact absurd hphase (by decide)

theorem not_reportsTag_of_warnings {ds : List Diagnostic} (h : ∀ d ∈ ds, d.severity = .warning)
    (tag : String) : ¬ReportsTag ds tag := by
  rintro ⟨d, hd, hinfo, _⟩
  rw [h d hd] at hinfo
  cases hinfo

theorem reportsTag_unmappedNotes_iff {schema : Schema} {tag : String} :
    ReportsTag (unmappedNotes schema) tag ↔ schema.HasUnmapped tag := by
  rw [← unmappedTag?_eq_some_iff]
  unfold ReportsTag unmappedNotes
  cases RustType.unmappedTag? schema with
  | none => simp
  | some own =>
      simp only [List.mem_singleton, exists_eq_left, Option.some.injEq]
      exact ⟨fun h => unmappedText_inj.mp h.2.2, fun h => ⟨rfl, rfl, unmappedText_inj.mpr h⟩⟩

/-- Placing the notes of the steps leaves the remarks among them as they are. -/
theorem reportsTag_allPlaced_iff {steps : List Raised} {tag : String} :
    ReportsTag (Raised.allPlaced steps) tag ↔ ∃ raised ∈ steps, ReportsTag raised.notes tag := by
  constructor
  · rintro ⟨_, hd, hremark⟩
    obtain ⟨raised, hraised, hd⟩ := List.mem_flatMap.mp hd
    obtain ⟨source, hsource, rfl⟩ := List.mem_map.mp hd
    exact ⟨raised, hraised, source, hsource, hremark⟩
  · rintro ⟨raised, hraised, source, hsource, hremark⟩
    exact ⟨_, List.mem_flatMap.mpr ⟨raised, hraised, List.mem_map_of_mem hsource⟩, hremark⟩

/-! ### Remarks on the types of a record -/

namespace Naming

variable (naming : Naming) (tag : String)

theorem reportsTag_propertyNotes_iff (property : Property) :
    ReportsTag (naming.propertyNotes property) tag ↔ property.schema.HasUnmapped tag := by
  have hfield := (naming.allOfNaming_fieldName property.name).not_reportsTag tag
  have henum := (naming.allOfNaming_enumNotes property).not_reportsTag tag
  rw [propertyNotes, reportsTag_append_iff, reportsTag_append_iff, reportsTag_unmappedNotes_iff,
    or_iff_left henum, or_iff_right hfield]

theorem reportsTag_parameterNotes_iff (parameter : Parameter) :
    ReportsTag (naming.parameterNotes parameter) tag ↔ parameter.schema.HasUnmapped tag := by
  have hnamed := (naming.allOfNaming_fieldName parameter.name).not_reportsTag tag
  rw [parameterNotes, reportsTag_append_iff, reportsTag_unmappedNotes_iff, or_iff_left hnamed]

theorem not_reportsTag_clashNotes (earlier : List Property) (property : Property) :
    ¬ReportsTag (naming.clashNotes earlier property) tag := by
  refine not_reportsTag_of_warnings (fun d hd => ?_) tag
  obtain ⟨first, rfl⟩ := naming.exists_of_mem_clashNotes hd
  rfl

theorem reportsTag_propertySteps_iff (model : String) (earlier properties : List Property) :
    (∃ raised ∈ naming.propertySteps model earlier properties, ReportsTag raised.notes tag) ↔
      ∃ property ∈ properties, property.schema.HasUnmapped tag := by
  induction properties generalizing earlier with
  | nil => simp [propertySteps]
  | cons property rest ih =>
      have hclash := naming.not_reportsTag_clashNotes tag earlier property
      rw [propertySteps, List.exists_mem_cons_iff, List.exists_mem_cons_iff, ih,
        reportsTag_append_iff, or_iff_left hclash, reportsTag_propertyNotes_iff]

/-- The tags remarked on with a model are those of its properties. -/
theorem reportsTag_planModel_iff (layout : Output.Layout) (model : Model) :
    ReportsTag (naming.planModel layout model).diagnostics tag ↔
      ∃ property ∈ model.properties, property.schema.HasUnmapped tag := by
  have hname := (naming.allOfNaming_modelName model.name).not_reportsTag tag
  rw [diagnostics_planModel, reportsTag_allPlaced_iff, modelSteps, List.exists_mem_cons_iff,
    or_iff_right hname, reportsTag_propertySteps_iff]

theorem not_reportsTag_methodNotes (label : String) : ¬ReportsTag (methodNotes label) tag := by
  refine not_reportsTag_of_warnings (fun d hd => ?_) tag
  unfold methodNotes at hd
  split_ifs at hd
  · rw [List.mem_singleton.mp hd]
    rfl
  · cases hd

/-- The tags remarked on with an operation are those of its parameters, whatever its result is. -/
theorem reportsTag_planOperation_iff (operation : Operation) :
    ReportsTag (naming.planOperation operation).diagnostics tag ↔
      ∃ parameter ∈ operation.parameters, parameter.schema.HasUnmapped tag := by
  have hname := (naming.allOfNaming_methodName operation.id).not_reportsTag tag
  have hown : ¬ReportsTag ((naming.methodName operation.id).notes ++
      methodNotes (Identifier.methodLabel operation.method)) tag := by
    rw [reportsTag_append_iff, not_or]
    exact ⟨hname, not_reportsTag_methodNotes tag _⟩
  rw [diagnostics_planOperation, reportsTag_allPlaced_iff, operationSteps, List.exists_mem_cons_iff,
    or_iff_right hown]
  simp only [List.mem_map, exists_exists_and_eq_and, reportsTag_parameterNotes_iff]

end Naming

/-- A remark on a tag without a type of its own is among the diagnostics of a model exactly if one of
its properties has that tag, and among those of an operation exactly if one of its parameters has it,
at any depth of containers. So the tag of a result is remarked on only if a parameter shares it. -/
theorem reportsTag_plan_iff (planner : Planner) (document : Document) :
    let plan := planner.plan document
    List.Forall₂ (fun (model : Model) (planned : ModelPlan) => ∀ tag,
        ReportsTag planned.diagnostics tag ↔
          ∃ property ∈ model.properties, property.schema.HasUnmapped tag)
        document.models plan.models ∧
      List.Forall₂ (fun (operation : Operation) (planned : OperationPlan) => ∀ tag,
        ReportsTag planned.diagnostics tag ↔
          ∃ parameter ∈ operation.parameters, parameter.schema.HasUnmapped tag)
        document.operations plan.operations := by
  intro plan
  constructor
  · refine List.forall₂_map_right_iff.mpr (List.forall₂_same.mpr fun model _ tag => ?_)
    exact planner.naming.reportsTag_planModel_iff tag planner.layout model
  · rw [operations_plan]
    refine List.forall₂_map_right_iff.mpr (List.forall₂_same.mpr fun operation _ tag => ?_)
    exact planner.naming.reportsTag_planOperation_iff tag operation

/-- The tag `decimal` has no type of its own. A remark is made where a parameter has it; as the type
of a result it is used as it stands, and nothing is noted. -/
theorem tag_of_result_goes_unreported :
    let parameter : Parameter := { name := "price", schema := .primitive "decimal" }
    let document : Document :=
      { operations :=
          [{ id := "getPrice", method := "GET", result := some (.primitive "decimal") },
            { id := "putPrice", method := "PUT", parameters := [parameter] }] }
    let apis := ((Planner.ofSettings {}).plan document).apis
    let planned := apis.flatMap fun api => api.operations.map Positioned.operation
    RustType.isKnownTag "decimal" = false ∧
      planned.map (fun operation => operation.result.map ResultPlan.dataType) =
        [some "decimal", none] ∧
      planned.map OperationPlan.diagnostics =
        [[], [{ Diagnostic.info planningPhase (unmappedText "decimal") with
          location := some "operations.putPrice.price" }]] := by
  decide +kernel

end CratePlan
