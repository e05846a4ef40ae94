import CratePlan.Proofs.PlanRecords
import CratePlan.Proofs.RaisedNotes

/-! Which place in the document each diagnostic of a plan speaks of. A record is planned in steps, one
for the record itself and one for each of its properties or parameters, and what a step raises is
placed at what the step is about. It makes no difference whether each step is looked at by itself or
all steps of a record share one log that is placed and emptied after each of them: between two steps
the log is empty, so nothing gets lost in it and nothing is carried over. -/

namespace CratePlan

/-- What a step of planning raises, and the place in the document that the step is about. -/
structure Raised where
  place : String
  notes : List Diagnostic

namespace Raised

/-- What a step raises, placed at what the step is about. -/
def placed (raised : Raised) : List Diagnostic :=
  raised.notes.map fun d => { d with location := some raised.place }

/-- What the steps of a record raise, each placed at what the step is about. -/
def allPlaced (steps : List Raised) : List Diagnostic :=
  steps.flatMap placed

theorem allPlaced_cons (raised : Raised) (rest : List Raised) :
    allPlaced (raised :: rest) = raised.placed ++ allPlaced rest :=
  List.flatMap_cons

theorem location_of_mem_allPlaced {steps : List Raised} {d : Diagnostic} (h : d ∈ allPlaced steps) :
    d.location ≠ none := by
  obtain ⟨raised, _, hd⟩ := List.mem_flatMap.mp h
  obtain ⟨source, _, rfl⟩ := List.mem_map.mp hd
  exact Option.some_ne_none raised.place

end Raised

/-- What is raised without a place is placed where the step says. -/
theorem map_locate_of_allFresh {notes : List Diagnostic} (h : AllFresh notes) (place : String) :
    notes.map (Diagnostic.locate place) = Raised.placed ⟨place, notes⟩ := by
  refine List.map_congr_left fun d hd => ?_
  rw [Diagnostic.locate, (h d hd).unplaced, Option.getD_none]

namespace DiagnosticLog

/-- A step of a record with a shared log: the log takes in what the step raises, places what has no
place yet, and is emptied. -/
def settle (log : DiagnosticLog) (raised : Raised) : List Diagnostic × DiagnosticLog :=
  ((log.append raised.notes).locate raised.place).take

/-- All steps of a record with a shared log: what was taken out of it, and what is left in it. -/
def settleAll (log : DiagnosticLog) : List Raised → List Diagnostic × DiagnosticLog
  | [] => ([], log)
  | raised :: rest =>
    let (taken, log) := log.settle raised
    let (others, log) := settleAll log rest
    (taken ++ others, log)

/-- A step that finds the log empty leaves it empty. -/
theorem settle_empty {raised : Raised} (h : AllFresh raised.notes) :
    settle {} raised = (raised.placed, {}) := by
  rw [settle, append, List.nil_append, locate, map_locate_of_allFresh h]
  rfl

theorem settleAll_empty {steps : List Raised} (h : ∀ raised ∈ steps, AllFresh raised.notes) :
    settleAll {} steps = (Raised.allPlaced steps, {}) := by
  induction steps with
  | nil => rfl
  | cons raised rest ih =>
      rw [List.forall_mem_cons] at h
      rw [settleAll, settle_empty h.1]
      dsimp only
      rw [ih h.2]
      rfl

end DiagnosticLog

namespace Naming

variable (naming : Naming)

/-! ### The steps of a model -/

/-- The warning that two properties have one field, before it is placed. -/
def clashWarning (first second field : String) : Diagnostic :=
  { severity := .warning
    phase := "transform"
    message := "'" ++ first ++ "' and '" ++ second ++ "' both map to field " ++ field }

theorem clashNote_eq_clashWarning (first second field : String) :
    clashNote first second field = clashWarning first second field :=
  rfl

/-- The warning that an earlier property has the field of this one already; it names the first such
property. -/
def clashNotes (earlier : List Property) (property : Property) : List Diagnostic :=
  let field := (naming.fieldName property.name).name
  match earlier.find? fun first => (naming.fieldName first.name).name = field with
  | some first => [clashWarning first.name property.name field]
  | none => []

/-- The steps for the properties of a model, of which those in `earlier` come before. -/
def propertySteps (model : String) (earlier : List Property) : List Property → List Raised
  | [] => []
  | property :: rest =>
    ⟨s!"models.{model}.{property.name}",
      naming.propertyNotes property ++ naming.clashNotes earlier property⟩ ::
        propertySteps model (earlier ++ [property]) rest

/-- The steps for a model: its own name, then its properties. -/
def modelSteps (model : Model) : List Raised :=
  ⟨s!"models.{model.name}", (naming.modelName model.name).notes⟩ ::
    naming.propertySteps model.name [] model.properties

theorem exists_of_mem_clashNotes {earlier : List Property} {property : Property} {d : Diagnostic}
    (hd : d ∈ naming.clashNotes earlier property) :
    ∃ first, d = clashWarning first property.name (naming.fieldName property.name).name := by
  unfold clashNotes at hd
  dsimp only at hd
  split at hd
  · exact ⟨_, List.mem_singleton.mp hd⟩
  · cases hd

theorem allFresh_clashNotes (earlier : List Property) (property : Property) :
    AllFresh (naming.clashNotes earlier property) := by
  intro d hd
  obtain ⟨first, rfl⟩ := naming.exists_of_mem_clashNotes hd
  exact allFresh_warning _ _ _ List.mem_cons_self

theorem allFresh_propertySteps (model : String) (earlier properties : List Property) :
    ∀ raised ∈ naming.propertySteps model earlier properties, AllFresh raised.notes := by
  induction properties generalizing earlier with
  | nil => exact fun _ h => absurd h List.not_mem_nil
  | cons property rest ih =>
      refine List.forall_mem_cons.mpr ⟨?_, ih _⟩
      exact (naming.allFresh_propertyNotes property).append
        (naming.allFresh_clashNotes earlier property)

theorem allFresh_modelSteps (model : Model) :
    ∀ raised ∈ naming.modelSteps model, AllFresh raised.notes := by
  rw [modelSteps, List.forall_mem_cons]
  refine ⟨?_, naming.allFresh_propertySteps model.name [] _⟩
  dsimp only
  exact naming.allFresh_modelName model.name

/-- The fields that are taken are those of the earlier properties, each by the first that has it. -/
def Takes (seen : List (String × String)) (earlier : List Property) : Prop :=
  ∀ field, seen.lookup field =
    (earlier.find? fun first => (naming.fieldName first.name).name = field).map Property.name

theorem varName_planField (property : Property) :
    (naming.planField property).value.varName = (naming.fieldName property.name).name :=
  rfl

variable {naming}

theorem Takes.clashNotes_of_some {seen : List (String × String)} {earlier : List Property}
    (h : naming.Takes seen earlier) {property : Property} {first : String}
    (htaken : seen.lookup (naming.fieldName property.name).name = some first) :
    naming.clashNotes earlier property =
      [clashWarning first property.name (naming.fieldName property.name).name] := by
  rw [h] at htaken
  obtain ⟨holder, hholder, rfl⟩ := Option.map_eq_some_iff.mp htaken
  rw [clashNotes, hholder]

theorem Takes.clashNotes_of_none {seen : List (String × String)} {earlier : List Property}
    (h : naming.Takes seen earlier) {property : Property}
    (hfree : seen.lookup (naming.fieldName property.name).name = none) :
    naming.clashNotes earlier property = [] := by
  rw [h, Option.map_eq_none_iff] at hfree
  rw [clashNotes, hfree]

/-- A property whose field is taken already takes nothing. -/
theorem Takes.skip {seen : List (String × String)} {earlier : List Property}
    (h : naming.Takes seen earlier) {property : Property}
    {first : String} (htaken : seen.lookup (naming.fieldName property.name).name = some first) :
    naming.Takes seen (earlier ++ [property]) := by
  intro field
  rw [h field, List.find?_append]
  by_cases hfield : (naming.fieldName property.name).name = field
  · subst hfield
    rw [h] at htaken
    obtain ⟨holder, hholder, _⟩ := Option.map_eq_some_iff.mp htaken
    rw [hholder, Option.some_or]
  · rw [List.find?_cons_of_neg (by simpa using hfield), List.find?_nil, Option.or_none]

theorem Takes.take {seen : List (String × String)} {earlier : List Property}
    (h : naming.Takes seen earlier) {property : Property}
    (hfree : seen.lookup (naming.fieldName property.name).name = none) :
    naming.Takes (((naming.fieldName property.name).name, property.name) :: seen)
      (earlier ++ [property]) := by
  intro field
  rw [List.find?_append]
  by_cases hfield : (naming.fieldName property.name).name = field
  · subst hfield
    rw [h, Option.map_eq_none_iff] at hfree
    rw [hfree, Option.none_or, List.find?_cons_of_pos (by simp), List.lookup_cons_self]
    rfl
  · rw [List.find?_cons_of_neg (by simpa using hfield), List.find?_nil, Option.or_none, ← h field]
    rw [List.lookup_cons, beq_eq_false_iff_ne.mpr (Ne.symm hfield)]

variable (naming)

/-- The notes on each field of a model are what the step for its property raises. -/
theorem map_notes_planFields {seen : List (String × String)} {earlier : List Property}
    (h : naming.Takes seen earlier) (model : String) (properties : List Property) :
    (naming.planFields model seen properties).map Noted.notes =
      (naming.propertySteps model earlier properties).map Raised.placed := by
  induction properties generalizing seen earlier with
  | nil => rfl
  | cons property rest ih =>
      have hplaced := map_locate_of_allFresh ((naming.allFresh_propertyNotes property).append
        (naming.allFresh_clashNotes earlier property)) s!"models.{model}.{property.name}"
      rw [propertySteps, List.map_cons, ← hplaced, planFields]
      simp only [varName_planField, notes_planField, clashNote_eq_clashWarning]
      split
      · next first htaken =>
          rw [List.map_cons, ih (h.skip htaken), h.clashNotes_of_some htaken]
      · next hfree =>
          rw [List.map_cons, ih (h.take hfree), h.clashNotes_of_none hfree, List.append_nil]

theorem diagnostics_planModel (layout : Output.Layout) (model : Model) :
    (naming.planModel layout model).diagnostics = Raised.allPlaced (naming.modelSteps model) := by
  have hseen : naming.Takes [] [] := fun _ => rfl
  rw [modelSteps, Raised.allPlaced_cons, ← map_locate_of_allFresh
    (naming.allFresh_modelName model.name), planModel]
  dsimp only
  rw [List.flatMap_def, naming.map_notes_planFields hseen, Raised.allPlaced, List.flatMap_def]

/-! ### The steps of an operation -/

/-- The steps for an operation: its own identifier and request method, then its parameters. -/
def operationSteps (operation : Operation) : List Raised :=
  ⟨s!"operations.{operation.id}",
    (naming.methodName operation.id).notes ++
      methodNotes (Identifier.methodLabel operation.method)⟩ ::
    operation.parameters.map fun parameter =>
      ⟨s!"operations.{operation.id}.{parameter.name}", naming.parameterNotes parameter⟩

theorem allFresh_operationSteps (operation : Operation) :
    ∀ raised ∈ naming.operationSteps operation, AllFresh raised.notes := by
  rw [operationSteps, List.forall_mem_cons, List.forall_mem_map]
  refine ⟨?_, fun parameter _ => naming.allFresh_parameterNotes parameter⟩
  dsimp only
  exact (naming.allFresh_methodName operation.id).append (allFresh_methodNotes _)

theorem diagnostics_planOperation (operation : Operation) :
    (naming.planOperation operation).diagnostics =
      Raised.allPlaced (naming.operationSteps operation) := by
  have hown := (naming.allFresh_methodName operation.id).append
    (allFresh_methodNotes (Identifier.methodLabel operation.method))
  rw [operationSteps, Raised.allPlaced_cons, ← map_locate_of_allFresh hown, Raised.allPlaced,
    List.flatMap_map, planOperation]
  dsimp only
  rw [planParameters, List.flatMap_map]
  congr 1
  refine List.flatMap_congr fun parameter _ => ?_
  dsimp only
  rw [notes_planParameter]
  exact map_locate_of_allFresh (naming.allFresh_parameterNotes parameter) _

/-! ### The steps of a document -/

/-- The steps for the records of a document: its models, then its operations. -/
def recordSteps (document : Document) : List (List Raised) :=
  document.models.map naming.modelSteps ++ document.operations.map naming.operationSteps

theorem allFresh_recordSteps (document : Document) :
    ∀ steps ∈ naming.recordSteps document, ∀ raised ∈ steps, AllFresh raised.notes := by
  rw [recordSteps, List.forall_mem_append, List.forall_mem_map, List.forall_mem_map]
  exact ⟨fun model _ => naming.allFresh_modelSteps model,
    fun operation _ => naming.allFresh_operationSteps operation⟩

theorem diagnostics_planModels (layout : Output.Layout) (models : List Model) :
    (naming.planModels layout models).map ModelPlan.diagnostics =
      models.map fun model => Raised.allPlaced (naming.modelSteps model) := by
  refine List.map_map.trans (List.map_congr_left fun model _ => ?_)
  exact naming.diagnostics_planModel layout model

end Naming

theorem diagnostics_plan (planner : Planner) (document : Document) :
    (planner.plan document).diagnostics =
      (planner.naming.recordSteps document).flatMap Raised.allPlaced := by
  have hmodels : (planner.plan document).models.map ModelPlan.diagnostics =
      document.models.map fun model => Raised.allPlaced (planner.naming.modelSteps model) :=
    planner.naming.diagnostics_planModels planner.layout document.models
  have hoperations : (planner.plan document).operations.map OperationPlan.diagnostics =
      document.operations.map fun operation =>
        Raised.allPlaced (planner.naming.operationSteps operation) := by
    rw [operations_plan, List.map_map]
    exact List.map_congr_left fun operation _ => planner.naming.diagnostics_planOperation operation
  rw [ClientPlan.diagnostics, List.flatMap_def, hmodels, List.flatMap_def, hoperations,
    Naming.recordSteps, List.flatMap_append, List.flatMap_map, List.flatMap_map, List.flatMap_def,
    List.flatMap_def]

/-- Every diagnostic of a plan speaks of the right place. The diagnostics of a model are those raised
for its name, placed at the model, and after them, property for property, those raised for each, placed
at it; those of an operation are the ones raised for its identifier and its request method and after
them, parameter for parameter, those raised for each. The diagnostics of the plan are these and no
others, and none is without a place. One log for all steps of a record, placed and emptied after each
of them, hands out the same and is left empty. -/
theorem plan_places_diagnostics (planner : Planner) (document : Document) :
    let naming := planner.naming
    let plan := planner.plan document
    plan.models.map ModelPlan.diagnostics =
        document.models.map (fun model => Raised.allPlaced (naming.modelSteps model)) ∧
      (∀ api ∈ plan.apis, ∀ p ∈ api.operations, ∃ operation,
        document.operations[p.position]? = some operation ∧
          p.operation.diagnostics = Raised.allPlaced (naming.operationSteps operation)) ∧
      plan.diagnostics = (naming.recordSteps document).flatMap Raised.allPlaced ∧
      (∀ d ∈ plan.diagnostics, d.location ≠ none) ∧
      ∀ steps ∈ naming.recordSteps document,
        DiagnosticLog.settleAll {} steps = (Raised.allPlaced steps, {}) := by
  intro naming plan
  refine ⟨naming.diagnostics_planModels planner.layout document.models, ?operations,
    diagnostics_plan planner document, ?placed, ?logs⟩
  case operations =>
    intro api hapi p hp
    obtain ⟨operation, hposition, hoperation⟩ := naming.exists_at_position hapi hp
    rw [hoperation, naming.diagnostics_planOperation]
    exact ⟨operation, hposition, rfl⟩
  case placed =>
    intro d hd
    rw [diagnostics_plan planner document] at hd
    obtain ⟨steps, _, hd⟩ := List.mem_flatMap.mp hd
    exact Raised.location_of_mem_allPlaced hd
  case logs =>
    intro steps hsteps
    exact DiagnosticLog.settleAll_empty (naming.allFresh_recordSteps document steps hsteps)

/-- A clash of two fields is placed at the second of them. What is said of a property, of its type, of
its enum and of its literals is placed at the property in this order, what is said of a parameter at
the parameter, and what is said of a name or of a missing request method at the record. -/
theorem plan_places_diagnostics_of_clash :
    let planner := Planner.ofSettings {}
    let model : Model :=
      { name := "return"
        properties := [{ name := "a-b", schema := .primitive "string" },
          { name := "a_b", schema := .primitive "string" },
          { name := "type", schema := .primitive "decimal", isEnum := true,
            enumValues := ["名", "2 x"] }] }
    let operation : Operation :=
      { id := "return", method := ""
        parameters := [{ name := "type", schema := .primitive "decimal" }] }
    let plan := planner.plan { models := [model], operations := [operation] }
    let ofModel : List Diagnostic :=
      [⟨.warning, "naming", "return (reserved word) cannot be used as model name. " ++
          "Renamed to model_return", some "models.return"⟩,
        ⟨.warning, "transform", "'a-b' and 'a_b' both map to field a_b",
          some "models.return.a_b"⟩,
        ⟨.info, "naming", "type (reserved word) escaped to _type", some "models.return.type"⟩,
        ⟨.info, "transform", "no Rust type for 'decimal', used as-is",
          some "models.return.type"⟩,
        ⟨.warning, "naming", "type (reserved word) cannot be used as model name. " ++
          "Renamed to model_type", some "models.return.type"⟩,
        ⟨.warning, "naming", "enum value '名' has no identifier characters. Named EMPTY",
          some "models.return.type"⟩,
        ⟨.info, "naming", "enum variant 2_X escaped to _2_X", some "models.return.type"⟩]
    let ofOperation : List Diagnostic :=
      [⟨.warning, "naming", "return (reserved word) cannot be used as method name. " ++
          "Renamed to call_return", some "operations.return"⟩,
        ⟨.warning, "transform", "operation has no HTTP method", some "operations.return"⟩,
        ⟨.info, "transform", "no Rust type for 'decimal', used as-is",
          some "operations.return.type"⟩,
        ⟨.info, "naming", "type (reserved word) escaped to _type",
          some "operations.return.type"⟩]
    plan.models.map ModelPlan.diagnostics = [ofModel] ∧
      plan.diagnostics = ofModel ++ ofOperation ∧
      (∃ d ∈ plan.diagnostics, d.location ≠ none) ∧
      DiagnosticLog.settleAll {} (planner.naming.modelSteps model) = (ofModel, {}) ∧
      ∃ api ∈ plan.apis, ∃ p ∈ api.operations, p.operation.diagnostics = ofOperation := by
  intro planner model operation plan ofModel ofOperation
  obtain ⟨hmodels, hoperations, hall, hplaced, hlogs⟩ :=
    plan_places_diagnostics planner { models := [model], operations := [operation] }
  have hmodel : Raised.allPlaced (planner.naming.modelSteps model) = ofModel := by decide +kernel
  have hoperation : Raised.allPlaced (planner.naming.operationSteps operation) = ofOperation := by
    decide +kernel
  have hdiagnostics : plan.diagnostics = ofModel ++ ofOperation := by
    rw [hall, Naming.recordSteps, List.flatMap_append, List.map_singleton, List.map_singleton,
      List.flatMap_singleton, List.flatMap_singleton, hmodel, hoperation]
  have hfirst : ofModel[0] ∈ plan.diagnostics := by
    rw [hdiagnostics]
    exact List.mem_cons_self
  obtain ⟨api, hapi, p, hp, hposition⟩ :
      ∃ api ∈ plan.apis, ∃ p ∈ api.operations, p.position = 0 := by
    decide +kernel
  obtain ⟨own, hown, hnoted⟩ := hoperations api hapi p hp
  rw [hposition] at hown
  cases hown
  refine ⟨?_, hdiagnostics, ⟨_, hfirst, hplaced _ hfirst⟩, ?_, api, hapi, p, hp, ?_⟩
  · rw [hmodels, List.map_singleton, hmodel]
  · rw [hlogs _ List.mem_cons_self, hmodel]
  · rw [hnoted, hoperation]

end CratePlan
