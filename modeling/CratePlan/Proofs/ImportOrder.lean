import CratePlan.Proofs.PlanRecords

/-! The imports of a plan and the uses that ask for them. Each record of a plan uses one innermost type
and says whether that has to be imported. What a model imports is read off its fields, and what an
interface imports off its methods, for each the parameters and then the result. There is one list that
names what is asked for, each type once and in order of first use, and the imports are that list. -/

namespace CratePlan

/-- A use of a type by a record of a plan: the innermost type, and whether the record asks for its
import. -/
structure TypeUse where
  baseType : String
  needsImport : Bool

/-- The types that the fields of a model use. -/
def ModelPlan.uses (plan : ModelPlan) : List TypeUse :=
  plan.fields.map fun field => ⟨field.baseType, field.needsImport⟩

/-- The types that the parameters of a method use, and then the type that its result uses. -/
def OperationPlan.uses (plan : OperationPlan) : List TypeUse :=
  plan.parameters.map (fun parameter => ⟨parameter.baseType, parameter.needsImport⟩) ++
    plan.result.toList.map fun result => ⟨result.baseType, result.needsImport⟩

/-- The types that the methods of an interface use. -/
def ApiPlan.uses (plan : ApiPlan) : List TypeUse :=
  plan.operations.flatMap fun p => p.operation.uses

/-- A use that asks for the import of a type. -/
def TypeUse.asksFor (use : TypeUse) (text : String) : Bool :=
  use.needsImport && use.baseType = text

/-- A list names the types whose import is asked for, each once, in order of first use. -/
structure NamesFirstUses (uses : List TypeUse) (list : List String) : Prop where
  once : list.Nodup
  mem_iff : ∀ text, text ∈ list ↔ ∃ use ∈ uses, use.asksFor text = true
  in_order : list.Pairwise fun a b =>
    uses.findIdx (·.asksFor a) < uses.findIdx (·.asksFor b)

/-! ### The list of first uses -/

/-- The types whose import is asked for, as often as it is. -/
def askedTypes (uses : List TypeUse) : List String :=
  (uses.filter TypeUse.needsImport).map TypeUse.baseType

theorem mem_askedTypes {uses : List TypeUse} {text : String} :
    text ∈ askedTypes uses ↔ ∃ use ∈ uses, use.asksFor text = true := by
  simp only [askedTypes, List.mem_map, List.mem_filter, TypeUse.asksFor, Bool.and_eq_true,
    decide_eq_true_eq, and_assoc]

theorem askedTypes_append (first second : List TypeUse) :
    askedTypes (first ++ second) = askedTypes first ++ askedTypes second := by
  rw [askedTypes, List.filter_append, List.map_append]
  rfl

theorem askedTypes_flatMap {α : Type} (items : List α) (uses : α → List TypeUse) :
    askedTypes (items.flatMap uses) = items.flatMap fun item => askedTypes (uses item) := by
  rw [askedTypes, List.filter_flatMap, List.map_flatMap]
  rfl

/-- Uses that ask for nothing lie between those that do, but they change no order. -/
theorem findIdx_asksFor_lt {uses : List TypeUse} {a b : String}
    (h : (askedTypes uses).idxOf a < (askedTypes uses).idxOf b) :
    uses.findIdx (·.asksFor a) < uses.findIdx (·.asksFor b) := by
  induction uses with
  | nil => exact absurd h (Nat.lt_irrefl _)
  | cons use rest ih =>
      cases hneeds : use.needsImport with
      | false =>
          have hskip : askedTypes (use :: rest) = askedTypes rest := by simp [askedTypes, hneeds]
          have hnone (text : String) : use.asksFor text = false := by
            rw [TypeUse.asksFor, hneeds, Bool.false_and]
          rw [hskip] at h
          simpa [List.findIdx_cons, hnone] using ih h
      | true =>
          have hhead : askedTypes (use :: rest) = use.baseType :: askedTypes rest := by
            simp [askedTypes, hneeds]
          have hasks (text : String) : use.asksFor text = decide (use.baseType = text) := by
            rw [TypeUse.asksFor, hneeds, Bool.true_and]
          rw [hhead, List.idxOf_cons, List.idxOf_cons] at h
          rw [List.findIdx_cons, List.findIdx_cons, hasks, hasks]
          by_cases hb : use.baseType = b
          · simp [hb] at h
          · by_cases ha : use.baseType = a
            · simp [ha, ha ▸ hb]
            · rw [beq_false_of_ne ha, beq_false_of_ne hb, cond_false, cond_false] at h
              simpa [ha, hb] using ih (Nat.lt_of_succ_lt_succ h)

theorem namesFirstUses_firstOccurrences (uses : List TypeUse) :
    NamesFirstUses uses (firstOccurrences (askedTypes uses)) where
  once := nodup_firstOccurrences _
  mem_iff _ := mem_firstOccurrences.trans mem_askedTypes
  in_order := (pairwise_firstOccurrences _).imp findIdx_asksFor_lt

/-- No two lists name the same types in the same order. -/
theorem NamesFirstUses.unique {uses : List TypeUse} {list other : List String}
    (h : NamesFirstUses uses list) (hother : NamesFirstUses uses other) : list = other := by
  have hperm : list.Perm other := (List.perm_ext_iff_of_nodup h.once hother.once).mpr fun text =>
    (h.mem_iff text).trans (hother.mem_iff text).symm
  exact hperm.eq_of_pairwise (fun _ _ _ _ hab hba => absurd hba (Nat.lt_asymm hab)) h.in_order
    hother.in_order

theorem namesFirstUses_iff {uses : List TypeUse} {list : List String} :
    NamesFirstUses uses list ↔ list = firstOccurrences (askedTypes uses) := by
  constructor
  · exact fun h => h.unique (namesFirstUses_firstOccurrences uses)
  · rintro rfl
    exact namesFirstUses_firstOccurrences uses

/-! ### Uses that records make -/

/-- Whether a record asks for an import is decided by the type alone. -/
def TypeUse.IsDecided (use : TypeUse) : Prop :=
  use.needsImport = RustType.needsImport use.baseType

theorem RustType.needsImport_iff {text : String} :
    needsImport text = true ↔ text ∉ containerMarkers ∧ text ∉ inScope := by
  simp [needsImport]

/-- Imports are those that uses ask for: the one list that names the first uses, which holds the types in
use that are neither markers of containers nor in scope. -/
structure AreImportsOf (uses : List TypeUse) (imports : List String) : Prop where
  namesFirstUses_iff : ∀ list, NamesFirstUses uses list ↔ list = imports
  mem_iff : ∀ text, text ∈ imports ↔ (∃ use ∈ uses, use.baseType = text) ∧
    text ∉ RustType.containerMarkers ∧ text ∉ RustType.inScope

theorem askedTypes_of_isDecided {uses : List TypeUse} (h : ∀ use ∈ uses, use.IsDecided) :
    askedTypes uses = (uses.map TypeUse.baseType).filter RustType.needsImport := by
  rw [askedTypes, List.filter_map, List.filter_congr h]
  rfl

theorem areImportsOf_firstOccurrences {uses : List TypeUse} (h : ∀ use ∈ uses, use.IsDecided) :
    AreImportsOf uses (firstOccurrences (askedTypes uses)) where
  namesFirstUses_iff _ := namesFirstUses_iff
  mem_iff text := by
    rw [mem_firstOccurrences, askedTypes_of_isDecided h, List.mem_filter, List.mem_map,
      RustType.needsImport_iff]

theorem operationImports_eq_askedTypes (plan : OperationPlan) :
    Naming.operationImports plan = askedTypes plan.uses := by
  have hparameters : (plan.parameters.filter ParameterPlan.needsImport).map ParameterPlan.baseType =
      askedTypes (plan.parameters.map fun parameter =>
        ⟨parameter.baseType, parameter.needsImport⟩) := by
    rw [askedTypes, List.filter_map, List.map_map]
    rfl
  have hresult : ((plan.result.filter ResultPlan.needsImport).map ResultPlan.baseType).toList =
      askedTypes (plan.result.toList.map fun result => ⟨result.baseType, result.needsImport⟩) := by
    cases plan.result with
    | none => rfl
    | some result => cases hneeds : result.needsImport <;> simp [askedTypes, hneeds]
  rw [Naming.operationImports, OperationPlan.uses, askedTypes_append, hparameters, hresult]

namespace Naming

variable (naming : Naming)

theorem isDecided_of_mem_uses_planModel (layout : Output.Layout) (model : Model) :
    ∀ use ∈ (naming.planModel layout model).uses, use.IsDecided := by
  rw [ModelPlan.uses, fields_planModel, List.map_map, List.forall_mem_map]
  exact fun property _ => rfl

theorem imports_planModel_eq_askedTypes (layout : Output.Layout) (model : Model) :
    (naming.planModel layout model).imports =
      firstOccurrences (askedTypes (naming.planModel layout model).uses) := by
  change fieldImports (naming.planModel layout model).fields = _
  rw [fieldImports, askedTypes, ModelPlan.uses, List.filter_map, List.map_map]
  rfl

theorem areImportsOf_planModel (layout : Output.Layout) (model : Model) :
    AreImportsOf (naming.planModel layout model).uses (naming.planModel layout model).imports := by
  rw [imports_planModel_eq_askedTypes]
  exact areImportsOf_firstOccurrences (naming.isDecided_of_mem_uses_planModel layout model)

theorem isDecided_of_mem_uses_planOperation (operation : Operation) :
    ∀ use ∈ (naming.planOperation operation).uses, use.IsDecided := by
  rw [OperationPlan.uses, parameters_planOperation, List.map_map, planOperation]
  dsimp only
  rw [Option.toList_map, List.map_map, List.forall_mem_append, List.forall_mem_map,
    List.forall_mem_map]
  exact ⟨fun parameter _ => rfl, fun schema _ => rfl⟩

variable {layout : Output.Layout} {operations : List Operation} {api : ApiPlan}

/-- What an interface uses is what the operations with its tag use, in document order. -/
theorem uses_of_mem_planApis (hapi : api ∈ naming.planApis layout operations) :
    api.uses = (operations.filter fun o => tagKey o.tag = api.tag).flatMap
      fun o => (naming.planOperation o).uses := by
  rw [ApiPlan.uses, ← List.flatMap_map, naming.map_operation_of_mem_planApis hapi, List.flatMap_map]

theorem areImportsOf_of_mem_planApis (hapi : api ∈ naming.planApis layout operations) :
    AreImportsOf api.uses api.imports := by
  have hdecided : ∀ use ∈ api.uses, use.IsDecided := by
    intro use huse
    rw [naming.uses_of_mem_planApis hapi] at huse
    obtain ⟨o, _, huse⟩ := List.mem_flatMap.mp huse
    exact naming.isDecided_of_mem_uses_planOperation o use huse
  have himports : api.imports = firstOccurrences (askedTypes api.uses) := by
    obtain ⟨o, _, rfl⟩ := naming.exists_of_mem_planApis operations layout hapi
    simp only [planApi, ApiPlan.uses]
    rw [askedTypes_flatMap]
    simp only [operationImports_eq_askedTypes]
  rw [himports]
  exact areImportsOf_firstOccurrences hdecided

end Naming

/-- The imports of a model are those that its fields ask for, and the imports of an interface those that
its methods ask for, one method after the other and in each the parameters before the result: every type
once, in order of first use, and none that is in scope or marks a container. The methods of an interface
are the operations with its tag, in document order. -/
theorem imports_name_first_uses (naming : Naming) (layout : Output.Layout) (model : Model)
    (operations : List Operation) :
    AreImportsOf (naming.planModel layout model).uses (naming.planModel layout model).imports ∧
      ∀ api ∈ naming.planApis layout operations, AreImportsOf api.uses api.imports ∧
        api.uses = (operations.filter fun o => Naming.tagKey o.tag = api.tag).flatMap
          fun o => (naming.planOperation o).uses :=
  ⟨naming.areImportsOf_planModel layout model, fun _ hapi =>
    ⟨naming.areImportsOf_of_mem_planApis hapi, naming.uses_of_mem_planApis hapi⟩⟩

/-- Two tags interleave, and a type comes twice in the interface `Pet`: in a result and then in a
parameter. -/
theorem imports_name_first_uses_of_pets :
    let naming := ({} : Settings).naming
    let list : Operation :=
      { id := "list", method := "GET", tag := some "pet"
        parameters := [{ name := "filter", schema := .model "Filter" }]
        result := some (.array (.model "Pet")) }
    let order : Operation :=
      { id := "order", method := "POST", tag := some "store", result := some (.model "Order") }
    let add : Operation :=
      { id := "add", method := "POST", tag := some "pet"
        parameters := [{ name := "pet", schema := .model "Pet", place := .body }]
        result := some (.primitive "long") }
    let apis := naming.planApis ⟨"out"⟩ [list, order, add]
    ∃ api ∈ apis, NamesFirstUses api.uses ["Filter", "Pet"] ∧ "i64" ∉ api.imports := by
  intro naming list order add apis
  obtain ⟨api, hapi, himports⟩ : ∃ api ∈ apis, api.imports = ["Filter", "Pet"] := by
    decide +kernel
  obtain ⟨hof, _⟩ := (imports_name_first_uses naming ⟨"out"⟩ ⟨"pet", none, []⟩
    [list, order, add]).2 api hapi
  refine ⟨api, hapi, (hof.namesFirstUses_iff _).mpr himports.symm, fun hmem => ?_⟩
  exact ((hof.mem_iff "i64").mp hmem).2.2 (by decide)

end CratePlan
