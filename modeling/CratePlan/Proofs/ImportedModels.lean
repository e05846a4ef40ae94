import CratePlan.Proofs.ImportOrder
import CratePlan.Proofs.TypeName
import Mathlib.Data.List.Forall2

/-! Which models the imports of a plan name. What is imported is decided by the texts of innermost
types, and a text does not say whether it comes from a basic type or refers to a model. So a model
whose type is spelled like one that is always in scope is taken for that one and never imported. Types
of models start with no small letter, which leaves `String` and `File` to be mistaken for. -/

namespace CratePlan

open Identifier

/-- The types that the signature of an operation is made of: those of its parameters and that of its
result. -/
def Operation.schemas (operation : Operation) : List Schema :=
  operation.parameters.map Parameter.schema ++ operation.result.toList

/-- The texts that are never imported: the markers of containers and the types in scope. -/
def RustType.atHand : List String :=
  containerMarkers ++ inScope

theorem RustType.needsImport_iff_notMem {text : String} :
    needsImport text = true ↔ text ∉ atHand := by
  rw [needsImport_iff, atHand, List.mem_append, not_or]

namespace Naming

variable (naming : Naming)

/-- The type of a model is spelled like a type that is always in scope. -/
def IsShadowed (model : String) : Prop :=
  (naming.modelName model).name = "String" ∨ (naming.modelName model).name = "File"

theorem isShadowed_iff (model : String) :
    naming.IsShadowed model ↔ withoutFront (naming.modelStem model).name = "string" ∨
      withoutFront (naming.modelStem model).name = "file" := by
  have hstem := naming.modelStem_written model
  rw [← pascalCase_eq_capitalized_iff hstem (by decide),
    ← pascalCase_eq_capitalized_iff hstem (by decide)]
  exact Iff.rfl

theorem eq_of_mem_atHand : ∀ word ∈ RustType.atHand, Spelled isWordChar word →
    word.toList.head?.any Char.isLower = false → word = "String" ∨ word = "File" := by
  decide

theorem head_modelName_not_isLower (model : String) :
    (naming.modelName model).name.toList.head?.any Char.isLower = false :=
  head_pascalCase_not_isLower ((naming.modelStem_written model).spelled.mono
    isWordChar_of_isStemChar)

theorem needsImport_modelName_iff (model : String) :
    RustType.needsImport (naming.modelName model).name = true ↔ ¬naming.IsShadowed model := by
  have hspelled := (naming.modelName_written model).spelled
  have hhead := naming.head_modelName_not_isLower model
  rw [RustType.needsImport_iff_notMem, not_iff_not]
  refine ⟨fun hmem => eq_of_mem_atHand _ hmem hspelled hhead, ?_⟩
  rintro (heq | heq) <;> rw [heq] <;> decide

theorem render_base_of_model {schema : Schema} {model : String} (h : schema.base = .model model) :
    RustType.render naming schema.base = (naming.modelName model).name := by
  rw [h]
  rfl

/-! ### What is imported -/

/-- The types that schemas have to import, each by the text of its innermost type. -/
def importsOf (schemas : List Schema) : List String :=
  (schemas.map fun schema => RustType.render naming schema.base).filter RustType.needsImport

theorem mem_importsOf_iff {schemas : List Schema} {schema : Schema} (h : schema ∈ schemas) :
    RustType.render naming schema.base ∈ naming.importsOf schemas ↔
      RustType.needsImport (RustType.render naming schema.base) = true :=
  List.mem_filter.trans (and_iff_right (List.mem_map_of_mem h))

theorem imports_planModel (layout : Output.Layout) (model : Model) :
    (naming.planModel layout model).imports =
      firstOccurrences (naming.importsOf (model.properties.map Property.schema)) := by
  rw [imports_planModel_eq_askedTypes,
    askedTypes_of_isDecided (naming.isDecided_of_mem_uses_planModel layout model), ModelPlan.uses,
    fields_planModel, importsOf, List.map_map, List.map_map, List.map_map]
  rfl

theorem operationImports_planOperation (operation : Operation) :
    operationImports (naming.planOperation operation) = naming.importsOf operation.schemas := by
  have hbases : (naming.planOperation operation).uses.map TypeUse.baseType =
      operation.schemas.map fun schema => RustType.render naming schema.base := by
    rw [OperationPlan.uses, parameters_planOperation, planOperation, Operation.schemas]
    simp only [List.map_append, List.map_map, Option.toList_map]
    rfl
  rw [operationImports_eq_askedTypes,
    askedTypes_of_isDecided (naming.isDecided_of_mem_uses_planOperation operation), hbases, importsOf]

theorem mem_imports_of_mem_planApis {layout : Output.Layout} {operations : List Operation}
    {api : ApiPlan} (hapi : api ∈ naming.planApis layout operations) {text : String} :
    text ∈ api.imports ↔ ∃ p ∈ api.operations, text ∈ operationImports p.operation := by
  obtain ⟨o, _, rfl⟩ := naming.exists_of_mem_planApis operations layout hapi
  simp only [planApi]
  rw [mem_firstOccurrences, List.mem_flatMap]

/-- An interface imports nothing that need not be imported, and all that one of its operations has to
import. -/
theorem mem_imports_iff_needsImport {layout : Output.Layout} {operations : List Operation}
    {api : ApiPlan} (hapi : api ∈ naming.planApis layout operations) {p : Positioned}
    (hp : p ∈ api.operations) {operation : Operation}
    (hplanned : p.operation = naming.planOperation operation) {schema : Schema}
    (hschema : schema ∈ operation.schemas) :
    RustType.render naming schema.base ∈ api.imports ↔
      RustType.needsImport (RustType.render naming schema.base) = true := by
  rw [naming.mem_imports_of_mem_planApis hapi]
  constructor
  · rintro ⟨q, hq, htext⟩
    obtain ⟨o, _, ho⟩ := naming.exists_of_mem_operations hapi hq
    rw [ho, operationImports_planOperation] at htext
    exact (List.mem_filter.mp htext).2
  · intro hneeds
    refine ⟨p, hp, ?_⟩
    rw [hplanned, operationImports_planOperation]
    exact (naming.mem_importsOf_iff hschema).mpr hneeds

end Naming

/-- A model that the type of a property refers to is imported by the model of that property, and one
that the type of a parameter or of a result refers to is imported by the interface of that operation,
at any depth of containers, unless its type is called `String` or `File`; then it never is. Under any
settings these are the models whose stems read `string` or `file`, underscores in front apart. -/
theorem reference_is_imported_iff (planner : Planner) (document : Document) :
    let naming := planner.naming
    let plan := planner.plan document
    List.Forall₂ (fun (model : Model) (planned : ModelPlan) =>
        ∀ property ∈ model.properties, ∀ name, property.schema.base = .model name →
          ((naming.modelName name).name ∈ planned.imports ↔ ¬naming.IsShadowed name))
        document.models plan.models ∧
      (∀ api ∈ plan.apis, ∀ p ∈ api.operations, ∃ operation,
        document.operations[p.position]? = some operation ∧
          ∀ schema ∈ operation.schemas, ∀ name, schema.base = .model name →
            ((naming.modelName name).name ∈ api.imports ↔ ¬naming.IsShadowed name)) ∧
      ∀ name, naming.IsShadowed name ↔ withoutFront (naming.modelStem name).name = "string" ∨
        withoutFront (naming.modelStem name).name = "file" := by
  intro naming plan
  refine ⟨?models, ?apis, naming.isShadowed_iff⟩
  case models =>
    refine List.forall₂_map_right_iff.mpr (List.forall₂_same.mpr fun model _ => ?_)
    intro property hproperty name hname
    have hschema := List.mem_map_of_mem (f := Property.schema) hproperty
    rw [← naming.needsImport_modelName_iff, ← naming.render_base_of_model hname,
      naming.imports_planModel, mem_firstOccurrences, naming.mem_importsOf_iff hschema]
  case apis =>
    intro api hapi p hp
    obtain ⟨operation, hposition, hplanned⟩ := naming.exists_at_position hapi hp
    refine ⟨operation, hposition, fun schema hschema name hname => ?_⟩
    rw [← naming.needsImport_modelName_iff, ← naming.render_base_of_model hname,
      naming.mem_imports_iff_needsImport hapi hp hplanned hschema]

/-- Models whose names get a part before them, referred to from within a list and from within a map. -/
theorem reference_is_imported_of_pet :
    let planner := Planner.ofSettings { modelPrefix := "shop" }
    let pet : Model := ⟨"pet", none, [{ name := "kinds", schema := .array (.model "kind") }]⟩
    let operation : Operation :=
      { id := "list", method := "GET", result := some (.map (.model "pet")) }
    let plan := planner.plan ⟨[pet], [operation]⟩
    (∃ model ∈ plan.models, "ShopKind" ∈ model.imports) ∧ ∃ api ∈ plan.apis, "ShopPet" ∈ api.imports := by
  intro planner pet operation plan
  obtain ⟨hmodels, hapis, hshadowed⟩ := reference_is_imported_iff planner ⟨[pet], [operation]⟩
  have hkind : (planner.naming.modelName "kind").name = "ShopKind" := by decide +kernel
  have hpet : (planner.naming.modelName "pet").name = "ShopPet" := by decide +kernel
  constructor
  · refine ⟨_, List.mem_cons_self, ?_⟩
    rw [← hkind, (List.forall₂_cons.mp hmodels).1 _ List.mem_cons_self "kind" rfl, hshadowed]
    decide +kernel
  · obtain ⟨api, hapi, p, hp, hposition⟩ :
        ∃ api ∈ plan.apis, ∃ p ∈ api.operations, p.position = 0 := by
      decide +kernel
    obtain ⟨source, hsource, hreferences⟩ := hapis api hapi p hp
    rw [hposition] at hsource
    cases hsource
    refine ⟨api, hapi, ?_⟩
    rw [← hpet, hreferences (.map (.model "pet")) List.mem_cons_self "pet" rfl, hshadowed]
    decide +kernel

/-- The types of models called `File` and `string` are used and never imported. -/
theorem reference_to_file_goes_unimported :
    let folder : Model := ⟨"folder", none, [{ name := "files", schema := .array (.model "File") }]⟩
    let operation : Operation :=
      { id := "open", method := "GET", result := some (.model "file") }
    let plan := (Planner.ofSettings {}).plan ⟨[{ name := "File" }, folder], [operation]⟩
    plan.models.map ModelPlan.className = ["File", "Folder"] ∧
      plan.models.map (fun model => model.fields.map FieldPlan.dataType) = [[], ["Vec<File>"]] ∧
      plan.models.map ModelPlan.imports = [[], []] ∧
      plan.apis.map (fun api => api.operations.map fun p => p.operation.result.map ResultPlan.dataType) =
        [[some "File"]] ∧
      plan.apis.map ApiPlan.imports = [[]] := by
  decide +kernel

end CratePlan
