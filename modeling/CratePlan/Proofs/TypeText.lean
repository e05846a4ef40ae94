import CratePlan.Plan.Client

/-! How the text of a type is made up. Each container puts something before and something after the
type that it holds, so the text of a type is that of its innermost type between what the chain of its
containers opens and what it closes. The form of a type in the body of a method differs in the
innermost type alone: there a model is found through its module. -/

namespace CratePlan

namespace Schema

open RustType (Container)

/-- The containers of a type, from the outermost one inwards. -/
def containers : Schema → List Container
  | .array items => .list :: items.containers
  | .map values => .map :: values.containers
  | _ => []

/-- Whether a type is a reference to a model. -/
def isReference : Schema → Bool
  | .model _ => true
  | _ => false

end Schema

namespace RustType

/-- What a container puts before the type that it holds. -/
def Container.opening : Container → String
  | .list => "Vec<"
  | .map => "::std::collections::HashMap<String, "

/-- What a chain of containers opens, from the outermost one inwards. -/
def opening (chain : List Container) : String :=
  String.join (chain.map Container.opening)

/-- What a chain of containers closes: one bracket for each of them. -/
def closing (chain : List Container) : String :=
  String.ofList (List.replicate chain.length '>')

/-- A text within a chain of containers. -/
def enclosed (chain : List Container) (text : String) : String :=
  opening chain ++ text ++ closing chain

theorem enclosed_nil (text : String) : enclosed [] text = text := by
  simp [enclosed, opening, closing]

/-- One more container around a chain opens first and closes last. -/
theorem enclosed_cons (container : Container) (chain : List Container) (text : String) :
    enclosed (container :: chain) text = container.opening ++ enclosed chain text ++ ">" := by
  have hclosing : closing (container :: chain) = closing chain ++ ">" := by
    rw [closing, List.length_cons, List.replicate_succ', String.ofList_append]
    rfl
  rw [enclosed, enclosed, hclosing, opening, List.map_cons, String.join_cons, opening]
  simp only [String.append_assoc]

/-- A type is rendered as its innermost type within its containers, however models are spelled. -/
theorem renderWith_eq_enclosed (model : String → String) (schema : Schema) :
    renderWith model schema = enclosed schema.containers (renderWith model schema.base) := by
  induction schema with
  | primitive tag => exact (enclosed_nil _).symm
  | model name => exact (enclosed_nil _).symm
  | array items ih =>
      rw [renderWith, ih, Schema.containers, Schema.base, enclosed_cons]
      rfl
  | map values ih =>
      rw [renderWith, ih, Schema.containers, Schema.base, enclosed_cons]
      rfl

/-- In the body of a method an innermost type is spelled as elsewhere, but for the path to a model. -/
theorem renderInMethod_base (naming : Naming) (schema : Schema) :
    renderInMethod naming schema.base =
      (if schema.base.isReference then "super::" else "") ++ render naming schema.base := by
  induction schema with
  | primitive tag => simp [Schema.base, Schema.isReference, renderInMethod, render, renderWith]
  | model name => simp [Schema.base, Schema.isReference, renderInMethod, render, renderWith]
  | array items ih => exact ih
  | map values ih => exact ih

theorem container?_eq_head? (schema : Schema) : container? schema = schema.containers.head? := by
  cases schema <;> rfl

end RustType

/-- The forms of a type agree under any settings. Both are the innermost type between what the
containers open and what they close, the one in the body of a method with the path to a model before
it; the container that is reported is the outermost one; and where the innermost type refers to a model
of the document, it is spelled as the plan names the type of that model. -/
theorem forms_of_type_agree (planner : Planner) (document : Document) (schema : Schema) :
    let chain := schema.containers
    let result := planner.naming.planResult schema
    let models := (planner.plan document).models
    result.baseType = RustType.render planner.naming schema.base ∧
      result.dataType = RustType.opening chain ++ result.baseType ++ RustType.closing chain ∧
      result.inMethod.text =
        RustType.opening chain ++
          ((if schema.base.isReference then "super::" else "") ++ result.baseType) ++
          RustType.closing chain ∧
      result.inMethod.container = chain.head? ∧
      models.map ModelPlan.name = document.models.map Model.name ∧
      ∀ model ∈ models, schema.base = .model model.name → result.baseType = model.className := by
  intro chain result models
  refine ⟨rfl, RustType.renderWith_eq_enclosed _ schema, ?_, RustType.container?_eq_head? schema,
    ?_, ?_⟩
  · have hbase := RustType.renderInMethod_base planner.naming schema
    change RustType.renderInMethod planner.naming schema = RustType.enclosed chain _
    rw [RustType.renderInMethod, RustType.renderWith_eq_enclosed]
    exact congrArg (RustType.enclosed chain) hbase
  · exact List.map_map
  · intro model hmodel hrefers
    obtain ⟨source, _, rfl⟩ := List.mem_map.mp hmodel
    change RustType.render planner.naming schema.base = _
    rw [hrefers]
    rfl

/-- A list of maps of a model whose name gets a part before it. -/
theorem forms_of_type_agree_of_pets :
    let planner := Planner.ofSettings { modelPrefix := "shop" }
    let document : Document := { models := [{ name := "pet" }] }
    let result := planner.naming.planResult (.array (.map (.model "pet")))
    let front := "Vec<::std::collections::HashMap<String, "
    result.dataType = front ++ result.baseType ++ ">>" ∧
      result.inMethod.text = front ++ ("super::" ++ result.baseType) ++ ">>" ∧
      result.inMethod.container = some .list ∧
      ∃ model ∈ (planner.plan document).models, model.className = "ShopPet" ∧
        result.baseType = model.className := by
  intro planner document result front
  obtain ⟨_, hdata, htext, hcontainer, _, hmodels⟩ :=
    forms_of_type_agree planner document (.array (.map (.model "pet")))
  have hopening : RustType.opening [.list, .map] = front := by decide
  have hclosing : RustType.closing [.list, .map] = ">>" := by decide
  obtain ⟨model, hmodel, hname, hclass⟩ : ∃ model ∈ (planner.plan document).models,
      model.name = "pet" ∧ model.className = "ShopPet" := by
    decide +kernel
  refine ⟨?_, ?_, hcontainer, model, hmodel, hclass, hmodels model hmodel (hname ▸ rfl)⟩
  · rw [← hopening, ← hclosing]
    exact hdata
  · rw [← hopening, ← hclosing]
    exact htext

end CratePlan
