import CratePlan.Document.Reader
import CratePlan.Document.Writer
import CratePlan.Proofs.RecordFormat
import Mathlib.Tactic.Simproc.ExistsAndEq

/-! The tables of the five records that a document is made of, in the order of their declaration. -/

namespace CratePlan

open Json

namespace Property

/-- The fields of a property. -/
def slots : List (Slot Draft Property) :=
  [⟨⟨"name", .leaf⟩, fun _ => readText, .string, none,
      Draft.name, fun draft found => { draft with name := found }, name⟩,
    ⟨⟨"type", .schema⟩, fun room => Schema.read room false, Schema.toJson, none,
      Draft.schema, fun draft found => { draft with schema := found }, schema⟩,
    ⟨⟨"required", .leaf⟩, fun _ => readBool, .bool, some false,
      Draft.required, fun draft found => { draft with required := found }, required⟩,
    ⟨⟨"is_enum", .leaf⟩, fun _ => readBool, .bool, some false,
      Draft.isEnum, fun draft found => { draft with isEnum := found }, isEnum⟩,
    ⟨⟨"enum_values", .listOf .leaf⟩, readList fun _ => readText, .ofStrings, some [],
      Draft.enumValues, fun draft found => { draft with enumValues := found }, enumValues⟩,
    ⟨⟨"default_value", .optional .leaf⟩, fun _ => readOption readText, .ofOption, some none,
      Draft.defaultValue, fun draft found => { draft with defaultValue := found }, defaultValue⟩,
    ⟨⟨"description", .optional .leaf⟩, fun _ => readOption readText, .ofOption, some none,
      Draft.description, fun draft found => { draft with description := found }, description⟩]

theorem Draft.take_unknown (key : String) (h : key ∉ Record.property.names) (room : Nat)
    (draft : Draft) (value : Json) :
    Draft.take room draft key value = do
      value.skip
      return draft := by
  unfold Draft.take
  split <;> first | rfl | exact absurd (by decide) h

theorem Draft.finish_eq_ok_iff {draft : Draft} {x : Property} :
    draft.finish = .ok x ↔
      ∀ slot ∈ slots, (slot.met draft).or slot.default = some (slot.value x) := by
  cases x
  simp only [slots, Draft.finish, required_bind_eq_ok_iff, Reading.pure_eq_ok, Property.mk.injEq,
    existsAndEq, true_and, and_true, List.forall_mem_cons, List.not_mem_nil, false_imp_iff,
    implies_true, Option.or_none, or_some_eq_some_iff]

theorem ofItems_eq_ok_iff {room : Nat} {items : List Json} {x : Property} :
    ofItems room items = .ok x ↔ ItemsRead room x slots items := by
  cases x
  simp only [ofItems, slots, ItemsRead, requiredItem_bind_eq_ok_iff, optionalItem_bind_eq_ok_iff,
    noMoreItems_bind_eq_ok_iff, Reading.pure_eq_ok, Property.mk.injEq, existsAndEq, and_true]

/-- A property by its fields. -/
def format : RecordFormat Draft Property where
  record := .property
  slots := slots
  expectation := "struct Property"
  start := {}
  take := Draft.take
  finish := Draft.finish
  ofItems := ofItems
  read := read
  write := toJson
  fields_eq := rfl
  met_start := by simp [slots]
  met_set := by simp [slots]
  met_set_other := by simp [slots]
  take_known := by simp [slots, Draft.take]
  take_unknown := Draft.take_unknown
  finish_eq_ok_iff := Draft.finish_eq_ok_iff
  ofItems_eq_ok_iff := ofItems_eq_ok_iff
  read_eq := rfl
  write_eq := fun _ => rfl

end Property

namespace Model

/-- The fields of a model. -/
def slots : List (Slot Draft Model) :=
  [⟨⟨"name", .leaf⟩, fun _ => readText, .string, none,
      Draft.name, fun draft found => { draft with name := found }, name⟩,
    ⟨⟨"description", .optional .leaf⟩, fun _ => readOption readText, .ofOption, some none,
      Draft.description, fun draft found => { draft with description := found }, description⟩,
    ⟨⟨"properties", .listOf (.record .property)⟩, readList Property.read,
      fun properties => .list (properties.map Property.toJson), some [],
      Draft.properties, fun draft found => { draft with properties := found }, properties⟩]

theorem Draft.take_unknown (key : String) (h : key ∉ Record.model.names) (room : Nat)
    (draft : Draft) (value : Json) :
    Draft.take room draft key value = do
      value.skip
      return draft := by
  unfold Draft.take
  split <;> first | rfl | exact absurd (by decide) h

theorem Draft.finish_eq_ok_iff {draft : Draft} {x : Model} :
    draft.finish = .ok x ↔
      ∀ slot ∈ slots, (slot.met draft).or slot.default = some (slot.value x) := by
  cases x
  simp only [slots, Draft.finish, required_bind_eq_ok_iff, Reading.pure_eq_ok, Model.mk.injEq,
    existsAndEq, true_and, and_true, List.forall_mem_cons, List.not_mem_nil, false_imp_iff,
    implies_true, Option.or_none, or_some_eq_some_iff]

theorem ofItems_eq_ok_iff {room : Nat} {items : List Json} {x : Model} :
    ofItems room items = .ok x ↔ ItemsRead room x slots items := by
  cases x
  simp only [ofItems, slots, ItemsRead, requiredItem_bind_eq_ok_iff, optionalItem_bind_eq_ok_iff,
    noMoreItems_bind_eq_ok_iff, Reading.pure_eq_ok, Model.mk.injEq, existsAndEq, and_true]

/-- A model by its fields. -/
def format : RecordFormat Draft Model where
  record := .model
  slots := slots
  expectation := "struct Model"
  start := {}
  take := Draft.take
  finish := Draft.finish
  ofItems := ofItems
  read := read
  write := toJson
  fields_eq := rfl
  met_start := by simp [slots]
  met_set := by simp [slots]
  met_set_other := by simp [slots]
  take_known := by simp [slots, Draft.take]
  take_unknown := Draft.take_unknown
  finish_eq_ok_iff := Draft.finish_eq_ok_iff
  ofItems_eq_ok_iff := ofItems_eq_ok_iff
  read_eq := rfl
  write_eq := fun _ => rfl

end Model

namespace Parameter

/-- The fields of a parameter. -/
def slots : List (Slot Draft Parameter) :=
  [⟨⟨"name", .leaf⟩, fun _ => readText, .string, none,
      Draft.name, fun draft found => { draft with name := found }, name⟩,
    ⟨⟨"type", .schema⟩, fun room => Schema.read room false, Schema.toJson, none,
      Draft.schema, fun draft found => { draft with schema := found }, schema⟩,
    ⟨⟨"in", .leaf⟩, Place.read, fun place => .string place.name, some .query,
      Draft.place, fun draft found => { draft with place := found }, place⟩,
    ⟨⟨"required", .leaf⟩, fun _ => readBool, .bool, some false,
      Draft.required, fun draft found => { draft with required := found }, required⟩]

theorem Draft.take_unknown (key : String) (h : key ∉ Record.parameter.names) (room : Nat)
    (draft : Draft) (value : Json) :
    Draft.take room draft key value = do
      value.skip
      return draft := by
  unfold Draft.take
  split <;> first | rfl | exact absurd (by decide) h

theorem Draft.finish_eq_ok_iff {draft : Draft} {x : Parameter} :
    draft.finish = .ok x ↔
      ∀ slot ∈ slots, (slot.met draft).or slot.default = some (slot.value x) := by
  cases x
  simp only [slots, Draft.finish, required_bind_eq_ok_iff, Reading.pure_eq_ok, Parameter.mk.injEq,
    existsAndEq, true_and, and_true, List.forall_mem_cons, List.not_mem_nil, false_imp_iff,
    implies_true, Option.or_none, or_some_eq_some_iff]

theorem ofItems_eq_ok_iff {room : Nat} {items : List Json} {x : Parameter} :
    ofItems room items = .ok x ↔ ItemsRead room x slots items := by
  cases x
  simp only [ofItems, slots, ItemsRead, requiredItem_bind_eq_ok_iff, optionalItem_bind_eq_ok_iff,
    noMoreItems_bind_eq_ok_iff, Reading.pure_eq_ok, Parameter.mk.injEq, existsAndEq, and_true]

/-- A parameter by its fields. -/
def format : RecordFormat Draft Parameter where
  record := .parameter
  slots := slots
  expectation := "struct Parameter"
  start := {}
  take := Draft.take
  finish := Draft.finish
  ofItems := ofItems
  read := read
  write := toJson
  fields_eq := rfl
  met_start := by simp [slots]
  met_set := by simp [slots]
  met_set_other := by simp [slots]
  take_known := by simp [slots, Draft.take]
  take_unknown := Draft.take_unknown
  finish_eq_ok_iff := Draft.finish_eq_ok_iff
  ofItems_eq_ok_iff := ofItems_eq_ok_iff
  read_eq := rfl
  write_eq := fun _ => rfl

end Parameter

namespace Operation

/-- The fields of an operation. -/
def slots : List (Slot Draft Operation) :=
  [⟨⟨"operation_id", .leaf⟩, fun _ => readText, .string, none,
      Draft.id, fun draft found => { draft with id := found }, id⟩,
    ⟨⟨"http_method", .leaf⟩, fun _ => readText, .string, none,
      Draft.method, fun draft found => { draft with method := found }, method⟩,
    ⟨⟨"path", .leaf⟩, fun _ => readText, .string, some "",
      Draft.path, fun draft found => { draft with path := found }, path⟩,
    ⟨⟨"tag", .optional .leaf⟩, fun _ => readOption readText, .ofOption, some none,
      Draft.tag, fun draft found => { draft with tag := found }, tag⟩,
    ⟨⟨"parameters", .listOf (.record .parameter)⟩, readList Parameter.read,
      fun parameters => .list (parameters.map Parameter.toJson), some [],
      Draft.parameters, fun draft found => { draft with parameters := found }, parameters⟩,
    ⟨⟨"return_type", .optional .schema⟩, fun room => readOption (Schema.read room false),
      fun result => result.elim .null Schema.toJson, some none,
      Draft.result, fun draft found => { draft with result := found }, result⟩]

theorem Draft.take_unknown (key : String) (h : key ∉ Record.operation.names) (room : Nat)
    (draft : Draft) (value : Json) :
    Draft.take room draft key value = do
      value.skip
      return draft := by
  unfold Draft.take
  split <;> first | rfl | exact absurd (by decide) h

theorem Draft.finish_eq_ok_iff {draft : Draft} {x : Operation} :
    draft.finish = .ok x ↔
      ∀ slot ∈ slots, (slot.met draft).or slot.default = some (slot.value x) := by
  cases x
  simp only [slots, Draft.finish, required_bind_eq_ok_iff, Reading.pure_eq_ok, Operation.mk.injEq,
    existsAndEq, true_and, and_true, List.forall_mem_cons, List.not_mem_nil, false_imp_iff,
    implies_true, Option.or_none, or_some_eq_some_iff]

theorem ofItems_eq_ok_iff {room : Nat} {items : List Json} {x : Operation} :
    ofItems room items = .ok x ↔ ItemsRead room x slots items := by
  cases x
  simp only [ofItems, slots, ItemsRead, requiredItem_bind_eq_ok_iff, optionalItem_bind_eq_ok_iff,
    noMoreItems_bind_eq_ok_iff, Reading.pure_eq_ok, Operation.mk.injEq, existsAndEq, and_true]

/-- An operation by its fields. -/
def format : RecordFormat Draft Operation where
  record := .operation
  slots := slots
  expectation := "struct Operation"
  start := {}
  take := Draft.take
  finish := Draft.finish
  ofItems := ofItems
  read := read
  write := toJson
  fields_eq := rfl
  met_start := by simp [slots]
  met_set := by simp [slots]
  met_set_other := by simp [slots]
  take_known := by simp [slots, Draft.take]
  take_unknown := Draft.take_unknown
  finish_eq_ok_iff := Draft.finish_eq_ok_iff
  ofItems_eq_ok_iff := ofItems_eq_ok_iff
  read_eq := rfl
  write_eq := fun _ => rfl

end Operation

namespace Document

/-- The fields of a document. -/
def slots : List (Slot Draft Document) :=
  [⟨⟨"models", .listOf (.record .model)⟩, readList Model.read,
      fun models => .list (models.map Model.toJson), some [],
      Draft.models, fun draft found => { draft with models := found }, models⟩,
    ⟨⟨"operations", .listOf (.record .operation)⟩, readList Operation.read,
      fun operations => .list (operations.map Operation.toJson), some [],
      Draft.operations, fun draft found => { draft with operations := found }, operations⟩]

theorem Draft.take_unknown (key : String) (h : key ∉ Record.document.names) (room : Nat)
    (draft : Draft) (value : Json) :
    Draft.take room draft key value = do
      value.skip
      return draft := by
  unfold Draft.take
  split <;> first | rfl | exact absurd (by decide) h

/-- Every draft amounts to a document. -/
theorem Draft.finish_eq_ok_iff {draft : Draft} {x : Document} :
    (pure draft.finish : Reading Document) = .ok x ↔
      ∀ slot ∈ slots, (slot.met draft).or slot.default = some (slot.value x) := by
  cases x
  simp only [slots, Draft.finish, Reading.pure_eq_ok, Document.mk.injEq, and_true,
    List.forall_mem_cons, List.not_mem_nil, false_imp_iff, implies_true, or_some_eq_some_iff]

theorem ofItems_eq_ok_iff {room : Nat} {items : List Json} {x : Document} :
    ofItems room items = .ok x ↔ ItemsRead room x slots items := by
  cases x
  simp only [ofItems, slots, ItemsRead, optionalItem_bind_eq_ok_iff, noMoreItems_bind_eq_ok_iff,
    Reading.pure_eq_ok, Document.mk.injEq, existsAndEq, and_true]

/-- A document by its fields. -/
def format : RecordFormat Draft Document where
  record := .document
  slots := slots
  expectation := "struct Document"
  start := {}
  take := Draft.take
  finish := fun draft => pure draft.finish
  ofItems := ofItems
  read := read
  write := toJson
  fields_eq := rfl
  met_start := by simp [slots]
  met_set := by simp [slots]
  met_set_other := by simp [slots]
  take_known := by simp [slots, Draft.take]
  take_unknown := Draft.take_unknown
  finish_eq_ok_iff := Draft.finish_eq_ok_iff
  ofItems_eq_ok_iff := ofItems_eq_ok_iff
  read_eq := rfl
  write_eq := fun _ => rfl

end Document

end CratePlan
