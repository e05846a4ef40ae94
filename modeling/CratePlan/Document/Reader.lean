import CratePlan.Document.Basic
import CratePlan.Json.Scan

/-!
Reading documents from JSON. A record is an object, whose members may come in any order and may be
more than the record knows, or the list of its fields in the order of their declaration, from which
fields with a default may be left off at the end.
-/

namespace CratePlan

open Json

/-- The number of objects and lists that may be open at a time. -/
def depthLimit : Nat := 127

namespace Place

/-- The place with a given name. -/
def ofName (name : String) : Reading Place :=
  match all.find? fun place => place.name = name with
  | some place => .ok place
  | none => .error (.mismatch (.unknownVariant name (all.map Place.name)))

/-- A value read as a place: its name, or an object that has the name for its one key and null for
its value. -/
def read (room : Nat) : Json → Reading Place
  | .string s => ofName s
  | .object members => opening room fun _ =>
    match members with
    | (.text name, value) :: rest => do
      let place ← ofName name
      match value, rest with
      | .null, [] => return place
      | .null, _ :: _ => .error .malformed
      | value, _ => value.misfit "unit"
    | _ => .error .malformed
  | _ => .error .malformed

end Place

namespace Property

/-- The fields of a property that have been met. -/
structure Draft where
  name : Option String := none
  schema : Option Schema := none
  required : Option Bool := none
  isEnum : Option Bool := none
  enumValues : Option (List String) := none
  defaultValue : Option (Option String) := none
  description : Option (Option String) := none

/-- Takes one member of an object into the draft of a property. -/
def Draft.take (room : Nat) (draft : Draft) (key : String) (value : Json) : Reading Draft :=
  match key with
  | "name" => do return { draft with name := ← once key draft.name value.readText }
  | "type" => do
    return { draft with schema := ← once key draft.schema (Schema.read room false value) }
  | "required" => do return { draft with required := ← once key draft.required value.readBool }
  | "is_enum" => do return { draft with isEnum := ← once key draft.isEnum value.readBool }
  | "enum_values" => do
    return { draft with
      enumValues := ← once key draft.enumValues (readList (fun _ => readText) room value) }
  | "default_value" => do
    return { draft with
      defaultValue := ← once key draft.defaultValue (readOption readText value) }
  | "description" => do
    return { draft with description := ← once key draft.description (readOption readText value) }
  | _ => do
    value.skip
    return draft

/-- The property that a draft amounts to. -/
def Draft.finish (draft : Draft) : Reading Property := do
  let name ← Json.required "name" draft.name
  let schema ← Json.required "type" draft.schema
  return {
    name, schema
    required := draft.required.getD false
    isEnum := draft.isEnum.getD false
    enumValues := draft.enumValues.getD []
    defaultValue := draft.defaultValue.getD none
    description := draft.description.getD none }

/-- What a list that gives a property should hold. -/
def expectation : String := "struct Property with 7 elements"

/-- A property from the list of its fields. -/
def ofItems (room : Nat) (items : List Json) : Reading Property := do
  let (name, items) ← requiredItem 0 expectation readText items
  let (schema, items) ← requiredItem 1 expectation (Schema.read room false) items
  let (required, items) ← optionalItem false readBool items
  let (isEnum, items) ← optionalItem false readBool items
  let (enumValues, items) ← optionalItem [] (readList (fun _ => readText) room) items
  let (defaultValue, items) ← optionalItem none (readOption readText) items
  let (description, items) ← optionalItem none (readOption readText) items
  noMoreItems items
  return { name, schema, required, isEnum, enumValues, defaultValue, description }

/-- A value read as a property. -/
def read : Nat → Json → Reading Property :=
  readRecord "struct Property"
    (fun room members => do (← readMembers (Draft.take room) {} members).finish) ofItems

end Property

namespace Model

/-- The fields of a model that have been met. -/
structure Draft where
  name : Option String := none
  description : Option (Option String) := none
  properties : Option (List Property) := none

/-- Takes one member of an object into the draft of a model. -/
def Draft.take (room : Nat) (draft : Draft) (key : String) (value : Json) : Reading Draft :=
  match key with
  | "name" => do return { draft with name := ← once key draft.name value.readText }
  | "description" => do
    return { draft with description := ← once key draft.description (readOption readText value) }
  | "properties" => do
    return { draft with
      properties := ← once key draft.properties (readList Property.read room value) }
  | _ => do
    value.skip
    return draft

/-- The model that a draft amounts to. -/
def Draft.finish (draft : Draft) : Reading Model := do
  let name ← Json.required "name" draft.name
  return {
    name
    description := draft.description.getD none
    properties := draft.properties.getD [] }

/-- What a list that gives a model should hold. -/
def expectation : String := "struct Model with 3 elements"

/-- A model from the list of its fields. -/
def ofItems (room : Nat) (items : List Json) : Reading Model := do
  let (name, items) ← requiredItem 0 expectation readText items
  let (description, items) ← optionalItem none (readOption readText) items
  let (properties, items) ← optionalItem [] (readList Property.read room) items
  noMoreItems items
  return { name, description, properties }

/-- A value read as a model. -/
def read : Nat → Json → Reading Model :=
  readRecord "struct Model"
    (fun room members => do (← readMembers (Draft.take room) {} members).finish) ofItems

end Model

namespace Parameter

/-- The fields of a parameter that have been met. -/
structure Draft where
  name : Option String := none
  schema : Option Schema := none
  place : Option Place := none
  required : Option Bool := none

/-- Takes one member of an object into the draft of a parameter. -/
def Draft.take (room : Nat) (draft : Draft) (key : String) (value : Json) : Reading Draft :=
  match key with
  | "name" => do return { draft with name := ← once key draft.name value.readText }
  | "type" => do
    return { draft with schema := ← once key draft.schema (Schema.read room false value) }
  | "in" => do return { draft with place := ← once key draft.place (Place.read room value) }
  | "required" => do return { draft with required := ← once key draft.required value.readBool }
  | _ => do
    value.skip
    return draft

/-- The parameter that a draft amounts to. -/
def Draft.finish (draft : Draft) : Reading Parameter := do
  let name ← Json.required "name" draft.name
  let schema ← Json.required "type" draft.schema
  return {
    name, schema
    place := draft.place.getD .query
    required := draft.required.getD false }

/-- What a list that gives a parameter should hold. -/
def expectation : String := "struct Parameter with 4 elements"

/-- A parameter from the list of its fields. -/
def ofItems (room : Nat) (items : List Json) : Reading Parameter := do
  let (name, items) ← requiredItem 0 expectation readText items
  let (schema, items) ← requiredItem 1 expectation (Schema.read room false) items
  let (place, items) ← optionalItem .query (Place.read room) items
  let (required, items) ← optionalItem false readBool items
  noMoreItems items
  return { name, schema, place, required }

/-- A value read as a parameter. -/
def read : Nat → Json → Reading Parameter :=
  readRecord "struct Parameter"
    (fun room members => do (← readMembers (Draft.take room) {} members).finish) ofItems

end Parameter

namespace Operation

/-- The fields of an operation that have been met. -/
structure Draft where
  id : Option String := none
  method : Option String := none
  path : Option String := none
  tag : Option (Option String) := none
  parameters : Option (List Parameter) := none
  result : Option (Option Schema) := none

/-- Takes one member of an object into the draft of an operation. -/
def Draft.take (room : Nat) (draft : Draft) (key : String) (value : Json) : Reading Draft :=
  match key with
  | "operation_id" => do return { draft with id := ← once key draft.id value.readText }
  | "http_method" => do return { draft with method := ← once key draft.method value.readText }
  | "path" => do return { draft with path := ← once key draft.path value.readText }
  | "tag" => do return { draft with tag := ← once key draft.tag (readOption readText value) }
  | "parameters" => do
    return { draft with
      parameters := ← once key draft.parameters (readList Parameter.read room value) }
  | "return_type" => do
    return { draft with
      result := ← once key draft.result (readOption (Schema.read room false) value) }
  | _ => do
    value.skip
    return draft

/-- The operation that a draft amounts to. -/
def Draft.finish (draft : Draft) : Reading Operation := do
  let id ← Json.required "operation_id" draft.id
  let method ← Json.required "http_method" draft.method
  return {
    id, method
    path := draft.path.getD ""
    tag := draft.tag.getD none
    parameters := draft.parameters.getD []
    result := draft.result.getD none }

/-- What a list that gives an operation should hold. -/
def expectation : String := "struct Operation with 6 elements"

/-- An operation from the list of its fields. -/
def ofItems (room : Nat) (items : List Json) : Reading Operation := do
  let (id, items) ← requiredItem 0 expectation readText items
  let (method, items) ← requiredItem 1 expectation readText items
  let (path, items) ← optionalItem "" readText items
  let (tag, items) ← optionalItem none (readOption readText) items
  let (parameters, items) ← optionalItem [] (readList Parameter.read room) items
  let (result, items) ← optionalItem none (readOption (Schema.read room false)) items
  noMoreItems items
  return { id, method, path, tag, parameters, result }

/-- A value read as an operation. -/
def read : Nat → Json → Reading Operation :=
  readRecord "struct Operation"
    (fun room members => do (← readMembers (Draft.take room) {} members).finish) ofItems

end Operation

namespace Document

/-- The fields of a document that have been met. -/
structure Draft where
  models : Option (List Model) := none
  operations : Option (List Operation) := none

/-- Takes one member of an object into the draft of a document. -/
def Draft.take (room : Nat) (draft : Draft) (key : String) (value : Json) : Reading Draft :=
  match key with
  | "models" => do
    return { draft with models := ← once key draft.models (readList Model.read room value) }
  | "operations" => do
    return { draft with
      operations := ← once key draft.operations (readList Operation.read room value) }
  | _ => do
    value.skip
    return draft

/-- The document that a draft amounts to. -/
def Draft.finish (draft : Draft) : Document :=
  { models := draft.models.getD [], operations := draft.operations.getD [] }

/-- A document from the list of its fields. -/
def ofItems (room : Nat) (items : List Json) : Reading Document := do
  let (models, items) ← optionalItem [] (readList Model.read room) items
  let (operations, items) ← optionalItem [] (readList Operation.read room) items
  noMoreItems items
  return { models, operations }

/-- A value read as a document. -/
def read : Nat → Json → Reading Document :=
  readRecord "struct Document"
    (fun room members => do return (← readMembers (Draft.take room) {} members).finish) ofItems

end Document

/-- Reads a record from a text, which has to end after it. -/
def readFromText {α : Type} (read : Nat → Json → Reading α) (text : String) : Reading α := do
  let (value, atEnd) := scan text
  let record ← read depthLimit value
  if atEnd then return record else .error .malformed

/-- The document that a text holds. -/
def Document.ofText (text : String) : Reading Document :=
  readFromText Document.read text

end CratePlan
