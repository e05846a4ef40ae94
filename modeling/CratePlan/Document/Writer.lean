import CratePlan.Document.Basic
import CratePlan.Json.Render

/-!
Documents as JSON. Every field of a record is written, in the order of its declaration.
-/

namespace CratePlan

/-- A property as JSON. -/
def Property.toJson (p : Property) : Json :=
  .ofFields [("name", .string p.name), ("type", p.schema.toJson), ("required", .bool p.required),
    ("is_enum", .bool p.isEnum), ("enum_values", .ofStrings p.enumValues),
    ("default_value", .ofOption p.defaultValue), ("description", .ofOption p.description)]

/-- A model as JSON. -/
def Model.toJson (m : Model) : Json :=
  .ofFields [("name", .string m.name), ("description", .ofOption m.description),
    ("properties", .list (m.properties.map Property.toJson))]

/-- A parameter as JSON. -/
def Parameter.toJson (p : Parameter) : Json :=
  .ofFields [("name", .string p.name), ("type", p.schema.toJson), ("in", .string p.place.name),
    ("required", .bool p.required)]

/-- An operation as JSON. -/
def Operation.toJson (o : Operation) : Json :=
  .ofFields [("operation_id", .string o.id), ("http_method", .string o.method),
    ("path", .string o.path), ("tag", .ofOption o.tag),
    ("parameters", .list (o.parameters.map Parameter.toJson)),
    ("return_type", o.result.elim .null Schema.toJson)]

namespace Document

/-- A document as JSON. -/
def toJson (d : Document) : Json :=
  .ofFields [("models", .list (d.models.map Model.toJson)),
    ("operations", .list (d.operations.map Operation.toJson))]

/-- A document as JSON text. -/
def toText (d : Document) : String :=
  d.toJson.compact

end Document

end CratePlan
