import CratePlan.Document.Schema

/-!
The records of an API document: models with their properties, operations with their parameters.
-/

namespace CratePlan

/-- A property of a model. -/
structure Property where
  /-- The name as the document has it. -/
  name : String
  schema : Schema
  required : Bool := false
  /-- Whether the property is restricted to `enumValues`. -/
  isEnum : Bool := false
  enumValues : List String := []
  defaultValue : Option String := none
  description : Option String := none
deriving Repr, DecidableEq

namespace Property

/-- The property with a default. -/
def defaultingTo (property : Property) (value : String) : Property :=
  { property with defaultValue := some value }

/-- The property restricted to the given literals. -/
def restrictedTo (property : Property) (values : List String) : Property :=
  { property with isEnum := true, enumValues := values }

end Property

/-- A named type with ordered properties. -/
structure Model where
  name : String
  description : Option String := none
  properties : List Property := []
deriving Repr, DecidableEq

/-- The part of a request that carries a parameter. -/
inductive Place where
  | path
  | query
  | header
  | body
  | form
deriving Repr, DecidableEq

/-- A parameter of an operation. -/
structure Parameter where
  name : String
  schema : Schema
  place : Place := .query
  required : Bool := false
deriving Repr, DecidableEq

/-- A parameter at a place; it is required exactly if the path carries it. -/
def Parameter.at (name : String) (schema : Schema) (place : Place) : Parameter :=
  { name, schema, place, required := place = .path }

/-- An operation that a client can request. -/
structure Operation where
  /-- The identifier as the document has it. -/
  id : String
  /-- The request method, in any case. -/
  method : String
  path : String := ""
  /-- The tag that operations are grouped by. -/
  tag : Option String := none
  parameters : List Parameter := []
  result : Option Schema := none
deriving Repr, DecidableEq

/-- A document: its models and its operations, each in document order. -/
structure Document where
  models : List Model := []
  operations : List Operation := []
deriving Repr, DecidableEq

namespace Place

/-- All places. -/
def all : List Place := [.path, .query, .header, .body, .form]

/-- The name of a place in a document. -/
def name : Place → String
  | .path => "path"
  | .query => "query"
  | .header => "header"
  | .body => "body"
  | .form => "form"

end Place

end CratePlan
