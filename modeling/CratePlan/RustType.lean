import CratePlan.Document.Basic
import CratePlan.Naming.Name

/-!
The types of the generated code: the spelling of the basic types of a document, of containers and of
references to models, and which of them have to be imported.
-/

namespace CratePlan.RustType

/-- The types that the basic types of a document stand for. -/
def basicTypes : OrderedMap String String :=
  .ofList
    [("integer", "i32"), ("long", "i64"), ("number", "f32"), ("float", "f32"), ("double", "f64"),
     ("boolean", "bool"), ("string", "String"), ("UUID", "String"), ("date", "String"),
     ("DateTime", "String"), ("dateTime", "String"), ("password", "String"), ("file", "File"),
     ("binary", "Vec<u8>"), ("ByteArray", "String"), ("object", "Value")]

/-- The types that are always in scope. -/
def inScope : List String :=
  ["i8", "i16", "i32", "i64", "u8", "u16", "u32", "u64", "f32", "f64", "char", "bool", "String",
   "Vec<u8>", "File"]

/-- The markers for containers, which are never imported. -/
def containerMarkers : List String := ["map", "array"]

/-- The type for a basic type; a tag without a type stands for itself. -/
def ofTag (tag : String) : String :=
  (basicTypes.find? tag).getD tag

/-- Whether a tag has a type. -/
def isKnownTag (tag : String) : Bool :=
  basicTypes.contains tag

/-- Whether a type is always in scope. -/
def isInScope (name : String) : Bool :=
  inScope.contains name

/-- Whether a type has to be imported. -/
def needsImport (name : String) : Bool :=
  !containerMarkers.contains name && !inScope.contains name

/-- The type of a list. -/
def listOf (items : String) : String :=
  "Vec<" ++ items ++ ">"

/-- The type of a map from strings. -/
def mapOf (values : String) : String :=
  "::std::collections::HashMap<String, " ++ values ++ ">"

/-- The type for a schema, with references to models spelled by `model`. -/
def renderWith (model : String → String) : Schema → String
  | .primitive tag => ofTag tag
  | .array items => listOf (renderWith model items)
  | .map values => mapOf (renderWith model values)
  | .model name => model name

/-- The type for a schema in a declaration. -/
def render (naming : Naming) (schema : Schema) : String :=
  renderWith (fun name => (naming.modelName name).name) schema

/-- The type for a schema in the body of a method, where models belong to the enclosing module. -/
def renderInMethod (naming : Naming) (schema : Schema) : String :=
  renderWith (fun name => "super::" ++ (naming.modelName name).name) schema

/-- Whether the type for a schema, taken as a whole, has to be imported. -/
def needsImportAsWhole (naming : Naming) (schema : Schema) : Bool :=
  needsImport (render naming schema)

/-- The tag of the innermost type, if that is a basic type without a type of its own. -/
def unmappedTag? (schema : Schema) : Option String :=
  match schema.base with
  | .primitive tag => if isKnownTag tag then none else some tag
  | _ => none

/-- The outermost container of a type. -/
inductive Container where
  | list
  | map
deriving Repr, DecidableEq

/-- The name of a container kind. -/
def Container.name : Container → String
  | .list => "list"
  | .map => "map"

/-- The outermost container of a schema. -/
def container? : Schema → Option Container
  | .array _ => some .list
  | .map _ => some .map
  | _ => none

/-- A type as the body of a method uses it. -/
structure InMethod where
  text : String
  container : Option Container
deriving Repr, DecidableEq

/-- The type for a schema as the body of a method uses it. -/
def inMethod (naming : Naming) (schema : Schema) : InMethod :=
  ⟨renderInMethod naming schema, container? schema⟩

end CratePlan.RustType
