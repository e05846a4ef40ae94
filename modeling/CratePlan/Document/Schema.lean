import CratePlan.Json.Read

/-!
The type of a property, a parameter or a result, as a document gives it. Whoever wrote the document
has resolved containers and references, so nothing here has to look into the text of a type.
-/

namespace CratePlan

/-- The type of a value in an interface. -/
inductive Schema where
  /-- A basic type, such as `integer`, `string` or `binary`, by its tag. -/
  | primitive (tag : String)
  /-- A list of items. -/
  | array (items : Schema)
  /-- A map from strings to values. -/
  | map (values : Schema)
  /-- A reference to a model of the document by its name. -/
  | model (name : String)
deriving Repr, DecidableEq

namespace Schema

/-- Whether a type is a list or a map. -/
def isContainer : Schema → Bool
  | .array _ => true
  | .map _ => true
  | _ => false

/-- The innermost type, which is not a container. -/
def base : Schema → Schema
  | .array items => items.base
  | .map values => values.base
  | schema => schema

/-- A type as a JSON object whose first member names its kind. -/
def toJson : Schema → Json
  | .primitive tag => .ofFields [("kind", .string "primitive"), ("name", .string tag)]
  | .array items => .ofFields [("kind", .string "array"), ("items", items.toJson)]
  | .map values => .ofFields [("kind", .string "map"), ("values", values.toJson)]
  | .model name => .ofFields [("kind", .string "model"), ("name", .string name)]

/-- The kinds of types. -/
inductive Kind where
  | primitive
  | array
  | map
  | model
deriving Repr, DecidableEq

namespace Kind

/-- All kinds, in the order in which a number selects one. -/
def all : List Kind := [.primitive, .array, .map, .model]

/-- The name of a kind in a document. -/
def name : Kind → String
  | .primitive => "primitive"
  | .array => "array"
  | .map => "map"
  | .model => "model"

/-- What a list that gives a type of this kind should hold. -/
def expectation : Kind → String
  | .primitive => "struct variant SchemaType::Primitive with 1 element"
  | .array => "struct variant SchemaType::Array with 1 element"
  | .map => "struct variant SchemaType::Map with 1 element"
  | .model => "struct variant SchemaType::Model with 1 element"

/-- The kind that a value names. Inside another type, a number may select it too. -/
def read (inner : Bool) : Json → Reading Kind
  | .string s =>
    match all.find? fun kind => kind.name = s with
    | some kind => .ok kind
    | none => .error (.mismatch (.unknownVariant s (all.map name)))
  | .number n =>
    match inner, n.number? with
    | true, some (.natural index) =>
      match all[index]? with
      | some kind => .ok kind
      | none => .error (.mismatch (.unknownIndex index all.length))
    | _, _ => (Json.number n).misfit "variant identifier"
  | value => value.misfit "variant identifier"

end Kind

/-- The kind among the members of an object. All other members have to be readable, whatever they
are, since their meaning is only known when the kind is. -/
def readKind (inner : Bool) (room : Nat) : Option Kind → List (Key × Json) → Reading Kind
  | found, [] => Json.required "kind" found
  | found, (.text name, value) :: rest =>
    if name = "kind" then do
      let found ← Json.once "kind" found (Kind.read inner value)
      readKind inner room found rest
    else if value.isReadable room then readKind inner room found rest
    else .error .malformed
  | _, _ :: _ => .error .malformed

/-- The one field of a type, among the members of an object. -/
def readField {α : Type} (name : String) (read : Json → Reading α)
    (members : List (Key × Json)) : Reading α := do
  let found ← Json.readMembers (fun slot key value =>
    if key = name then Json.once name slot (read value) else .ok slot) none members
  Json.required name found

/-- The one field of a type that is given as a list, after its kind. -/
def readOnlyItem {α : Type} (kind : Kind) (read : Json → Reading α) : List Json → Reading α
  | [] => .error (.mismatch (.tooShort 0 kind.expectation))
  | item :: rest => do
    let value ← read item
    if rest.isEmpty then return value
    else .error (.mismatch (.tooLong (rest.length + 1) 1))

/-- A type of a known kind, whose one field is read from wherever `field` finds it. -/
def ofKind (kind : Kind) (field : {α : Type} → String → (Json → Reading α) → Reading α)
    (read : Json → Reading Schema) : Reading Schema :=
  match kind with
  | .primitive => (field "name" Json.readText).map .primitive
  | .array => (field "items" read).map .array
  | .map => (field "values" read).map .map
  | .model => (field "name" Json.readText).map .model

/-- A value read as a type. -/
def read : Nat → Bool → Json → Reading Schema
  | 0, _, .object _ => .error .malformed
  | 0, _, .list _ => .error .malformed
  | room + 1, inner, .object members => do
    let kind ← readKind inner room none members
    ofKind kind (fun name read => readField name read members) (read room true)
  | _ + 1, _, .list [] => .error (.mismatch (.missingField "kind"))
  | room + 1, inner, .list (first :: rest) => do
    let kind ← Kind.read inner first
    if Json.allReadable room rest then
      ofKind kind (fun _ read => readOnlyItem kind read rest) (read room true)
    else .error .malformed
  | _, _, value => value.misfit "internally tagged enum SchemaType"

end Schema

end CratePlan
