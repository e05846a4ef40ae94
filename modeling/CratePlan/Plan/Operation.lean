import CratePlan.Plan.Model

/-!
Operations as they will be generated, and their groups. Operations with the same tag make up one
interface; the interfaces come in the order in which their tags first occur.
-/

namespace CratePlan

/-- A parameter of a method. -/
structure ParameterPlan where
  /-- The name in the document. -/
  name : String
  paramName : String
  dataType : String
  baseType : String
  place : Place
  required : Bool
  needsImport : Bool
deriving Repr, DecidableEq

/-- The type of a result, with its form in the body of a method. -/
structure ResultPlan where
  dataType : String
  baseType : String
  needsImport : Bool
  inMethod : RustType.InMethod
deriving Repr, DecidableEq

/-- A method of an interface. -/
structure OperationPlan where
  /-- The identifier in the document. -/
  id : String
  methodName : String
  /-- The label of the request method. -/
  method : String
  path : String
  parameters : List ParameterPlan
  result : Option ResultPlan
  diagnostics : List Diagnostic
deriving Repr, DecidableEq

/-- A planned operation with its position in the document. -/
structure Positioned where
  position : Nat
  operation : OperationPlan
deriving Repr, DecidableEq

/-- The operations of one tag, with everything that a template needs. -/
structure ApiPlan where
  tag : String
  className : String
  stem : String
  docStem : String
  path : String
  docPath : String
  operations : List Positioned
  /-- The types to import, in order of first use. -/
  imports : List String
deriving Repr, DecidableEq

namespace Naming

/-- The parameter of a method for a parameter of an operation. -/
def planParameter (naming : Naming) (parameter : Parameter) : Noted ParameterPlan :=
  let named := naming.parameterName parameter.name
  let baseType := RustType.render naming parameter.schema.base
  { value :=
      { name := parameter.name
        paramName := named.name
        dataType := RustType.render naming parameter.schema
        baseType
        place := parameter.place
        required := parameter.required
        needsImport := RustType.needsImport baseType }
    notes := unmappedNotes parameter.schema ++ named.notes }

/-- The type of a result. -/
def planResult (naming : Naming) (schema : Schema) : ResultPlan :=
  let baseType := RustType.render naming schema.base
  { dataType := RustType.render naming schema
    baseType
    needsImport := RustType.needsImport baseType
    inMethod := RustType.inMethod naming schema }

/-- The parameters of an operation, in their order, with every note placed at its parameter. -/
def planParameters (naming : Naming) (operation : Operation) : List (Noted ParameterPlan) :=
  operation.parameters.map fun parameter =>
    let planned := naming.planParameter parameter
    let place := s!"operations.{operation.id}.{parameter.name}"
    ⟨planned.value, planned.notes.map (Diagnostic.locate place)⟩

/-- The warning that an operation lacks a request method. -/
def methodNotes (label : String) : List Diagnostic :=
  if label = "" then [.warning planningPhase "operation has no HTTP method"] else []

/-- The plan for an operation. -/
def planOperation (naming : Naming) (operation : Operation) : OperationPlan :=
  let named := naming.methodName operation.id
  let label := Identifier.methodLabel operation.method
  let planned := naming.planParameters operation
  { id := operation.id
    methodName := named.name
    method := label
    path := operation.path
    parameters := planned.map Noted.value
    result := operation.result.map naming.planResult
    diagnostics :=
      (named.notes ++ methodNotes label).map
        (Diagnostic.locate s!"operations.{operation.id}") ++ planned.flatMap Noted.notes }

/-- The types that a method has to import: those of its parameters, then that of its result. -/
def operationImports (operation : OperationPlan) : List String :=
  (operation.parameters.filter ParameterPlan.needsImport).map ParameterPlan.baseType ++
    ((operation.result.filter ResultPlan.needsImport).map ResultPlan.baseType).toList

/-- The interface for the operations of one tag. -/
def planApi (layout : Output.Layout) (tag : String) (operations : List Positioned) : ApiPlan :=
  { tag
    className := apiName tag
    stem := apiStem tag
    docStem := apiDocStem tag
    path := layout.apiFile (apiStem tag)
    docPath := layout.apiDocFile (apiDocStem tag)
    operations
    imports := firstOccurrences (operations.flatMap fun p => operationImports p.operation) }

/-- The planned operations by the key of their tag. -/
def groupOperations (naming : Naming) (operations : List Operation) :
    OrderedMap String (List Positioned) :=
  operations.zipIdx.foldl (fun groups (operation, position) =>
    groups.alter (tagKey operation.tag) fun members =>
      members.getD [] ++ [⟨position, naming.planOperation operation⟩]) {}

/-- The interfaces for operations. -/
def planApis (naming : Naming) (layout : Output.Layout) (operations : List Operation) :
    List ApiPlan :=
  (naming.groupOperations operations).entries.map fun (tag, members) => planApi layout tag members

end Naming

end CratePlan
