import CratePlan.Json.Render
import CratePlan.Plan.Client

/-!
Plans as JSON. What a plan does not have is left out; all else is written in a fixed order.
-/

namespace CratePlan

/-- A field with a string, or no field. -/
def optionalField (name : String) : Option String → List (String × Json)
  | some value => [(name, .string value)]
  | none => []

/-- A diagnostic as JSON. -/
def Diagnostic.toJson (d : Diagnostic) : Json :=
  .ofFields ([("severity", .string d.severity.label), ("phase", .string d.phase),
    ("message", .string d.message)] ++ optionalField "location" d.location)

/-- An enum as JSON. -/
def EnumPlan.toJson (plan : EnumPlan) : Json :=
  let variants := plan.variants.map fun v =>
    Json.ofFields [("name", .string v.name), ("value", .string v.value)]
  .ofFields [("name", .string plan.name), ("vars", .list variants)]

/-- A field of a model as JSON. -/
def FieldPlan.toJson (plan : FieldPlan) : Json :=
  .ofFields ([("name", .string plan.name), ("var_name", .string plan.varName),
    ("data_type", .string plan.dataType), ("base_type", .string plan.baseType),
    ("required", .bool plan.required), ("is_container", .bool plan.isContainer),
    ("need_to_import", .bool plan.needsImport)] ++
    optionalField "default_value" plan.defaultValue ++
    optionalField "description" plan.description ++
    (plan.enumPlan.map fun e => ("enum", e.toJson)).toList)

/-- A model as JSON. -/
def ModelPlan.toJson (plan : ModelPlan) : Json :=
  .ofFields ([("name", .string plan.name), ("class_name", .string plan.className),
    ("filename", .string plan.stem), ("doc_filename", .string plan.docStem),
    ("path", .string plan.path), ("doc_path", .string plan.docPath)] ++
    optionalField "description" plan.description ++
    [("vars", .list (plan.fields.map FieldPlan.toJson)), ("imports", .ofStrings plan.imports),
     ("diagnostics", .list (plan.diagnostics.map Diagnostic.toJson))])

/-- A parameter of a method as JSON. -/
def ParameterPlan.toJson (plan : ParameterPlan) : Json :=
  .ofFields [("name", .string plan.name), ("param_name", .string plan.paramName),
    ("data_type", .string plan.dataType), ("base_type", .string plan.baseType),
    ("in", .string plan.place.name), ("required", .bool plan.required),
    ("need_to_import", .bool plan.needsImport)]

/-- The fields of a type as the body of a method uses it. -/
def RustType.InMethod.fields (type : RustType.InMethod) : List (String × Json) :=
  ("type_in_method", .string type.text) ::
    optionalField "container" (type.container.map RustType.Container.name)

/-- The type of a result as JSON. -/
def ResultPlan.toJson (plan : ResultPlan) : Json :=
  .ofFields ([("data_type", .string plan.dataType), ("base_type", .string plan.baseType),
    ("need_to_import", .bool plan.needsImport)] ++ plan.inMethod.fields)

/-- A method as JSON. -/
def OperationPlan.toJson (plan : OperationPlan) : Json :=
  .ofFields ([("operation_id", .string plan.id), ("nickname", .string plan.methodName),
    ("http_method", .string plan.method), ("path", .string plan.path),
    ("params", .list (plan.parameters.map ParameterPlan.toJson))] ++
    (plan.result.map fun result => ("return_type", result.toJson)).toList ++
    [("diagnostics", .list (plan.diagnostics.map Diagnostic.toJson))])

/-- An interface as JSON. -/
def ApiPlan.toJson (plan : ApiPlan) : Json :=
  .ofFields [("tag", .string plan.tag), ("class_name", .string plan.className),
    ("filename", .string plan.stem), ("doc_filename", .string plan.docStem),
    ("path", .string plan.path), ("doc_path", .string plan.docPath),
    ("operations", .list (plan.operations.map fun p => p.operation.toJson)),
    ("imports", .ofStrings plan.imports)]

/-- A supporting file with its final path as JSON. -/
def Output.PlacedFile.toJson (file : Output.PlacedFile) : Json :=
  .ofFields [("template", .string file.template), ("path", .string file.path)]

/-- The plan for a client as JSON. -/
def ClientPlan.toJson (plan : ClientPlan) : Json :=
  .ofFields [("generator", .string Planner.name), ("kind", .string Planner.kind),
    ("output_folder", .string plan.outputFolder),
    ("additional_properties",
      .ofFields (plan.properties.map fun property => (property.1, .string property.2))),
    ("supporting_files", .list (plan.supportingFiles.map Output.PlacedFile.toJson)),
    ("models", .list (plan.models.map ModelPlan.toJson)),
    ("apis", .list (plan.apis.map ApiPlan.toJson))]

end CratePlan
