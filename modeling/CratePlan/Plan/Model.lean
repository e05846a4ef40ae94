import CratePlan.Naming.Variant
import CratePlan.Output.Layout
import CratePlan.RustType

/-!
Models as they will be generated: the names and types of their fields, the enums of restricted
fields, the types to import and the files to write. Whatever was noted while a model was planned
stays with it, placed at the model or at one of its properties.
-/

namespace CratePlan

/-- The phase of the diagnostics that planning itself raises. -/
def planningPhase : String := "transform"

/-- A planned record and what was noted while it was planned. -/
structure Noted (α : Type) where
  value : α
  notes : List Diagnostic
deriving Repr, DecidableEq

/-- A variant of an enum: its name and the text of its literal. -/
structure VariantPlan where
  name : String
  value : String
deriving Repr, DecidableEq

/-- The enum of a restricted property. -/
structure EnumPlan where
  name : String
  variants : List VariantPlan
deriving Repr, DecidableEq

/-- A field of a model. -/
structure FieldPlan where
  /-- The name of the property in the document. -/
  name : String
  varName : String
  dataType : String
  /-- The innermost type. -/
  baseType : String
  required : Bool
  isContainer : Bool
  needsImport : Bool
  defaultValue : Option String
  description : Option String
  enumPlan : Option EnumPlan
deriving Repr, DecidableEq

/-- A model with everything that a template needs. -/
structure ModelPlan where
  /-- The name in the document. -/
  name : String
  className : String
  stem : String
  docStem : String
  path : String
  docPath : String
  description : Option String
  fields : List FieldPlan
  /-- The types to import, in order of first use. -/
  imports : List String
  diagnostics : List Diagnostic
deriving Repr, DecidableEq

/-- The remark on a basic type that has no type of its own. -/
def unmappedNotes (schema : Schema) : List Diagnostic :=
  match RustType.unmappedTag? schema with
  | some tag => [.info planningPhase s!"no Rust type for '{tag}', used as-is"]
  | none => []

namespace Naming

/-- The variants for literals, in their order, with the notes on each. -/
def planVariants (naming : Naming) (datatype : String) : List String → Noted (List VariantPlan)
  | [] => ⟨[], []⟩
  | literal :: rest =>
    let named := naming.variantName literal datatype
    let others := planVariants naming datatype rest
    ⟨⟨named.name, literalText literal datatype⟩ :: others.value, named.notes ++ others.notes⟩

/-- The enum of a restricted property. -/
def planEnum (naming : Naming) (property : Property) (datatype : String) : Noted EnumPlan :=
  let named := naming.enumName property.name
  let variants := naming.planVariants datatype property.enumValues
  ⟨⟨named.name, variants.value⟩, named.notes ++ variants.notes⟩

/-- The constant of an enum for a raw default: that of the first variant with the same literal. -/
def constantFor? (plan : EnumPlan) (raw datatype : String) : Option String :=
  (plan.variants.find? fun variant => variant.value = literalText raw datatype).map
    fun variant => defaultConstant variant.name plan.name

/-- The field for a property. -/
def planField (naming : Naming) (property : Property) : Noted FieldPlan :=
  let named := naming.fieldName property.name
  let baseType := RustType.render naming property.schema.base
  let enumPlan := if property.isEnum then some (naming.planEnum property baseType) else none
  let defaultValue := property.defaultValue.map fun raw =>
    (enumPlan.bind fun plan => constantFor? plan.value raw baseType).getD raw
  { value :=
      { name := property.name
        varName := named.name
        dataType := RustType.render naming property.schema
        baseType
        required := property.required
        isContainer := property.schema.isContainer
        needsImport := RustType.needsImport baseType
        defaultValue
        description := property.description.map Literal.escape
        enumPlan := enumPlan.map Noted.value }
    notes := named.notes ++ unmappedNotes property.schema ++ enumPlan.elim [] Noted.notes }

/-- The warning that two properties share a field. -/
def clashNote (first second field : String) : Diagnostic :=
  .warning planningPhase s!"'{first}' and '{second}' both map to field {field}"

/-- The fields for properties, in their order. `seen` lists the fields that are taken, each with the
property that took it first; a further property for such a field is warned about. Every note is
placed at the property. -/
def planFields (naming : Naming) (model : String) (seen : List (String × String)) :
    List Property → List (Noted FieldPlan)
  | [] => []
  | property :: rest =>
    let field := naming.planField property
    let place := s!"models.{model}.{property.name}"
    match seen.lookup field.value.varName with
    | some first =>
      let notes := field.notes ++ [clashNote first property.name field.value.varName]
      ⟨field.value, notes.map (Diagnostic.locate place)⟩ :: planFields naming model seen rest
    | none =>
      ⟨field.value, field.notes.map (Diagnostic.locate place)⟩ ::
        planFields naming model ((field.value.varName, property.name) :: seen) rest

/-- The types that fields have to import, in order of first use. -/
def fieldImports (fields : List FieldPlan) : List String :=
  firstOccurrences ((fields.filter FieldPlan.needsImport).map FieldPlan.baseType)

/-- The plan for a model. -/
def planModel (naming : Naming) (layout : Output.Layout) (model : Model) : ModelPlan :=
  let named := naming.modelName model.name
  let stem := (naming.modelStem model.name).name
  let docStem := (naming.modelDocStem model.name).name
  let planned := naming.planFields model.name [] model.properties
  let fields := planned.map Noted.value
  { name := model.name
    className := named.name
    stem, docStem
    path := layout.modelFile stem
    docPath := layout.modelDocFile docStem
    description := model.description.map Literal.escape
    fields
    imports := fieldImports fields
    diagnostics := named.notes.map (Diagnostic.locate s!"models.{model.name}") ++
      planned.flatMap Noted.notes }

/-- The plans for models, in document order. -/
def planModels (naming : Naming) (layout : Output.Layout) (models : List Model) :
    List ModelPlan :=
  models.map (naming.planModel layout)

end Naming

end CratePlan
