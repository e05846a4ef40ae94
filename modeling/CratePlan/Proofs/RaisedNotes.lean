import CratePlan.Plan.Operation
import Mathlib.Tactic.SplitIfs

/-! What naming and planning note. Every step that notes something raises a warning or a remark, never
an error, and leaves it to its caller to say which place in the document it speaks of; what naming
notes is marked as such by its phase. Each function is looked at once, and all that is said about the
diagnostics of a plan rests on that. -/

namespace CratePlan

/-- A diagnostic as a step raises it: without a place yet, and no error. -/
structure Diagnostic.IsFresh (d : Diagnostic) : Prop where
  unplaced : d.location = none
  no_error : d.severity ≠ .error

/-- Diagnostics as steps raise them. -/
def AllFresh (ds : List Diagnostic) : Prop :=
  ∀ d ∈ ds, d.IsFresh

theorem allFresh_nil : AllFresh [] :=
  fun _ h => absurd h List.not_mem_nil

theorem allFresh_warning (phase message : String) : AllFresh [.warning phase message] :=
  List.forall_mem_singleton.mpr ⟨rfl, fun h => Severity.noConfusion h⟩

theorem allFresh_info (phase message : String) : AllFresh [.info phase message] :=
  List.forall_mem_singleton.mpr ⟨rfl, fun h => Severity.noConfusion h⟩

theorem AllFresh.append {first second : List Diagnostic} (hfirst : AllFresh first)
    (hsecond : AllFresh second) : AllFresh (first ++ second) :=
  List.forall_mem_append.mpr ⟨hfirst, hsecond⟩

/-- A warning is among diagnostics. -/
def HasWarning (ds : List Diagnostic) : Prop :=
  ∃ d ∈ ds, d.severity = .warning

theorem not_hasWarning_nil : ¬HasWarning [] :=
  fun ⟨_, hd, _⟩ => absurd hd List.not_mem_nil

theorem hasWarning_warning (phase message : String) : HasWarning [.warning phase message] :=
  ⟨_, List.mem_cons_self, rfl⟩

theorem not_hasWarning_info (phase message : String) : ¬HasWarning [.info phase message] := by
  rintro ⟨d, hd, hwarning⟩
  rw [List.mem_singleton.mp hd] at hwarning
  cases hwarning

theorem hasWarning_append_iff {first second : List Diagnostic} :
    HasWarning (first ++ second) ↔ HasWarning first ∨ HasWarning second := by
  simp only [HasWarning, List.mem_append, or_and_right, exists_or]

/-- A change to diagnostics that spares how severe they are makes and hides no warning. -/
theorem hasWarning_map_iff {f : Diagnostic → Diagnostic} (hf : ∀ d, (f d).severity = d.severity)
    {ds : List Diagnostic} : HasWarning (ds.map f) ↔ HasWarning ds := by
  constructor
  · rintro ⟨_, hd, hwarning⟩
    obtain ⟨source, hsource, rfl⟩ := List.mem_map.mp hd
    exact ⟨source, hsource, (hf source).symm.trans hwarning⟩
  · rintro ⟨source, hsource, hwarning⟩
    exact ⟨_, List.mem_map_of_mem hsource, (hf source).trans hwarning⟩

theorem hasWarning_map_locate_iff {place : String} {ds : List Diagnostic} :
    HasWarning (ds.map (Diagnostic.locate place)) ↔ HasWarning ds :=
  hasWarning_map_iff (f := Diagnostic.locate place) fun _ => rfl

theorem hasWarning_flatMap_iff {α : Type} {items : List α} {notes : α → List Diagnostic} :
    HasWarning (items.flatMap notes) ↔ ∃ item ∈ items, HasWarning (notes item) := by
  constructor
  · rintro ⟨d, hd, hwarning⟩
    obtain ⟨item, hitem, hd⟩ := List.mem_flatMap.mp hd
    exact ⟨item, hitem, d, hd, hwarning⟩
  · rintro ⟨item, hitem, d, hd, hwarning⟩
    exact ⟨d, List.mem_flatMap.mpr ⟨item, hitem, hd⟩, hwarning⟩

/-- A diagnostic as naming raises it: one of the phase of naming. -/
structure Diagnostic.IsOfNaming (d : Diagnostic) : Prop extends d.IsFresh where
  phase : d.phase = namingPhase

/-- Diagnostics as naming raises them. -/
def AllOfNaming (ds : List Diagnostic) : Prop :=
  ∀ d ∈ ds, d.IsOfNaming

namespace AllOfNaming

theorem allFresh {ds : List Diagnostic} (h : AllOfNaming ds) : AllFresh ds :=
  fun d hd => (h d hd).toIsFresh

theorem nil : AllOfNaming [] :=
  fun _ h => absurd h List.not_mem_nil

theorem warning (message : String) : AllOfNaming [.warning namingPhase message] :=
  List.forall_mem_singleton.mpr ⟨allFresh_warning _ _ _ List.mem_cons_self, rfl⟩

theorem info (message : String) : AllOfNaming [.info namingPhase message] :=
  List.forall_mem_singleton.mpr ⟨allFresh_info _ _ _ List.mem_cons_self, rfl⟩

theorem append {first second : List Diagnostic} (hfirst : AllOfNaming first)
    (hsecond : AllOfNaming second) : AllOfNaming (first ++ second) :=
  List.forall_mem_append.mpr ⟨hfirst, hsecond⟩

theorem of_ite {p : Prop} [Decidable p] {first second : Named} (hfirst : AllOfNaming first.notes)
    (hsecond : AllOfNaming second.notes) : AllOfNaming (if p then first else second).notes := by
  split_ifs
  · exact hfirst
  · exact hsecond

theorem map {x : Named} (h : AllOfNaming x.notes) (respell : String → String) :
    AllOfNaming (x.map respell).notes :=
  h

theorem andThen {x : Named} {next : String → Named} (hx : AllOfNaming x.notes)
    (hnext : ∀ name, AllOfNaming (next name).notes) : AllOfNaming (x.andThen next).notes :=
  hx.append (hnext x.name)

end AllOfNaming

namespace Naming

open Identifier

variable (naming : Naming)

/-! ### Names -/

theorem allOfNaming_escapeReserved (name : String) :
    AllOfNaming (naming.escapeReserved name).notes := by
  unfold escapeReserved
  exact .of_ite (.info _) .nil

theorem allOfNaming_fieldName (raw : String) : AllOfNaming (naming.fieldName raw).notes := by
  unfold fieldName
  refine .of_ite (.warning _) (.of_ite .nil (.andThen ?escaped fun name => ?digit))
  case escaped => exact naming.allOfNaming_escapeReserved _
  case digit => exact .of_ite (.info _) .nil

theorem allOfNaming_modelStem (raw : String) : AllOfNaming (naming.modelStem raw).notes := by
  unfold modelStem
  refine .map (.andThen (.andThen ?start fun name => ?reserved) fun name => ?digit) snakeCase
  case start => exact .of_ite (.warning _) .nil
  case reserved =>
    unfold avoidReservedModel
    exact .of_ite (.warning _) .nil
  case digit =>
    unfold avoidDigitModel
    exact .of_ite (.warning _) .nil

theorem allOfNaming_modelName (raw : String) : AllOfNaming (naming.modelName raw).notes := by
  unfold modelName
  exact (naming.allOfNaming_modelStem raw).map pascalCase

theorem allOfNaming_methodName (raw : String) : AllOfNaming (naming.methodName raw).notes := by
  unfold methodName
  refine .of_ite (.warning _) (.map (.andThen ?reserved fun name => ?digit) snakeCase)
  case reserved =>
    unfold avoidReservedMethod
    exact .of_ite (.warning _) .nil
  case digit =>
    unfold avoidDigitMethod
    exact .of_ite (.warning _) .nil

theorem allOfNaming_enumName (property : String) :
    AllOfNaming (naming.enumName property).notes := by
  unfold enumName
  exact (naming.allOfNaming_modelName property).map _

theorem allOfNaming_variantName (value datatype : String) :
    AllOfNaming (naming.variantName value datatype).notes := by
  unfold variantName
  refine .of_ite .nil (.of_ite .nil ?_)
  split
  · exact .nil
  · exact .of_ite (.warning _) (.of_ite (.info _) .nil)

/-- The names that naming makes of a raw text, which may be a literal of a datatype. -/
def conversions (raw datatype : String) : List Named :=
  [naming.fieldName raw, naming.parameterName raw, naming.modelStem raw, naming.modelName raw,
    naming.modelDocStem raw, naming.methodName raw, naming.enumName raw,
    naming.variantName raw datatype]

theorem allOfNaming_conversions (raw datatype : String) :
    ∀ named ∈ naming.conversions raw datatype, AllOfNaming named.notes := by
  simp only [conversions, List.forall_mem_cons]
  exact ⟨naming.allOfNaming_fieldName raw, naming.allOfNaming_fieldName raw,
    naming.allOfNaming_modelStem raw, naming.allOfNaming_modelName raw,
    naming.allOfNaming_modelName raw, naming.allOfNaming_methodName raw,
    naming.allOfNaming_enumName raw, naming.allOfNaming_variantName raw datatype,
    fun _ h => absurd h List.not_mem_nil⟩

theorem allFresh_conversions (raw datatype : String) :
    ∀ named ∈ naming.conversions raw datatype, AllFresh named.notes :=
  fun named hnamed => (naming.allOfNaming_conversions raw datatype named hnamed).allFresh

theorem allFresh_modelName (raw : String) : AllFresh (naming.modelName raw).notes :=
  (naming.allOfNaming_modelName raw).allFresh

theorem allFresh_methodName (raw : String) : AllFresh (naming.methodName raw).notes :=
  (naming.allOfNaming_methodName raw).allFresh

/-! ### Records -/

theorem allFresh_unmappedNotes (schema : Schema) : AllFresh (unmappedNotes schema) := by
  unfold unmappedNotes
  split
  · exact allFresh_info _ _
  · exact allFresh_nil

/-- The notes on the enum of a property: those on its name and, literal for literal, those on its
variants. A property that is not restricted to literals has no enum. -/
def enumNotes (property : Property) : List Diagnostic :=
  if property.isEnum then
    (naming.enumName property.name).notes ++ property.enumValues.flatMap fun literal =>
      (naming.variantName literal (RustType.render naming property.schema.base)).notes
  else []

/-- The notes on a property: those on its field, on its type and on its enum. -/
def propertyNotes (property : Property) : List Diagnostic :=
  (naming.fieldName property.name).notes ++ unmappedNotes property.schema ++
    naming.enumNotes property

/-- The notes on a parameter: those on its type and on its name, which is made like that of a field. -/
def parameterNotes (parameter : Parameter) : List Diagnostic :=
  unmappedNotes parameter.schema ++ (naming.fieldName parameter.name).notes

theorem notes_planVariants (datatype : String) (literals : List String) :
    (naming.planVariants datatype literals).notes =
      literals.flatMap fun literal => (naming.variantName literal datatype).notes := by
  induction literals with
  | nil => rfl
  | cons literal rest ih => rw [List.flatMap_cons, ← ih, planVariants]

theorem notes_planField (property : Property) :
    (naming.planField property).notes = naming.propertyNotes property := by
  rw [propertyNotes, enumNotes, planField]
  dsimp only
  split_ifs
  · rw [Option.elim_some, planEnum, notes_planVariants]
  · rfl

theorem notes_planParameter (parameter : Parameter) :
    (naming.planParameter parameter).notes = naming.parameterNotes parameter :=
  rfl

theorem allOfNaming_enumNotes (property : Property) : AllOfNaming (naming.enumNotes property) := by
  unfold enumNotes
  split_ifs
  · refine (naming.allOfNaming_enumName property.name).append fun d hd => ?_
    obtain ⟨literal, _, hd⟩ := List.mem_flatMap.mp hd
    exact naming.allOfNaming_variantName literal _ d hd
  · exact .nil

theorem allFresh_propertyNotes (property : Property) : AllFresh (naming.propertyNotes property) :=
  ((naming.allOfNaming_fieldName property.name).allFresh.append
    (allFresh_unmappedNotes property.schema)).append (naming.allOfNaming_enumNotes property).allFresh

theorem allFresh_parameterNotes (parameter : Parameter) :
    AllFresh (naming.parameterNotes parameter) :=
  (allFresh_unmappedNotes parameter.schema).append
    (naming.allOfNaming_fieldName parameter.name).allFresh

theorem allFresh_methodNotes (label : String) : AllFresh (methodNotes label) := by
  unfold methodNotes
  split_ifs
  · exact allFresh_warning _ _
  · exact allFresh_nil

end Naming

end CratePlan
