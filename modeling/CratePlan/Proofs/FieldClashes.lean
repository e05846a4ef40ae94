import CratePlan.Proofs.Attribution

/-! Fields that properties of a model share. The properties are gone through in their order with a
list of the fields that are taken and of who took them first. Nothing but a field that is taken
already makes planning warn on its own account, so its warnings can be told from those of naming, and
they are exact: one for each property whose field an earlier one has, naming the first that has it. -/

namespace CratePlan

/-- Whether a diagnostic is a warning that planning raises itself. -/
def Diagnostic.isClash (d : Diagnostic) : Bool :=
  d.severity = .warning && d.phase = planningPhase

/-- A diagnostic that says, of whatever place, that two properties share a field. -/
def Diagnostic.SaysClash (d : Diagnostic) : Prop :=
  ∃ first second field, d = { Naming.clashWarning first second field with location := d.location }

/-- The warnings among diagnostics that planning raises itself. -/
def clashes (ds : List Diagnostic) : List Diagnostic :=
  ds.filter Diagnostic.isClash

theorem clashes_append (first second : List Diagnostic) :
    clashes (first ++ second) = clashes first ++ clashes second :=
  List.filter_append ..

theorem clashes_placed (raised : Raised) :
    clashes raised.placed = (Raised.placed ⟨raised.place, clashes raised.notes⟩) :=
  List.filter_map

theorem AllOfNaming.clashes_eq_nil {ds : List Diagnostic} (h : AllOfNaming ds) :
    clashes ds = [] := by
  refine List.filter_eq_nil_iff.mpr fun d hd => ?_
  have hphase : namingPhase ≠ planningPhase := by decide
  rw [Diagnostic.isClash, (h d hd).phase, decide_eq_false hphase, Bool.and_false]
  exact Bool.false_ne_true

namespace Naming

variable (naming : Naming)

theorem clashes_unmappedNotes (schema : Schema) : clashes (unmappedNotes schema) = [] := by
  unfold unmappedNotes
  split <;> rfl

theorem clashes_propertyNotes (property : Property) :
    clashes (naming.propertyNotes property) = [] := by
  rw [propertyNotes, clashes_append, clashes_append, clashes_unmappedNotes,
    (naming.allOfNaming_fieldName property.name).clashes_eq_nil,
    (naming.allOfNaming_enumNotes property).clashes_eq_nil]
  rfl

theorem clashes_clashNotes (earlier : List Property) (property : Property) :
    clashes (naming.clashNotes earlier property) = naming.clashNotes earlier property := by
  refine List.filter_eq_self.mpr fun d hd => ?_
  obtain ⟨first, rfl⟩ := naming.exists_of_mem_clashNotes hd
  rfl

/-- The warning that a property has the field of an earlier one, at the property. -/
def clashAt (model : String) (property first : Property) : Diagnostic :=
  { clashWarning first.name property.name (naming.fieldName property.name).name with
    location := some ("models." ++ model ++ "." ++ property.name) }

/-- The first of the properties that has the field of a given one. -/
def firstWithField? (properties : List Property) (property : Property) : Option Property :=
  properties.find? fun first =>
    (naming.fieldName first.name).name = (naming.fieldName property.name).name

/-- What the step for a property warns of: nothing, or the first earlier property with its field. -/
theorem clashes_propertyStep (model : String) (earlier : List Property) (property : Property) :
    clashes (Raised.placed ⟨s!"models.{model}.{property.name}",
        naming.propertyNotes property ++ naming.clashNotes earlier property⟩) =
      ((naming.firstWithField? earlier property).map (naming.clashAt model property)).toList := by
  rw [clashes_placed, clashes_append, naming.clashes_propertyNotes, naming.clashes_clashNotes,
    List.nil_append, clashNotes, firstWithField?]
  dsimp only
  split
  · next first hfirst => rw [hfirst]; rfl
  · next hnone => rw [hnone]; rfl

theorem clashes_propertySteps (model : String) (earlier properties : List Property) :
    (naming.propertySteps model earlier properties).map (fun raised => clashes raised.placed) =
      properties.mapIdx fun i property =>
        ((naming.firstWithField? (earlier ++ properties.take i) property).map
          (naming.clashAt model property)).toList := by
  induction properties generalizing earlier with
  | nil => rfl
  | cons property rest ih =>
      rw [propertySteps, List.map_cons, naming.clashes_propertyStep, ih, List.mapIdx_cons]
      simp only [List.take_zero, List.append_nil, List.take_succ_cons, List.append_assoc,
        List.singleton_append]

theorem firstWithField?_concat_eq_none_iff {earlier : List Property} {last property : Property} :
    naming.firstWithField? (earlier ++ [last]) property = none ↔
      naming.firstWithField? earlier property = none ∧
        (naming.fieldName last.name).name ≠ (naming.fieldName property.name).name := by
  rw [firstWithField?, firstWithField?, List.find?_append, Option.or_eq_none_iff,
    List.find?_singleton]
  simp

/-- No step warns of a clash exactly if the fields are different from each other and from the fields
of the properties before them. -/
theorem forall_clashes_eq_nil_iff (model : String) (earlier properties : List Property) :
    (∀ raised ∈ naming.propertySteps model earlier properties, clashes raised.placed = []) ↔
      (properties.map fun p => (naming.fieldName p.name).name).Nodup ∧
        ∀ property ∈ properties, naming.firstWithField? earlier property = none := by
  induction properties generalizing earlier with
  | nil => simp [propertySteps]
  | cons property rest ih =>
      have hown : clashes (Raised.placed ⟨s!"models.{model}.{property.name}",
          naming.propertyNotes property ++ naming.clashNotes earlier property⟩) = [] ↔
            naming.firstWithField? earlier property = none := by
        rw [naming.clashes_propertyStep, Option.toList_eq_nil_iff, Option.map_eq_none_iff]
      rw [propertySteps, List.forall_mem_cons, hown, ih, List.map_cons, List.nodup_cons,
        List.forall_mem_cons]
      simp only [naming.firstWithField?_concat_eq_none_iff, List.mem_map, not_exists, not_and,
        forall_and]
      constructor
      · rintro ⟨hfirst, hrest, hearlier, hne⟩
        exact ⟨⟨fun q hq heq => hne q hq heq.symm, hrest⟩, hfirst, hearlier⟩
      · rintro ⟨⟨hne, hrest⟩, hfirst, hearlier⟩
        exact ⟨hfirst, hrest, hearlier, fun q hq heq => hne q hq heq.symm⟩

/-! ### The clashes of a model -/

theorem map_clashes_planFields (model : Model) :
    (naming.planFields model.name [] model.properties).map (fun noted => clashes noted.notes) =
      (naming.propertySteps model.name [] model.properties).map fun raised =>
        clashes raised.placed := by
  have hseen : naming.Takes [] [] := fun _ => rfl
  have hnotes := naming.map_notes_planFields hseen model.name model.properties
  have hclashes := congrArg (List.map clashes) hnotes
  rwa [List.map_map, List.map_map] at hclashes

/-- The name of the model itself has no part in them. -/
theorem clashes_planModel (layout : Output.Layout) (model : Model) :
    clashes (naming.planModel layout model).diagnostics =
      ((naming.propertySteps model.name [] model.properties).map fun raised =>
        clashes raised.placed).flatten := by
  have hown : clashes (Raised.placed
      ⟨s!"models.{model.name}", (naming.modelName model.name).notes⟩) = [] := by
    rw [clashes_placed, (naming.allOfNaming_modelName model.name).clashes_eq_nil]
    rfl
  rw [naming.diagnostics_planModel, modelSteps, Raised.allPlaced_cons, clashes_append, hown,
    List.nil_append, Raised.allPlaced, clashes, List.filter_flatMap, List.flatMap_def]
  rfl

theorem isClash_iff_saysClash {layout : Output.Layout} {model : Model} {d : Diagnostic}
    (hd : d ∈ (naming.planModel layout model).diagnostics) : d.isClash = true ↔ d.SaysClash := by
  constructor
  · intro hclash
    have hmem : d ∈ clashes (naming.planModel layout model).diagnostics :=
      List.mem_filter.mpr ⟨hd, hclash⟩
    rw [naming.clashes_planModel, naming.clashes_propertySteps] at hmem
    obtain ⟨_, hraised, hmem⟩ := List.mem_flatten.mp hmem
    obtain ⟨i, hi, rfl⟩ := List.mem_mapIdx.mp hraised
    obtain ⟨first, _, rfl⟩ := Option.map_eq_some_iff.mp (Option.mem_toList.mp hmem)
    exact ⟨first.name, _, _, rfl⟩
  · rintro ⟨first, second, field, hd⟩
    rw [hd]
    rfl

theorem varNames_planModel (layout : Output.Layout) (model : Model) :
    (naming.planModel layout model).fields.map FieldPlan.varName =
      model.properties.map fun property => (naming.fieldName property.name).name := by
  rw [naming.fields_planModel, List.map_map]
  rfl

theorem nodup_varNames_iff (layout : Output.Layout) (model : Model) :
    ((naming.planModel layout model).fields.map FieldPlan.varName).Nodup ↔
      ∀ d ∈ (naming.planModel layout model).diagnostics, ¬d.SaysClash :=
  calc ((naming.planModel layout model).fields.map FieldPlan.varName).Nodup
      ↔ ∀ raised ∈ naming.propertySteps model.name [] model.properties,
          clashes raised.placed = [] := by
        rw [naming.varNames_planModel, naming.forall_clashes_eq_nil_iff]
        exact (and_iff_left fun _ _ => rfl).symm
    _ ↔ clashes (naming.planModel layout model).diagnostics = [] := by
        rw [naming.clashes_planModel, List.flatten_eq_nil_iff, List.forall_mem_map]
    _ ↔ ∀ d ∈ (naming.planModel layout model).diagnostics, ¬d.SaysClash := by
        rw [clashes, List.filter_eq_nil_iff]
        exact forall₂_congr fun d hd => not_congr (naming.isClash_iff_saysClash hd)

end Naming

/-- A model reports shared fields exactly. Its fields are called after its properties, one each. Of
what is noted on the field at position `i`, the warning of a clash is there if one of the properties
before it has the same field; it is there once, and names the first of these. The clashes of the model
are those of its fields in their order and are told apart by their text, and its fields have different
names exactly if there are none. -/
theorem field_clashes_are_reported (naming : Naming) (layout : Output.Layout) (model : Model) :
    let plan := naming.planModel layout model
    let planned := naming.planFields model.name [] model.properties
    plan.fields = planned.map Noted.value ∧
      plan.fields.map FieldPlan.varName =
        model.properties.map (fun property => (naming.fieldName property.name).name) ∧
      planned.map (fun noted => clashes noted.notes) =
        model.properties.mapIdx (fun i property =>
          ((naming.firstWithField? (model.properties.take i) property).map
            (naming.clashAt model.name property)).toList) ∧
      clashes plan.diagnostics = (planned.map fun noted => clashes noted.notes).flatten ∧
      (∀ d ∈ plan.diagnostics, d.isClash = true ↔ d.SaysClash) ∧
      ((plan.fields.map FieldPlan.varName).Nodup ↔ ∀ d ∈ plan.diagnostics, ¬d.SaysClash) := by
  intro plan planned
  have hplanned := naming.map_clashes_planFields model
  refine ⟨rfl, naming.varNames_planModel layout model, ?each, ?all,
    fun d hd => naming.isClash_iff_saysClash hd, naming.nodup_varNames_iff layout model⟩
  case each => rw [hplanned, naming.clashes_propertySteps]; rfl
  case all => rw [hplanned, naming.clashes_planModel]

/-- Of three properties with one field, the second and the third are each reported, once and together
with the first. -/
theorem field_clashes_are_reported_of_three :
    let naming := ({} : Settings).naming
    let pet : Model :=
      { name := "Pet"
        properties := [{ name := "a-b", schema := .primitive "string" },
          { name := "a_b", schema := .primitive "string" },
          { name := "aB", schema := .primitive "string" }] }
    let plan := naming.planModel ⟨"out"⟩ pet
    let clash : Diagnostic :=
      ⟨.warning, "transform", "'a-b' and 'aB' both map to field a_b", some "models.Pet.aB"⟩
    (naming.planFields "Pet" [] pet.properties).map (fun noted => clashes noted.notes) =
        [[], [⟨.warning, "transform", "'a-b' and 'a_b' both map to field a_b",
          some "models.Pet.a_b"⟩], [clash]] ∧
      clash ∈ plan.diagnostics ∧ clash.SaysClash ∧
      ¬(plan.fields.map FieldPlan.varName).Nodup := by
  intro naming pet plan clash
  obtain ⟨_, _, hplanned, hall, hsaid, hdistinct⟩ := field_clashes_are_reported naming ⟨"out"⟩ pet
  have hmem : clash ∈ clashes plan.diagnostics := by
    rw [hall, hplanned]
    decide +kernel
  have hclash := (List.mem_filter.mp hmem).1
  have hsays : clash.SaysClash := (hsaid clash hclash).mp rfl
  refine ⟨?_, hclash, hsays, fun hnodup => hdistinct.mp hnodup clash hclash hsays⟩
  rw [hplanned]
  decide +kernel

end CratePlan
