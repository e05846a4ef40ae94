import CratePlan.Proofs.DocumentFormat
import CratePlan.Proofs.JsonRoundTrip
import CratePlan.Proofs.SchemaReading

/-! Reading a document undoes writing it. The law holds for every kind of value that a field can have,
and a record has it as soon as all its fields do. -/

namespace CratePlan

open Json

variable {α σ : Type}

/-- Whether what is written for a value is JSON, and is read as that value within every limit of depth
that it keeps to. -/
structure RoundTrips (read : Nat → Json → Reading α) (write : α → Json) : Prop where
  isProper : ∀ x, (write x).isProper = true
  read_write : ∀ {room x}, (write x).depth ≤ room → read room (write x) = .ok x

/-! ### Fields -/

theorem roundTrips_text : RoundTrips (fun _ => readText) .string :=
  ⟨fun _ => by simp [isProper], fun _ => rfl⟩

theorem roundTrips_bool : RoundTrips (fun _ => readBool) .bool :=
  ⟨fun _ => by simp [isProper], fun _ => rfl⟩

theorem Place.roundTrips : RoundTrips Place.read fun place => .string place.name :=
  ⟨fun _ => by simp [isProper], fun {_ place} _ => by cases place <;> rfl⟩

theorem RoundTrips.option {read : Nat → Json → Reading α} {write : α → Json}
    (h : RoundTrips read write) (hnull : ∀ x, write x ≠ .null) :
    RoundTrips (fun room => readOption (read room)) fun found => found.elim .null write where
  isProper
    | none => by simp [Json.isProper]
    | some x => h.isProper x
  read_write {room found} hdepth := by
    cases found with
    | none => rfl
    | some x =>
        rw [Option.elim_some, readOption_of_ne_null (hnull x), h.read_write hdepth]
        rfl

theorem RoundTrips.list {read : Nat → Json → Reading α} {write : α → Json}
    (h : RoundTrips read write) :
    RoundTrips (readList read) fun xs => .list (xs.map write) where
  isProper xs := by
    rw [Json.isProper, allProper_eq_true_iff, List.forall_mem_map]
    exact fun x _ => h.isProper x
  read_write {room xs} hdepth := by
    cases room with
    | zero => simp [depth] at hdepth
    | succ room =>
        rw [depth, Nat.add_le_add_iff_right, itemsDepth_le_iff, List.forall_mem_map] at hdepth
        rw [readList, opening, readItems_eq_ok_iff, List.forall₂_map_left_iff, List.forall₂_same]
        exact fun x hx => h.read_write (hdepth x hx)

/-! ### Records -/

theorem valuesOf_ofFields {fields : List (String × Json)} (hnodup : (fields.map Prod.fst).Nodup)
    {name : String} {value : Json} (hmem : (name, value) ∈ fields) :
    valuesOf name (fields.map fun field => (.text field.1, field.2)) = [value] := by
  induction fields with
  | nil => cases hmem
  | cons field rest ih =>
      rw [List.map_cons, List.nodup_cons] at hnodup
      rw [List.map_cons]
      rcases List.mem_cons.mp hmem with rfl | hrest
      · have hnone : valuesOf name (rest.map fun field => (.text field.1, field.2)) = [] := by
          rw [List.eq_nil_iff_forall_not_mem]
          intro found hfound
          obtain ⟨field, hfield, heq⟩ := List.mem_map.mp (mem_valuesOf.mp hfound)
          cases heq
          exact hnodup.1 (List.mem_map.mpr ⟨field, hfield, rfl⟩)
        rw [valuesOf_cons_self, hnone]
      · have hne : field.1 ≠ name := by
          rintro rfl
          exact hnodup.1 (List.mem_map.mpr ⟨_, hrest, rfl⟩)
        rw [valuesOf_cons_of_ne hne, ih hnodup.2 hrest]

theorem given_ofFields {fields : List (String × Json)} (hnodup : (fields.map Prod.fst).Nodup)
    {name : String} {value : Json} (hmem : (name, value) ∈ fields) (names : List String) :
    (ofFields fields).given names name = [value] :=
  valuesOf_ofFields hnodup hmem

theorem fits_ofFields {fields : List (String × Json)} {names : List String}
    (h : ∀ field ∈ fields, field.1 ∈ names) (passable : Json → Bool) :
    (ofFields fields).Fits names passable := by
  intro member hmember
  obtain ⟨field, hfield, rfl⟩ := List.mem_map.mp hmember
  exact ⟨field.1, rfl, fun hunknown => absurd (h field hfield) hunknown⟩

theorem depth_ofFields_le_iff {fields : List (String × Json)} {room : Nat} :
    (ofFields fields).depth ≤ room ↔
      ∃ less, room = less + 1 ∧ ∀ field ∈ fields, field.2.depth ≤ less := by
  rw [ofFields, depth]
  cases room with
  | zero => simp
  | succ room =>
      rw [Nat.add_le_add_iff_right, membersDepth_le_iff, List.forall_mem_map]
      simp

theorem RecordFormat.roundTrips (format : RecordFormat σ α)
    (h : ∀ slot ∈ format.slots, RoundTrips slot.read slot.write) :
    RoundTrips format.read format.write where
  isProper x := by
    rw [format.write_eq]
    apply isProper_ofFields
    rw [List.forall_mem_map]
    exact fun slot hslot => (h slot hslot).isProper (slot.value x)
  read_write {room x} hdepth := by
    have hnodup := format.record.nodup_names
    rw [names_eq] at hnodup
    rw [format.write_eq, depth_ofFields_le_iff] at hdepth
    obtain ⟨room, rfl, hdepth⟩ := hdepth
    rw [List.forall_mem_map] at hdepth
    rw [format.write_eq, read_succ_eq_ok_iff]
    constructor
    · apply fits_ofFields
      rw [List.forall_mem_map]
      exact fun slot hslot => name_mem hslot
    · intro slot hslot
      have hmem : (slot.field.name, slot.write (slot.value x)) ∈
          format.slots.map fun slot => (slot.field.name, slot.write (slot.value x)) :=
        List.mem_map_of_mem hslot
      rw [given_ofFields (by rwa [List.map_map]) hmem, slotReads_singleton_iff]
      exact (h slot hslot).read_write (hdepth slot hslot)

/-! ### Types -/

namespace Schema

/-- What is written for the field of a type that is not its kind. -/
def fieldJson : Schema → Json
  | .primitive tag => .string tag
  | .array items => items.toJson
  | .map values => values.toJson
  | .model name => .string name

theorem toJson_eq (schema : Schema) :
    schema.toJson =
      .ofFields [("kind", .string schema.kind.name), (schema.kind.field.name, schema.fieldJson)] := by
  cases schema <;> rfl

theorem toJson_ne_null (schema : Schema) : schema.toJson ≠ .null := by
  simp [toJson_eq, ofFields]

theorem isProper_toJson (schema : Schema) : schema.toJson.isProper = true := by
  induction schema with
  | primitive _ | model _ => simp [toJson, ofFields, isProper, allMembersProper]
  | array _ ih | map _ ih => simp [toJson, ofFields, isProper, allMembersProper, ih]

theorem Kind.read_name (inner : Bool) (kind : Kind) :
    Kind.read inner (.string kind.name) = .ok kind := by
  cases kind <;> rfl

/-- A written type is read back as soon as its field is. -/
theorem read_succ_toJson {room : Nat} (inner : Bool) {schema : Schema}
    (h : schema.FieldReads (Schema.read room true) [schema.fieldJson]) :
    Schema.read (room + 1) inner schema.toJson = .ok schema := by
  have hnodup : ([("kind", Json.string schema.kind.name),
      (schema.kind.field.name, schema.fieldJson)].map Prod.fst).Nodup :=
    (Record.variant schema.kind).nodup_names
  rw [toJson_eq, read_succ_eq_ok_iff]
  refine ⟨fits_ofFields (by simp [Record.names, Record.fields]) _, ?_, ?_⟩
  · rw [given_ofFields hnodup List.mem_cons_self, slotReads_singleton_iff]
    exact Kind.read_name inner schema.kind
  · rw [given_ofFields hnodup (List.mem_cons_of_mem _ List.mem_cons_self)]
    exact h

theorem read_toJson {inner : Bool} {room : Nat} {schema : Schema}
    (hdepth : schema.toJson.depth ≤ room) : Schema.read room inner schema.toJson = .ok schema := by
  induction schema generalizing inner room with
  | primitive tag | model tag =>
      obtain ⟨room, rfl, _⟩ := depth_ofFields_le_iff.mp hdepth
      exact read_succ_toJson inner (slotReads_singleton_iff.mpr rfl)
  | array items ih | map items ih =>
      obtain ⟨room, rfl, hfields⟩ := depth_ofFields_le_iff.mp hdepth
      have hitems := hfields _ (List.mem_cons_of_mem _ List.mem_cons_self)
      exact read_succ_toJson inner (slotReads_singleton_iff.mpr (ih hitems))

theorem roundTrips (inner : Bool) :
    RoundTrips (fun room => Schema.read room inner) Schema.toJson :=
  ⟨isProper_toJson, read_toJson⟩

end Schema

/-! ### Documents -/

theorem Property.roundTrips : RoundTrips Property.read Property.toJson := by
  apply format.roundTrips
  simp only [format, slots, List.forall_mem_cons]
  exact ⟨roundTrips_text, Schema.roundTrips false, roundTrips_bool, roundTrips_bool,
    roundTrips_text.list, roundTrips_text.option (by simp), roundTrips_text.option (by simp),
    List.forall_mem_nil _⟩

theorem Model.roundTrips : RoundTrips Model.read Model.toJson := by
  apply format.roundTrips
  simp only [format, slots, List.forall_mem_cons]
  exact ⟨roundTrips_text, roundTrips_text.option (by simp), Property.roundTrips.list,
    List.forall_mem_nil _⟩

theorem Parameter.roundTrips : RoundTrips Parameter.read Parameter.toJson := by
  apply format.roundTrips
  simp only [format, slots, List.forall_mem_cons]
  exact ⟨roundTrips_text, Schema.roundTrips false, Place.roundTrips, roundTrips_bool,
    List.forall_mem_nil _⟩

theorem Operation.roundTrips : RoundTrips Operation.read Operation.toJson := by
  apply format.roundTrips
  simp only [format, slots, List.forall_mem_cons]
  exact ⟨roundTrips_text, roundTrips_text, roundTrips_text, roundTrips_text.option (by simp),
    Parameter.roundTrips.list, (Schema.roundTrips false).option Schema.toJson_ne_null,
    List.forall_mem_nil _⟩

theorem Document.roundTrips : RoundTrips Document.read Document.toJson := by
  apply format.roundTrips
  simp only [format, slots, List.forall_mem_cons]
  exact ⟨Model.roundTrips.list, Operation.roundTrips.list, List.forall_mem_nil _⟩

/-- A document whose JSON keeps to the limit of depth is read back from the text that is written for
it. -/
theorem Document.ofText_toText {document : Document} (h : document.toJson.depth ≤ depthLimit) :
    Document.ofText document.toText = .ok document := by
  have hscan : scan document.toText = (document.toJson, true) :=
    scan_compact (Document.roundTrips.isProper document)
  rw [ofText, readFromText, hscan]
  simp only [Document.roundTrips.read_write h, if_true]
  rfl

theorem Document.ofText_toText_of_nestedTypes :
    let document : Document :=
      { models := [
          { name := "Straße \x07 \"x\"",
            properties := [
              { name := "näme\n", schema := .map (.array (.model "Straße")), isEnum := true,
                enumValues := ["", "\t"], defaultValue := some "null" },
              { name := "id", schema := .primitive "integer", required := true,
                description := some "" }] }],
        operations := [
          { id := "list pets", method := "get", path := "/pets/\x7bid\x7d",
            parameters := [{ name := "id", schema := .primitive "integer", place := .path }],
            result := some (.array (.model "Straße")) }] }
    document.toJson.depth ≤ depthLimit ∧ Document.ofText document.toText = .ok document := by
  intro document
  have hdepth : document.toJson.depth ≤ depthLimit := by decide
  exact ⟨hdepth, Document.ofText_toText hdepth⟩

end CratePlan
