import CratePlan.Document.Schema
import CratePlan.Proofs.RecordSlots

/-! The records of a document, each described by its table of fields. What holds of reading a record
is proved once for all records whose reader agrees with their table. -/

namespace CratePlan

open Json

/-! ### Shapes -/

/-- The records of a document. A type of a known kind is a record too. -/
inductive Record where
  | document
  | model
  | property
  | parameter
  | operation
  | variant (kind : Schema.Kind)
deriving Repr, DecidableEq

/-- What stands at a place of a document. -/
inductive Shape where
  /-- A string, a boolean or a name, without records inside. -/
  | leaf
  /-- A type. -/
  | schema
  | record (r : Record)
  | optional (shape : Shape)
  | listOf (shape : Shape)
deriving Repr, DecidableEq

/-- A field of a record: its name and what stands there. -/
structure Field where
  name : String
  shape : Shape
deriving Repr, DecidableEq

/-- The field that a type of a given kind has beside its kind. -/
def Schema.Kind.field : Schema.Kind → Field
  | .primitive => ⟨"name", .leaf⟩
  | .array => ⟨"items", .schema⟩
  | .map => ⟨"values", .schema⟩
  | .model => ⟨"name", .leaf⟩

namespace Record

/-- The fields of a record in the order of their declaration. -/
def fields : Record → List Field
  | document => [⟨"models", .listOf (.record model)⟩, ⟨"operations", .listOf (.record operation)⟩]
  | model => [⟨"name", .leaf⟩, ⟨"description", .optional .leaf⟩,
      ⟨"properties", .listOf (.record property)⟩]
  | property => [⟨"name", .leaf⟩, ⟨"type", .schema⟩, ⟨"required", .leaf⟩, ⟨"is_enum", .leaf⟩,
      ⟨"enum_values", .listOf .leaf⟩, ⟨"default_value", .optional .leaf⟩,
      ⟨"description", .optional .leaf⟩]
  | parameter => [⟨"name", .leaf⟩, ⟨"type", .schema⟩, ⟨"in", .leaf⟩, ⟨"required", .leaf⟩]
  | operation => [⟨"operation_id", .leaf⟩, ⟨"http_method", .leaf⟩, ⟨"path", .leaf⟩,
      ⟨"tag", .optional .leaf⟩, ⟨"parameters", .listOf (.record parameter)⟩,
      ⟨"return_type", .optional .schema⟩]
  | variant kind => [⟨"kind", .leaf⟩, kind.field]

/-- The names of the fields of a record. -/
def names (r : Record) : List String :=
  r.fields.map Field.name

theorem nodup_names (r : Record) : r.names.Nodup := by
  cases r with
  | variant kind => cases kind <;> decide
  | _ => decide

end Record

/-! ### Tables -/

/-- A field of a record that is read into a draft of type `σ` and belongs to a record of type `α`. -/
structure Slot (σ α : Type) where
  field : Field
  {β : Type}
  read : Nat → Json → Reading β
  write : β → Json
  /-- The value that a record has if none is given. -/
  default : Option β
  /-- What a draft has met so far. -/
  met : σ → Option β
  set : σ → Option β → σ
  value : α → β

variable {σ α : Type}

/-- Whether the items of a list are read as the values of fields, one after the other. -/
def ItemsRead (room : Nat) (x : α) : List (Slot σ α) → List Json → Prop
  | [], items => items = []
  | slot :: slots, items =>
      SlotReads slot.default (slot.read room) items.head?.toList (slot.value x) ∧
        ItemsRead room x slots items.tail

/-- A record by the table of its fields, with the functions that read it and what ties them to the
table. -/
structure RecordFormat (σ α : Type) where
  record : Record
  slots : List (Slot σ α)
  expectation : String
  start : σ
  take : Nat → σ → String → Json → Reading σ
  finish : σ → Reading α
  ofItems : Nat → List Json → Reading α
  read : Nat → Json → Reading α
  write : α → Json
  fields_eq : slots.map Slot.field = record.fields
  met_start : ∀ slot ∈ slots, slot.met start = none
  met_set : ∀ slot ∈ slots, ∀ draft found, slot.met (slot.set draft found) = found
  met_set_other : ∀ slot ∈ slots, ∀ other ∈ slots, other.field.name ≠ slot.field.name →
    ∀ draft found, slot.met (other.set draft found) = slot.met draft
  take_known : ∀ slot ∈ slots, ∀ room draft value,
    take room draft slot.field.name value = do
      return slot.set draft (← once slot.field.name (slot.met draft) (slot.read room value))
  take_unknown : ∀ key ∉ record.names, ∀ room draft value,
    take room draft key value = do
      value.skip
      return draft
  finish_eq_ok_iff : ∀ {draft x}, finish draft = .ok x ↔
    ∀ slot ∈ slots, (slot.met draft).or slot.default = some (slot.value x)
  ofItems_eq_ok_iff : ∀ {room items x}, ofItems room items = .ok x ↔ ItemsRead room x slots items
  read_eq : read = readRecord expectation
    (fun room members => do finish (← readMembers (take room) start members)) ofItems
  write_eq : ∀ x, write x =
    .ofFields (slots.map fun slot => (slot.field.name, slot.write (slot.value x)))

namespace RecordFormat

variable (format : RecordFormat σ α)

theorem names_eq : format.record.names = format.slots.map fun slot => slot.field.name := by
  rw [Record.names, ← format.fields_eq, List.map_map]
  rfl

variable {format}

theorem field_mem {slot : Slot σ α} (h : slot ∈ format.slots) :
    slot.field ∈ format.record.fields := by
  rw [← format.fields_eq]
  exact List.mem_map_of_mem h

theorem name_mem {slot : Slot σ α} (h : slot ∈ format.slots) :
    slot.field.name ∈ format.record.names :=
  List.mem_map_of_mem (field_mem h)

theorem exists_slot {name : String} (h : name ∈ format.record.names) :
    ∃ slot ∈ format.slots, slot.field.name = name := by
  rw [names_eq] at h
  exact List.mem_map.mp h

theorem take_known_eq_ok {slot : Slot σ α} (h : slot ∈ format.slots) {room : Nat} {draft draft' : σ}
    {value : Json} :
    format.take room draft slot.field.name value = .ok draft' ↔
      slot.met draft = none ∧
        ∃ x, slot.read room value = .ok x ∧ slot.set draft (some x) = draft' := by
  rw [format.take_known slot h, Reading.bind_eq_ok]
  simp only [once_eq_ok_iff, Reading.pure_eq_ok]
  constructor
  · rintro ⟨_, ⟨hnone, x, hread, rfl⟩, hset⟩
    exact ⟨hnone, x, hread, hset⟩
  · rintro ⟨hnone, x, hread, hset⟩
    exact ⟨_, ⟨hnone, x, hread, rfl⟩, hset⟩

theorem take_unknown_eq_ok {key : String} (h : key ∉ format.record.names) {room : Nat}
    {draft draft' : σ} {value : Json} :
    format.take room draft key value = .ok draft' ↔ value.isWhole = true ∧ draft = draft' := by
  rw [format.take_unknown key h, Reading.bind_eq_ok]
  simp only [skip_eq_ok_iff, Reading.pure_eq_ok, exists_const]

/-- A member leaves all slots of other fields as they are. -/
theorem met_take {slot : Slot σ α} (h : slot ∈ format.slots) {key : String}
    (hne : key ≠ slot.field.name) {room : Nat} {draft draft' : σ} {value : Json}
    (htake : format.take room draft key value = .ok draft') : slot.met draft' = slot.met draft := by
  by_cases hknown : key ∈ format.record.names
  · obtain ⟨other, hother, rfl⟩ := exists_slot hknown
    obtain ⟨_, x, _, rfl⟩ := (take_known_eq_ok hother).mp htake
    exact format.met_set_other slot h other hother hne draft (some x)
  · rw [((take_unknown_eq_ok hknown).mp htake).2]

/-- A member that is taken moves each slot on to what the members after it have to fill. -/
theorem fills_cons_of_take {slot : Slot σ α} (h : slot ∈ format.slots) {key : String} {room : Nat}
    {draft draft' : σ} {value : Json} (htake : format.take room draft key value = .ok draft')
    {rest : List (Key × Json)} {found : Option slot.β} :
    Fills (slot.read room) (slot.met draft) (valuesOf slot.field.name ((.text key, value) :: rest))
        found ↔
      Fills (slot.read room) (slot.met draft') (valuesOf slot.field.name rest) found := by
  by_cases hkey : key = slot.field.name
  · subst hkey
    obtain ⟨hnone, x, hread, rfl⟩ := (take_known_eq_ok h).mp htake
    rw [valuesOf_cons_self, fills_cons_iff, format.met_set slot h]
    constructor
    · rintro ⟨_, y, hy, hrest⟩
      rw [hread] at hy
      cases hy
      exact hrest
    · intro hrest
      exact ⟨hnone, x, hread, hrest⟩
  · rw [valuesOf_cons_of_ne hkey, met_take h hkey htake]

theorem readMembers_eq_ok {room : Nat} {members : List (Key × Json)} {draft draft' : σ}
    (hread : readMembers (format.take room) draft members = .ok draft') :
    (Json.object members).Fits format.record.names isWhole ∧
      ∀ slot ∈ format.slots, Fills (slot.read room) (slot.met draft)
        (valuesOf slot.field.name members) (slot.met draft') := by
  induction members generalizing draft with
  | nil =>
      cases hread
      exact ⟨List.forall_mem_nil _, fun _ _ => fills_nil_iff.mpr rfl⟩
  | cons member rest ih =>
      obtain ⟨key, value⟩ := member
      cases key with
      | text key =>
          obtain ⟨next, htake, hrest⟩ := Reading.bind_eq_ok.mp hread
          obtain ⟨hfits, hfills⟩ := ih hrest
          constructor
          · refine List.forall_mem_cons.mpr ⟨⟨key, rfl, fun hunknown => ?_⟩, hfits⟩
            exact ((take_unknown_eq_ok hunknown).mp htake).1
          · intro slot hslot
            exact (fills_cons_of_take hslot htake).mpr (hfills slot hslot)
      | unpaired => cases hread
      | stray => cases hread

theorem exists_readMembers_eq_ok {room : Nat} {members : List (Key × Json)} {draft : σ}
    (hfits : (Json.object members).Fits format.record.names isWhole)
    (hfills : ∀ slot ∈ format.slots, ∃ found, Fills (slot.read room) (slot.met draft)
      (valuesOf slot.field.name members) found) :
    ∃ draft', readMembers (format.take room) draft members = .ok draft' := by
  induction members generalizing draft with
  | nil => exact ⟨draft, rfl⟩
  | cons member rest ih =>
      obtain ⟨⟨key, hkey, hwhole⟩, hrestFits⟩ := List.forall_mem_cons.mp hfits
      obtain ⟨_, value⟩ := member
      subst hkey
      have htake : ∃ next, format.take room draft key value = .ok next := by
        by_cases hknown : key ∈ format.record.names
        · obtain ⟨slot, hslot, rfl⟩ := exists_slot hknown
          obtain ⟨found, hfound⟩ := hfills slot hslot
          rw [valuesOf_cons_self, fills_cons_iff] at hfound
          obtain ⟨hnone, x, hread, _⟩ := hfound
          exact ⟨_, (take_known_eq_ok hslot).mpr ⟨hnone, x, hread, rfl⟩⟩
        · exact ⟨draft, (take_unknown_eq_ok hknown).mpr ⟨hwhole hknown, rfl⟩⟩
      obtain ⟨next, hnext⟩ := htake
      obtain ⟨draft', hdraft'⟩ := ih hrestFits fun slot hslot =>
        (hfills slot hslot).imp fun _ => (fills_cons_of_take hslot hnext).mp
      exact ⟨draft', Reading.bind_eq_ok.mpr ⟨next, hnext, hdraft'⟩⟩

theorem readMembers_finish_eq_ok_iff {room : Nat} {members : List (Key × Json)} {x : α} :
    (do format.finish (← readMembers (format.take room) format.start members)) = .ok x ↔
      (Json.object members).Fits format.record.names isWhole ∧
        ∀ slot ∈ format.slots, SlotReads slot.default (slot.read room)
          (valuesOf slot.field.name members) (slot.value x) := by
  rw [Reading.bind_eq_ok]
  constructor
  · rintro ⟨draft, hdraft, hfinish⟩
    obtain ⟨hfits, hfills⟩ := readMembers_eq_ok hdraft
    refine ⟨hfits, fun slot hslot => slotReads_iff_fills.mpr ⟨slot.met draft, ?_, ?_⟩⟩
    · rw [← format.met_start slot hslot]
      exact hfills slot hslot
    · exact format.finish_eq_ok_iff.mp hfinish slot hslot
  · rintro ⟨hfits, hreads⟩
    have hfills : ∀ slot ∈ format.slots, ∃ found, Fills (slot.read room) (slot.met format.start)
        (valuesOf slot.field.name members) found ∧ found.or slot.default = some (slot.value x) := by
      intro slot hslot
      rw [format.met_start slot hslot]
      exact slotReads_iff_fills.mp (hreads slot hslot)
    obtain ⟨draft, hdraft⟩ := exists_readMembers_eq_ok hfits fun slot hslot =>
      (hfills slot hslot).imp fun _ => And.left
    refine ⟨draft, hdraft, format.finish_eq_ok_iff.mpr fun slot hslot => ?_⟩
    obtain ⟨found, hfound, hvalue⟩ := hfills slot hslot
    rw [((readMembers_eq_ok hdraft).2 slot hslot).unique hfound]
    exact hvalue

theorem itemsRead_iff {room : Nat} {x : α} : ∀ {slots : List (Slot σ α)} {items : List Json},
    (slots.map fun slot => slot.field.name).Nodup →
      (ItemsRead room x slots items ↔ items.length ≤ slots.length ∧
        ∀ slot ∈ slots, SlotReads slot.default (slot.read room)
          items[(slots.map fun slot => slot.field.name).idxOf slot.field.name]?.toList
          (slot.value x))
  | [], items, _ => by simp [ItemsRead]
  | slot :: slots, items, hnodup => by
      rw [List.map_cons, List.nodup_cons] at hnodup
      have hlength : items.tail.length ≤ slots.length ↔ items.length ≤ (slot :: slots).length := by
        rw [List.length_tail, Nat.sub_le_iff_le_add, List.length_cons]
      have hshift : ∀ other ∈ slots,
          (slot.field.name :: slots.map fun slot => slot.field.name).idxOf other.field.name =
            (slots.map fun slot => slot.field.name).idxOf other.field.name + 1 := by
        intro other hother
        refine List.idxOf_cons_ne _ fun heq => hnodup.1 ?_
        rw [heq]
        exact List.mem_map_of_mem hother
      rw [ItemsRead, itemsRead_iff hnodup.2, List.forall_mem_cons, hlength, List.map_cons,
        List.idxOf_cons_self, List.head?_eq_getElem?, and_left_comm]
      refine and_congr_right fun _ => and_congr_right fun _ => forall₂_congr fun other hother => ?_
      rw [hshift other hother, List.getElem?_tail]

theorem exists_room_of_read {room : Nat} {value : Json} {x : α}
    (h : format.read room value = .ok x) : ∃ less, room = less + 1 := by
  rw [format.read_eq] at h
  cases room with
  | zero => cases value <;> simp [readRecord, opening, misfit_ne_ok] at h
  | succ less => exact ⟨less, rfl⟩

theorem read_succ_eq_ok_iff {room : Nat} {value : Json} {x : α} :
    format.read (room + 1) value = .ok x ↔
      value.Fits format.record.names isWhole ∧
        ∀ slot ∈ format.slots, SlotReads slot.default (slot.read room)
          (value.given format.record.names slot.field.name) (slot.value x) := by
  rw [format.read_eq]
  cases value with
  | object members => exact readMembers_finish_eq_ok_iff
  | list items =>
      have hnodup := format.record.nodup_names
      rw [names_eq] at hnodup ⊢
      refine format.ofItems_eq_ok_iff.trans ((itemsRead_iff hnodup).trans ?_)
      rw [Fits, List.length_map]
      rfl
  | _ => simp [readRecord, misfit_ne_ok, Fits]

end RecordFormat

end CratePlan
