import CratePlan.Document.Schema
import CratePlan.Proofs.RecordFormat

/-! A type is read from the value of its kind and from that of its one other field, wherever the two
stand. Unlike those of other records, its unknown members have to be readable in full. -/

namespace CratePlan.Schema

open Json

/-- The kind of a type. -/
def kind : Schema → Kind
  | .primitive _ => .primitive
  | .array _ => .array
  | .map _ => .map
  | .model _ => .model

/-- Whether the one field of a type that is not its kind is read from the given values. -/
def FieldReads (read : Json → Reading Schema) (values : List Json) : Schema → Prop
  | .primitive tag => SlotReads none readText values tag
  | .array items => SlotReads none read values items
  | .map mapped => SlotReads none read values mapped
  | .model name => SlotReads none readText values name

/-! ### Objects -/

theorem readKind_eq_ok_iff {inner : Bool} {room : Nat} {members : List (Key × Json)}
    {found : Option Kind} {kind : Kind} :
    readKind inner room found members = .ok kind ↔
      (∀ member ∈ members, ∃ name, member.1 = .text name ∧
        (name ≠ "kind" → member.2.isReadable room = true)) ∧
      Fills (Kind.read inner) found (valuesOf "kind" members) (some kind) := by
  induction members generalizing found with
  | nil => simp [readKind, required_eq_ok_iff, fills_nil_iff, @eq_comm _ found]
  | cons member rest ih =>
      obtain ⟨key, value⟩ := member
      cases key with
      | text key =>
          have hhead : (∃ name, Key.text key = .text name ∧
              (name ≠ "kind" → value.isReadable room = true)) ↔
                (key ≠ "kind" → value.isReadable room = true) := by simp
          rw [List.forall_mem_cons, hhead]
          by_cases hkey : key = "kind"
          · subst hkey
            rw [readKind, if_pos rfl, Reading.bind_eq_ok, valuesOf_cons_self, fills_cons_iff]
            simp only [once_eq_ok_iff, ih]
            constructor
            · rintro ⟨_, ⟨hnone, x, hread, rfl⟩, hrest, hfills⟩
              exact ⟨⟨fun hne => absurd rfl hne, hrest⟩, hnone, x, hread, hfills⟩
            · rintro ⟨⟨_, hrest⟩, hnone, x, hread, hfills⟩
              exact ⟨_, ⟨hnone, x, hread, rfl⟩, hrest, hfills⟩
          · rw [readKind, if_neg hkey, valuesOf_cons_of_ne hkey]
            split_ifs with hreadable
            · rw [ih]
              simp [hreadable]
            · simp [hkey, hreadable]
      | unpaired => simp [readKind]
      | stray => simp [readKind]

theorem readField_slot_eq_ok_iff {α : Type} {name : String} {read : Json → Reading α}
    {members : List (Key × Json)} {slot slot' : Option α} :
    readMembers (fun slot key value =>
      if key = name then once name slot (read value) else .ok slot) slot members = .ok slot' ↔
      (∀ member ∈ members, ∃ key, member.1 = .text key) ∧
        Fills read slot (valuesOf name members) slot' := by
  induction members generalizing slot with
  | nil => simp [readMembers, fills_nil_iff, @eq_comm _ slot]
  | cons member rest ih =>
      obtain ⟨key, value⟩ := member
      cases key with
      | text key =>
          have hhead : ∃ name, Key.text key = .text name := ⟨key, rfl⟩
          rw [List.forall_mem_cons, and_iff_right hhead, readMembers, Reading.bind_eq_ok]
          by_cases hkey : key = name
          · subst hkey
            rw [valuesOf_cons_self, fills_cons_iff]
            simp only [if_pos, once_eq_ok_iff, ih]
            constructor
            · rintro ⟨_, ⟨hnone, x, hread, rfl⟩, hrest, hfills⟩
              exact ⟨hrest, hnone, x, hread, hfills⟩
            · rintro ⟨hrest, hnone, x, hread, hfills⟩
              exact ⟨_, ⟨hnone, x, hread, rfl⟩, hrest, hfills⟩
          · rw [valuesOf_cons_of_ne hkey]
            simp [hkey, ih]
      | unpaired => simp [readMembers]
      | stray => simp [readMembers]

theorem readField_eq_ok_iff {α : Type} {name : String} {read : Json → Reading α}
    {members : List (Key × Json)} {x : α} :
    readField name read members = .ok x ↔
      (∀ member ∈ members, ∃ key, member.1 = .text key) ∧
        SlotReads none read (valuesOf name members) x := by
  rw [readField, Reading.bind_eq_ok]
  simp only [readField_slot_eq_ok_iff, required_eq_ok_iff, slotReads_iff_fills, Option.or_none]
  constructor
  · rintro ⟨_, ⟨htext, hfills⟩, rfl⟩
    exact ⟨htext, _, hfills, rfl⟩
  · rintro ⟨htext, _, hfills, rfl⟩
    exact ⟨_, ⟨htext, hfills⟩, rfl⟩

/-! ### Lists -/

theorem readOnlyItem_eq_ok_iff {α : Type} {kind : Kind} {read : Json → Reading α} {rest : List Json}
    {x : α} :
    readOnlyItem kind read rest = .ok x ↔
      rest.length ≤ 1 ∧ SlotReads none read rest.head?.toList x := by
  cases rest with
  | nil => simp [readOnlyItem, slotReads_none_iff]
  | cons item rest =>
      rw [readOnlyItem, Reading.bind_eq_ok]
      cases rest <;> simp [slotReads_none_iff, Reading.pure_eq_ok]

/-! ### Types -/

theorem ofKind_eq_ok_iff {kind : Kind}
    {field : {α : Type} → String → (Json → Reading α) → Reading α} {read : Json → Reading Schema}
    {fits : Prop} {values : String → List Json}
    (hfield : ∀ (α : Type) (name : String) (read : Json → Reading α) (x : α),
      field name read = .ok x ↔ fits ∧ SlotReads none read (values name) x) {schema : Schema} :
    ofKind kind field read = .ok schema ↔
      schema.kind = kind ∧ fits ∧ schema.FieldReads read (values kind.field.name) := by
  cases kind <;> cases schema <;>
    simp [ofKind, Reading.map_eq_ok, hfield, Schema.kind, FieldReads, Kind.field]

theorem ofKind_readField_eq_ok_iff {kind : Kind} {members : List (Key × Json)}
    {read : Json → Reading Schema} {schema : Schema} :
    ofKind kind (fun name read => readField name read members) read = .ok schema ↔
      schema.kind = kind ∧ (∀ member ∈ members, ∃ key, member.1 = .text key) ∧
        schema.FieldReads read (valuesOf kind.field.name members) :=
  @ofKind_eq_ok_iff kind _ read _ (fun name => valuesOf name members)
    (fun _ _ _ _ => readField_eq_ok_iff) schema

theorem ofKind_readOnlyItem_eq_ok_iff {kind : Kind} {rest : List Json}
    {read : Json → Reading Schema} {schema : Schema} :
    ofKind kind (fun _ read => readOnlyItem kind read rest) read = .ok schema ↔
      schema.kind = kind ∧ rest.length ≤ 1 ∧ schema.FieldReads read rest.head?.toList :=
  @ofKind_eq_ok_iff kind _ read _ (fun _ => rest.head?.toList)
    (fun _ _ _ _ => readOnlyItem_eq_ok_iff) schema

theorem Kind.isReadable_of_read {inner : Bool} {value : Json} {kind : Kind} (room : Nat)
    (h : Kind.read inner value = .ok kind) : value.isReadable room = true := by
  cases value with
  | string s => simp [isReadable]
  | number n =>
      cases hn : n.number? with
      | none => simp [Kind.read, hn, misfit] at h
      | some found => simp [isReadable, hn]
  | _ => simp [Kind.read, misfit] at h

theorem exists_room_of_read {inner : Bool} {room : Nat} {value : Json} {schema : Schema}
    (h : Schema.read room inner value = .ok schema) : ∃ less, room = less + 1 := by
  cases room with
  | zero => cases value <;> simp [Schema.read, misfit_ne_ok] at h
  | succ less => exact ⟨less, rfl⟩

/-- A type is read in full, so that nothing in it may nest too deeply. -/
theorem isReadable_of_read {inner : Bool} {room : Nat} {value : Json} {schema : Schema}
    (h : Schema.read room inner value = .ok schema) : value.isReadable room = true := by
  obtain ⟨room, rfl⟩ := exists_room_of_read h
  cases value with
  | object members =>
      obtain ⟨kind, hkind, _⟩ := Reading.bind_eq_ok.mp h
      obtain ⟨hmembers, hfills⟩ := readKind_eq_ok_iff.mp hkind
      have hvalues : ∀ found ∈ valuesOf "kind" members, found.isReadable room = true := by
        intro found hfound
        obtain ⟨value, hvalue, hread⟩ := slotReads_none_iff.mp
          (slotReads_iff_fills.mpr ⟨_, hfills, rfl⟩)
        rw [hvalue, List.mem_singleton] at hfound
        rw [hfound]
        exact Kind.isReadable_of_read room hread
      have hall : allMembersReadable room members = true := by
        rw [allMembersReadable_eq_true_iff]
        intro member hmember
        obtain ⟨name, hname, hreadable⟩ := hmembers member hmember
        refine ⟨⟨name, hname⟩, ?_⟩
        by_cases hkind : name = "kind"
        · refine hvalues member.2 (mem_valuesOf.mpr ?_)
          rw [← hkind, ← hname]
          exact hmember
        · exact hreadable hkind
      simpa [isReadable] using hall
  | list items =>
      cases items with
      | nil => cases h
      | cons first rest =>
          obtain ⟨kind, hkind, hrest⟩ := Reading.bind_eq_ok.mp h
          split_ifs at hrest with hreadable
          simp [isReadable, allReadable, Kind.isReadable_of_read room hkind, hreadable]
  | _ => simp [Schema.read, misfit_ne_ok] at h

theorem FieldReads.isReadable {inner : Bool} {room : Nat} {values : List Json} {schema : Schema}
    (h : schema.FieldReads (Schema.read room inner) values) :
    ∀ value ∈ values, value.isReadable room = true := by
  have htext : ∀ {value : Json} {s : String}, readText value = .ok s →
      value.isReadable room = true := by
    intro value s hread
    cases value with
    | string s => simp [Json.isReadable]
    | _ => simp [readText, misfit_ne_ok] at hread
  cases schema <;>
  · obtain ⟨value, rfl, hread⟩ := slotReads_none_iff.mp h
    intro found hfound
    rw [List.mem_singleton.mp hfound]
    first | exact htext hread | exact isReadable_of_read hread

/-- Reading a type is reading its kind and its field, from the members of an object or from the two
items of a list. -/
theorem read_succ_eq_ok_iff {inner : Bool} {room : Nat} {value : Json} {schema : Schema} :
    Schema.read (room + 1) inner value = .ok schema ↔
      value.Fits (Record.variant schema.kind).names (Json.isReadable room) ∧
        SlotReads none (Kind.read inner)
          (value.given (Record.variant schema.kind).names "kind") schema.kind ∧
        schema.FieldReads (Schema.read room true)
          (value.given (Record.variant schema.kind).names schema.kind.field.name) := by
  cases value with
  | object members =>
      rw [Schema.read, Reading.bind_eq_ok]
      simp only [readKind_eq_ok_iff, ofKind_readField_eq_ok_iff, slotReads_iff_fills, Option.or_none]
      constructor
      · rintro ⟨kind, ⟨hmembers, hkind⟩, rfl, _, hfield⟩
        refine ⟨fun member hmember => ?_, ⟨_, hkind, rfl⟩, hfield⟩
        obtain ⟨name, hname, hreadable⟩ := hmembers member hmember
        exact ⟨name, hname, fun hunknown => hreadable fun heq => hunknown (heq ▸ List.mem_cons_self)⟩
      · rintro ⟨hfits, ⟨_, hkind, rfl⟩, hfield⟩
        refine ⟨schema.kind, ⟨fun member hmember => ?_, hkind⟩, rfl, fun member hmember => ?_, hfield⟩
        · obtain ⟨name, hname, hreadable⟩ := hfits member hmember
          refine ⟨name, hname, fun hne => ?_⟩
          by_cases hknown : name = schema.kind.field.name
          · refine hfield.isReadable member.2 (mem_valuesOf.mpr ?_)
            rw [← hknown, ← hname]
            exact hmember
          · exact hreadable (by simp [Record.names, Record.fields, hne, hknown])
        · obtain ⟨name, hname, _⟩ := hfits member hmember
          exact ⟨name, hname⟩
  | list items =>
      have hkindIndex : (Record.variant schema.kind).names.idxOf "kind" = 0 := by
        cases schema.kind <;> decide
      have hfieldIndex : (Record.variant schema.kind).names.idxOf schema.kind.field.name = 1 := by
        cases schema.kind <;> decide
      have hlength : (Record.variant schema.kind).names.length = 2 := rfl
      rw [given, given, hkindIndex, hfieldIndex, Fits, hlength]
      cases items with
      | nil => simp [Schema.read, slotReads_none_iff]
      | cons first rest =>
          have hkindItem : (first :: rest)[0]?.toList = [first] := rfl
          have hfieldItem : (first :: rest)[1]?.toList = rest.head?.toList := by
            cases rest <;> rfl
          rw [Schema.read, Reading.bind_eq_ok, hkindItem, hfieldItem, slotReads_singleton_iff,
            List.length_cons, Nat.add_le_add_iff_right (n := 1)]
          constructor
          · rintro ⟨kind, hkind, hrest⟩
            split_ifs at hrest
            obtain ⟨rfl, hlength, hfield⟩ := ofKind_readOnlyItem_eq_ok_iff.mp hrest
            exact ⟨hlength, hkind, hfield⟩
          · rintro ⟨hlength, hkind, hfield⟩
            refine ⟨schema.kind, hkind, ?_⟩
            have hreadable : allReadable room rest = true := by
              rw [allReadable_eq_true_iff]
              intro item hitem
              refine hfield.isReadable item ?_
              cases rest with
              | nil => exact hitem
              | cons only others =>
                  have hnone : others = [] := by simpa using hlength
                  rwa [hnone] at hitem
            rw [if_pos hreadable]
            exact ofKind_readOnlyItem_eq_ok_iff.mpr ⟨rfl, hlength, hfield⟩
  | _ => simp [Schema.read, misfit_ne_ok, Fits]

end CratePlan.Schema
