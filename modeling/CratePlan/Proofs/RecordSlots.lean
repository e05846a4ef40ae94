import CratePlan.Json.Read
import CratePlan.Proofs.JsonValue
import Mathlib.Data.List.Basic
import Mathlib.Data.List.Perm.Basic
import Mathlib.Data.Option.Basic

/-! What a record reads for one of its fields depends on the values that are given for the field and
on nothing else: the values of the members with its name, or the item at its position. -/

namespace CratePlan

/-! ### Readings -/

theorem Reading.bind_eq_ok {α β : Type} {reading : Reading α} {next : α → Reading β} {y : β} :
    reading >>= next = .ok y ↔ ∃ x, reading = .ok x ∧ next x = .ok y := by
  cases reading with
  | error e => simp [Bind.bind, Except.bind]
  | ok x => simp [Bind.bind, Except.bind]

theorem Reading.map_eq_ok {α β : Type} {reading : Reading α} {f : α → β} {y : β} :
    Except.map f reading = .ok y ↔ ∃ x, reading = .ok x ∧ f x = y := by
  cases reading with
  | error e => simp [Except.map]
  | ok x => simp [Except.map]

theorem Reading.pure_eq_ok {α : Type} {x y : α} : (pure x : Reading α) = .ok y ↔ x = y :=
  Except.ok.injEq x y ▸ Iff.rfl

namespace Json

variable {α : Type}

theorem misfit_ne_ok (value : Json) (expected : String) (x : α) : value.misfit expected ≠ .ok x := by
  cases value with
  | number n => cases hn : n.number? <;> simp [misfit, hn]
  | _ => simp [misfit]

theorem opening_eq_ok_iff {room : Nat} {read : Nat → Reading α} {x : α} :
    opening room read = .ok x ↔ ∃ less, room = less + 1 ∧ read less = .ok x := by
  cases room with
  | zero => simp [opening]
  | succ less => simp [opening]

theorem skip_eq_ok_iff {value : Json} {u : Unit} : value.skip = .ok u ↔ value.isWhole = true := by
  simp [skip]

theorem once_eq_ok_iff {name : String} {slot slot' : Option α} {reading : Reading α} :
    once name slot reading = .ok slot' ↔ slot = none ∧ ∃ x, reading = .ok x ∧ slot' = some x := by
  cases slot with
  | some _ => simp [once]
  | none => simp [once, Reading.map_eq_ok, @eq_comm _ slot']

theorem required_eq_ok_iff {name : String} {slot : Option α} {x : α} :
    required name slot = .ok x ↔ slot = some x := by
  cases slot <;> simp [required]

theorem readOption_of_ne_null {read : Json → Reading α} {value : Json} (h : value ≠ .null) :
    readOption read value = (read value).map some := by
  cases value with
  | null => exact absurd rfl h
  | _ => rfl

theorem readItems_eq_ok_iff {read : Json → Reading α} {items : List Json} {xs : List α} :
    readItems read items = .ok xs ↔ List.Forall₂ (fun item x => read item = .ok x) items xs := by
  induction items generalizing xs with
  | nil =>
      constructor
      · rintro hread
        cases hread
        exact .nil
      · rintro hread
        cases hread
        rfl
  | cons item rest ih =>
      rw [readItems, Reading.bind_eq_ok]
      simp only [Reading.bind_eq_ok, Reading.pure_eq_ok, ih, List.forall₂_cons_left_iff]
      constructor
      · rintro ⟨x, hitem, others, hrest, rfl⟩
        exact ⟨x, others, hitem, hrest, rfl⟩
      · rintro ⟨x, others, hitem, hrest, rfl⟩
        exact ⟨x, hitem, others, hrest, rfl⟩

/-! ### Values given for a field -/

/-- The values of the members with a given name. -/
def valuesOf (name : String) (members : List (Key × Json)) : List Json :=
  members.filterMap fun member => if member.1 = .text name then some member.2 else none

@[simp]
theorem valuesOf_nil (name : String) : valuesOf name [] = [] := rfl

theorem valuesOf_cons_self (name : String) (value : Json) (rest : List (Key × Json)) :
    valuesOf name ((.text name, value) :: rest) = value :: valuesOf name rest :=
  List.filterMap_cons_some (if_pos rfl)

theorem valuesOf_cons_of_ne {name key : String} (h : key ≠ name) (value : Json)
    (rest : List (Key × Json)) :
    valuesOf name ((.text key, value) :: rest) = valuesOf name rest :=
  List.filterMap_cons_none (if_neg fun heq => h (Key.text.inj heq))

theorem valuesOf_append (name : String) (front back : List (Key × Json)) :
    valuesOf name (front ++ back) = valuesOf name front ++ valuesOf name back :=
  List.filterMap_append

theorem mem_valuesOf {name : String} {members : List (Key × Json)} {value : Json} :
    value ∈ valuesOf name members ↔ (.text name, value) ∈ members := by
  rw [valuesOf, List.mem_filterMap]
  constructor
  · rintro ⟨⟨key, found⟩, hmem, hvalue⟩
    obtain ⟨rfl, hfound⟩ := Option.ite_none_right_eq_some.mp hvalue
    cases hfound
    exact hmem
  · intro hmem
    exact ⟨_, hmem, if_pos rfl⟩

theorem valuesOf_eq_singleton {name : String} {value : Json} {members : List (Key × Json)}
    (hmem : (.text name, value) ∈ members) (honce : (valuesOf name members).length ≤ 1) :
    valuesOf name members = [value] := by
  have hvalue := mem_valuesOf.mpr hmem
  match valuesOf name members, hvalue, honce with
  | [_], hvalue, _ => rw [List.mem_singleton.mp hvalue]

/-- The values that an object or a list gives for one of the fields with the given names. -/
def given (names : List String) (name : String) : Json → List Json
  | .object members => valuesOf name members
  | .list items => items[names.idxOf name]?.toList
  | _ => []

/-- Whether a value can be a record with the given fields: an object with readable keys whose other
members can be passed over, or a list that is not too long. -/
def Fits (names : List String) (passable : Json → Bool) : Json → Prop
  | .object members => ∀ member ∈ members,
      ∃ name, member.1 = .text name ∧ (name ∉ names → passable member.2 = true)
  | .list items => items.length ≤ names.length
  | _ => False

theorem Fits.imp {value : Json} {names : List String} {passable passable' : Json → Bool}
    {room : Nat} (h : value.Fits names passable) (hdepth : value.depth ≤ room + 1)
    (himp : ∀ found, found.depth ≤ room → passable found = true → passable' found = true) :
    value.Fits names passable' := by
  cases value with
  | object members =>
      rw [depth, Nat.add_le_add_iff_right, membersDepth_le_iff] at hdepth
      intro member hmember
      obtain ⟨name, hname, hpass⟩ := h member hmember
      exact ⟨name, hname, fun hunknown => himp _ (hdepth member hmember) (hpass hunknown)⟩
  | list items => exact h
  | _ => exact h

theorem Fits.exists_room {value : Json} {names : List String} {passable : Json → Bool}
    {room : Nat} (h : value.Fits names passable) (hdepth : value.depth ≤ room) :
    ∃ less, room = less + 1 := by
  cases value with
  | object members => exact ⟨room - 1, by rw [depth] at hdepth; omega⟩
  | list items => exact ⟨room - 1, by rw [depth] at hdepth; omega⟩
  | _ => cases h

theorem depth_given_le {value : Json} {room : Nat} (hdepth : value.depth ≤ room + 1)
    (names : List String) (name : String) : ∀ found ∈ value.given names name, found.depth ≤ room := by
  intro found hfound
  cases value with
  | object members =>
      rw [depth, Nat.add_le_add_iff_right, membersDepth_le_iff] at hdepth
      exact hdepth _ (mem_valuesOf.mp hfound)
  | list items =>
      rw [depth, Nat.add_le_add_iff_right, itemsDepth_le_iff] at hdepth
      exact hdepth found (List.mem_of_getElem? (Option.mem_toList.mp hfound))
  | _ => cases hfound

/-- Whether a field is read as `x` from the values that are given for it: from the only one, or from
none if `x` is its default. -/
def SlotReads (default : Option α) (read : Json → Reading α) (values : List Json) (x : α) : Prop :=
  (values = [] ∧ default = some x) ∨ ∃ value, values = [value] ∧ read value = .ok x

theorem slotReads_none_iff {read : Json → Reading α} {values : List Json} {x : α} :
    SlotReads none read values x ↔ ∃ value, values = [value] ∧ read value = .ok x := by
  simp [SlotReads]

theorem slotReads_singleton_iff {default : Option α} {read : Json → Reading α} {value : Json} {x : α} :
    SlotReads default read [value] x ↔ read value = .ok x := by
  simp [SlotReads]

/-! ### Members -/

theorem or_some_eq_some_iff {slot : Option α} {default x : α} :
    slot.or (some default) = some x ↔ slot.getD default = x := by
  cases slot <;> simp

/-- Whether values take a slot from one state to another: none leave it, and one fills it. -/
def Fills (read : Json → Reading α) (slot : Option α) (values : List Json) (slot' : Option α) : Prop :=
  (values = [] ∧ slot' = slot) ∨
    slot = none ∧ ∃ value x, values = [value] ∧ read value = .ok x ∧ slot' = some x

theorem fills_nil_iff {read : Json → Reading α} {slot slot' : Option α} :
    Fills read slot [] slot' ↔ slot' = slot := by
  simp [Fills]

theorem fills_cons_iff {read : Json → Reading α} {slot slot' : Option α} {value : Json}
    {rest : List Json} :
    Fills read slot (value :: rest) slot' ↔
      slot = none ∧ ∃ x, read value = .ok x ∧ Fills read (some x) rest slot' := by
  constructor
  · rintro (⟨hnil, _⟩ | ⟨hslot, _, x, hvalues, hread, rfl⟩)
    · cases hnil
    · cases hvalues
      exact ⟨hslot, x, hread, Or.inl ⟨rfl, rfl⟩⟩
  · rintro ⟨hslot, x, hread, hrest⟩
    rcases hrest with ⟨rfl, rfl⟩ | ⟨hnone, _⟩
    · exact Or.inr ⟨hslot, value, x, rfl, hread, rfl⟩
    · cases hnone

/-- A slot that starts empty and may have a default ends up with what its values are read as. -/
theorem slotReads_iff_fills {default : Option α} {read : Json → Reading α} {values : List Json} {x : α} :
    SlotReads default read values x ↔
      ∃ slot, Fills read none values slot ∧ slot.or default = some x := by
  constructor
  · rintro (⟨rfl, hdefault⟩ | ⟨value, rfl, hread⟩)
    · exact ⟨none, Or.inl ⟨rfl, rfl⟩, hdefault⟩
    · exact ⟨some x, Or.inr ⟨rfl, value, x, rfl, hread, rfl⟩, rfl⟩
  · rintro ⟨slot, ⟨rfl, rfl⟩ | ⟨_, value, y, rfl, hread, rfl⟩, hx⟩
    · exact Or.inl ⟨rfl, hx⟩
    · cases hx
      exact Or.inr ⟨value, rfl, hread⟩

theorem Fills.unique {read : Json → Reading α} {slot slot₁ slot₂ : Option α} {values : List Json}
    (h₁ : Fills read slot values slot₁) (h₂ : Fills read slot values slot₂) : slot₁ = slot₂ := by
  rcases h₁ with ⟨rfl, rfl⟩ | ⟨rfl, value, x, rfl, hread, rfl⟩
  · exact (fills_nil_iff.mp h₂).symm
  · obtain ⟨_, y, hread', hrest⟩ := fills_cons_iff.mp h₂
    rw [hread] at hread'
    cases hread'
    exact (fills_nil_iff.mp hrest).symm

/-! ### Items -/

variable {β : Type}

theorem requiredItem_bind_eq_ok_iff {index : Nat} {expected : String} {read : Json → Reading α}
    {items : List Json} {next : α × List Json → Reading β} {y : β} :
    requiredItem index expected read items >>= next = .ok y ↔
      ∃ x, SlotReads none read items.head?.toList x ∧ next (x, items.tail) = .ok y := by
  cases items with
  | nil => simp [requiredItem, SlotReads, Reading.bind_eq_ok]
  | cons item items => simp [requiredItem, SlotReads, Reading.bind_eq_ok, Reading.map_eq_ok]

theorem optionalItem_bind_eq_ok_iff {default : α} {read : Json → Reading α} {items : List Json}
    {next : α × List Json → Reading β} {y : β} :
    optionalItem default read items >>= next = .ok y ↔
      ∃ x, SlotReads (some default) read items.head?.toList x ∧ next (x, items.tail) = .ok y := by
  cases items with
  | nil => simp [optionalItem, SlotReads, Reading.bind_eq_ok]
  | cons item items => simp [optionalItem, SlotReads, Reading.bind_eq_ok, Reading.map_eq_ok]

theorem noMoreItems_bind_eq_ok_iff {items : List Json} {next : Unit → Reading β} {y : β} :
    noMoreItems items >>= next = .ok y ↔ items = [] ∧ next () = .ok y := by
  cases items with
  | nil => exact ⟨fun h => ⟨rfl, h⟩, And.right⟩
  | cons item items => simp [noMoreItems, Reading.bind_eq_ok]

theorem required_bind_eq_ok_iff {name : String} {slot : Option α} {next : α → Reading β} {y : β} :
    required name slot >>= next = .ok y ↔ ∃ x, slot = some x ∧ next x = .ok y := by
  rw [Reading.bind_eq_ok]
  simp only [required_eq_ok_iff]

end Json

end CratePlan
