import CratePlan.Json.Number
import Mathlib.Data.List.Basic

/-! JSON values as a text can give them in full, and how deep they nest. A value can be read in full
within a limit of depth exactly if it is proper and nests no deeper than the limit. -/

namespace CratePlan.Json

mutual

/-- Whether a value is JSON throughout: nowhere broken off, with characters for every string and a
number for every numeral. -/
def isProper : Json → Bool
  | .broken => false
  | .unpaired => false
  | .number n => n.number?.isSome
  | .list items => allProper items
  | .object members => allMembersProper members
  | _ => true

/-- Whether every item is proper. -/
def allProper : List Json → Bool
  | [] => true
  | item :: rest => item.isProper && allProper rest

/-- Whether every member has a name and a proper value. -/
def allMembersProper : List (Key × Json) → Bool
  | [] => true
  | (.text _, value) :: rest => value.isProper && allMembersProper rest
  | _ :: _ => false

end

mutual

/-- The number of objects and lists that are open at a time where a value nests deepest. -/
def depth : Json → Nat
  | .list items => itemsDepth items + 1
  | .object members => membersDepth members + 1
  | _ => 0

/-- The depth of the deepest item. -/
def itemsDepth : List Json → Nat
  | [] => 0
  | item :: rest => max item.depth (itemsDepth rest)

/-- The depth of the deepest value of a member. -/
def membersDepth : List (Key × Json) → Nat
  | [] => 0
  | (_, value) :: rest => max value.depth (membersDepth rest)

end

mutual

theorem isReadable_iff (room : Nat) : ∀ value : Json,
    value.isReadable room = true ↔ value.isProper = true ∧ value.depth ≤ room
  | .null | .bool _ | .number _ | .string _ | .unpaired | .broken => by
      simp [isReadable, isProper, depth]
  | .list items => by
      cases room with
      | zero => simp [isReadable, depth]
      | succ room => simpa [isReadable, isProper, depth] using allReadable_iff room items
  | .object members => by
      cases room with
      | zero => simp [isReadable, depth]
      | succ room => simpa [isReadable, isProper, depth] using allMembersReadable_iff room members

theorem allReadable_iff (room : Nat) : ∀ items : List Json,
    allReadable room items = true ↔ allProper items = true ∧ itemsDepth items ≤ room
  | [] => by simp [allReadable, allProper, itemsDepth]
  | item :: rest => by
      rw [allReadable, allProper, itemsDepth, Bool.and_eq_true, Bool.and_eq_true,
        isReadable_iff room item, allReadable_iff room rest, Nat.max_le]
      exact and_and_and_comm

theorem allMembersReadable_iff (room : Nat) : ∀ members : List (Key × Json),
    allMembersReadable room members = true ↔
      allMembersProper members = true ∧ membersDepth members ≤ room
  | [] => by simp [allMembersReadable, allMembersProper, membersDepth]
  | (.text _, value) :: rest => by
      rw [allMembersReadable, allMembersProper, membersDepth, Bool.and_eq_true, Bool.and_eq_true,
        isReadable_iff room value, allMembersReadable_iff room rest, Nat.max_le]
      exact and_and_and_comm
  | (.unpaired, _) :: _ => by simp [allMembersReadable, allMembersProper]
  | (.stray, _) :: _ => by simp [allMembersReadable, allMembersProper]

end

theorem allReadable_eq_true_iff {room : Nat} {items : List Json} :
    allReadable room items = true ↔ ∀ item ∈ items, item.isReadable room = true := by
  induction items with
  | nil => simp [allReadable]
  | cons item rest ih => rw [allReadable, Bool.and_eq_true, ih, List.forall_mem_cons]

theorem allMembersReadable_eq_true_iff {room : Nat} {members : List (Key × Json)} :
    allMembersReadable room members = true ↔
      ∀ member ∈ members, (∃ name, member.1 = .text name) ∧ member.2.isReadable room = true := by
  induction members with
  | nil => simp [allMembersReadable]
  | cons member rest ih =>
      obtain ⟨key, value⟩ := member
      rw [List.forall_mem_cons]
      cases key with
      | text name => simp [allMembersReadable, ih]
      | unpaired => simp [allMembersReadable]
      | stray => simp [allMembersReadable]

theorem allProper_eq_true_iff {items : List Json} :
    allProper items = true ↔ ∀ item ∈ items, item.isProper = true := by
  induction items with
  | nil => simp [allProper]
  | cons item rest ih => rw [allProper, Bool.and_eq_true, ih, List.forall_mem_cons]

theorem isProper_ofFields {fields : List (String × Json)}
    (h : ∀ field ∈ fields, field.2.isProper = true) : (ofFields fields).isProper = true := by
  rw [ofFields, isProper]
  induction fields with
  | nil => simp [allMembersProper]
  | cons field rest ih =>
      rw [List.forall_mem_cons] at h
      rw [List.map_cons, allMembersProper, h.1, Bool.true_and]
      exact ih h.2

theorem itemsDepth_le_iff {n : Nat} {items : List Json} :
    itemsDepth items ≤ n ↔ ∀ item ∈ items, item.depth ≤ n := by
  induction items with
  | nil => simp [itemsDepth]
  | cons item rest ih => rw [itemsDepth, Nat.max_le, ih, List.forall_mem_cons]

theorem membersDepth_le_iff {n : Nat} {members : List (Key × Json)} :
    membersDepth members ≤ n ↔ ∀ member ∈ members, member.2.depth ≤ n := by
  induction members with
  | nil => simp [membersDepth]
  | cons member rest ih => rw [membersDepth, Nat.max_le, ih, List.forall_mem_cons]

mutual

/-- A value that can be read in full can also be passed over. -/
theorem isWhole_of_isProper : ∀ {value : Json}, value.isProper = true → value.isWhole = true
  | .null, _ | .bool _, _ | .number _, _ | .string _, _ => rfl
  | .list _, h => allWhole_of_allProper h
  | .object _, h => allMembersWhole_of_allMembersProper h

theorem allWhole_of_allProper : ∀ {items : List Json}, allProper items = true → allWhole items = true
  | [], _ => rfl
  | item :: rest, h => by
      rw [allProper, Bool.and_eq_true] at h
      rw [allWhole, Bool.and_eq_true]
      exact ⟨isWhole_of_isProper h.1, allWhole_of_allProper h.2⟩

theorem allMembersWhole_of_allMembersProper : ∀ {members : List (Key × Json)},
    allMembersProper members = true → allMembersWhole members = true
  | [], _ => rfl
  | (.text name, value) :: rest, h => by
      rw [allMembersProper, Bool.and_eq_true] at h
      rw [allMembersWhole, Bool.and_eq_true, Bool.and_eq_true]
      exact ⟨⟨rfl, isWhole_of_isProper h.1⟩, allMembersWhole_of_allMembersProper h.2⟩

end

end CratePlan.Json
