import CratePlan.Proofs.RecordFormat
import Mathlib.Data.List.Forall2
import Mathlib.Data.List.Nodup
import Mathlib.Logic.Relation

/-! Respellings of a JSON value that keep the document that it gives: members may change places and be
added, and a list of its fields may stand for an object. One respelling changes one record; the places
of a document say where its records are. -/

namespace CratePlan

open Json

/-! ### Respellings -/

/-- Whether a record takes a value for a member whose name it does not know. Most records pass over any
JSON; a type has to read it in full before it can know that it is of no use, numbers included. -/
def Record.admits : Record → Json → Bool
  | .variant _ => Json.isProper
  | _ => Json.isWhole

/-- Whether a value names the kind of a type, in a member or as its first item. -/
def Json.NamesKind (kind : Schema.Kind) : Json → Prop
  | .object members => ∃ value, (.text "kind", value) ∈ members ∧ Schema.Kind.read true value = .ok kind
  | .list (first :: _) => Schema.Kind.read true first = .ok kind
  | _ => False

/-- One respelling of what stands at a place of a document. -/
inductive Respelling : Shape → Json → Json → Prop
  /-- The members of a record change places. -/
  | permute {r : Record} {members members' : List (Key × Json)} :
      members.Perm members' → Respelling (.record r) (.object members) (.object members')
  /-- A record gets a member that it does not know. -/
  | extend {r : Record} {front back : List (Key × Json)} {name : String} {value : Json} :
      name ∉ r.names → r.admits value = true →
        Respelling (.record r) (.object (front ++ back)) (.object (front ++ (.text name, value) :: back))
  /-- A record that gives all its fields becomes the list of what it gives for them. -/
  | enlist {r : Record} {members : List (Key × Json)} {values : List Json} :
      List.Forall₂ (fun name value => (.text name, value) ∈ members) r.names values →
        Respelling (.record r) (.object members) (.list values)
  /-- What a member gives for a field is respelled. -/
  | member {r : Record} {field : Field} {front back : List (Key × Json)} {value value' : Json} :
      field ∈ r.fields → Respelling field.shape value value' →
        Respelling (.record r) (.object (front ++ (.text field.name, value) :: back))
          (.object (front ++ (.text field.name, value') :: back))
  /-- What an item gives for the field at its position is respelled. -/
  | position {r : Record} {field : Field} {i : Nat} {items : List Json} {value value' : Json} :
      r.fields[i]? = some field → items[i]? = some value → Respelling field.shape value value' →
        Respelling (.record r) (.list items) (.list (items.set i value'))
  | item {shape : Shape} {front back : List Json} {value value' : Json} :
      Respelling shape value value' →
        Respelling (.listOf shape) (.list (front ++ value :: back)) (.list (front ++ value' :: back))
  | present {shape : Shape} {value value' : Json} :
      Respelling shape value value' → Respelling (.optional shape) value value'
  /-- A type is a record whose fields depend on its kind. -/
  | schema {kind : Schema.Kind} {value value' : Json} :
      value.NamesKind kind → Respelling (.record (.variant kind)) value value' →
        Respelling .schema value value'

namespace Respelling

variable {shape : Shape} {r : Record} {value value' : Json}

theorem ne_null (h : Respelling shape value value') : value ≠ .null ∧ value' ≠ .null := by
  induction h with
  | present _ ih => exact ih
  | schema _ _ ih => exact ih
  | _ => exact ⟨nofun, nofun⟩

theorem field_unique {field other : Field} (hfield : field ∈ r.fields) (hother : other ∈ r.fields)
    (h : field.name = other.name) : field = other :=
  List.inj_on_of_nodup_map r.nodup_names hfield hother h

theorem eq_of_perm_of_length_le_one {α : Type} {values values' : List α} (h : values.Perm values')
    (hlength : values.length ≤ 1) : values = values' := by
  match values, hlength with
  | [], _ => exact (List.nil_perm.mp h).symm
  | [_], _ => exact List.singleton_perm.mp h

theorem getElem_idxOf_of_forall₂ {p : String → Json → Prop} {names : List String}
    {values : List Json} (h : List.Forall₂ p names values) {name : String} (hname : name ∈ names) :
    ∃ value, values[names.idxOf name]? = some value ∧ p name value := by
  induction h with
  | nil => cases hname
  | @cons first value names values hfirst _ ih =>
      by_cases heq : first = name
      · subst heq
        exact ⟨value, by rw [List.idxOf_cons_self]; rfl, hfirst⟩
      · rw [List.idxOf_cons_ne _ heq]
        exact ih ((List.mem_cons.mp hname).resolve_left (Ne.symm heq))

/-- A respelling of a record respells at most what is given for one of its fields, provided that nothing
is given twice. -/
theorem forall₂_given (h : Respelling (.record r) value value') {field : Field} (hfield : field ∈ r.fields)
    (honce : (value.given r.names field.name).length ≤ 1) :
    List.Forall₂ (Relation.ReflGen (Respelling field.shape)) (value.given r.names field.name)
      (value'.given r.names field.name) := by
  have hname : field.name ∈ r.names := List.mem_map_of_mem hfield
  cases h with
  | permute hperm =>
      have heq := eq_of_perm_of_length_le_one (hperm.filterMap _) honce
      rw [Json.given, Json.given, valuesOf, valuesOf, heq]
      exact List.forall₂_refl _
  | @extend _ front back name value hunknown _ =>
      have hne : name ≠ field.name := fun heq => hunknown (heq ▸ hname)
      rw [Json.given, Json.given, valuesOf_append, valuesOf_append, valuesOf_cons_of_ne hne]
      exact List.forall₂_refl _
  | enlist hvalues =>
      obtain ⟨found, hfound, hmem⟩ := getElem_idxOf_of_forall₂ hvalues hname
      rw [Json.given, Json.given, valuesOf_eq_singleton hmem honce, hfound]
      exact List.forall₂_refl _
  | @member _ other front back found found' hother hfound =>
      rw [Json.given, Json.given, valuesOf_append, valuesOf_append]
      apply List.rel_append (List.forall₂_refl _)
      by_cases heq : other.name = field.name
      · obtain rfl := field_unique hother hfield heq
        rw [valuesOf_cons_self, valuesOf_cons_self]
        exact .cons (.single hfound) (List.forall₂_refl _)
      · rw [valuesOf_cons_of_ne heq, valuesOf_cons_of_ne heq]
        exact List.forall₂_refl _
  | @position _ other i items found found' hother hitem hfound =>
      rw [Json.given, Json.given]
      by_cases hi : i = r.names.idxOf field.name
      · have hat : r.names[i]? = some other.name := by
          rw [Record.names, List.getElem?_map, hother, Option.map_some]
        have heq : other.name = field.name := by
          rw [hi, List.getElem?_idxOf hname] at hat
          exact (Option.some.inj hat).symm
        obtain rfl := field_unique (List.mem_of_getElem? hother) hfield heq
        have hset : (items.set i found')[i]? = some found' := by
          rw [List.getElem?_set_self (List.getElem?_eq_some_iff.mp hitem).1]
        rw [← hi, hitem, hset]
        exact .cons (.single hfound) .nil
      · rw [List.getElem?_set_ne hi]
        exact List.forall₂_refl _

/-- A respelling of a record has the form of one. -/
theorem fits (h : Respelling (.record r) value value') {passable : Json → Bool}
    (hadmits : ∀ found, r.admits found = true → passable found = true)
    (hfits : value.Fits r.names passable) : value'.Fits r.names passable := by
  cases h with
  | permute hperm => exact fun member hmember => hfits member (hperm.mem_iff.mpr hmember)
  | @extend _ front back name found _ hfound =>
      obtain ⟨hfront, hback⟩ := List.forall_mem_append.mp hfits
      have hnew : ∃ key, Key.text name = .text key ∧ (key ∉ r.names → passable found = true) :=
        ⟨name, rfl, fun _ => hadmits found hfound⟩
      exact List.forall_mem_append.mpr ⟨hfront, List.forall_mem_cons.mpr ⟨hnew, hback⟩⟩
  | enlist hvalues => exact Nat.le_of_eq hvalues.length_eq.symm
  | @member _ field front back found found' hfield _ =>
      obtain ⟨hfront, hrest⟩ := List.forall_mem_append.mp hfits
      have hname : field.name ∈ r.names := List.mem_map_of_mem hfield
      have hknown : ∃ key, Key.text field.name = .text key ∧
          (key ∉ r.names → passable found' = true) :=
        ⟨field.name, rfl, fun hunknown => absurd hname hunknown⟩
      exact List.forall_mem_append.mpr
        ⟨hfront, List.forall_mem_cons.mpr ⟨hknown, (List.forall_mem_cons.mp hrest).2⟩⟩
  | position _ _ _ =>
      rw [Fits, List.length_set]
      exact hfits

end Respelling

end CratePlan
