import CratePlan.Toml.Scan
import Mathlib.Data.List.Nodup

/-! No table of a text lists a key twice. The tables of a text grow in two ways only: an entry comes in
under a key that is not there yet, or the value of a key that is there is replaced. Both keep the keys
of a table apart, on whatever path the table is reached, and so does every statement of a text. -/

namespace CratePlan.Toml

/-- A value in which every table, at whatever depth, lists each of its keys once. -/
inductive Value.IsKeyed : Value → Prop
  | text (s : String) : IsKeyed (.text s)
  | scalar : IsKeyed .scalar
  | moment (moment : Moment) : IsKeyed (.moment moment)
  | list {items : List Value} (hitems : ∀ item ∈ items, IsKeyed item) : IsKeyed (.list items)
  | tables {elements : List Entries}
      (hkeys : ∀ entries ∈ elements, (entries.map Prod.fst).Nodup)
      (hvalues : ∀ entries ∈ elements, ∀ entry ∈ entries, IsKeyed entry.2) :
      IsKeyed (.tables elements)
  | table {origin : Origin} {entries : Entries} (hkeys : (entries.map Prod.fst).Nodup)
      (hvalues : ∀ entry ∈ entries, IsKeyed entry.2) : IsKeyed (.table origin entries)

namespace Entries

/-- A table that lists each of its keys once, as do the tables in it. -/
structure IsKeyed (entries : Entries) : Prop where
  keys : (entries.map Prod.fst).Nodup
  values : ∀ entry ∈ entries, entry.2.IsKeyed

theorem isKeyed_nil : IsKeyed [] :=
  ⟨List.nodup_nil, fun _ h => absurd h List.not_mem_nil⟩

theorem isKeyed_table_iff {origin : Origin} {entries : Entries} :
    (Value.table origin entries).IsKeyed ↔ IsKeyed entries := by
  constructor
  · intro h
    cases h with
    | table hkeys hvalues => exact ⟨hkeys, hvalues⟩
  · exact fun h => .table h.keys h.values

theorem isKeyed_tables_iff {elements : List Entries} :
    (Value.tables elements).IsKeyed ↔ ∀ entries ∈ elements, IsKeyed entries := by
  constructor
  · intro h
    cases h with
    | tables hkeys hvalues =>
        exact fun entries hentries => ⟨hkeys entries hentries, hvalues entries hentries⟩
  · exact fun h => .tables (fun entries hentries => (h entries hentries).keys)
      fun entries hentries => (h entries hentries).values

/-- The last table of an array is keyed, and another keyed one may stand in its place. -/
theorem isKeyed_last {elements before : List Entries} {last : Entries}
    (hreverse : elements.reverse = last :: before) (h : (Value.tables elements).IsKeyed) :
    IsKeyed last ∧
      ∀ {inner : Entries}, IsKeyed inner → (Value.tables (inner :: before).reverse).IsKeyed := by
  have hparts : ∀ table ∈ last :: before, IsKeyed table := fun table htable =>
    isKeyed_tables_iff.mp h table (List.mem_reverse.mp (hreverse ▸ htable))
  rw [List.forall_mem_cons] at hparts
  refine ⟨hparts.1, fun hinner => isKeyed_tables_iff.mpr fun table htable => ?_⟩
  rcases List.mem_cons.mp (List.mem_reverse.mp htable) with rfl | htable
  · exact hinner
  · exact hparts.2 table htable

theorem notMem_keys_of_lookup {key : String} {entries : Entries} (h : entries.lookup key = none) :
    key ∉ entries.map Prod.fst := by
  rintro hmem
  obtain ⟨entry, hentry, rfl⟩ := List.mem_map.mp hmem
  simpa using List.lookup_eq_none_iff.mp h entry hentry

theorem mem_of_lookup {key : String} {value : Value} {entries : Entries}
    (h : entries.lookup key = some value) : (key, value) ∈ entries := by
  obtain ⟨before, after, rfl, _⟩ := List.lookup_eq_some_iff.mp h
  simp

/-! ### The two changes of a table -/

variable {key : String} {value : Value} {entries result : Entries}

theorem IsKeyed.concat (h : IsKeyed entries) (hnew : entries.lookup key = none)
    (hvalue : value.IsKeyed) : IsKeyed (entries ++ [(key, value)]) := by
  refine ⟨?_, ?_⟩
  · rw [List.map_append, List.map_singleton, List.nodup_append_comm, List.singleton_append,
      List.nodup_cons]
    exact ⟨notMem_keys_of_lookup hnew, h.keys⟩
  · rw [List.forall_mem_append]
    exact ⟨h.values, List.forall_mem_singleton.mpr hvalue⟩

theorem keys_replace : (replace key value entries).map Prod.fst = entries.map Prod.fst := by
  rw [replace, List.map_map]
  refine List.map_congr_left fun entry _ => ?_
  rw [Function.comp_apply]
  split_ifs with hkey
  · exact hkey.symm
  · rfl

theorem IsKeyed.replace (h : IsKeyed entries) (hvalue : value.IsKeyed) :
    IsKeyed (replace key value entries) := by
  refine ⟨by rw [keys_replace]; exact h.keys, fun entry hentry => ?_⟩
  obtain ⟨old, hold, rfl⟩ := List.mem_map.mp hentry
  split_ifs
  · exact hvalue
  · exact h.values old hold

theorem IsKeyed.of_lookup (h : IsKeyed entries) (hlookup : entries.lookup key = some value) :
    value.IsKeyed :=
  h.values _ (mem_of_lookup hlookup)

/-! ### The changes that statements make -/

/-- A change keeps keys apart if whatever it makes of a keyed table is keyed. -/
def KeepsKeys (change : Origin → Entries → Option Entries) : Prop :=
  ∀ {origin : Origin} {entries result : Entries},
    change origin entries = some result → IsKeyed entries → IsKeyed result

theorem KeepsKeys.update {change : Origin → Entries → Option Entries} (hchange : KeepsKeys change)
    (dotted : Bool) (path : List String) :
    KeepsKeys fun origin entries => update dotted change origin path entries := by
  intro origin entries result hresult hentries
  dsimp only at hresult
  induction path generalizing origin entries result with
  | nil => exact hchange hresult hentries
  | cons key path ih =>
      rw [Entries.update] at hresult
      split at hresult
      · next hnew =>
          obtain ⟨inner, hinner, hresult⟩ := Option.bind_eq_some_iff.mp hresult
          cases hresult
          exact hentries.concat hnew (isKeyed_table_iff.mpr (ih hinner isKeyed_nil))
      · next hold =>
          split_ifs at hresult
          obtain ⟨inner, hinner, hresult⟩ := Option.bind_eq_some_iff.mp hresult
          cases hresult
          have hheld := isKeyed_table_iff.mp (hentries.of_lookup hold)
          exact hentries.replace (isKeyed_table_iff.mpr (ih hinner hheld))
      · next elements hold =>
          split at hresult
          · cases hresult
          · next last before hreverse =>
              split_ifs at hresult
              obtain ⟨inner, hinner, hresult⟩ := Option.bind_eq_some_iff.mp hresult
              cases hresult
              obtain ⟨hlast, hothers⟩ := isKeyed_last hreverse (hentries.of_lookup hold)
              exact hentries.replace (hothers (ih hinner hlast))
      · cases hresult

theorem IsKeyed.add (hentries : IsKeyed entries) (h : add key value entries = some result)
    (hvalue : value.IsKeyed) : IsKeyed result := by
  unfold Entries.add at h
  split at h
  · next hnew =>
      cases h
      exact hentries.concat hnew hvalue
  · cases h

theorem IsKeyed.assign {path : List String} (hentries : IsKeyed entries)
    (h : assign path key value entries = some result) (hvalue : value.IsKeyed) :
    IsKeyed result := by
  have hadd : KeepsKeys fun origin inner =>
      if origin = .dotted then Entries.add key value inner else none := by
    intro origin inner changed hchanged hinner
    dsimp only at hchanged
    split_ifs at hchanged
    exact hinner.add hchanged hvalue
  unfold Entries.assign at h
  split at h
  · exact hentries.add h hvalue
  · exact hadd.update true _ h hentries

theorem IsKeyed.assignAt {here path : List String} (hentries : IsKeyed entries)
    (h : assignAt here path key value entries = some result) (hvalue : value.IsKeyed) :
    IsKeyed result := by
  have hassign : KeepsKeys fun _ inner => Entries.assign path key value inner :=
    fun hchanged hinner => hinner.assign hchanged hvalue
  exact hassign.update false here h hentries

theorem IsKeyed.openTable {path : List String} (hentries : IsKeyed entries)
    (h : openTable path key entries = some result) : IsKeyed result := by
  refine KeepsKeys.update ?_ false path h hentries
  intro _ inner changed hchanged hinner
  dsimp only at hchanged
  split at hchanged
  · next hnew =>
      cases hchanged
      exact hinner.concat hnew (isKeyed_table_iff.mpr isKeyed_nil)
  · next implied hold =>
      cases hchanged
      have hheld := isKeyed_table_iff.mp (hinner.of_lookup hold)
      exact hinner.replace (isKeyed_table_iff.mpr hheld)
  · cases hchanged

theorem IsKeyed.openElement {path : List String} (hentries : IsKeyed entries)
    (h : openElement path key entries = some result) : IsKeyed result := by
  refine KeepsKeys.update ?_ false path h hentries
  intro _ inner changed hchanged hinner
  dsimp only at hchanged
  split at hchanged
  · next hnew =>
      cases hchanged
      refine hinner.concat hnew (isKeyed_tables_iff.mpr ?_)
      exact List.forall_mem_singleton.mpr isKeyed_nil
  · next elements hold =>
      cases hchanged
      have hheld := isKeyed_tables_iff.mp (hinner.of_lookup hold)
      refine hinner.replace (isKeyed_tables_iff.mpr ?_)
      rw [List.forall_mem_append]
      exact ⟨hheld, List.forall_mem_singleton.mpr isKeyed_nil⟩
  · cases hchanged

end Entries

/-! ### Values and statements of a text -/

theorem isKeyed_scanScalar {cs rest : List Char} {value : Value}
    (h : scanScalar cs = some (value, rest)) : value.IsKeyed := by
  unfold scanScalar at h
  dsimp only at h
  split at h
  · cases h
    exact .moment _
  · cases h
    exact .moment _
  · split_ifs at h
    cases h
    exact .scalar

theorem isKeyed_text_of_scan {cs rest : List Char} {mark : Char} {multiline : Bool} {value : Value}
    (h : (do
      let (s, rest) ← scanText mark multiline cs
      return (Value.text s, rest)) = some (value, rest)) : value.IsKeyed := by
  obtain ⟨⟨s, after⟩, _, h⟩ := Option.bind_eq_some_iff.mp h
  cases h
  exact .text s

mutual

/-- A value that was scanned is keyed; its parts were scanned with less fuel. -/
theorem isKeyed_scanValue : ∀ {fuel room : Nat} {cs rest : List Char} {value : Value},
    scanValue fuel room cs = some (value, rest) → value.IsKeyed
  | 0, _, _, _, _, h => by
      unfold scanValue at h
      cases h
  | fuel + 1, room, cs, rest, value, h => by
      unfold scanValue at h
      split at h
      · exact isKeyed_text_of_scan h
      · exact isKeyed_text_of_scan h
      · exact isKeyed_text_of_scan h
      · exact isKeyed_text_of_scan h
      · obtain ⟨⟨items, after⟩, hscan, h⟩ := Option.bind_eq_some_iff.mp h
        cases h
        exact .list (isKeyed_scanItems hscan)
      · obtain ⟨⟨entries, after⟩, hscan, h⟩ := Option.bind_eq_some_iff.mp h
        cases h
        exact Entries.isKeyed_table_iff.mpr (isKeyed_scanEntries hscan Entries.isKeyed_nil)
      · exact isKeyed_scanScalar h

theorem isKeyed_scanItems : ∀ {fuel room : Nat} {cs rest : List Char} {items : List Value},
    scanItems fuel room cs = some (items, rest) → ∀ item ∈ items, item.IsKeyed
  | 0, _, _, _, _, h => by
      unfold scanItems at h
      cases h
  | fuel + 1, room, cs, rest, items, h => by
      unfold scanItems at h
      split at h
      · cases h
        exact fun _ hitem => absurd hitem List.not_mem_nil
      · obtain ⟨⟨item, after⟩, hitem, h⟩ := Option.bind_eq_some_iff.mp h
        dsimp only at h
        have hfirst := isKeyed_scanValue hitem
        split at h
        · obtain ⟨⟨others, last⟩, hothers, h⟩ := Option.bind_eq_some_iff.mp h
          cases h
          exact List.forall_mem_cons.mpr ⟨hfirst, isKeyed_scanItems hothers⟩
        · cases h
          exact List.forall_mem_singleton.mpr hfirst
        · cases h

theorem isKeyed_scanEntries : ∀ {fuel room : Nat} {cs rest : List Char} {entries result : Entries},
    scanEntries fuel room entries cs = some (result, rest) → entries.IsKeyed → result.IsKeyed
  | 0, _, _, _, _, _, h, _ => by
      unfold scanEntries at h
      cases h
  | fuel + 1, room, cs, rest, entries, result, h, hentries => by
      unfold scanEntries at h
      split at h
      · cases h
        exact hentries
      · obtain ⟨⟨path, key, after⟩, _, h⟩ := Option.bind_eq_some_iff.mp h
        dsimp only at h
        split at h
        · obtain ⟨⟨value, after⟩, hvalue, h⟩ := Option.bind_eq_some_iff.mp h
          obtain ⟨grown, hassign, h⟩ := Option.bind_eq_some_iff.mp h
          have hgrown := hentries.assign hassign (isKeyed_scanValue hvalue)
          split at h
          · exact isKeyed_scanEntries h hgrown
          · cases h
            exact hgrown
          · cases h
        · cases h

end

theorem isKeyed_scanStatements {fuel : Nat} {here : List String} {root result : Entries}
    {cs : List Char} (h : scanStatements fuel here root cs = some result) (hroot : root.IsKeyed) :
    result.IsKeyed := by
  induction fuel generalizing here root cs with
  | zero => cases h
  | succ fuel ih =>
      unfold scanStatements at h
      split at h
      · cases h
        exact hroot
      · obtain ⟨⟨path, key, after⟩, _, h⟩ := Option.bind_eq_some_iff.mp h
        dsimp only at h
        split at h
        · obtain ⟨grown, hopen, h⟩ := Option.bind_eq_some_iff.mp h
          obtain ⟨next, _, h⟩ := Option.bind_eq_some_iff.mp h
          exact ih h (hroot.openElement hopen)
        · cases h
      · obtain ⟨⟨path, key, after⟩, _, h⟩ := Option.bind_eq_some_iff.mp h
        dsimp only at h
        split at h
        · obtain ⟨grown, hopen, h⟩ := Option.bind_eq_some_iff.mp h
          obtain ⟨next, _, h⟩ := Option.bind_eq_some_iff.mp h
          exact ih h (hroot.openTable hopen)
        · cases h
      · split at h
        · exact ih h hroot
        · obtain ⟨⟨path, key, after⟩, _, h⟩ := Option.bind_eq_some_iff.mp h
          dsimp only at h
          split at h
          · obtain ⟨⟨value, after⟩, hvalue, h⟩ := Option.bind_eq_some_iff.mp h
            obtain ⟨grown, hassign, h⟩ := Option.bind_eq_some_iff.mp h
            obtain ⟨next, _, h⟩ := Option.bind_eq_some_iff.mp h
            exact ih h (hroot.assignAt hassign (isKeyed_scanValue hvalue))
          · cases h

/-- The tables of a text list each of their keys once. -/
theorem isKeyed_scan {text : String} {root : Entries} (h : scan text = some root) :
    root.IsKeyed :=
  isKeyed_scanStatements h Entries.isKeyed_nil

end CratePlan.Toml
