import CratePlan.OrderedMap
import Mathlib.Data.List.Basic
import Mathlib.Data.List.Induction

/-! Ordered tables: what an alteration leaves under each key, and the tables made by taking in items
one by one. Such a table lists the keys in order of first occurrence, whatever is kept for each. Where
the items of a key are collected they stand in their order, and read one key after the other the table
holds every item as often as the list does; where the latest value is kept, a key holds the value of
its last item. -/

namespace CratePlan

variable {α β κ : Type} [DecidableEq κ]

/-! ### Lists of first occurrences -/

theorem firstOccurrences_concat (items : List κ) (item : κ) :
    firstOccurrences (items ++ [item]) =
      if item ∈ firstOccurrences items then firstOccurrences items
      else firstOccurrences items ++ [item] := by
  rw [firstOccurrences, List.foldl_append]
  rfl

theorem mem_firstOccurrences {items : List κ} {item : κ} :
    item ∈ firstOccurrences items ↔ item ∈ items := by
  induction items using List.reverseRecOn with
  | nil => rfl
  | append_singleton items last ih =>
      rw [firstOccurrences_concat, List.mem_append, List.mem_singleton]
      split_ifs with hlast
      · rw [ih]
        refine ⟨Or.inl, fun h => h.elim id ?_⟩
        rintro rfl
        exact ih.mp hlast
      · rw [List.mem_append, List.mem_singleton, ih]

/-- First occurrences stand in the order in which the list first meets them. -/
theorem pairwise_firstOccurrences (items : List κ) :
    (firstOccurrences items).Pairwise fun a b => items.idxOf a < items.idxOf b := by
  induction items using List.reverseRecOn with
  | nil => exact List.Pairwise.nil
  | append_singleton items last ih =>
      have hold : ∀ a ∈ firstOccurrences items, (items ++ [last]).idxOf a = items.idxOf a :=
        fun a ha => List.idxOf_append_of_mem (mem_firstOccurrences.mp ha)
      have hpairs : (firstOccurrences items).Pairwise
          fun a b => (items ++ [last]).idxOf a < (items ++ [last]).idxOf b :=
        ih.imp_of_mem fun ha hb hlt => by rwa [hold _ ha, hold _ hb]
      rw [firstOccurrences_concat]
      split_ifs with hlast
      · exact hpairs
      · refine List.pairwise_append.mpr ⟨hpairs, List.pairwise_singleton _ _, fun a ha b hb => ?_⟩
        obtain rfl := List.mem_singleton.mp hb
        have hnew : b ∉ items := fun hmem => hlast (mem_firstOccurrences.mpr hmem)
        rw [hold a ha, List.idxOf_append_of_notMem hnew]
        exact Nat.lt_of_lt_of_le (List.idxOf_lt_length_of_mem (mem_firstOccurrences.mp ha))
          (Nat.le_add_right _ _)

theorem nodup_firstOccurrences (items : List κ) : (firstOccurrences items).Nodup :=
  (pairwise_firstOccurrences items).imp fun hlt heq => absurd (heq ▸ hlt) (Nat.lt_irrefl _)

/-! ### Values of a table -/

namespace OrderedMap

theorem mem_of_find? {table : OrderedMap κ α} {key : κ} {value : α}
    (h : table.find? key = some value) : (key, value) ∈ table.entries := by
  obtain ⟨entry, hfind, rfl⟩ := Option.map_eq_some_iff.mp h
  have hkey : entry.1 = key := by simpa using List.find?_some hfind
  exact hkey ▸ List.mem_of_find?_eq_some hfind

theorem forall_alterEntries {P : α → Prop} {key : κ} {value : α} {entries : List (κ × α)}
    (hvalue : P value) (h : ∀ entry ∈ entries, P entry.2) :
    ∀ entry ∈ alterEntries key (fun _ => value) entries, P entry.2 := by
  induction entries with
  | nil => simpa [alterEntries] using hvalue
  | cons entry rest ih =>
      rw [List.forall_mem_cons] at h
      rw [alterEntries]
      split_ifs
      · exact List.forall_mem_cons.mpr ⟨hvalue, h.2⟩
      · exact List.forall_mem_cons.mpr ⟨h.1, ih h.2⟩

/-- What holds of the values of a table and of those inserted holds of all values afterwards. -/
theorem forall_insertAll {P : α → Prop} {table : OrderedMap κ α} {list : List (κ × α)}
    (htable : ∀ entry ∈ table.entries, P entry.2) (hlist : ∀ entry ∈ list, P entry.2) :
    ∀ entry ∈ (table.insertAll list).entries, P entry.2 := by
  induction list generalizing table with
  | nil => exact htable
  | cons entry rest ih =>
      rw [List.forall_mem_cons] at hlist
      exact ih (forall_alterEntries hlist.1 htable) hlist.2

end OrderedMap

/-! ### Keys and lookups -/

namespace OrderedMap

theorem map_fst_alterEntries (key : κ) (change : Option β → β) (entries : List (κ × β)) :
    (alterEntries key change entries).map Prod.fst =
      if key ∈ entries.map Prod.fst then entries.map Prod.fst
      else entries.map Prod.fst ++ [key] := by
  induction entries with
  | nil => rfl
  | cons entry rest ih =>
      rw [alterEntries]
      by_cases hkey : entry.1 = key
      · rw [if_pos hkey, List.map_cons, List.map_cons, if_pos (hkey ▸ List.mem_cons_self)]
      · rw [if_neg hkey, List.map_cons, List.map_cons, ih]
        simp only [List.mem_cons, Ne.symm hkey, false_or]
        split_ifs <;> rfl

theorem alterEntries_of_notMem {key : κ} {change : Option β → β} {entries : List (κ × β)}
    (h : key ∉ entries.map Prod.fst) :
    alterEntries key change entries = entries ++ [(key, change none)] := by
  induction entries with
  | nil => rfl
  | cons entry rest ih =>
      rw [List.map_cons, List.mem_cons, not_or] at h
      rw [alterEntries, if_neg (Ne.symm h.1), ih h.2, List.cons_append]

theorem find?_alterEntries (key k : κ) (change : Option β → β) (entries : List (κ × β)) :
    find? ⟨alterEntries key change entries⟩ k =
      if k = key then some (change (find? ⟨entries⟩ key)) else find? ⟨entries⟩ k := by
  induction entries with
  | nil => by_cases hk : k = key <;> simp [alterEntries, find?, hk, Ne.symm]
  | cons entry rest ih =>
      simp only [find?] at ih ⊢
      rw [alterEntries]
      by_cases hkey : entry.1 = key
      · subst hkey
        by_cases hk : entry.1 = k
        · simp [hk]
        · simp [hk, Ne.symm hk]
      · by_cases hk : entry.1 = k
        · subst hk
          simp [hkey]
        · simp [hkey, hk, ih]

theorem keys_alter (table : OrderedMap κ β) (key : κ) (change : Option β → β) :
    (table.alter key change).keys =
      if key ∈ table.keys then table.keys else table.keys ++ [key] :=
  map_fst_alterEntries key change table.entries

theorem find?_alter (table : OrderedMap κ β) (key k : κ) (change : Option β → β) :
    (table.alter key change).find? k =
      if k = key then some (change (table.find? key)) else table.find? k :=
  find?_alterEntries key k change table.entries

/-- In a table that lists each key once, every entry is the one that its key leads to. -/
theorem find?_of_mem {table : OrderedMap κ α} (hkeys : table.keys.Nodup) {key : κ} {value : α}
    (h : (key, value) ∈ table.entries) : table.find? key = some value := by
  obtain ⟨before, after, hentries⟩ := List.append_of_mem h
  have hbefore : ∀ entry ∈ before, ¬decide (entry.1 = key) = true := by
    intro entry hentry heq
    rw [keys, hentries, List.map_append, List.map_cons] at hkeys
    have hdisjoint := (List.nodup_append.mp hkeys).2.2
    exact hdisjoint entry.1 (List.mem_map_of_mem hentry) key List.mem_cons_self
      (of_decide_eq_true heq)
  rw [find?, hentries, List.find?_append, List.find?_eq_none.mpr hbefore, Option.none_or]
  exact congrArg (Option.map Prod.snd) (List.find?_cons_of_pos (decide_eq_true rfl))

/-- A table that lists each key once is told by its keys and by what they lead to. -/
theorem entries_eq_map {table : OrderedMap κ α} (hkeys : table.keys.Nodup) {value : κ → α}
    (h : ∀ key ∈ table.keys, table.find? key = some (value key)) :
    table.entries = table.keys.map fun key => (key, value key) := by
  rw [keys, List.map_map]
  refine (List.map_id _).symm.trans (List.map_congr_left fun entry hentry => ?_)
  have hfound := h entry.1 (List.mem_map_of_mem hentry)
  rw [find?_of_mem hkeys hentry] at hfound
  exact Prod.ext rfl (Option.some.inj hfound)

end OrderedMap

/-! ### Items under their keys -/

namespace OrderedMap

section

variable (key : α → κ) (change : α → Option β → β) (items : List α)

/-- The table that takes in one item after the other, each under its key. -/
def takeIn : OrderedMap κ β :=
  items.foldl (fun table item => table.alter (key item) (change item)) {}

theorem takeIn_concat (last : α) :
    takeIn key change (items ++ [last]) =
      (takeIn key change items).alter (key last) (change last) := by
  rw [takeIn, List.foldl_append]
  rfl

/-- The keys come in the order in which the items first have them. -/
theorem keys_takeIn : (takeIn key change items).keys = firstOccurrences (items.map key) := by
  induction items using List.reverseRecOn with
  | nil => rfl
  | append_singleton items last ih =>
      rw [takeIn_concat, keys_alter, ih, List.map_append, List.map_singleton,
        firstOccurrences_concat]

theorem nodup_keys_takeIn : (takeIn key change items).keys.Nodup := by
  rw [keys_takeIn]
  exact nodup_firstOccurrences _

/-- What a key leads to has seen the items with that key, in their order, and no others. -/
theorem find?_takeIn (k : κ) :
    (takeIn key change items).find? k =
      (items.filter fun item => key item = k).foldl
        (fun value item => some (change item value)) none := by
  induction items using List.reverseRecOn with
  | nil => rfl
  | append_singleton items last ih =>
      rw [takeIn_concat, find?_alter, List.filter_append]
      by_cases hk : k = key last
      · subst hk
        rw [if_pos rfl, ih, List.filter_cons_of_pos (by simp), List.filter_nil, List.foldl_append]
        rfl
      · rw [if_neg hk, ih, List.filter_cons_of_neg (by simpa using Ne.symm hk), List.filter_nil,
          List.append_nil]

end

theorem foldl_collect (value : α → β) (start : List β) (items : List α) :
    items.foldl (fun members item => some (members.getD [] ++ [value item])) (some start) =
      some (start ++ items.map value) := by
  induction items generalizing start with
  | nil => rw [List.map_nil, List.append_nil]; rfl
  | cons item rest ih =>
      rw [List.foldl_cons, Option.getD_some, ih, List.map_cons, List.append_assoc]
      rfl

/-- Collecting items one after the other lists every key once, where it first occurs, with the
values of its items in their order. -/
theorem entries_collect (key : α → κ) (value : α → β) (items : List α) :
    (items.foldl (fun table item => table.alter (key item) fun members =>
        members.getD [] ++ [value item]) ({} : OrderedMap κ (List β))).entries =
      (firstOccurrences (items.map key)).map fun k =>
        (k, (items.filter fun item => key item = k).map value) := by
  let change (item : α) (members : Option (List β)) := members.getD [] ++ [value item]
  rw [← keys_takeIn key change]
  refine entries_eq_map (nodup_keys_takeIn key change items) fun k hk => ?_
  rw [keys_takeIn, mem_firstOccurrences, List.mem_map] at hk
  obtain ⟨item, hitem, hkey⟩ := hk
  have hmem : item ∈ items.filter fun item => key item = k :=
    List.mem_filter.mpr ⟨hitem, decide_eq_true hkey⟩
  obtain ⟨first, rest, hmembers⟩ := List.exists_cons_of_ne_nil (List.ne_nil_of_mem hmem)
  rw [find?_takeIn, hmembers, List.foldl_cons]
  exact foldl_collect value [value first] rest

/-- Where each item replaces the one before it, a key leads to the last item that has it. -/
theorem find?_takeIn_last (key : α → κ) (items : List α) (k : κ) :
    (takeIn key (fun item _ => item) items).find? k =
      (items.filter fun item => key item = k).getLast? := by
  rw [find?_takeIn]
  induction items.filter fun item => key item = k using List.reverseRecOn with
  | nil => rfl
  | append_singleton members last _ =>
      rw [List.foldl_append, List.getLast?_append]
      rfl

/-- Items with different keys stay as they are, each with an entry of its own. -/
theorem entries_takeIn_of_nodup {key : α → κ} {change : α → Option β → β} {items : List α}
    (h : (items.map key).Nodup) :
    (takeIn key change items).entries = items.map fun item => (key item, change item none) := by
  induction items using List.reverseRecOn with
  | nil => rfl
  | append_singleton items last ih =>
      rw [List.map_append, List.map_singleton, List.nodup_append] at h
      obtain ⟨hitems, _, hlast⟩ := h
      have hnew : key last ∉ (takeIn key change items).entries.map Prod.fst := by
        rw [ih hitems, List.map_map]
        exact fun hmem => hlast _ hmem _ (List.mem_singleton_self _) rfl
      rw [takeIn_concat, alter, alterEntries_of_notMem hnew, ih hitems, List.map_append,
        List.map_singleton]

end OrderedMap

/-- A list parted by a complete list of keys is a rearrangement of itself. -/
theorem flatMap_filter_perm {key : α → κ} {keys : List κ} (hnodup : keys.Nodup) {items : List α}
    (hkeys : ∀ item ∈ items, key item ∈ keys) :
    (keys.flatMap fun k => items.filter fun item => key item = k).Perm items := by
  induction keys generalizing items with
  | nil =>
      have hnil : items = [] :=
        List.eq_nil_iff_forall_not_mem.mpr fun item hitem => List.not_mem_nil (hkeys item hitem)
      rw [hnil, List.flatMap_nil]
  | cons k rest ih =>
      obtain ⟨hk, hrest⟩ := List.nodup_cons.mp hnodup
      have hothers : (rest.flatMap fun x => items.filter fun item => key item = x) =
          rest.flatMap fun x => (items.filter fun item => !decide (key item = k)).filter
            fun item => key item = x := by
        refine List.flatMap_congr fun x hx => ?_
        have hxk : x ≠ k := ne_of_mem_of_not_mem hx hk
        rw [List.filter_filter]
        refine List.filter_congr fun item _ => ?_
        by_cases hitem : key item = x
        · simp [hitem, hxk]
        · simp [hitem]
      rw [List.flatMap_cons, hothers]
      refine List.Perm.trans (List.Perm.append_left _ (ih hrest fun item hitem => ?_))
        (List.filter_append_perm (fun item => decide (key item = k)) items)
      obtain ⟨hmem, hne⟩ := List.mem_filter.mp hitem
      refine (List.mem_cons.mp (hkeys item hmem)).resolve_left fun heq => ?_
      simp [heq] at hne

end CratePlan
