/-!
Tables that keep their entries in the order in which their keys first came. A later entry for a
known key replaces the value and keeps the place.
-/

namespace CratePlan

/-- A table from keys to values in order of first insertion. -/
structure OrderedMap (κ α : Type) where
  entries : List (κ × α) := []
deriving Repr, DecidableEq

namespace OrderedMap

variable {κ α : Type} [DecidableEq κ]

/-- The table without entries. -/
def empty : OrderedMap κ α := ⟨[]⟩

/-- The value of a key. -/
def find? (m : OrderedMap κ α) (key : κ) : Option α :=
  (m.entries.find? fun entry => entry.1 = key).map Prod.snd

/-- Whether a key has a value. -/
def contains (m : OrderedMap κ α) (key : κ) : Bool :=
  (m.find? key).isSome

/-- The keys, in order of first insertion. -/
def keys (m : OrderedMap κ α) : List κ :=
  m.entries.map Prod.fst

/-- The values, in order of first insertion of their keys. -/
def values (m : OrderedMap κ α) : List α :=
  m.entries.map Prod.snd

/-- Replaces the value of the first entry for `key` by `change` of it, or adds an entry whose value
is `change` of nothing. -/
def alterEntries (key : κ) (change : Option α → α) : List (κ × α) → List (κ × α)
  | [] => [(key, change none)]
  | entry :: rest =>
    if entry.1 = key then (entry.1, change (some entry.2)) :: rest
    else entry :: alterEntries key change rest

/-- The table in which the value of `key` is changed in its place, or added at the end. -/
def alter (m : OrderedMap κ α) (key : κ) (change : Option α → α) : OrderedMap κ α :=
  ⟨alterEntries key change m.entries⟩

/-- The table in which `key` has the value `value`. -/
def insert (m : OrderedMap κ α) (key : κ) (value : α) : OrderedMap κ α :=
  m.alter key fun _ => value

/-- The table with the entries of a list inserted one after the other. -/
def insertAll (m : OrderedMap κ α) (list : List (κ × α)) : OrderedMap κ α :=
  list.foldl (fun table entry => table.insert entry.1 entry.2) m

/-- The table that arises by inserting the entries of a list. -/
def ofList (list : List (κ × α)) : OrderedMap κ α :=
  empty.insertAll list

end OrderedMap

/-- The items of a list, each once, in order of first occurrence. -/
def firstOccurrences {α : Type} [DecidableEq α] (items : List α) : List α :=
  items.foldl (fun kept item => if item ∈ kept then kept else kept ++ [item]) []

end CratePlan
