import CratePlan.Toml.Moment

/-!
The values of a TOML text, and how statements build up its tables. A table remembers what defined
it, since that decides what may still be added: a header defines a table once, a table that a longer
header implied may still get its own header, a table of a dotted key can be extended by dotted keys
alone, and an inline table is closed.

The reader of this library wants text. Numbers and booleans are checked for their form but not kept.
-/

namespace CratePlan.Toml

/-- What defined a table. -/
inductive Origin where
  | header
  | implied
  | dotted
  | inline
deriving Repr, DecidableEq

/-- A value. Tables list their entries in the order in which they were defined. -/
inductive Value where
  | text (s : String)
  /-- A number or a boolean. -/
  | scalar
  | moment (moment : Moment)
  | list (items : List Value)
  /-- A list of tables, each defined by a header in double brackets. -/
  | tables (elements : List (List (String × Value)))
  | table (origin : Origin) (entries : List (String × Value))
deriving Repr

/-- The entries of a table. -/
abbrev Entries := List (String × Value)

namespace Entries

/-- Replaces the value of a key that is there. -/
def replace (key : String) (value : Value) (entries : Entries) : Entries :=
  entries.map fun entry => if entry.1 = key then (key, value) else entry

/-- Changes the table that a path leads to, making the tables on the way that are not there yet. A
path through a list of tables goes on in its last table. The path of a dotted key does not enter a
table that a header defined. -/
def update (dotted : Bool) (change : Origin → Entries → Option Entries) :
    Origin → List String → Entries → Option Entries
  | origin, [], entries => change origin entries
  | _, key :: path, entries =>
    match entries.lookup key with
    | none => do
      let origin : Origin := if dotted then .dotted else .implied
      let inner ← update dotted change origin path []
      return entries ++ [(key, .table origin inner)]
    | some (.table origin inner) =>
      if origin = .inline ∨ (dotted = true ∧ origin = .header) then none
      else do
        let inner ← update dotted change origin path inner
        return replace key (.table origin inner) entries
    | some (.tables elements) =>
      match elements.reverse with
      | [] => none
      | last :: before =>
        if dotted then none
        else do
          let last ← update dotted change .header path last
          return replace key (.tables (last :: before).reverse) entries
    | some _ => none

/-- Adds a value under a key that is not there yet. -/
def add (key : String) (value : Value) (entries : Entries) : Option Entries :=
  match entries.lookup key with
  | none => some (entries ++ [(key, value)])
  | some _ => none

/-- Adds a value under a dotted key, given as a path and a last key. -/
def assign (path : List String) (key : String) (value : Value) (entries : Entries) :
    Option Entries :=
  match path with
  | [] => add key value entries
  | _ :: _ =>
    update true (fun origin inner => if origin = .dotted then add key value inner else none)
      .header path entries

/-- Adds a value under a dotted key to the table whose header is `here`. -/
def assignAt (here path : List String) (key : String) (value : Value) (root : Entries) :
    Option Entries :=
  update false (fun _ inner => assign path key value inner) .header here root

/-- Defines the table of a header. -/
def openTable (path : List String) (key : String) (root : Entries) : Option Entries :=
  update false (fun _ inner =>
    match inner.lookup key with
    | none => some (inner ++ [(key, .table .header [])])
    | some (.table .implied entries) => some (replace key (.table .header entries) inner)
    | some _ => none) .header path root

/-- Adds a table to the list of tables of a header in double brackets. -/
def openElement (path : List String) (key : String) (root : Entries) : Option Entries :=
  update false (fun _ inner =>
    match inner.lookup key with
    | none => some (inner ++ [(key, .tables [[]])])
    | some (.tables elements) => some (replace key (.tables (elements ++ [[]])) inner)
    | some _ => none) .header path root

end Entries

end CratePlan.Toml
