import CratePlan.Json.Number
import CratePlan.Text.Quoted

/-!
How records are read from JSON values. A value is read in the order of its text, and the first fault
that is met decides: a fault of form, or a mismatch between a well-formed value and the record.

A reader is told how many more objects and lists may be open at a time. Values of fields that a
record does not know are passed over without that limit.
-/

namespace CratePlan

/-- What a message says about a value that was found. -/
inductive Found where
  | null
  | bool (b : Bool)
  | number (n : Number)
  | text (s : String)
  | sequence
  | map
deriving Repr, DecidableEq

/-- A found value in words. -/
def Found.describe : Found → String
  | .null => "null"
  | .bool true => "boolean `true`"
  | .bool false => "boolean `false`"
  | .number n => n.describe
  | .text s => "string " ++ Text.quoted s
  | .sequence => "sequence"
  | .map => "map"

/-- Why a well-formed value does not fit a record. -/
inductive Mismatch where
  | wrongType (found : Found) (expected : String)
  | missingField (name : String)
  | duplicateField (name : String)
  | unknownVariant (name : String) (known : List String)
  /-- A variant given by a number that no variant has. -/
  | unknownIndex (index count : Nat)
  /-- A list that ends before the record does. -/
  | tooShort (length : Nat) (expected : String)
  /-- A list that goes on after the record. -/
  | tooLong (length expected : Nat)
deriving Repr, DecidableEq

/-- A count of the elements of a list. -/
def elementCount (n : Nat) : String :=
  if n = 1 then "1 element" else s!"{n} elements"

/-- A mismatch in words. -/
def Mismatch.message : Mismatch → String
  | .wrongType found expected => s!"invalid type: {found.describe}, expected {expected}"
  | .missingField name => s!"missing field `{name}`"
  | .duplicateField name => s!"duplicate field `{name}`"
  | .unknownVariant name known =>
    let list := ", ".intercalate (known.map fun variant => "`" ++ variant ++ "`")
    s!"unknown variant `{name}`, expected one of {list}"
  | .unknownIndex index count =>
    s!"invalid value: integer `{index}`, expected variant index 0 <= i < {count}"
  | .tooShort length expected => s!"invalid length {length}, expected {expected}"
  | .tooLong length expected =>
    s!"invalid length {length}, expected {elementCount expected} in sequence"

/-- Why a text cannot be read. -/
inductive ReadError where
  /-- The text is not JSON, nests too deeply, or holds a string or number that cannot be read. -/
  | malformed
  /-- The text is JSON but does not fit the record. -/
  | mismatch (cause : Mismatch)
deriving Repr, DecidableEq

/-- The result of reading. -/
abbrev Reading (α : Type) := Except ReadError α

namespace Json

/-- The failure to read a value as what was expected. -/
def misfit {α : Type} (expected : String) : Json → Reading α
  | .null => .error (.mismatch (.wrongType .null expected))
  | .bool b => .error (.mismatch (.wrongType (.bool b) expected))
  | .number n =>
    match n.number? with
    | some found => .error (.mismatch (.wrongType (.number found) expected))
    | none => .error .malformed
  | .string s => .error (.mismatch (.wrongType (.text s) expected))
  | .list _ => .error (.mismatch (.wrongType .sequence expected))
  | .object _ => .error (.mismatch (.wrongType .map expected))
  | .unpaired => .error .malformed
  | .broken => .error .malformed

/-- A value read as a string. -/
def readText : Json → Reading String
  | .string s => .ok s
  | value => value.misfit "a string"

/-- A value read as a boolean. -/
def readBool : Json → Reading Bool
  | .bool b => .ok b
  | value => value.misfit "a boolean"

/-- A value that may also be null. -/
def readOption {α : Type} (read : Json → Reading α) : Json → Reading (Option α)
  | .null => .ok none
  | value => (read value).map some

/-- Opens one more object or list and reads on, if that is still allowed. -/
def opening {α : Type} (room : Nat) (read : Nat → Reading α) : Reading α :=
  match room with
  | 0 => .error .malformed
  | room + 1 => read room

/-- Reads the items of a list, from the first to the last. -/
def readItems {α : Type} (read : Json → Reading α) : List Json → Reading (List α)
  | [] => .ok []
  | item :: rest => do
    let first ← read item
    let others ← readItems read rest
    return first :: others

/-- A value read as a list. -/
def readList {α : Type} (read : Nat → Json → Reading α) (room : Nat) : Json → Reading (List α)
  | .list items => opening room fun room => readItems (read room) items
  | value => value.misfit "a sequence"

/-- Passes over the value of a field that a record does not know. -/
def skip (value : Json) : Reading Unit :=
  if value.isWhole then .ok () else .error .malformed

/-- Reads the members of an object one after the other into what has been read so far. -/
def readMembers {σ : Type} (take : σ → String → Json → Reading σ) :
    σ → List (Key × Json) → Reading σ
  | state, [] => .ok state
  | state, (.text name, value) :: rest => do
    let state ← take state name value
    readMembers take state rest
  | _, _ :: _ => .error .malformed

/-- The value of a field that is met for the first time; a field may not be met twice. -/
def once {α : Type} (name : String) (slot : Option α) (value : Reading α) : Reading (Option α) :=
  match slot with
  | some _ => .error (.mismatch (.duplicateField name))
  | none => value.map some

/-- The value of a field that a record cannot do without. -/
def required {α : Type} (name : String) : Option α → Reading α
  | some value => .ok value
  | none => .error (.mismatch (.missingField name))

/-- The next item of a record that is given as a list, which cannot do without it. -/
def requiredItem {α : Type} (index : Nat) (expected : String) (read : Json → Reading α) :
    List Json → Reading (α × List Json)
  | [] => .error (.mismatch (.tooShort index expected))
  | item :: rest => (read item).map fun value => (value, rest)

/-- The next item of a record that is given as a list, or a default if the list has ended. -/
def optionalItem {α : Type} (default : α) (read : Json → Reading α) :
    List Json → Reading (α × List Json)
  | [] => .ok (default, [])
  | item :: rest => (read item).map fun value => (value, rest)

/-- The end of a record that is given as a list. -/
def noMoreItems : List Json → Reading Unit
  | [] => .ok ()
  | _ :: _ => .error .malformed

/-- A record read from an object or from the list of its fields. -/
def readRecord {α : Type} (expected : String) (ofMembers : Nat → List (Key × Json) → Reading α)
    (ofItems : Nat → List Json → Reading α) (room : Nat) : Json → Reading α
  | .object members => opening room fun room => ofMembers room members
  | .list items => opening room fun room => ofItems room items
  | value => value.misfit expected

end Json

end CratePlan
