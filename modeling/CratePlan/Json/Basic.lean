import CratePlan.Decimal.Shortest

/-!
JSON values, and what becomes of a text that is not quite JSON.

A text always denotes a value: where it stops being JSON, the value holds `broken` in that place and
nothing after it. A reader that walks a value in the order of its text therefore meets a fault of
form exactly where the text has it, after everything that stands before it. A string whose escapes
hold half of a surrogate pair is well formed but has no characters; it is kept as `unpaired`.
-/

namespace CratePlan

/-- A number as it is written: an integer part, the digits after the point, none if there is no
point, and an exponent if one is written. -/
structure Numeral where
  negative : Bool
  whole : Nat
  fraction : List (Fin 10) := []
  exponent : Option Int := none
deriving Repr, DecidableEq

/-- The numeral of a natural number. -/
def Numeral.ofNat (n : Nat) : Numeral :=
  { negative := false, whole := n }

/-- What stands in an object where the name of a member belongs. -/
inductive Key where
  /-- A name. -/
  | text (s : String)
  /-- A string whose escapes hold half of a surrogate pair. -/
  | unpaired
  /-- No string at all. -/
  | stray
deriving Repr, DecidableEq

/-- A JSON value, broken off where its text stops being JSON. Members keep their order and may
repeat a name; a `stray` key ends its object, with a broken value. -/
inductive Json where
  | null
  | bool (b : Bool)
  | number (n : Numeral)
  | string (s : String)
  | unpaired
  | list (items : List Json)
  | object (members : List (Key × Json))
  | broken
deriving Repr

namespace Json

/-- An object with the given names and values. -/
def ofFields (fields : List (String × Json)) : Json :=
  .object (fields.map fun field => (.text field.1, field.2))

/-- A list of strings. -/
def ofStrings (strings : List String) : Json :=
  .list (strings.map .string)

/-- A string, or null for nothing. -/
def ofOption (s : Option String) : Json :=
  s.elim .null .string

/-- A natural number. -/
def ofNat (n : Nat) : Json :=
  .number (.ofNat n)

mutual

/-- Whether a value is nowhere broken off. Such a value can be passed over, whatever its strings,
its numbers and its depth. -/
def isWhole : Json → Bool
  | .broken => false
  | .list items => allWhole items
  | .object members => allMembersWhole members
  | _ => true

/-- Whether every item is nowhere broken off. -/
def allWhole : List Json → Bool
  | [] => true
  | item :: rest => item.isWhole && allWhole rest

/-- Whether every member has a string for its name and is nowhere broken off. -/
def allMembersWhole : List (Key × Json) → Bool
  | [] => true
  | (key, value) :: rest => key != .stray && value.isWhole && allMembersWhole rest

end

end Json

end CratePlan
