import CratePlan.Json.Number
import CratePlan.Json.Scan

/-!
Values that have been stored. A store keeps the number that a numeral stands for and writes it out
again, so a numeral comes back as the one that its number is written as. That may stand for another
number, since a numeral is not always read as the nearest floating-point number.
-/

namespace CratePlan

/-- A numeral as it comes back from a store. What stands for no number stays as it is. -/
def Numeral.stored (n : Numeral) : Numeral :=
  match n.number?.bind fun number => Json.scanNumeral number.text.toList with
  | some (written, _) => written
  | none => n

namespace Json

mutual

/-- A value as it comes back from a store. -/
def stored : Json → Json
  | .number n => .number n.stored
  | .list items => .list (storedItems items)
  | .object members => .object (storedMembers members)
  | value => value

/-- Items as they come back from a store. -/
def storedItems : List Json → List Json
  | [] => []
  | item :: rest => item.stored :: storedItems rest

/-- Members as they come back from a store. -/
def storedMembers : List (Key × Json) → List (Key × Json)
  | [] => []
  | (key, value) :: rest => (key, value.stored) :: storedMembers rest

end

end Json

end CratePlan
