import CratePlan.Json.Basic

/-!
The number that a numeral stands for. An integer of 64 bits is kept as it is; every other numeral is
read as a floating-point number from those leading digits that fit into 64 bits.
-/

namespace CratePlan

/-- A number read from a numeral. -/
inductive Number where
  | natural (n : Nat)
  | negative (n : Nat)
  | float (isNegative : Bool) (magnitude : Binary64)
deriving Repr, DecidableEq

/-- Numbers are shown in plain notation between `0.00001` and `10 ^ 16`. -/
def Number.style : Binary64.TextStyle :=
  { lowestPlain := -5, highestPlain := 15, positiveSign := "+" }

/-- A number as it is written. -/
def Number.text : Number → String
  | .natural n => s!"{n}"
  | .negative n => s!"-{n}"
  | .float isNegative x => (if isNegative then "-" else "") ++ x.render style

/-- A number with the kind of number it is. -/
def Number.describe (number : Number) : String :=
  match number with
  | .float _ _ => s!"floating point `{number.text}`"
  | _ => s!"integer `{number.text}`"

namespace Numeral

/-- The bound that the digits of a number have to stay below. -/
def wordBound : Nat := Nat.pow 2 64

/-- The longest run of leading digits that fits into a word, and the number of digits after it. -/
def leadingDigits : Nat → Nat → Nat × Nat
  | 0, n => (n, 0)
  | fuel + 1, n =>
    if n < wordBound then (n, 0)
    else
      let shorter := leadingDigits fuel (n / 10)
      (shorter.1, shorter.2 + 1)

/-- Appends digits to a number as long as it fits into a word, and counts them. -/
def appendDigits (n : Nat) : List (Fin 10) → Nat × Nat
  | [] => (n, 0)
  | d :: rest =>
    if 10 * n + d.val < wordBound then
      let longer := appendDigits (10 * n + d.val) rest
      (longer.1, longer.2 + 1)
    else (n, 0)

/-- Whether a numeral is written as an integer. -/
def isInteger (n : Numeral) : Bool :=
  n.fraction.isEmpty && n.exponent.isNone

/-- The number that a numeral stands for, or nothing if it is beyond all floating-point numbers. -/
def number? (n : Numeral) : Option Number :=
  if n.isInteger && !n.negative && decide (n.whole < wordBound) then some (.natural n.whole)
  else if n.isInteger && n.negative && n.whole != 0 && decide (n.whole ≤ Nat.pow 2 63) then
    some (.negative n.whole)
  else
    let front := leadingDigits n.whole.log2 n.whole
    let full := appendDigits front.1 n.fraction
    let exponent := (front.2 : Int) - full.2 + n.exponent.getD 0
    (Binary64.ofDecimal full.1 exponent).map (.float n.negative)

end Numeral

namespace Json

mutual

/-- Whether a value can be read in full when at most `room` more objects and lists may be open at a
time. -/
def isReadable (room : Nat) : Json → Bool
  | .broken => false
  | .unpaired => false
  | .number n => n.number?.isSome
  | .list items => room != 0 && allReadable (room - 1) items
  | .object members => room != 0 && allMembersReadable (room - 1) members
  | _ => true

/-- Whether every item can be read in full. -/
def allReadable (room : Nat) : List Json → Bool
  | [] => true
  | item :: rest => item.isReadable room && allReadable room rest

/-- Whether the name and the value of every member can be read in full. -/
def allMembersReadable (room : Nat) : List (Key × Json) → Bool
  | [] => true
  | (.text _, value) :: rest => value.isReadable room && allMembersReadable room rest
  | _ :: _ => false

end

end Json

end CratePlan
