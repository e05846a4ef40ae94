import CratePlan.Decimal.Binary64

/-!
The shortest decimal text of a floating-point number: the fewest digits that read back as the same
number and, of those, the digits nearest to it.
-/

namespace CratePlan.Binary64

/-- Decimal digits, read as a natural number, and the power of ten that they are multiplied by. -/
structure Digits where
  digits : Nat
  power : Int
deriving Repr, DecidableEq

/-- Digits without zeros at their end, of which at most `fuel` are dropped. -/
def Digits.normalize : Nat → Digits → Digits
  | 0, d => d
  | fuel + 1, d =>
    if d.digits % 10 = 0 ∧ d.digits ≠ 0 then normalize fuel ⟨d.digits / 10, d.power + 1⟩ else d

/-- Whether the quotient `a` is below the quotient `b`, or equal to it if `inclusive`. -/
def ratioBelow (inclusive : Bool) (a b : Nat × Nat) : Bool :=
  decide (a.1 * b.2 < b.1 * a.2) || (inclusive && a.1 * b.2 == b.1 * a.2)

/-- The quotient `count * 2 ^ e`. -/
def binaryRatio (count : Nat) (e : Int) : Nat × Nat :=
  (count * Nat.pow 2 e.toNat, Nat.pow 2 (-e).toNat)

/-- The quotient `count * 10 ^ p`. -/
def decimalRatio (count : Nat) (p : Int) : Nat × Nat :=
  (count * Nat.pow 10 p.toNat, Nat.pow 10 (-p).toNat)

/-- Whether a decimal reads back as `x`: it lies between the midpoints to the two neighbours of `x`,
ends included where the mantissa is even. -/
def readsBack (x : Binary64) (count : Nat) (p : Int) : Bool :=
  let below := if x.mantissa = Nat.pow 2 52 ∧ -1074 < x.exponent then 1 else 2
  let inclusive := x.mantissa % 2 == 0
  let d := decimalRatio count p
  ratioBelow inclusive (binaryRatio (4 * x.mantissa - below) (x.exponent - 2)) d &&
    ratioBelow inclusive d (binaryRatio (4 * x.mantissa + 2) (x.exponent - 2))

/-- The decimal exponent of a positive quotient: the largest `k` with `10 ^ k` at most it. -/
def decimalExponent (r : Nat × Nat) : Int :=
  if r.2 ≤ r.1 then ((Nat.toDigits 10 (r.1 / r.2)).length : Int) - 1
  else
    let k := (Nat.toDigits 10 (r.2 / r.1)).length
    if r.2 ≤ r.1 * Nat.pow 10 (k - 1) then -((k : Int) - 1) else -(k : Int)

/-- The nearest decimal with `n` digits that reads back as `x`, if there is one. -/
def candidate (x : Binary64) (n : Nat) : Option Digits :=
  let r := x.ratio
  let p : Int := decimalExponent r + 1 - n
  let scaled : Nat × Nat := (r.1 * Nat.pow 10 (-p).toNat, r.2 * Nat.pow 10 p.toNat)
  let low := scaled.1 / scaled.2
  let near := roundQuotient scaled.1 scaled.2
  let far := if near = low then low + 1 else low
  if readsBack x near p then some ⟨near, p⟩
  else if readsBack x far p then some ⟨far, p⟩
  else none

/-- The shortest digits of a number. Seventeen digits always suffice. -/
def shortest (x : Binary64) : Digits :=
  if x.mantissa = 0 then ⟨0, 0⟩
  else
    match (List.range 17).findSome? fun n => candidate x (n + 1) with
    | some d => d.normalize 17
    | none => ⟨0, 0⟩

/-- How the digits of a number are laid out as text: the decimal exponents that are written without
an exponent part, and the sign of an exponent above zero. -/
structure TextStyle where
  lowestPlain : Int
  highestPlain : Int
  positiveSign : String

/-- A number as text: in plain decimal notation, always with a point, where its exponent allows, and
in scientific notation otherwise. -/
def render (style : TextStyle) (x : Binary64) : String :=
  let d := x.shortest
  if d.digits = 0 then "0.0" else
  let cs := Nat.toDigits 10 d.digits
  let exponent : Int := cs.length + d.power - 1
  if style.lowestPlain ≤ exponent ∧ exponent ≤ style.highestPlain then
    if 0 ≤ d.power then String.ofList (cs ++ List.replicate d.power.toNat '0') ++ ".0"
    else if 0 ≤ exponent then
      let split := exponent.toNat + 1
      String.ofList (cs.take split) ++ "." ++ String.ofList (cs.drop split)
    else "0." ++ String.ofList (List.replicate (-exponent - 1).toNat '0' ++ cs)
  else
    let rest := cs.drop 1
    let point := if rest.isEmpty then "" else "." ++ String.ofList rest
    let sign := if exponent < 0 then "-" else style.positiveSign
    String.ofList (cs.take 1) ++ point ++ "e" ++ sign ++ toString exponent.natAbs

end CratePlan.Binary64
