/-!
Binary floating-point numbers of 64 bits, without their signs, as exact values: a natural mantissa
times a power of two. Every operation computes the exact quotient and rounds it once, to the
nearest number and from a tie to the even mantissa. Powers are spelled `Nat.pow`, so that they are
the same powers in modules that know of monoids.
-/

namespace CratePlan

/-- The number `mantissa * 2 ^ exponent`. A rounded number has a mantissa below `2 ^ 53` and an
exponent between `-1074` and `971`. -/
structure Binary64 where
  mantissa : Nat
  exponent : Int
deriving Repr, DecidableEq

namespace Binary64

/-- The integer nearest to a quotient; from a tie, the even one. -/
def roundQuotient (num den : Nat) : Nat :=
  let q := num / den
  let r := num % den
  if 2 * r < den then q else if den < 2 * r then q + 1 else q + q % 2

/-- The quotient `num / den` divided by `2 ^ e`, as numerator and denominator. -/
def scaleDown (num den : Nat) (e : Int) : Nat × Nat :=
  (num * Nat.pow 2 (-e).toNat, den * Nat.pow 2 e.toNat)

/-- The number nearest to a quotient, or nothing if that is beyond the largest number. -/
def ofRatio (num den : Nat) : Option Binary64 :=
  if num = 0 then some ⟨0, 0⟩ else
  let guess : Int := (num.log2 : Int) - den.log2 - 53
  let trial := scaleDown num den guess
  let e := max (if trial.1 / trial.2 < Nat.pow 2 53 then guess else guess + 1) (-1074)
  let scaled := scaleDown num den e
  let m := roundQuotient scaled.1 scaled.2
  let x : Binary64 := if m = Nat.pow 2 53 then ⟨Nat.pow 2 52, e + 1⟩ else ⟨m, e⟩
  if x.exponent ≤ 971 then some x else none

/-- The number as a quotient. -/
def ratio (x : Binary64) : Nat × Nat :=
  (x.mantissa * Nat.pow 2 x.exponent.toNat, Nat.pow 2 (-x.exponent).toNat)

/-- The rounded product. -/
def times (x y : Binary64) : Option Binary64 :=
  ofRatio (x.ratio.1 * y.ratio.1) (x.ratio.2 * y.ratio.2)

/-- The rounded quotient. -/
def dividedBy (x y : Binary64) : Option Binary64 :=
  ofRatio (x.ratio.1 * y.ratio.2) (x.ratio.2 * y.ratio.1)

/-- Multiplies a number by a power of ten which is itself rounded. A negative power that is out of
range is applied in steps of `10 ^ 308`, of which `steps` more are taken before nothing is left of
the number. -/
def timesPowerOfTen : Nat → Binary64 → Int → Option Binary64
  | steps, x, e =>
    if e.natAbs ≤ 308 then do
      let power ← ofRatio (Nat.pow 10 e.natAbs) 1
      if 0 ≤ e then x.times power else x.dividedBy power
    else if x.mantissa = 0 then some x
    else if 0 ≤ e then none
    else match steps with
      | 0 => some ⟨0, 0⟩
      | steps + 1 => do
        let power ← ofRatio (Nat.pow 10 308) 1
        timesPowerOfTen steps (← x.dividedBy power) (e + 308)

/-- The number for `significand * 10 ^ exponent`, or nothing if it is beyond the largest number.
The significand is rounded before the power of ten is applied. -/
def ofDecimal (significand : Nat) (exponent : Int) : Option Binary64 := do
  timesPowerOfTen 3 (← ofRatio significand 1) exponent

end Binary64

end CratePlan
