/-!
# Binary floating-point numbers

A finite number of the 64-bit binary format is a sign, a significand below `2 ^ 53` and an
exponent from `-1074` to `971`; it stands for `± significand * 2 ^ exponent`. The significand is
at least `2 ^ 52` unless the exponent is the least one, so every number is written in one way.

Arithmetic is exact arithmetic on ratios of naturals followed by one rounding, `nearest?`, to the
closest number of the format. A half goes to the even neighbour.
-/

namespace Birthright.Decimal

/-- A power of two. -/
def twoTo (n : Nat) : Nat := Nat.pow 2 n

/-- A finite number of the 64-bit binary format. -/
structure Binary where
  negative : Bool
  significand : Nat
  exponent : Int
  deriving DecidableEq, Repr

namespace Binary

/-- The numerator and denominator of the absolute value. -/
def ratio (x : Binary) : Nat × Nat :=
  (x.significand * twoTo x.exponent.toNat, twoTo (-x.exponent).toNat)

/-- The quotient rounded to the closest natural; a half goes to the even one. -/
def roundedQuotient (num den : Nat) : Nat :=
  let q := num / den
  let twice := 2 * (num % den)
  if twice < den then q
  else if twice = den then q + q % 2
  else q + 1

/-- The greatest exponent, at least `-1074`, that leaves a significand of 53 bits or fewer. -/
def exponentOf (num den : Nat) : Int :=
  let low : Int := (num.log2 : Int) - den.log2 - 53
  let fits : Bool := num * twoTo (-low).toNat < den * twoTo (53 + low.toNat)
  max (-1074) (if fits then low else low + 1)

/-- The closest number to a ratio; none when that would be beyond the greatest number. -/
def nearest? (negative : Bool) (num den : Nat) : Option Binary :=
  if num = 0 then some ⟨negative, 0, -1074⟩
  else
    let e := exponentOf num den
    let m := roundedQuotient (num * twoTo (-e).toNat) (den * twoTo e.toNat)
    let x : Binary := if m = twoTo 53 then ⟨negative, twoTo 52, e + 1⟩ else ⟨negative, m, e⟩
    if x.exponent ≤ 971 then some x else none

/-- The product, rounded; its sign is that of the first factor. -/
def mul? (x y : Binary) : Option Binary :=
  let (a, b) := x.ratio
  let (c, d) := y.ratio
  nearest? x.negative (a * c) (b * d)

/-- The quotient by a number that is not zero, rounded; its sign is that of the dividend. -/
def div? (x y : Binary) : Option Binary :=
  let (a, b) := x.ratio
  let (c, d) := y.ratio
  nearest? x.negative (a * d) (b * c)

example : nearest? false 1 10 = some ⟨false, 7205759403792794, -56⟩ := by decide +kernel
example : nearest? true (twoTo 53 + 1) 1 = some ⟨true, twoTo 52, 1⟩ := by decide +kernel
example : nearest? false (twoTo 1024) 1 = none := by decide +kernel
example : nearest? false 1 (twoTo 1076) = some ⟨false, 0, -1074⟩ := by decide +kernel

end Binary

end Birthright.Decimal
