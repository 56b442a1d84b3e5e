import Birthright.Decimal.Binary
import Birthright.Text.Numeral

/-!
# Shortest decimal digits

The decimal written for a binary number is the one with the fewest digits among those that round
to the number, and of these the closest to it. The decimals with `k` as their last power of ten
form a grid; where a grid has a point that rounds to the number, one of the number's two
neighbours on the grid does. So the coarsest grid with such a neighbour gives the digits.
-/

namespace Birthright.Decimal

/-- A positive decimal `digits * 10 ^ power`. -/
structure Scaled where
  digits : Nat
  power : Int
  deriving DecidableEq, Repr

/--
The closer of the number's two neighbours on the grid of `10 ^ power`, among those that round to
the number. All amounts are counted in quarters of the number's last binary place.
-/
def gridPoint? (x : Binary) (power : Int) : Option Scaled :=
  let value := 4 * x.significand
  let halfBelow := if x.significand = twoTo 52 ∧ x.exponent ≠ -1074 then 1 else 2
  let grid := Text.tenTo power.toNat * twoTo (2 - x.exponent).toNat
  let place := twoTo (x.exponent - 2).toNat * Text.tenTo (-power).toNat
  let roundsTo (c : Nat) : Bool :=
    if x.significand % 2 = 0 then
      (value - halfBelow) * place ≤ c * grid && c * grid ≤ (value + 2) * place
    else (value - halfBelow) * place < c * grid && c * grid < (value + 2) * place
  let below := value * place / grid
  let toBelow := value * place - below * grid
  let toAbove := (below + 1) * grid - value * place
  let first := if toBelow < toAbove ∨ (toBelow = toAbove ∧ below % 2 = 0) then below else below + 1
  let second := if first = below then below + 1 else below
  if roundsTo first then some ⟨first, power⟩
  else if roundsTo second then some ⟨second, power⟩
  else none

/-- The shortest decimal of a number that is not zero. -/
def shortest (x : Binary) : Scaled :=
  ((List.range 660).findSome? fun (i : Nat) => gridPoint? x (310 - (i : Int))).getD ⟨0, 0⟩

example : shortest ⟨false, 7205759403792794, -56⟩ = ⟨1, -1⟩ := by decide +kernel
example : shortest ⟨false, 1, -1074⟩ = ⟨5, -324⟩ := by decide +kernel
example : shortest ⟨false, twoTo 52, 12⟩ = ⟨18446744073709552, 3⟩ := by decide +kernel

/-! ## Layout -/

/-- How a shortest decimal is laid out. -/
structure Layout where
  /-- The least exponent of the leading digit that is written in places. -/
  leastPlain : Int
  /-- The greatest exponent of the leading digit that is written in places. -/
  greatestPlain : Int

/-- The digits with a point after the first `whole` of them, and zeros where there are none. -/
def withPoint (digits : List Char) (whole : Int) : List Char :=
  if whole ≤ 0 then ['0', '.'] ++ List.replicate (-whole).toNat '0' ++ digits
  else
    let front := digits.take whole.toNat
    let back := digits.drop whole.toNat
    front ++ List.replicate (whole.toNat - front.length) '0' ++ ['.'] ++
      (if back.isEmpty then ['0'] else back)

/-- One digit, a point before the others if there are any, and the signed exponent. -/
def withExponent (digits : List Char) (exponent : Int) : List Char :=
  let sign := if exponent < 0 then '-' else '+'
  let point := if digits.length ≤ 1 then [] else ['.']
  digits.take 1 ++ point ++ digits.drop 1 ++ ['e', sign] ++ Text.decimal exponent.natAbs

/-- The text of a number in a layout. -/
def Layout.text (n : Layout) (x : Binary) : List Char :=
  let sign := if x.negative then ['-'] else []
  if x.significand = 0 then sign ++ ['0', '.', '0']
  else
    let s := shortest x
    let digits := Text.decimal s.digits
    let exponent := s.power + digits.length - 1
    sign ++
      if n.leastPlain ≤ exponent ∧ exponent ≤ n.greatestPlain then withPoint digits (exponent + 1)
      else withExponent digits exponent

end Birthright.Decimal
