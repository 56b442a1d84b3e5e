import Birthright.Decimal.Shortest
import Birthright.Json.Value

/-!
# Numbers as they are spelled

A numeral without a point and an exponent is an integer if it fits 64 bits, with or without a
sign; `-0` does not count as one. Every other numeral is a binary floating-point number.

## Rounding

The digits that fit 64 bits make the significand. The further digits before the point only count
as a power of ten, and those after the point are dropped. The significand is rounded, and the
result is multiplied or divided by the rounded power of ten and rounded again, so the last place
may differ from that of the closest number.
-/

namespace Birthright.Json

/-- A number as it is spelled: there is no point when `fraction` is empty. -/
structure Numeral where
  negative : Bool
  whole : List Char
  fraction : List Char
  exponent : Option Int
  deriving DecidableEq, Repr

namespace Numeral

open Decimal (Binary)

/-- Appends digits to a number while it stays below `2 ^ 64`; also the digits left over. -/
def absorb (n : Nat) : List Char → Nat × List Char
  | [] => (n, [])
  | c :: rest =>
    let next := n * 10 + (c.toNat - '0'.toNat)
    if next < UInt64.size then absorb next rest else (n, c :: rest)

/-- A power of ten up to the greatest that is a number of the format. -/
def powerOfTen? (e : Nat) : Option Binary := Binary.nearest? false (Text.tenTo e) 1

/-- Multiplies by a power of ten. -/
def scaleUp? (x : Binary) (e : Nat) : Option Binary :=
  if e ≤ 308 then do x.mul? (← powerOfTen? e)
  else if x.significand = 0 then some x
  else none

/-- Divides by a power of ten, by `10 ^ 308` at a time. -/
def scaleDown? (x : Binary) (e : Nat) : Option Binary :=
  if e ≤ 308 then do x.div? (← powerOfTen? e)
  else if x.significand = 0 then some x
  else do scaleDown? (← x.div? (← powerOfTen? 308)) (e - 308)
termination_by e

/-- The numeral as a floating-point number; none when that would be infinite. -/
def float? (n : Numeral) : Option Binary := do
  let (front, surplus) := absorb 0 n.whole
  let (significand, unused) := absorb front n.fraction
  let kept := n.fraction.length - unused.length
  let exponent : Int := surplus.length - kept + n.exponent.getD 0
  let x ← Binary.nearest? n.negative significand 1
  if 0 ≤ exponent then scaleUp? x exponent.toNat else scaleDown? x (-exponent).toNat

/-- The value of a numeral; none when it is beyond every number. -/
def value? (n : Numeral) : Option Json :=
  if n.fraction.isEmpty && n.exponent.isNone then
    let v := Text.digitsValue n.whole
    if n.negative then
      if 0 < v ∧ v ≤ Decimal.twoTo 63 then some (.int (-v)) else n.float?.map .float
    else if v < UInt64.size then some (.int v) else n.float?.map .float
  else n.float?.map .float

end Numeral

/-- Floating-point numbers are written in places from `0.00001` up to 16 digits before the point. -/
def floatLayout : Decimal.Layout := ⟨-5, 15⟩

end Birthright.Json
