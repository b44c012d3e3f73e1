import QueryFrames.Number.Binary64

/-!
The shortest decimal that reads back as a given double-precision number. The reals that round to the number form
an interval, closed exactly when its significand is even. For one digit, then two, and so on, the two decimals
of that length next to the number are tried; the first length with a hit wins, and of two hits the nearer one.
-/

namespace QueryFrames

/-- The decimal `digits · 10^exponent`. -/
structure Decimal where
  digits : Nat
  exponent : Int
deriving DecidableEq, Repr

namespace Binary64

/-- The number and the ends of its interval, as numerators over one denominator. -/
structure Interval where
  low : Nat
  value : Nat
  high : Nat
  den : Nat
  closed : Bool

/-- The interval of a number; below a power of two the next number is only half as far away. -/
def interval (x : Binary64) : Interval :=
  let unit := Nat.pow 2 x.exponent.toNat
  let below := if x.significand = Nat.pow 2 52 ∧ -1074 < x.exponent then 1 else 2
  { low := (4 * x.significand - below) * unit
    value := 4 * x.significand * unit
    high := (4 * x.significand + 2) * unit
    den := 4 * Nat.pow 2 (-x.exponent).toNat
    closed := x.significand % 2 = 0 }

/-- The power of ten in the leading place of a positive quotient. -/
def leadingExponent (num den : Nat) : Int :=
  if den ≤ num then ((Nat.toDigits 10 (num / den)).length : Int) - 1
  else
    let places := (Nat.toDigits 10 (den / num)).length
    if den ≤ num * Nat.pow 10 (places - 1) then 1 - (places : Int) else -(places : Int)

/-- The decimal of `length` digits that reads back, if one of the two neighbours does. -/
def Interval.ofLength? (range : Interval) (lead : Int) (length : Nat) : Option Decimal :=
  let exponent := lead - length + 1
  let up := Nat.pow 10 (-exponent).toNat
  let down := Nat.pow 10 exponent.toNat
  let floor := range.value * up / (range.den * down)
  let reads := fun digits : Nat =>
    let point := digits * down * range.den
    if range.closed then range.low * up ≤ point ∧ point ≤ range.high * up
    else range.low * up < point ∧ point < range.high * up
  let below := range.value * up - floor * down * range.den
  let above := (floor + 1) * down * range.den - range.value * up
  if reads floor ∧ reads (floor + 1) then
    if below < above ∨ below = above ∧ floor % 2 = 0 then some ⟨floor, exponent⟩
    else some ⟨floor + 1, exponent⟩
  else if reads floor then some ⟨floor, exponent⟩
  else if reads (floor + 1) then some ⟨floor + 1, exponent⟩
  else none

/-- The shortest decimal that reads back as a number, without its sign. -/
def shortest (x : Binary64) : Decimal :=
  if x.significand = 0 then ⟨0, 0⟩
  else
    let range := x.interval
    let lead := leadingExponent range.value range.den
    ((List.range 18).findSome? fun length => range.ofLength? lead (length + 1)).getD ⟨0, 0⟩

end Binary64

end QueryFrames
