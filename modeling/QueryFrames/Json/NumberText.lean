import QueryFrames.Json.Basic

/-!
Numbers as JSON writes them, and the values they are read as. Digits are taken into a significand while it stays
below 2^64 and only counted from then on. A number with neither point nor exponent whose digits all fit is whole;
any other is the significand, rounded, times or divided by one power of ten, rounded again.
-/

namespace QueryFrames.Json

/-- The parts of a written number, digits as their values. -/
structure NumberText where
  negative : Bool
  whole : List Nat
  fraction : Option (List Nat)
  exponent : Option (Bool × List Nat)
deriving DecidableEq, Repr

/-- The value of a digit. -/
def digitValue (c : Char) : Nat := c.toNat - 48

/-- Digits up to the first other character. -/
def takeDigits (text : List Char) : List Nat × List Char :=
  ((text.takeWhile Char.isDigit).map digitValue, text.dropWhile Char.isDigit)

namespace NumberText

/-- The part of a number after its point, if it has one. -/
def readFraction : List Char → Option (Option (List Nat) × List Char)
  | '.' :: text =>
    match takeDigits text with
    | ([], _) => none
    | (digits, rest) => some (some digits, rest)
  | text => some (none, text)

/-- The sign in front of the digits of an exponent; `true` is minus. -/
def readExponentSign : List Char → Bool × List Char
  | '-' :: text => (true, text)
  | '+' :: text => (false, text)
  | text => (false, text)

/-- The exponent of a number, if it has one. -/
def readExponent : List Char → Option (Option (Bool × List Nat) × List Char)
  | [] => some (none, [])
  | c :: text =>
    if c = 'e' ∨ c = 'E' then
      let (minus, text) := readExponentSign text
      match takeDigits text with
      | ([], _) => none
      | (digits, rest) => some (some (minus, digits), rest)
    else some (none, c :: text)

/-- A number without its sign; a zero in front has no digit after it. -/
def readUnsigned (negative : Bool) (text : List Char) : Option (NumberText × List Char) := do
  let (whole, rest) := takeDigits text
  if whole = [] ∨ (whole.head? = some 0 ∧ whole.length ≠ 1) then none
  let (fraction, rest) ← readFraction rest
  let (exponent, rest) ← readExponent rest
  pure (⟨negative, whole, fraction, exponent⟩, rest)

/-- A number and the text after it. -/
def read : List Char → Option (NumberText × List Char)
  | '-' :: text => readUnsigned true text
  | text => readUnsigned false text

/-- Takes digits into a significand below 2^64 and counts those that no longer fit. -/
def accumulate (significand : Nat) : List Nat → Nat × Nat
  | [] => (significand, 0)
  | digit :: digits =>
    if significand * 10 + digit < Nat.pow 2 64 then accumulate (significand * 10 + digit) digits
    else (significand, digits.length + 1)

/-- The double next to a power of ten up to 10^308. -/
def powerOfTen (exponent : Nat) : Binary64 :=
  (Binary64.ofRatio? false (Nat.pow 10 exponent) 1).getD (.zero false)

/-- The double for a significand and a power of ten, with one more division below 10^-308; there is none when it
is too large. -/
def scale? (significand : Nat) (exponent : Int) : Option Binary64 := do
  let value ← Binary64.ofRatio? false significand 1
  if value.isZero ∨ exponent < -616 then pure (.zero false)
  else if 308 < exponent then none
  else if 0 ≤ exponent then value.mul? (powerOfTen exponent.toNat)
  else if -308 ≤ exponent then value.div? (powerOfTen (-exponent).toNat)
  else
    let value ← value.div? (powerOfTen 308)
    value.div? (powerOfTen (-exponent - 308).toNat)

/-- The written exponent, or nothing when it has outgrown 32 bits. -/
def exponentValue? (digits : List Nat) : Option Nat :=
  let value := digits.foldl (fun value digit => value * 10 + digit) 0
  if value < Nat.pow 2 31 then some value else none

/-- The double of a number with a point, an exponent, or too many digits. -/
def float? (text : NumberText) : Option Binary64 := do
  let (significand, before) := accumulate 0 text.whole
  let fraction := text.fraction.getD []
  let (significand, dropped) := accumulate significand fraction
  let places : Int := before - (fraction.length - dropped : Nat)
  let magnitude ←
    match text.exponent with
    | none => scale? significand places
    | some (minus, digits) =>
      match exponentValue? digits with
      | some value => scale? significand (if minus then places - value else places + value)
      | none => if significand ≠ 0 ∧ !minus then none else some (.zero false)
  pure (if text.negative then magnitude.neg else magnitude)

/-- The value of a written number; a number too large for a double has none. -/
def value? (text : NumberText) : Option Number :=
  let (significand, dropped) := accumulate 0 text.whole
  if text.fraction.isSome ∨ text.exponent.isSome ∨ dropped ≠ 0 then text.float?.map .float
  else if !text.negative then some (.whole significand)
  else if significand = 0 ∨ Nat.pow 2 63 < significand then
    (Binary64.ofRatio? false significand 1).map fun value => .float value.neg
  else some (.whole (-significand))

end NumberText

end QueryFrames.Json
