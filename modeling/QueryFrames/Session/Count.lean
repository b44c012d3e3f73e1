import QueryFrames.Frame.Error
import QueryFrames.Json.Writer
import QueryFrames.Session.Execution

/-!
Reading a row count from a result: the first cell of the first row, as a whole number or as its decimal digits,
from 0 to 2^64 - 1.
-/

namespace QueryFrames

/-- The value of one or more decimal digits. -/
def decimalValue? (digits : List Char) : Option Nat :=
  if digits ≠ [] ∧ digits.all Char.isDigit then
    some (digits.foldl (fun value digit => value * 10 + (digit.toNat - 48)) 0)
  else none

/-- A number below 2^64 written in decimal digits, with or without a plus sign. -/
def unsignedOfText? (text : String) : Option Nat :=
  let digits :=
    match text.toList with
    | '+' :: digits => digits
    | digits => digits
  (decimalValue? digits).filter (· < Nat.pow 2 64)

/-- The count in a cell, if it holds one. -/
def countOfCell? : Json → Option Nat
  | .number (.whole value) => if 0 ≤ value ∧ value < Int.pow 2 64 then some value.toNat else none
  | .string text => unsignedOfText? text
  | _ => none

/-- The count in the rows of a result. -/
def countOfRows (rows : List Row) : Except FrameError Nat :=
  match rows.head?.bind List.head? with
  | none => .error (.unexpectedResult "count returned no rows")
  | some cell =>
    match countOfCell? cell with
    | some count => .ok count
    | none => .error (.unexpectedResult ("count returned " ++ cell.render))

end QueryFrames
