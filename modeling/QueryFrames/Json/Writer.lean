import QueryFrames.Json.Basic
import QueryFrames.Number.Shortest

/-!
Writing JSON. The text is compact, members stand in the order they are held in, and of all characters only
quotes, backslashes and controls are escaped. A double is written with the fewest digits that read back and
always shows that it is one, by a point or an exponent.
-/

namespace QueryFrames.Json

/-- One digit in small hexadecimal. -/
def hexDigit (n : Nat) : Char :=
  if n < 10 then Char.ofNat (48 + n) else Char.ofNat (87 + n)

/-- One character inside a written string. -/
def escapeChar (c : Char) : List Char :=
  if c = '"' then ['\\', '"']
  else if c = '\\' then ['\\', '\\']
  else if c = '\x08' then ['\\', 'b']
  else if c = '\t' then ['\\', 't']
  else if c = '\n' then ['\\', 'n']
  else if c = '\x0c' then ['\\', 'f']
  else if c = '\r' then ['\\', 'r']
  else if c.toNat < 32 then ['\\', 'u', '0', '0', hexDigit (c.toNat / 16), hexDigit (c.toNat % 16)]
  else [c]

/-- A written string. -/
def renderString (text : String) : List Char :=
  '"' :: text.toList.flatMap escapeChar ++ ['"']

/-- A run of zeros. -/
def zeros (count : Nat) : List Char :=
  List.replicate count '0'

/-- A decimal without trailing zeros in its digits. -/
def stripZeros (decimal : Decimal) : List Char × Int :=
  let digits := Nat.toDigits 10 decimal.digits
  let kept := (digits.reverse.dropWhile (· = '0')).reverse
  (kept, decimal.exponent + (digits.length - kept.length : Nat))

/-- A magnitude other than zero: positional where the leading place is from 10^-5 to 10^15, else with an
exponent, which always has a sign. -/
def renderMagnitude (digits : List Char) (exponent : Int) : List Char :=
  let point := (digits.length : Int) + exponent
  if 0 ≤ exponent ∧ point ≤ 16 then digits ++ zeros exponent.toNat ++ ['.', '0']
  else if 0 < point ∧ point ≤ 16 then digits.take point.toNat ++ '.' :: digits.drop point.toNat
  else if -5 < point ∧ point ≤ 0 then ['0', '.'] ++ zeros (-point).toNat ++ digits
  else
    let mantissa := if digits.length = 1 then digits else digits.take 1 ++ '.' :: digits.drop 1
    let sign := if 1 ≤ point then ['+'] else []
    mantissa ++ 'e' :: sign ++ (toString (point - 1)).toList

/-- A written double. -/
def renderFloat (x : Binary64) : List Char :=
  let sign := if x.negative then ['-'] else []
  if x.isZero then sign ++ ['0', '.', '0']
  else
    let (digits, exponent) := stripZeros x.shortest
    sign ++ renderMagnitude digits exponent

/-- A written number. -/
def renderNumber : Number → List Char
  | .whole value => (toString value).toList
  | .float value => renderFloat value

mutual

/-- The characters of a written value. -/
def renderChars : Json → List Char
  | null => ['n', 'u', 'l', 'l']
  | bool true => ['t', 'r', 'u', 'e']
  | bool false => ['f', 'a', 'l', 's', 'e']
  | number value => renderNumber value
  | string value => renderString value
  | array [] => ['[', ']']
  | array (item :: items) => '[' :: renderChars item ++ renderItems items
  | object [] => ['\x7b', '\x7d']
  | object ((key, value) :: members) =>
    '\x7b' :: renderString key ++ ':' :: renderChars value ++ renderMembers members

/-- The items after the first, and the end of the array. -/
def renderItems : List Json → List Char
  | [] => [']']
  | item :: items => ',' :: renderChars item ++ renderItems items

/-- The members after the first, and the end of the object. -/
def renderMembers : List (String × Json) → List Char
  | [] => ['\x7d']
  | (key, value) :: members => ',' :: renderString key ++ ':' :: renderChars value ++ renderMembers members

end

/-- A value as text. -/
def render (value : Json) : String :=
  String.ofList (renderChars value)

end QueryFrames.Json
