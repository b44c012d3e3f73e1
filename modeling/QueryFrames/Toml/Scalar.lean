import QueryFrames.Toml.Basic
import QueryFrames.Toml.Text

/-!
Numbers, truth values, and points in time. Underscores may part digits. A decimal number has no zero in front of
its other digits; hexadecimal, octal and binary numbers may, and have no sign. Some texts count as numbers by their
beginning alone, and that they are none only matters to whoever asks for their value. A date and a time are checked
against the calendar and the clock, a minute of 61 seconds included.
-/

namespace QueryFrames.Toml

/-! ### Numbers -/

/-- Whether each underscore in a text stands between two digits. -/
def isParted (isDigit : Char → Bool) (text : List Char) : Bool :=
  let parts := text.splitOn '_'
  parts.tail.all (·.head?.any isDigit) && parts.dropLast.all (·.getLast?.any isDigit)

/-- A text without its underscores. -/
def dropUnderscores (text : List Char) : List Char :=
  text.filter (· ≠ '_')

/-- The values of digits, of which there is one at least; underscores are left out. -/
def digits? (base : Nat) (text : List Char) : Option (List Nat) :=
  match dropUnderscores text with
  | [] => none
  | text => text.mapM (digitValue? base)

/-- The number that digits make up. -/
def ofDigits (base : Nat) (digits : List Nat) : Nat :=
  digits.foldl (fun value digit => value * base + digit) 0

/-- Whether digits begin with a zero that could go. -/
def hasSpareZero (text : List Char) : Bool :=
  text.head? = some '0' && (dropUnderscores text).length ≠ 1

/-- A sign, if there is one, and the text after it; `true` is minus. -/
def splitSign : List Char → Bool × List Char
  | '-' :: text => (true, text)
  | '+' :: text => (false, text)
  | text => (false, text)

/-- A number negated if asked. -/
def signed (negative : Bool) (value : Nat) : Int :=
  if negative then -(value : Int) else value

/-- A whole number, which is held in 128 bits with or without a sign. -/
def ofInteger (value : Int) : Toml :=
  if -Int.pow 2 127 ≤ value ∧ value < Int.pow 2 128 then .integer value else .unreadable

/-- A whole number to a base, from after the letter that tells the base. Without digits it is unreadable. -/
def readBased? (base : Nat) (text : List Char) : Option Toml :=
  if text = [] then some .unreadable
  else if isParted (fun c => (digitValue? base c).isSome) text then
    (digits? base text).map fun digits => ofInteger (ofDigits base digits)
  else none

/-- A decimal whole number. One with underscores is taken by its first digits and their parting alone, and is
unreadable if other characters follow, among which there must be no space. -/
def readDecimal? (text : List Char) : Option Toml :=
  let (negative, unsigned) := splitSign text
  let value :=
    match digits? 10 unsigned with
    | some digits => ofInteger (signed negative (ofDigits 10 digits))
    | none => .unreadable
  match unsigned.dropWhile Char.isDigit with
  | [] => if unsigned = [] ∨ hasSpareZero unsigned then none else some value
  | '_' :: _ =>
    if unsigned.head? = some '0' ∨ ' ' ∈ text ∨ !isParted (fun c => (digitValue? 16 c).isSome) text then none
    else some value
  | _ => none

/-- The text before the first character that passes a test, and the text after that character if there is one. -/
def splitAt (test : Char → Bool) (text : List Char) : List Char × Option (List Char) :=
  match text.dropWhile (!test ·) with
  | [] => (text, none)
  | _ :: rest => (text.takeWhile (!test ·), some rest)

/-- Whether a decimal is small enough that it does not round beyond the largest double. -/
def holdsDecimal (significand : Nat) (exponent : Int) : Bool :=
  let places := (Nat.toDigits 10 significand).length + exponent
  if significand = 0 || places < 300 then true
  else if 310 < places then false
  else significand * Nat.pow 10 exponent.toNat < (Nat.pow 2 54 - 1) * Nat.pow 2 970 * Nat.pow 10 (-exponent).toNat

/-- A floating-point number, unreadable if no double holds it. -/
def readFloat? (text : List Char) : Option Toml := do
  if !isParted Char.isDigit text then none
  let (mantissa, exponent) := splitAt (fun c => c = 'e' || c = 'E') (splitSign text).2
  let (whole, fraction) := splitAt (· = '.') mantissa
  if hasSpareZero whole then none
  let whole ← digits? 10 whole
  let places ←
    match fraction with
    | none => some []
    | some fraction => digits? 10 fraction
  let power ←
    match exponent with
    | none => some 0
    | some exponent => do
      let (negative, exponent) := splitSign exponent
      pure (signed negative (ofDigits 10 (← digits? 10 exponent)))
  pure (if holdsDecimal (ofDigits 10 (whole ++ places)) (power - places.length) then .float else .unreadable)

/-- A number; a point or the letter of an exponent makes it a floating-point number. -/
def readNumber? : List Char → Option Toml
  | '0' :: 'x' :: text => readBased? 16 text
  | '0' :: 'o' :: text => readBased? 8 text
  | '0' :: 'b' :: text => readBased? 2 text
  | text => if text.any (· ∈ ['.', 'e', 'E']) then readFloat? text else readDecimal? text

/-- An infinite number, or none at all. -/
def isSpecialFloat (text : List Char) : Bool :=
  let name := (splitSign text).2
  name = ['i', 'n', 'f'] || name = ['n', 'a', 'n']

/-! ### Points in time -/

/-- A number of exactly `width` digits, and the text after it. -/
def readFixed (width : Nat) (text : List Char) : Option (Nat × List Char) := do
  let digits ← (text.take width).mapM (digitValue? 10)
  if digits.length = width then pure (ofDigits 10 digits, text.drop width) else none

/-- The text after a character that must come first. -/
def readChar (c : Char) : List Char → Option (List Char)
  | [] => none
  | first :: text => if first = c then some text else none

/-- How many days a month has. -/
def daysInMonth (year month : Nat) : Nat :=
  if month = 2 then
    if year % 4 = 0 ∧ (year % 100 ≠ 0 ∨ year % 400 = 0) then 29 else 28
  else if month = 4 ∨ month = 6 ∨ month = 9 ∨ month = 11 then 30
  else 31

/-- The text after a date. -/
def readDate (text : List Char) : Option (List Char) := do
  let (year, text) ← readFixed 4 text
  let (month, text) ← readFixed 2 (← readChar '-' text)
  let (day, text) ← readFixed 2 (← readChar '-' text)
  if 1 ≤ month ∧ month ≤ 12 ∧ 1 ≤ day ∧ day ≤ daysInMonth year month then pure text else none

/-- The text after a time of day; the seconds and their fraction may be missing. -/
def readTime (text : List Char) : Option (List Char) := do
  let (hour, text) ← readFixed 2 text
  let (minute, text) ← readFixed 2 (← readChar ':' text)
  if 23 < hour ∨ 59 < minute then none
  match text with
  | ':' :: text => do
    let (second, text) ← readFixed 2 text
    if 60 < second then none
    match text with
    | '.' :: text => if text.takeWhile Char.isDigit = [] then none else pure (text.dropWhile Char.isDigit)
    | text => pure text
  | text => pure text

/-- The text after a distance from universal time, if there is one. -/
def readOffset : List Char → Option (List Char)
  | [] => some []
  | c :: text =>
    if c = 'Z' ∨ c = 'z' then some text
    else if c = '+' ∨ c = '-' then do
      let (hour, text) ← readFixed 2 text
      let (minute, text) ← readFixed 2 (← readChar ':' text)
      if 23 < hour ∨ 59 < minute then none else pure text
    else some (c :: text)

/-- Whether a text is a date, a time, or both, with or without a distance from universal time. -/
def isDateTime (text : List Char) : Bool :=
  match readDate text with
  | some [] => true
  | some (c :: text) =>
    (c = 'T' || c = 't' || c = ' ') && (readTime text).bind readOffset = some []
  | none => readTime text = some []

/-! ### Scalars -/

/-- The value of a number, a truth value, or a point in time. -/
def scalar? (text : List Char) : Option Toml :=
  if text = ['t', 'r', 'u', 'e'] then some (.bool true)
  else if text = ['f', 'a', 'l', 's', 'e'] then some (.bool false)
  else if isSpecialFloat text then some .float
  else if isDateTime text then some .dateTime
  else readNumber? text

/-- Whether a character goes on with a scalar. -/
def isScalarChar (c : Char) : Bool :=
  c ∉ [' ', '\t', '\r', '\n', '#', ',', '=', '[', ']', '\x7b', '\x7d']

/-- Whether a scalar goes on after blanks, which it does not with a quote. -/
def resumesScalar (text : List Char) : Bool :=
  match skipBlanks text with
  | [] => false
  | c :: _ => isScalarChar c && c ≠ '"' && c ≠ '\''

/-- The characters of a scalar and the text after it. Blanks belong to it where it goes on after them, as between a
date and its time. -/
def splitScalar : List Char → List Char × List Char
  | [] => ([], [])
  | c :: text =>
    if isScalarChar c || (isBlank c && resumesScalar text) then
      let (taken, rest) := splitScalar text
      (c :: taken, rest)
    else ([], c :: text)

/-- A scalar and the text after it. -/
def readScalar (text : List Char) : Option (Toml × List Char) :=
  let (taken, rest) := splitScalar text
  (scalar? taken).map (·, rest)

end QueryFrames.Toml
