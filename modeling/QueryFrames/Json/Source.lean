import QueryFrames.Json.NumberText

/-!
JSON text as it stands, before anyone asks for a value of some type. A source keeps what reading may still object
to: repeated keys, arrays and objects nested without limit, numbers too large to hold, and strings that name half
of a surrogate pair. Whoever skips a part of a source never looks at these.
-/

namespace QueryFrames.Json

/-- The structure of a text; a number or string that has no value is `none`. -/
inductive Source where
  | null
  | bool (value : Bool)
  | number (value : Option Number)
  | string (value : Option String)
  | array (items : List Source)
  | object (members : List (Option String × Source))
deriving Repr, Inhabited

namespace Source

/-- Whether a character may stand between tokens. -/
def isGap (c : Char) : Bool :=
  c = ' ' || c = '\t' || c = '\n' || c = '\r'

/-- The text from its first token on. -/
def skipGap (text : List Char) : List Char :=
  text.dropWhile isGap

/-! ### Strings -/

/-- A piece of a string: a character, or a number given by a `\u` escape. -/
inductive Piece where
  | char (value : Char)
  | unit (value : Nat)
deriving DecidableEq, Repr

/-- The value of a hexadecimal digit. -/
def hexValue? (c : Char) : Option Nat :=
  if '0' ≤ c ∧ c ≤ '9' then some (c.toNat - 48)
  else if 'a' ≤ c ∧ c ≤ 'f' then some (c.toNat - 87)
  else if 'A' ≤ c ∧ c ≤ 'F' then some (c.toNat - 55)
  else none

/-- The number given by four hexadecimal digits. -/
def unitValue? (a b c d : Char) : Option Nat := do
  pure ((((← hexValue? a) * 16 + (← hexValue? b)) * 16 + (← hexValue? c)) * 16 + (← hexValue? d))

/-- The character meant by a letter after a backslash. -/
def escapeValue? : Char → Option Char
  | '"' => some '"'
  | '\\' => some '\\'
  | '/' => some '/'
  | 'b' => some '\x08'
  | 'f' => some '\x0c'
  | 'n' => some '\n'
  | 'r' => some '\r'
  | 't' => some '\t'
  | _ => none

/-- The pieces of a string up to its closing quote, and the text after that. -/
def readPieces : List Char → Option (List Piece × List Char)
  | [] => none
  | '"' :: text => some ([], text)
  | '\\' :: 'u' :: a :: b :: c :: d :: text => do
    let value ← unitValue? a b c d
    let (pieces, rest) ← readPieces text
    pure (.unit value :: pieces, rest)
  | '\\' :: letter :: text => do
    let value ← escapeValue? letter
    let (pieces, rest) ← readPieces text
    pure (.char value :: pieces, rest)
  | c :: text =>
    if c = '\\' ∨ c.toNat < 32 then none
    else do
      let (pieces, rest) ← readPieces text
      pure (.char c :: pieces, rest)

/-- Whether a number is the first half of a surrogate pair. -/
def isHighHalf (n : Nat) : Bool := 0xd800 ≤ n && n < 0xdc00

/-- Whether a number is the second half of a surrogate pair. -/
def isLowHalf (n : Nat) : Bool := 0xdc00 ≤ n && n < 0xe000

/-- The characters of a string; half of a surrogate pair has none. -/
def joinPieces : List Piece → Option (List Char)
  | [] => some []
  | .char c :: pieces => (joinPieces pieces).map (c :: ·)
  | .unit high :: .unit low :: pieces =>
    if isHighHalf high then
      if isLowHalf low then
        (joinPieces pieces).map (Char.ofNat (0x10000 + (high - 0xd800) * 0x400 + (low - 0xdc00)) :: ·)
      else none
    else if isLowHalf high then none
    else (joinPieces (.unit low :: pieces)).map (Char.ofNat high :: ·)
  | .unit value :: pieces =>
    if isHighHalf value || isLowHalf value then none
    else (joinPieces pieces).map (Char.ofNat value :: ·)

/-- A string after its opening quote. -/
def readString (text : List Char) : Option (Option String × List Char) := do
  let (pieces, rest) ← readPieces text
  pure ((joinPieces pieces).map String.ofList, rest)

/-! ### Values -/

/-- The text after a word that it must begin with. -/
def readWord (word text : List Char) : Option (List Char) :=
  if word.isPrefixOf text then some (text.drop word.length) else none

mutual

/-- A value at the start of a text, and the text after it; `fuel` bounds the tokens. -/
def readValue : Nat → List Char → Option (Source × List Char)
  | 0, _ => none
  | fuel + 1, text =>
    match skipGap text with
    | [] => none
    | '"' :: text => do
      let (value, rest) ← readString text
      pure (.string value, rest)
    | '[' :: text =>
      match skipGap text with
      | ']' :: rest => some (.array [], rest)
      | text => do
        let (items, rest) ← readItems fuel text
        pure (.array items, rest)
    | '\x7b' :: text =>
      match skipGap text with
      | '\x7d' :: rest => some (.object [], rest)
      | text => do
        let (members, rest) ← readMembers fuel text
        pure (.object members, rest)
    | 'n' :: text => do pure (.null, ← readWord ['u', 'l', 'l'] text)
    | 't' :: text => do pure (.bool true, ← readWord ['r', 'u', 'e'] text)
    | 'f' :: text => do pure (.bool false, ← readWord ['a', 'l', 's', 'e'] text)
    | text => do
      let (written, rest) ← NumberText.read text
      pure (.number written.value?, rest)

/-- The items of an array that has some, up to its end. -/
def readItems : Nat → List Char → Option (List Source × List Char)
  | 0, _ => none
  | fuel + 1, text => do
    let (item, rest) ← readValue fuel text
    match skipGap rest with
    | ',' :: rest => do
      let (items, rest) ← readItems fuel rest
      pure (item :: items, rest)
    | ']' :: rest => pure ([item], rest)
    | _ => none

/-- The members of an object that has some, up to its end. -/
def readMembers : Nat → List Char → Option (List (Option String × Source) × List Char)
  | 0, _ => none
  | fuel + 1, text =>
    match skipGap text with
    | '"' :: text => do
      let (key, rest) ← readString text
      match skipGap rest with
      | ':' :: rest => do
        let (value, rest) ← readValue fuel rest
        match skipGap rest with
        | ',' :: rest => do
          let (members, rest) ← readMembers fuel rest
          pure ((key, value) :: members, rest)
        | '\x7d' :: rest => pure ([(key, value)], rest)
        | _ => none
      | _ => none
    | _ => none

end

/-- The structure of a whole text; nothing but gaps stands around the value. -/
def ofText? (text : String) : Option Source := do
  let chars := text.toList
  let (source, rest) ← readValue (2 * chars.length + 2) chars
  if skipGap rest = [] then pure source else none

mutual

/-- A value taken for a source. -/
def ofJson : Json → Source
  | .null => .null
  | .bool value => .bool value
  | .number value => .number (some value)
  | .string value => .string (some value)
  | .array items => .array (ofItems items)
  | .object members => .object (ofMembers members)

/-- Items taken for sources. -/
def ofItems : List Json → List Source
  | [] => []
  | item :: items => ofJson item :: ofItems items

/-- Members taken for sources. -/
def ofMembers : List (String × Json) → List (Option String × Source)
  | [] => []
  | (key, value) :: members => (some key, ofJson value) :: ofMembers members

end

end Source

end QueryFrames.Json
