/-!
Characters and strings of a configuration text. A string stands between double quotes, with escapes, or between
single quotes, without; tripled quotes let it run over several lines, whose ends it keeps as they are written. A
closing triple may be preceded by up to two more of its quotes, which belong to the string.
-/

namespace QueryFrames.Toml

/-- Whether a character separates tokens on a line. -/
def isBlank (c : Char) : Bool :=
  c = ' ' || c = '\t'

/-- Whether a character may stand in a comment or, quotes and backslashes apart, in a string on one line. -/
def isPlain (c : Char) : Bool :=
  c = '\t' || (32 ≤ c.toNat && c.toNat ≠ 127)

/-- The text after the blanks in front of it. -/
def skipBlanks (text : List Char) : List Char :=
  text.dropWhile isBlank

/-- The text from the next token on, over blanks, line ends and comments; inside a comment at first if
`inComment`. -/
def skipGap (inComment : Bool) : List Char → Option (List Char)
  | [] => some []
  | '\r' :: '\n' :: text => skipGap false text
  | c :: text =>
    if c = '\n' then skipGap false text
    else if inComment then if isPlain c then skipGap true text else none
    else if isBlank c then skipGap false text
    else if c = '#' then skipGap true text
    else some (c :: text)

/-- The text of the next line; only blanks and a comment may be left on this one. -/
def endLine (inComment : Bool) : List Char → Option (List Char)
  | [] => some []
  | '\r' :: '\n' :: text => some text
  | c :: text =>
    if c = '\n' then some text
    else if inComment then if isPlain c then endLine true text else none
    else if isBlank c then endLine false text
    else if c = '#' then endLine true text
    else none

/-! ### Escapes -/

/-- The value of a digit in some base up to sixteen. -/
def digitValue? (base : Nat) (c : Char) : Option Nat :=
  let value :=
    if '0' ≤ c ∧ c ≤ '9' then c.toNat - 48
    else if 'a' ≤ c ∧ c ≤ 'f' then c.toNat - 87
    else if 'A' ≤ c ∧ c ≤ 'F' then c.toNat - 55
    else base
  if value < base then some value else none

/-- The character of a code point written with exactly `width` hexadecimal digits, and the text after it. -/
def readCodePoint (width : Nat) (text : List Char) : Option (Char × List Char) := do
  let digits ← (text.take width).mapM (digitValue? 16)
  let value := digits.foldl (fun value digit => value * 16 + digit) 0
  if digits.length = width ∧ value.isValidChar then pure (Char.ofNat value, text.drop width) else none

/-- The character that an escape means, read from after its backslash. -/
def readEscape : List Char → Option (Char × List Char)
  | '"' :: text => some ('"', text)
  | '\\' :: text => some ('\\', text)
  | 'b' :: text => some ('\x08', text)
  | 'e' :: text => some ('\x1b', text)
  | 'f' :: text => some ('\x0c', text)
  | 'n' :: text => some ('\n', text)
  | 'r' :: text => some ('\r', text)
  | 't' :: text => some ('\t', text)
  | 'x' :: text => readCodePoint 2 text
  | 'u' :: text => readCodePoint 4 text
  | 'U' :: text => readCodePoint 8 text
  | _ => none

/-- The text after blanks and line ends. -/
def skipLines : List Char → List Char
  | [] => []
  | '\r' :: '\n' :: text => skipLines text
  | c :: text => if isBlank c || c = '\n' then skipLines text else c :: text

/-- The text after a line end, if only blanks come before it, and after all blank space that follows. -/
def skipFold (text : List Char) : Option (List Char) :=
  match skipBlanks text with
  | '\n' :: text => some (skipLines text)
  | '\r' :: '\n' :: text => some (skipLines text)
  | _ => none

/-! ### Strings -/

/-- How a string is written. -/
structure StringForm where
  quote : Char
  multiline : Bool
deriving DecidableEq, Repr

/-- Whether backslashes mean something in a string. -/
def StringForm.escapes (form : StringForm) : Bool :=
  form.quote = '"'

/-- The quotes that belong to a string at its end, and the text after the string, if it ends here. -/
def StringForm.close? (form : StringForm) (text : List Char) : Option (List Char × List Char) :=
  let run := (text.takeWhile (· = form.quote)).length
  if form.multiline then
    if run < 3 then none
    else
      let kept := min (run - 3) 2
      some (List.replicate kept form.quote, text.drop (3 + kept))
  else if run = 0 then none
  else some ([], text.drop 1)

/-- The rest of a string and the text after it; each round takes a character at least, which bounds `fuel`. -/
def StringForm.readRest (form : StringForm) : Nat → List Char → Option (List Char × List Char)
  | 0, _ => none
  | fuel + 1, text =>
    match form.close? text with
    | some ended => some ended
    | none =>
      match text with
      | [] => none
      | '\r' :: '\n' :: text => do
        if !form.multiline then none
        let (value, rest) ← form.readRest fuel text
        pure ('\r' :: '\n' :: value, rest)
      | c :: text =>
        if form.escapes ∧ c = '\\' then
          match if form.multiline then skipFold text else none with
          | some text => form.readRest fuel text
          | none => do
            let (escaped, text) ← readEscape text
            let (value, rest) ← form.readRest fuel text
            pure (escaped :: value, rest)
        else if isPlain c || (form.multiline && c = '\n') then do
          let (value, rest) ← form.readRest fuel text
          pure (c :: value, rest)
        else none

/-- A string after its opening quotes. -/
def StringForm.read (form : StringForm) (text : List Char) : Option (String × List Char) := do
  let (value, rest) ← form.readRest (text.length + 1) text
  pure (String.ofList value, rest)

/-- A text without the line end it begins with. -/
def dropLineEnd : List Char → List Char
  | '\n' :: text => text
  | '\r' :: '\n' :: text => text
  | text => text

/-- A string on one line, from its opening quote. -/
def readLineString : List Char → Option (String × List Char)
  | '"' :: text => StringForm.read ⟨'"', false⟩ text
  | '\'' :: text => StringForm.read ⟨'\'', false⟩ text
  | _ => none

/-- A string from its opening quotes. -/
def readString : List Char → Option (String × List Char)
  | '"' :: '"' :: '"' :: text => StringForm.read ⟨'"', true⟩ (dropLineEnd text)
  | '\'' :: '\'' :: '\'' :: text => StringForm.read ⟨'\'', true⟩ (dropLineEnd text)
  | text => readLineString text

end QueryFrames.Toml
