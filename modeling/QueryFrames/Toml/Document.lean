import QueryFrames.Toml.Scalar

/-!
Configuration texts. A text is a sequence of lines: headers of tables, headers of tables that repeat, and keys
with their values, which belong to the table of the last header before them. Between brackets and braces a value
may run over several lines, and a comment may end each of them.
-/

namespace QueryFrames.Toml

/-- How many arrays and inline tables may be entered one inside the other. -/
def nestingLimit : Nat := 80

/-! ### Keys -/

/-- How many parts a key with dots may have. -/
def keyLimit : Nat := 80

/-- Whether a character may stand in a key without quotes. -/
def isBareChar (c : Char) : Bool :=
  c.isAlphanum || c = '_' || c = '-'

/-- One key, with or without quotes. -/
def readKey (text : List Char) : Option (String × List Char) :=
  match text.takeWhile isBareChar with
  | [] => readLineString text
  | key => some (String.ofList key, text.dropWhile isBareChar)

/-- Keys with dots between them, the blanks around them skipped; each takes a character at least, which bounds
`fuel`. -/
def readKeys : Nat → List Char → Option (List String × String × List Char)
  | 0, _ => none
  | fuel + 1, text => do
    let (key, rest) ← readKey (skipBlanks text)
    match skipBlanks rest with
    | '.' :: rest => do
      let (parents, name, rest) ← readKeys fuel rest
      pure (key :: parents, name, rest)
    | rest => pure ([], key, rest)

/-- A key with its parents, and the text after the blanks behind it. -/
def readKeyPath (text : List Char) : Option (KeyPath × List Char) := do
  let (parents, name, rest) ← readKeys (text.length + 1) text
  if keyLimit ≤ parents.length then none else pure (⟨parents, name⟩, rest)

/-! ### Values -/

mutual

/-- A value and the text after it; `fuel` bounds the steps and `depth` the nesting. -/
def readValue : Nat → Nat → List Char → Option (Toml × List Char)
  | 0, _, _ => none
  | _ + 1, _, [] => none
  | fuel + 1, depth, c :: text =>
    if c = '"' ∨ c = '\'' then do
      let (value, rest) ← readString (c :: text)
      pure (.string value, rest)
    else if c = '[' then
      match depth with
      | 0 => none
      | depth + 1 => do
        let (items, rest) ← readItems fuel depth text
        pure (.array items, rest)
    else if c = '\x7b' then
      match depth with
      | 0 => none
      | depth + 1 => do
        let (entries, rest) ← readEntries fuel depth text
        pure (← ofEntries? entries, rest)
    else readScalar (c :: text)

/-- The items of an array up to its end; a comma may follow the last one. -/
def readItems : Nat → Nat → List Char → Option (List Toml × List Char)
  | 0, _, _ => none
  | fuel + 1, depth, text => do
    match ← skipGap false text with
    | ']' :: rest => pure ([], rest)
    | text => do
      let (item, rest) ← readValue fuel depth text
      match ← skipGap false rest with
      | ',' :: rest => do
        let (items, rest) ← readItems fuel depth rest
        pure (item :: items, rest)
      | ']' :: rest => pure ([item], rest)
      | _ => none

/-- The entries of an inline table up to its end; a comma may follow the last one. -/
def readEntries : Nat → Nat → List Char → Option (List (KeyPath × Toml) × List Char)
  | 0, _, _ => none
  | fuel + 1, depth, text => do
    match ← skipGap false text with
    | '\x7d' :: rest => pure ([], rest)
    | text => do
      let (path, rest) ← readKeyPath text
      let (value, rest) ← readValue fuel depth (← skipGap false (← readChar '=' (← skipGap false rest)))
      match ← skipGap false rest with
      | ',' :: rest => do
        let (entries, rest) ← readEntries fuel depth rest
        pure ((path, value) :: entries, rest)
      | '\x7d' :: rest => pure ([(path, value)], rest)
      | _ => none

end

/-! ### Lines -/

/-- What a line says. -/
inductive Line where
  | table (path : KeyPath)
  | element (path : KeyPath)
  | entry (path : KeyPath) (value : Toml)

/-- One line from its first token, and the text of the lines after it. -/
def readLine : List Char → Option (Line × List Char)
  | '[' :: '[' :: text => do
    let (path, rest) ← readKeyPath text
    pure (.element path, ← endLine false (← readChar ']' (← readChar ']' rest)))
  | '[' :: text => do
    let (path, rest) ← readKeyPath text
    pure (.table path, ← endLine false (← readChar ']' rest))
  | text => do
    let (path, rest) ← readKeyPath text
    let (value, rest) ←
      readValue (2 * text.length + 2) nestingLimit (skipBlanks (← readChar '=' rest))
    pure (.entry path value, ← endLine false rest)

/-- All lines that say something; each takes a character at least, which bounds `fuel`. -/
def readLines : Nat → List Char → Option (List Line)
  | 0, _ => none
  | fuel + 1, text => do
    match ← skipGap false text with
    | [] => pure []
    | text => do
      let (line, rest) ← readLine text
      pure (line :: (← readLines fuel rest))

/-! ### Documents -/

/-- A document so far, and the path of the table that entries go to. -/
structure Document where
  members : Members
  current : List String

/-- A document without lines. -/
def Document.empty : Document := ⟨[], []⟩

/-- A document with one more line. -/
def Document.add? (document : Document) : Line → Option Document
  | .table path => do
    pure ⟨(← openTable? path .header document.members).2, path.parents ++ [path.name]⟩
  | .element path => do
    pure ⟨(← openElement? path .header document.members).2, path.parents ++ [path.name]⟩
  | .entry path value => do
    pure { document with
      members := (← descend? false (assign? path value) document.current .header document.members).2 }

/-- A text without the byte order mark it may begin with. -/
def dropMark : List Char → List Char
  | '\ufeff' :: text => text
  | text => text

/-- The table of a configuration text. -/
def ofText? (text : String) : Option (List (String × Toml)) := do
  let text := dropMark text.toList
  let document ← (← readLines (text.length + 1) text).foldlM Document.add? .empty
  pure (membersToToml document.members)

end QueryFrames.Toml
