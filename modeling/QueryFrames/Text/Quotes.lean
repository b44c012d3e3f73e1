/-!
Quoted identifiers. An identifier stands between an opening and a closing quote, and a closing quote inside it
is written twice; nothing else is escaped.
-/

namespace QueryFrames

/-- The two characters a quoted identifier stands between. -/
structure Quotes where
  opening : Char
  closing : Char
deriving DecidableEq, Repr

namespace Quotes

/-- Grave accents on both sides. -/
def grave : Quotes := ⟨'\x60', '\x60'⟩

/-- Double quotes on both sides. -/
def double : Quotes := ⟨'"', '"'⟩

/-- Square brackets. -/
def bracket : Quotes := ⟨'[', ']'⟩

/-- An identifier with every closing quote written twice. -/
def escape (quotes : Quotes) (identifier : List Char) : List Char :=
  identifier.flatMap fun c => if c = quotes.closing then [c, c] else [c]

/-- An identifier between its quotes. -/
def quote (quotes : Quotes) (identifier : String) : String :=
  String.ofList (quotes.opening :: quotes.escape identifier.toList ++ [quotes.closing])

/-- A text without any of the two quotes. -/
def strip (quotes : Quotes) (text : String) : String :=
  String.ofList (text.toList.filter fun c => c ≠ quotes.opening ∧ c ≠ quotes.closing)

@[simp] theorem toList_quote (quotes : Quotes) (identifier : String) :
    (quotes.quote identifier).toList =
      quotes.opening :: quotes.escape identifier.toList ++ [quotes.closing] := by
  simp [quote]

@[simp] theorem escape_nil (quotes : Quotes) : quotes.escape [] = [] := rfl

theorem escape_cons (quotes : Quotes) (c : Char) (identifier : List Char) :
    quotes.escape (c :: identifier) =
      (if c = quotes.closing then [c, c] else [c]) ++ quotes.escape identifier := by
  simp [escape]

theorem escape_append (quotes : Quotes) (first second : List Char) :
    quotes.escape (first ++ second) = quotes.escape first ++ quotes.escape second := by
  simp [escape]

end Quotes

end QueryFrames
