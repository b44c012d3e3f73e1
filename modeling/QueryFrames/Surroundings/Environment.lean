import QueryFrames.Settings.Error
import QueryFrames.Text.Alphanumeric

/-!
Environment variables, and texts that name them. A text is a sequence of pieces: characters that stand for
themselves, names in braces, names that follow a dollar sign and run on as long as they can, and dollar signs
that no name follows. Expanding a text puts the value of its variable in place of every name; values are not
looked into.
-/

namespace QueryFrames

/-- Variables with their values. -/
abbrev Environment := List (String × String)

namespace Environment

/-- The definition of a variable, as a process receives it. -/
def definition (name value : String) : List Char :=
  name.toList ++ '=' :: value.toList

/-- The value of a variable. It is what follows the name and an equals sign in the first definition that begins
with both; an empty name, or one that holds a zero character, is never defined. -/
def value? (environment : Environment) (name : String) : Option String :=
  if name = "" ∨ '\x00' ∈ name.toList then none
  else
    let lead := definition name ""
    ((environment.map fun (name, value) => definition name value).find? (lead.isPrefixOf ·)).map
      fun found => String.ofList (found.drop lead.length)

end Environment

namespace Expansion

/-- A piece of a text that may name variables. -/
inductive Piece where
  | char (c : Char)
  | braced (name : List Char) (closed : Bool)
  | bare (name : List Char)
  | dollar
deriving DecidableEq, Repr

/-- The text of a piece. -/
def Piece.spelling : Piece → List Char
  | char c => [c]
  | braced name closed => '$' :: '\x7b' :: name ++ if closed then ['\x7d'] else []
  | bare name => '$' :: name
  | dollar => ['$']

/-- Whether a character can be part of a name without braces. -/
def isNameChar (c : Char) : Bool :=
  Text.isAlphanumeric c || c = '_'

theorem length_dropWhile_le (test : Char → Bool) (text : List Char) :
    (text.dropWhile test).length ≤ text.length :=
  (List.dropWhile_sublist test).length_le

theorem length_lt_of_dropWhile_eq_cons {test : Char → Bool} {text rest : List Char} {c : Char}
    (h : text.dropWhile test = c :: rest) : rest.length < text.length :=
  Nat.lt_of_succ_le (Nat.le_trans (Nat.le_of_eq (congrArg List.length h.symm)) (length_dropWhile_le test text))

/-- The pieces of a text; an opening brace without a closing one takes all that follows it. -/
def pieces : List Char → List Piece
  | [] => []
  | c :: text =>
    if c = '$' then
      match text with
      | [] => [.dollar]
      | first :: after =>
        if first = '\x7b' then
          match _h : after.dropWhile (· ≠ '\x7d') with
          | [] => [.braced after false]
          | _ :: rest => .braced (after.takeWhile (· ≠ '\x7d')) true :: pieces rest
        else if isNameChar first then
          .bare (first :: after.takeWhile isNameChar) :: pieces (after.dropWhile isNameChar)
        else .dollar :: pieces (first :: after)
    else .char c :: pieces text
termination_by text => text.length
decreasing_by
  · exact Nat.lt_succ_of_lt (Nat.lt_succ_of_lt (length_lt_of_dropWhile_eq_cons (by assumption)))
  · exact Nat.lt_succ_of_lt (Nat.lt_succ_of_le (length_dropWhile_le isNameChar after))
  · exact Nat.lt_succ_self _
  · exact Nat.lt_succ_self _

/-- What a piece becomes. -/
def Piece.expand (environment : Environment) : Piece → Except SettingsError (List Char)
  | char c => .ok [c]
  | dollar => .ok ['$']
  | braced name _ | bare name =>
    match environment.value? (String.ofList name) with
    | some value => .ok value.toList
    | none => .error (.missingVariable (String.ofList name))

end Expansion

/-- A text with the values of the variables it names; of several undefined ones the first is reported. -/
def Environment.expand (environment : Environment) (text : String) : Except SettingsError String := do
  let parts ← (Expansion.pieces text.toList).mapM (Expansion.Piece.expand environment)
  pure (String.ofList parts.flatten)

end QueryFrames
