import QueryFrames.Number.Binary64

/-!
JSON values. Whole numbers from -2^63 to 2^64 - 1 are held exactly, all other numbers as finite doubles. The
members of an object stand in the order they are written in; a value that was read has them sorted by key, with
one member to a key.
-/

namespace QueryFrames

namespace Json

/-- A number: whole, or a double. -/
inductive Number where
  | whole (value : Int)
  | float (value : Binary64)
deriving DecidableEq, Repr

end Json

/-- A JSON value. -/
inductive Json where
  | null
  | bool (value : Bool)
  | number (value : Json.Number)
  | string (value : String)
  | array (items : List Json)
  | object (members : List (String × Json))
deriving Repr, Inhabited

namespace Json

/-- A whole number. -/
def whole (value : Int) : Json := number (.whole value)

/-- A list of texts. -/
def strings (texts : List String) : Json := array (texts.map string)

/-- The value of the first member of that key. -/
def get? (key : String) : Json → Option Json
  | object members => (members.find? (·.1 = key)).map (·.2)
  | _ => none

/-- Writes a member into a list sorted by key, over a member of the same key. -/
def insertMember {α : Type} (key : String) (value : α) : List (String × α) → List (String × α)
  | [] => [(key, value)]
  | (k, v) :: rest =>
    if k = key then (key, value) :: rest
    else if key < k then (key, value) :: (k, v) :: rest
    else (k, v) :: insertMember key value rest

/-- Members sorted by key; of several with one key the last is kept. -/
def sortMembers {α : Type} (members : List (String × α)) : List (String × α) :=
  members.foldl (fun sorted member => insertMember member.1 member.2 sorted) []

mutual

/-- The value with the members of every object in it sorted. -/
def sorted : Json → Json
  | array items => array (sortedItems items)
  | object members => object (sortMembers (sortedMembers members))
  | value => value

/-- The items with all their objects sorted. -/
def sortedItems : List Json → List Json
  | [] => []
  | item :: items => item.sorted :: sortedItems items

/-- The members with all the objects in their values sorted. -/
def sortedMembers : List (String × Json) → List (String × Json)
  | [] => []
  | (key, value) :: members => (key, value.sorted) :: sortedMembers members

end

end Json

end QueryFrames
