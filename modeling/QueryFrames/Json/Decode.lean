import QueryFrames.Json.Source

/-!
Reading values of a type from a source. At most 127 arrays and objects may be entered, one inside the other; the
number still allowed goes down with each. A record is read from an object, in which other keys are skipped and a
key of its own may stand once, or from an array that holds its fields in their order.
-/

namespace QueryFrames.Json

/-- How many arrays and objects may be entered one inside the other. -/
def nestingLimit : Nat := 127

namespace Source

mutual

/-- Any value; of several members with one key the last is kept. -/
def toJson? : Nat → Source → Option Json
  | _, .null => some .null
  | _, .bool value => some (.bool value)
  | _, .number value => value.map .number
  | _, .string value => value.map .string
  | 0, .array _ => none
  | depth + 1, .array items => (toItems? depth items).map .array
  | 0, .object _ => none
  | depth + 1, .object members => (toMembers? depth members).map fun members => .object (sortMembers members)

/-- Any values. -/
def toItems? : Nat → List Source → Option (List Json)
  | _, [] => some []
  | depth, item :: items => do pure ((← toJson? depth item) :: (← toItems? depth items))

/-- The members of an object, repeated keys still among them. -/
def toMembers? : Nat → List (Option String × Source) → Option (List (String × Json))
  | _, [] => some []
  | depth, (key, value) :: members => do
    pure ((← key, ← toJson? depth value) :: (← toMembers? depth members))

end

/-- A text. -/
def string? : Source → Option String
  | .string value => value
  | _ => none

/-- A truth value. -/
def bool? : Source → Option Bool
  | .bool value => some value
  | _ => none

/-- A list, each item read in the same way. -/
def list? {α : Type} (item? : Nat → Source → Option α) : Nat → Source → Option (List α)
  | depth + 1, .array items => items.mapM (item? depth)
  | _, _ => none

/-- A value that may be null. -/
def nullable? {α : Type} (value? : Source → Option α) : Source → Option (Option α)
  | .null => some none
  | source => (value? source).map some

/-- The sources of a record's fields, in the order of their names; the source itself counts for one level. -/
def record? (names : List String) : Source → Option (List (Option Source))
  | .object members => do
    let keys ← members.mapM (·.1)
    if names.all fun name => keys.count name ≤ 1 then
      pure (names.map fun name => (members.find? (·.1 = some name)).map (·.2))
    else none
  | .array items =>
    if items.length ≤ names.length then
      some (names.mapIdx fun place _ => items[place]?)
    else none
  | _ => none

/-- One of several names: the name as a text, or an object with that one key and the value null. -/
def variant? {α : Type} (ofName? : String → Option α) : Nat → Source → Option α
  | _, .string name => name.bind ofName?
  | _ + 1, .object [(name, .null)] => name.bind ofName?
  | _, _ => none

end Source

/-- The value of a text. -/
def ofText? (text : String) : Option Json :=
  (Source.ofText? text).bind (Source.toJson? nestingLimit)

end QueryFrames.Json
