import QueryFrames.Keyed

/-!
Configuration values, and the tables they are collected in. Headers and dotted keys may reach the same table
several times, and how a table came about decides what may still be added to it: a table that is only implied by
a longer header can be given its own header later, a table made by dotted keys only grows by dotted keys, and
what stands between brackets or braces is complete.
-/

namespace QueryFrames

/-- A configuration value. Of a floating-point number only its kind is kept; what is written as a number that
nothing can hold is found unreadable when it is asked for. -/
inductive Toml where
  | string (value : String)
  | integer (value : Int)
  | float
  | unreadable
  | bool (value : Bool)
  | dateTime
  | array (items : List Toml)
  | table (members : List (String × Toml))
deriving Repr, Inhabited

namespace Toml

/-- A key behind the keys of the tables it stands in. -/
structure KeyPath where
  parents : List String
  name : String
deriving DecidableEq, Repr

/-- How a table came about. -/
inductive Origin where
  | implied
  | header
  | dotted
deriving DecidableEq, Repr

/-- What a key holds while a document is read: a complete value, a table, or the tables of one repeated header. -/
inductive Node where
  | value (value : Toml)
  | table (origin : Origin) (members : List (String × Node))
  | tables (elements : List (List (String × Node)))

/-- The entries of a table that is still open. -/
abbrev Members := List (String × Node)

/-- Changes the table that a path leads to, with all the tables on its way; those that are missing are made. A
repeated header stands for its last table. Dotted keys do not enter a table that has a header. -/
def descend? (dotted : Bool) (change : Origin → Members → Option (Origin × Members)) :
    List String → Origin → Members → Option (Origin × Members)
  | [], origin, members => change origin members
  | key :: path, origin, members =>
    match Keyed.get? key members with
    | none => do
      let (inner, held) ← descend? dotted change path (if dotted then .dotted else .implied) []
      pure (origin, Keyed.put key (.table inner held) members)
    | some (.table inner held) =>
      if dotted ∧ inner = .header then none
      else do
        let (inner, held) ← descend? dotted change path inner held
        pure (origin, Keyed.put key (.table inner held) members)
    | some (.tables elements) => do
      let (_, held) ← descend? dotted change path .header (← elements.getLast?)
      pure (origin, Keyed.put key (.tables (elements.dropLast ++ [held])) members)
    | some (.value _) => none

/-- Gives a key a value for the first time. A key with dots adds to a table made by such keys only, and a key
without dots never adds to one. -/
def assign? (path : KeyPath) (value : Toml) : Origin → Members → Option (Origin × Members) :=
  descend? true (fun origin members =>
    if (origin = .dotted ↔ path.parents = []) ∨ path.name ∈ Keyed.keys members then none
    else some (origin, members ++ [(path.name, .value value)])) path.parents

/-- Opens the table of a header, which has had none. -/
def openTable? (path : KeyPath) : Origin → Members → Option (Origin × Members) :=
  descend? false (fun origin members =>
    match Keyed.get? path.name members with
    | none => some (origin, members ++ [(path.name, .table .header [])])
    | some (.table .implied held) => some (origin, Keyed.put path.name (.table .header held) members)
    | some _ => none) path.parents

/-- Opens one more table of a repeated header. -/
def openElement? (path : KeyPath) : Origin → Members → Option (Origin × Members) :=
  descend? false (fun origin members =>
    match Keyed.get? path.name members with
    | none => some (origin, members ++ [(path.name, .tables [[]])])
    | some (.tables elements) => some (origin, Keyed.put path.name (.tables (elements ++ [[]])) members)
    | some _ => none) path.parents

mutual

/-- The value of a node. -/
def Node.toToml : Node → Toml
  | .value value => value
  | .table _ members => .table (membersToToml members)
  | .tables elements => .array (elementsToToml elements)

/-- The values of a table's entries. -/
def membersToToml : List (String × Node) → List (String × Toml)
  | [] => []
  | (key, node) :: members => (key, node.toToml) :: membersToToml members

/-- The values of the tables of a repeated header. -/
def elementsToToml : List (List (String × Node)) → List Toml
  | [] => []
  | members :: elements => .table (membersToToml members) :: elementsToToml elements

end

/-- The table of the entries between two braces. -/
def ofEntries? (entries : List (KeyPath × Toml)) : Option Toml := do
  let (_, members) ← entries.foldlM
    (fun (origin, members) (path, value) => assign? path value origin members) (Origin.header, [])
  pure (.table (membersToToml members))

mutual

/-- Whether every number in a value can be read, so that the value can be skipped. -/
def isReadable : Toml → Bool
  | unreadable => false
  | array items => areReadable items
  | table members => hasReadable members
  | _ => true

/-- Whether all values of a list can be skipped. -/
def areReadable : List Toml → Bool
  | [] => true
  | item :: items => item.isReadable && areReadable items

/-- Whether all values of a table can be skipped. -/
def hasReadable : List (String × Toml) → Bool
  | [] => true
  | (_, value) :: members => value.isReadable && hasReadable members

end

end Toml

end QueryFrames
