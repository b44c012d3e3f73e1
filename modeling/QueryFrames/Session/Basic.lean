import QueryFrames.Frame.Fragment
import QueryFrames.Frame.Statement
import QueryFrames.Schema.Basic
import QueryFrames.Session.Views

/-!
Sessions and the composition of frames in them. A session hands out aliases, holds views, and remembers the
shapes of its frames once they are known. Making a frame numbers it; an operation that refuses its arguments
answers nothing but the refusal, so the session stays as it was.
-/

namespace QueryFrames

/-- What all frames made through one builder share. -/
structure Session where
  id : Nat
  dialect : Dialect
  connected : Bool
  aliases : AliasSupply
  views : Views
  made : Nat
  schemas : List (FrameId × Schema)
deriving Repr, Inhabited

namespace Session

/-- A session without frames. -/
def fresh (id : Nat) (dialect : Dialect) (connected : Bool) : Session where
  id := id
  dialect := dialect
  connected := connected
  aliases := .empty
  views := .empty
  made := 0
  schemas := []

/-- The shape of a frame, if it is known. -/
def schema? (session : Session) (frame : FrameId) : Option Schema :=
  Keyed.get? frame session.schemas

/-- Remembers the shape of a frame. -/
def remember (session : Session) (frame : FrameId) (schema : Schema) : Session :=
  { session with schemas := Keyed.put frame schema session.schemas }

/-- The text of a frame's statement under the views registered so far. -/
def compile (session : Session) (frame : Frame) : String :=
  frame.compileWith session.dialect session.views.entries

/-- Makes a frame. -/
def make (session : Session) (name fragment : String) (dependencies : List (String × Frame)) :
    Frame × Session :=
  (⟨⟨session.id, session.made⟩, name, fragment, dependencies⟩, { session with made := session.made + 1 })

/-- Makes a frame that reads from its parents, under the next alias. -/
def derive (session : Session) (parents : List Frame) (fragment : String) : Frame × Session :=
  let (name, aliases) := session.aliases.next
  { session with aliases }.make name fragment (Frame.lineageOf parents)

/-! ### Frames from text -/

/-- A frame over a query. -/
def sql (session : Session) (query : String) : Frame × Session :=
  session.derive [] query

/-- A frame over a query under a chosen alias, which no view may have. -/
def sqlAs (session : Session) (query name : String) : Except FrameError (Frame × Session) := do
  checkAlias name session.views.aliases
  pure (session.make name query [])

/-- A frame over a table. -/
def table (session : Session) (path : String) : Frame × Session :=
  session.sql (Fragment.table (session.dialect.quotePath path))

/-! ### Names -/

/-- Registers a frame as a view. -/
def registerView (session : Session) (name : String) (frame : Frame) : Except FrameError Session := do
  pure { session with views := ← session.views.register name frame }

/-- The same query under a chosen alias, which no view and no dependency may have; a known shape is kept. -/
def aliasAs (session : Session) (frame : Frame) (name : String) : Except FrameError (Frame × Session) := do
  checkAlias name (session.views.aliases ++ Keyed.keys frame.dependencies)
  let (renamed, session) := session.make name frame.fragment frame.dependencies
  match session.schema? frame.id with
  | some schema => pure (renamed, session.remember renamed.id schema)
  | none => pure (renamed, session)

/-! ### Composition -/

/-- A projection to at least one column. -/
def select (session : Session) (frame : Frame) (columns : List String) :
    Except FrameError (Frame × Session) :=
  if columns = [] then .error (.noColumns "select")
  else .ok (session.derive [frame] (Fragment.select frame.name columns))

/-- The rows that satisfy a predicate. -/
def filter (session : Session) (frame : Frame) (predicate : String) : Frame × Session :=
  session.derive [frame] (Fragment.filter frame.name predicate)

/-- At most `count` rows. -/
def limit (session : Session) (frame : Frame) (count : Int) : Except FrameError (Frame × Session) :=
  if count < 0 then .error (.negativeLimit count)
  else .ok (session.derive [frame] (Fragment.limit frame.name count))

/-- The rows ordered by at least one column. -/
def sort (session : Session) (frame : Frame) (columns : List String) :
    Except FrameError (Frame × Session) :=
  if columns = [] then .error (.noColumns "sort")
  else .ok (session.derive [frame] (Fragment.sort frame.name columns))

/-- The rows with a column added or replaced. -/
def withColumn (session : Session) (frame : Frame) (name expression : String) (replace : Bool) :
    Frame × Session :=
  session.derive [frame] (Fragment.withColumn frame.name name expression replace)

/-- Refuses two frames that were made in different sessions. -/
def checkSameSession (left right : Frame) : Except FrameError Unit :=
  if left.id.session = right.id.session then .ok () else .error (.foreignFrames left.name right.name)

/-- A frame over a fragment that reads two frames of the session. -/
def combine (session : Session) (left right : Frame) (fragment : String) :
    Except FrameError (Frame × Session) := do
  checkSameSession left right
  pure (session.derive [left, right] fragment)

/-- The rows of two frames, columns matched by place. -/
def union (session : Session) (left right : Frame) : Except FrameError (Frame × Session) :=
  session.combine left right (Fragment.union left.name right.name)

end Session

end QueryFrames
