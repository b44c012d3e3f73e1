import QueryFrames.Frame.Basic
import QueryFrames.Session.Alias

/-!
The views of a session: frames under names that every statement of the session can read. A name is given once
and for good, so the list only grows at its end.
-/

namespace QueryFrames

/-- Views by name, in the order they were registered. -/
structure Views where
  entries : List (String × Frame)
deriving Repr, Inhabited

namespace Views

/-- No views. -/
def empty : Views := ⟨[]⟩

/-- The names in the order they were registered. -/
def aliases (views : Views) : List String :=
  Keyed.keys views.entries

/-- Whether a name is given. -/
def contains (views : Views) (name : String) : Bool :=
  views.aliases.contains name

/-- Registers a frame under a name that is not given yet. -/
def register (views : Views) (name : String) (frame : Frame) : Except FrameError Views :=
  match checkAlias name views.aliases with
  | .ok () => .ok ⟨views.entries ++ [(name, frame)]⟩
  | .error error => .error error

end Views

end QueryFrames
