import QueryFrames.Keyed

/-!
Frames: the immutable unit of composition. A frame is one SQL fragment under an alias, together with the frames
that its fragment reads through their aliases, directly or through others. That list is flat: whoever emits it
in order, one named body per entry, has defined every name before it is read.
-/

namespace QueryFrames

/-- Which session made a frame, and as which of its frames. -/
structure FrameId where
  session : Nat
  serial : Nat
deriving DecidableEq, Repr, Inhabited

/-- A fragment under an alias, and the frames it depends on by the alias each is read under. -/
structure Frame where
  id : FrameId
  name : String
  fragment : String
  dependencies : List (String × Frame)
deriving Repr, Inhabited

namespace Frame

/-- What a frame read from `parents` depends on: all that they depend on, then they themselves. -/
def lineageOf (parents : List Frame) : List (String × Frame) :=
  Keyed.dedup (parents.flatMap (·.dependencies) ++ parents.map fun parent => (parent.name, parent))

/-- A frame in one line: its fragment and its alias. -/
def display (frame : Frame) : String :=
  "(" ++ frame.fragment ++ ") as " ++ frame.name

end Frame

end QueryFrames
