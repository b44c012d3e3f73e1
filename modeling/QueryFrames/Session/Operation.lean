import QueryFrames.Session.Workspace

/-!
The operations of a workspace as data, so that a run is a sequence of them. A builder is the number of its
session; a frame is itself.
-/

namespace QueryFrames

/-- What a caller can ask of a workspace. -/
inductive Operation where
  | sql (builder : Nat) (query : String)
  | sqlAs (builder : Nat) (query name : String)
  | table (builder : Nat) (path : String)
  | registerView (builder : Nat) (name : String) (frame : Frame)
  | aliasAs (frame : Frame) (name : String)
  | createTempView (frame : Frame) (name : String)
  | select (frame : Frame) (columns : List String)
  | filter (frame : Frame) (predicate : String)
  | limit (frame : Frame) (count : Int)
  | sort (frame : Frame) (columns : List String)
  | withColumn (frame : Frame) (name expression : String) (replace : Bool)
  | union (left right : Frame)
  | unionByName (left right : Frame) (allowMissing : Bool)
  | schema (frame : Frame)
  | columns (frame : Frame)
  | treeString (frame : Frame)
  | collect (frame : Frame)
  | take (frame : Frame) (count : Int)
  | count (frame : Frame)
deriving Repr

/-- What a workspace answers. -/
inductive Answer where
  | frame (frame : Frame)
  | done
  | schema (schema : Schema)
  | columns (names : List String)
  | text (text : String)
  | rows (rows : List Row)
  | count (count : Nat)
deriving Repr

namespace Workspace

variable {σ : Type}

/-- An outcome whose answer is put in a common form. -/
def answer {α : Type} (form : α → Answer) (outcome : Outcome σ α) : Outcome σ Answer :=
  (outcome.1.map form, outcome.2)

/-- Registers a frame as a view of a session. -/
def registerView (workspace : Workspace σ) (builder : Nat) (name : String) (frame : Frame) :
    Outcome σ Unit :=
  workspace.compose (((workspace.session builder).registerView name frame).map ((), ·))

/-- Performs one operation. -/
def perform (workspace : Workspace σ) : Operation → Outcome σ Answer
  | .sql builder query => answer .frame (workspace.compose (.ok ((workspace.session builder).sql query)))
  | .sqlAs builder query name =>
    answer .frame (workspace.compose ((workspace.session builder).sqlAs query name))
  | .table builder path => answer .frame (workspace.compose (.ok ((workspace.session builder).table path)))
  | .registerView builder name frame => answer (fun _ => .done) (workspace.registerView builder name frame)
  | .aliasAs frame name =>
    answer .frame (workspace.compose ((workspace.session frame.id.session).aliasAs frame name))
  | .createTempView frame name =>
    answer (fun _ => .done) (workspace.registerView frame.id.session name frame)
  | .select frame columns =>
    answer .frame (workspace.compose ((workspace.session frame.id.session).select frame columns))
  | .filter frame predicate =>
    answer .frame (workspace.compose (.ok ((workspace.session frame.id.session).filter frame predicate)))
  | .limit frame count =>
    answer .frame (workspace.compose ((workspace.session frame.id.session).limit frame count))
  | .sort frame columns =>
    answer .frame (workspace.compose ((workspace.session frame.id.session).sort frame columns))
  | .withColumn frame name expression replace =>
    answer .frame
      (workspace.compose (.ok ((workspace.session frame.id.session).withColumn frame name expression replace)))
  | .union left right =>
    answer .frame (workspace.compose ((workspace.session left.id.session).union left right))
  | .unionByName left right allowMissing => answer .frame (workspace.unionByName left right allowMissing)
  | .schema frame => answer .schema (workspace.schema frame)
  | .columns frame => answer .columns (workspace.columns frame)
  | .treeString frame => answer .text (workspace.treeString frame)
  | .collect frame => answer .rows (workspace.collect frame)
  | .take frame count => answer .rows (workspace.take frame count)
  | .count frame => answer .count (workspace.count frame)

end Workspace

end QueryFrames
