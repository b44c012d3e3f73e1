import QueryFrames.Dialect
import QueryFrames.Frame.Basic
import QueryFrames.Text.Layout

/-!
Statements: a list of named bodies in a `WITH` clause and a main query. A frame becomes one by naming each of
its dependencies; compiled for a session, the views of that session come first, each as a statement of its own
with the dependencies it carries.
-/

namespace QueryFrames

/-- A named body of a `WITH` clause. -/
structure Cte where
  name : String
  body : String
deriving DecidableEq, Repr

/-- Named bodies, each free to read the ones before it, and a main query that may read them all. -/
structure Statement where
  ctes : List Cte
  main : String
deriving DecidableEq, Repr

/-- A named body as text, the body moved right by two blanks. -/
def Cte.render (dialect : Dialect) (cte : Cte) : String :=
  dialect.cteName cte.name ++ " AS (\n" ++ Text.indent 2 cte.body ++ "\n)"

/-- A statement as text; without named bodies it is the main query as it stands. -/
def Statement.render (dialect : Dialect) (statement : Statement) : String :=
  match statement.ctes with
  | [] => statement.main
  | ctes => "WITH " ++ String.intercalate "\n, " (ctes.map (Cte.render dialect)) ++ "\n" ++ statement.main

theorem Statement.render_of_ne_nil {dialect : Dialect} {statement : Statement} (h : statement.ctes ≠ []) :
    statement.render dialect =
      "WITH " ++ String.intercalate "\n, " (statement.ctes.map (Cte.render dialect)) ++ "\n" ++ statement.main := by
  unfold render
  split
  · next hnil => exact absurd hnil h
  · rfl

namespace Frame

/-- The named bodies of a frame's dependencies. -/
def dependencyCtes (frame : Frame) : List Cte :=
  frame.dependencies.map fun (name, dependency) => ⟨name, dependency.fragment⟩

/-- The statement of a frame on its own. -/
def standalone (frame : Frame) : Statement :=
  ⟨frame.dependencyCtes, frame.fragment⟩

/-- The named bodies of views. -/
def viewCtes (dialect : Dialect) (views : List (String × Frame)) : List Cte :=
  views.map fun (name, view) => ⟨name, view.standalone.render dialect⟩

/-- The statement of a frame where `views` are visible. -/
def statement (dialect : Dialect) (views : List (String × Frame)) (frame : Frame) : Statement :=
  ⟨viewCtes dialect views ++ frame.dependencyCtes, frame.fragment⟩

/-- The text of a frame's statement where `views` are visible. -/
def compileWith (dialect : Dialect) (views : List (String × Frame)) (frame : Frame) : String :=
  (frame.statement dialect views).render dialect

/-- The text of a frame's own statement. -/
def compileStandalone (dialect : Dialect) (frame : Frame) : String :=
  frame.standalone.render dialect

end Frame

end QueryFrames
