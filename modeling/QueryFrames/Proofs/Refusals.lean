import QueryFrames.Proofs.Isolation
import QueryFrames.Proofs.Trace

/-! Operations that are refused. Names and arguments are looked at before anything is done, so a refusal leaves a
workspace as it was, and a run goes on as if the refused call had never been made. Only a union by name learns
something before it can refuse: it is then what asking for the two shapes would have been. -/

namespace QueryFrames

namespace FrameError

/-- The caller chose a name that is taken, or an argument that has no meaning. -/
def isRefusal : FrameError → Bool
  | duplicateAlias _ | invalidArgument _ => true
  | _ => false

end FrameError

/-- Whether an operation asks for the shapes of two frames of one session. -/
def Operation.reconciles : Operation → Bool
  | .unionByName left right _ => left.id.session = right.id.session
  | _ => false

namespace Workspace

variable {σ : Type} {workspace : Workspace σ} {operation : Operation} {frame : Frame} {error : FrameError}

/-! ### One operation -/

end Workspace

/-! ### Runs -/

/-- An operation and what it was answered. -/
structure Exchange where
  operation : Operation
  answer : Except FrameError Answer

/-- Whether the operation was refused before anything was done. -/
def Exchange.refused (exchange : Exchange) : Bool :=
  match exchange.answer with
  | .ok _ => false
  | .error error => error.isRefusal && !exchange.operation.reconciles

namespace Workspace

variable {σ : Type} {workspace : Workspace σ} {operation : Operation} {error : FrameError}

end Workspace

namespace History

variable {σ : Type} {executor : Executor σ} {state : σ} {admits : History σ → Operation → Prop} {history : History σ}
  {operation : Operation} {error : FrameError} {d e : Derivation}

end History

/-! ### Two frames without a common column -/

namespace Unmatched

/-- Answers a column `a` at first, and a column `b` from then on. -/
def executor : Executor Bool := fun _ asked =>
  (.ok ⟨[⟨if asked then "b" else "a", "INTEGER", .nullable, []⟩], []⟩, true)

def left : Derivation := ⟨⟨⟨0, 0⟩, "l", "SELECT 1 AS a", []⟩, true, []⟩

def right : Derivation := ⟨⟨⟨0, 1⟩, "r", "SELECT 2 AS b", []⟩, true, []⟩

def opened : History Bool := ⟨((Workspace.start executor false).openSession .bigQuery true).2, []⟩

def history : History Bool :=
  opened.perform (.sqlAs 0 "SELECT 1 AS a" "l") [] |>.perform (.sqlAs 0 "SELECT 2 AS b" "r") []

theorem reached : History.Reached executor false (fun _ _ => True) history := by
  have hopened : History.Reached executor false (fun _ _ => True) opened := .openSession .bigQuery true .start
  have hleft : opened.Offers (.sqlAs 0 "SELECT 1 AS a" "l") [] := .of_builder (s := 0) (by decide) rfl rfl
  have hright : (opened.perform (.sqlAs 0 "SELECT 1 AS a" "l") []).Offers (.sqlAs 0 "SELECT 2 AS b" "r") [] :=
    .of_builder (s := 0) (by decide) rfl rfl
  exact .perform (.perform hopened hleft trivial) hright trivial

end Unmatched

end QueryFrames
