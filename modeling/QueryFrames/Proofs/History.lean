import Mathlib.Logic.Relation
import QueryFrames.Session.Operation

/-! Runs of a workspace and where their frames come from. A derivation is a frame together with the derivations
of the frames it reads, so the derivations of a run are its graph of frames, seen from each of them. A history
is a workspace and the derivations of all frames made in it, those included that an operation makes only to
submit them. Each operation amounts to a sequence of small changes, and what every change keeps holds
throughout every run. -/

namespace QueryFrames

/-- How a frame came about: whether a caller chose its alias, and the frames it reads. A renamed frame reads
what the frame it renames reads. -/
structure Derivation where
  frame : Frame
  chosen : Bool
  parents : List Derivation

/-- The first derivation is of a frame that the second reads, directly or through others. -/
inductive Derivation.Ancestor : Derivation → Derivation → Prop
  | parent {first second : Derivation} (h : first ∈ second.parents) : Ancestor first second
  | through {first middle second : Derivation} (h : middle ∈ second.parents) (hfirst : Ancestor first middle) :
      Ancestor first second

/-- Every frame depends on the lineage of the frames it reads. -/
inductive Derivation.Faithful : Derivation → Prop
  | intro {d : Derivation} (hlineage : d.frame.dependencies = Frame.lineageOf (d.parents.map (·.frame)))
      (hparents : ∀ p ∈ d.parents, Faithful p) : Faithful d

namespace Operation

/-- The frames that an operation is given. -/
def frames : Operation → List Frame
  | .sql .. | .sqlAs .. | .table .. => []
  | .registerView _ _ frame | .aliasAs frame _ | .createTempView frame _ | .select frame _ | .filter frame _
  | .limit frame _ | .sort frame _ | .withColumn frame _ _ _ | .schema frame | .columns frame
  | .treeString frame | .collect frame | .take frame _ | .count frame => [frame]
  | .union left right | .unionByName left right _ => [left, right]

/-- The builder that an operation is given. -/
def builder? : Operation → Option Nat
  | .sql builder _ | .sqlAs builder _ _ | .table builder _ | .registerView builder _ _ => some builder
  | _ => none

/-- The view that an operation would register: its session and its name. -/
def registration? : Operation → Option (Nat × String)
  | .registerView builder name _ => some (builder, name)
  | .createTempView frame name => some (frame.id.session, name)
  | _ => none

/-- Whether the caller chooses the alias of the frame that is made. -/
def choosesAlias : Operation → Bool
  | .sqlAs .. | .aliasAs .. => true
  | _ => false

/-- What the frame reads that is made from frames of the given derivations. -/
def reads (sources : List Derivation) : Operation → List Derivation
  | .aliasAs .. => sources.flatMap (·.parents)
  | _ => sources

end Operation

/-- A workspace and the derivations of the frames made in it. -/
structure History (σ : Type) where
  workspace : Workspace σ
  made : List Derivation

namespace Workspace

variable {σ : Type}

/-- The frame made to ask for a shape, which is none once the shape is known. -/
def shapeQuery (workspace : Workspace σ) (source : Derivation) : List Derivation :=
  match workspace.schema? source.frame with
  | some _ => []
  | none =>
    [⟨((workspace.session source.frame.id.session).derive [source.frame] (Fragment.limit source.frame.name 0)).1,
      false, [source]⟩]

/-- The frames that an operation makes only to submit them. -/
def submitted (workspace : Workspace σ) : Operation → List Derivation → List Derivation
  | .schema _, [source] | .columns _, [source] | .treeString _, [source] => workspace.shapeQuery source
  | .take _ count, [source] =>
    match (workspace.session source.frame.id.session).limit source.frame count with
    | .ok (frame, _) => [⟨frame, false, [source]⟩]
    | .error _ => []
  | .count _, [source] =>
    [⟨((workspace.session source.frame.id.session).derive [source.frame] (Fragment.count source.frame.name)).1,
      false, [source]⟩]
  | .unionByName left right _, [first, second] =>
    match Session.checkSameSession left right with
    | .error _ => []
    | .ok () =>
      workspace.shapeQuery first ++
        match workspace.columns left with
        | (.error _, _) => []
        | (.ok _, workspace) => workspace.shapeQuery second
  | _, _ => []

/-- The frame that an operation answers. -/
def answered (workspace : Workspace σ) (operation : Operation) (sources : List Derivation) : List Derivation :=
  match (workspace.perform operation).1 with
  | .ok (.frame frame) => [⟨frame, operation.choosesAlias, operation.reads sources⟩]
  | _ => []

end Workspace

namespace History

variable {σ : Type}

/-- A history after an operation on frames of the given derivations. -/
def perform (history : History σ) (operation : Operation) (sources : List Derivation) : History σ where
  workspace := (history.workspace.perform operation).2
  made := history.made ++ history.workspace.submitted operation sources
    ++ history.workspace.answered operation sources

/-- An operation is given frames of the history, of the given derivations, and an opened session. -/
structure Offers (history : History σ) (operation : Operation) (sources : List Derivation) : Prop where
  frames : operation.frames = sources.map (·.frame)
  made : ∀ d ∈ sources, d ∈ history.made
  builder : ∀ s, operation.builder? = some s → s < history.workspace.sessions.length

theorem Offers.of_builder {history : History σ} {operation : Operation} {s : Nat}
    (hs : s < history.workspace.sessions.length) (hframes : operation.frames = [])
    (hbuilder : operation.builder? = some s) : history.Offers operation [] where
  frames := hframes
  made _ hd := nomatch hd
  builder t ht := by
    rw [hbuilder] at ht
    exact Option.some.inj ht ▸ hs

theorem Offers.of_frame {history : History σ} {operation : Operation} {d : Derivation} (hd : d ∈ history.made)
    (hframes : operation.frames = [d.frame]) (hbuilder : operation.builder? = none) :
    history.Offers operation [d] where
  frames := hframes
  made _ he := List.mem_singleton.mp he ▸ hd
  builder s hs := by
    rw [hbuilder] at hs
    cases hs

theorem Offers.of_frames {history : History σ} {operation : Operation} {d e : Derivation}
    (hd : d ∈ history.made) (he : e ∈ history.made) (hframes : operation.frames = [d.frame, e.frame])
    (hbuilder : operation.builder? = none) : history.Offers operation [d, e] where
  frames := hframes
  made := List.forall_mem_cons.mpr ⟨hd, List.forall_mem_singleton.mpr he⟩
  builder s hs := by
    rw [hbuilder] at hs
    cases hs

/-- The histories of all runs over an executor in which every operation is admitted at its time. -/
inductive Reached (executor : Executor σ) (state : σ) (admits : History σ → Operation → Prop) :
    History σ → Prop
  | start : Reached executor state admits ⟨.start executor state, []⟩
  | openSession {history : History σ} (dialect : Dialect) (connected : Bool)
      (h : Reached executor state admits history) :
      Reached executor state admits ⟨(history.workspace.openSession dialect connected).2, history.made⟩
  | perform {history : History σ} {operation : Operation} {sources : List Derivation}
      (h : Reached executor state admits history) (hoffers : history.Offers operation sources)
      (hadmits : admits history operation) :
      Reached executor state admits (history.perform operation sources)

/-- The beginning of a run: one session, over an executor that is never called. -/
def opened : History Unit :=
  ⟨((Workspace.start Executor.absent ()).openSession .bigQuery false).2, []⟩

theorem Reached.opened {admits : History Unit → Operation → Prop} :
    Reached Executor.absent () admits opened :=
  .openSession .bigQuery false .start

end History

end QueryFrames
