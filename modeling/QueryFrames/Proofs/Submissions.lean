import QueryFrames.Proofs.Change

/-! What operations submit. A run is told with its submissions: the statements that reached the executor, each with
the frame it was for and the reply it got. Which statements an operation submits depends on what is known, what is
registered and whether an executor is attached at that time; whatever it submits is logged in this order, and an
operation whose statement fails fails with that statement and the executor's own error. -/

namespace QueryFrames

/-- A statement that reached the executor, the frame that it was for, and the reply. -/
structure Submission where
  frame : Frame
  call : Call
  reply : Except WorkerError QueryResult

namespace Submission

/-- What an operation learns that has one statement to submit; without an executor none was. -/
def answer : List Submission → Except FrameError QueryResult
  | [] => .error .disconnected
  | submission :: _ => submission.reply.mapError (.execution submission.call.sql)

/-- The shape in a reply, if it is that of the frame. -/
def shape? (id : FrameId) (submission : Submission) : Option Schema :=
  if submission.call.mode = .dryRun ∧ submission.frame.id = id then submission.reply.toOption.map (·.schema)
  else none

/-- The shapes of a frame that the executor answered. -/
def shapes (id : FrameId) (submissions : List Submission) : List Schema :=
  submissions.filterMap (shape? id)

variable {id : FrameId} {submissions : List Submission}

theorem shapes_append (id : FrameId) (first second : List Submission) :
    shapes id (first ++ second) = shapes id first ++ shapes id second :=
  List.filterMap_append

theorem shapes_eq_nil_of_ne (h : ∀ submission ∈ submissions, submission.frame.id ≠ id) :
    shapes id submissions = [] := by
  refine List.filterMap_eq_nil_iff.mpr fun submission hsubmission => ?_
  rw [shape?, if_neg fun hasks => h submission hsubmission hasks.2]

theorem shapes_eq_nil_of_materialize (h : ∀ submission ∈ submissions, submission.call.mode = .materialize) :
    shapes id submissions = [] := by
  refine List.filterMap_eq_nil_iff.mpr fun submission hsubmission => ?_
  rw [shape?, if_neg]
  rintro ⟨hmode, -⟩
  rw [h submission hsubmission] at hmode
  cases hmode

end Submission

/-- The replies are those that the executor gives when it is called in this order. -/
inductive Executor.Answers {σ : Type} (executor : Executor σ) : σ → List Submission → σ → Prop
  | nil (state : σ) : Answers executor state [] state
  | cons {before middle after : σ} {submission : Submission} {rest : List Submission}
      (hreply : executor submission.call before = (submission.reply, middle))
      (hrest : Answers executor middle rest after) : Answers executor before (submission :: rest) after

theorem Executor.Answers.append {σ : Type} {executor : Executor σ} {before middle after : σ}
    {first second : List Submission} (hfirst : executor.Answers before first middle)
    (hsecond : executor.Answers middle second after) : executor.Answers before (first ++ second) after := by
  induction hfirst with
  | nil state => exact hsecond
  | cons hreply _ ih => exact .cons hreply (ih hsecond)

/-! ### The statements of an operation -/

namespace Workspace

variable {σ : Type}

/-- The text of a fragment that reads one frame, under the views registered so far. -/
def textOver (workspace : Workspace σ) (frame : Frame) (fragment : String) : String :=
  workspace.compile { frame with fragment, dependencies := Frame.lineageOf [frame] }

/-- One statement for a frame, if its session has an executor. -/
def submission (workspace : Workspace σ) (frame : Frame) (mode : ExecutionMode) (sql : String) : List Submission :=
  if (workspace.session frame.id.session).connected then
    [⟨frame, ⟨mode, sql⟩, (workspace.executor ⟨mode, sql⟩ workspace.state).1⟩]
  else []

/-- The statement that asks for the shape of a frame, unless it is known. -/
def shapeSubmission (workspace : Workspace σ) (frame : Frame) : List Submission :=
  match workspace.schema? frame with
  | some _ => []
  | none => workspace.submission frame .dryRun (workspace.textOver frame (Fragment.limit frame.name 0))

/-- The statements that an operation submits. -/
def submissions (workspace : Workspace σ) : Operation → List Submission
  | .collect frame => workspace.submission frame .materialize (workspace.compile frame)
  | .take frame count =>
    if 0 ≤ count then
      workspace.submission frame .materialize (workspace.textOver frame (Fragment.limit frame.name count))
    else []
  | .count frame =>
    workspace.submission frame .materialize (workspace.textOver frame (Fragment.count frame.name))
  | .schema frame | .columns frame | .treeString frame => workspace.shapeSubmission frame
  | .unionByName left right _ =>
    if left.id.session = right.id.session then
      workspace.shapeSubmission left ++
        match workspace.schema left with
        | (.ok _, workspace) => workspace.shapeSubmission right
        | (.error _, _) => []
    else []
  | .sql .. | .sqlAs .. | .table .. | .registerView .. | .aliasAs .. | .createTempView .. | .select .. | .filter ..
  | .limit .. | .sort .. | .withColumn .. | .union .. => []

variable {workspace : Workspace σ} {frame : Frame} {mode : ExecutionMode} {sql : String} {submission : Submission}

theorem mem_submission :
    submission ∈ workspace.submission frame mode sql ↔
      (workspace.session frame.id.session).connected = true ∧
        submission = ⟨frame, ⟨mode, sql⟩, (workspace.executor ⟨mode, sql⟩ workspace.state).1⟩ := by
  rw [Workspace.submission]
  split <;> simp [*]

theorem frame_of_mem_submission (h : submission ∈ workspace.submission frame mode sql) :
    submission.frame = frame ∧ submission.call = ⟨mode, sql⟩ := by
  obtain ⟨-, rfl⟩ := mem_submission.mp h
  exact ⟨rfl, rfl⟩

theorem frame_of_mem_shapeSubmission (h : submission ∈ workspace.shapeSubmission frame) :
    submission.frame = frame ∧ (workspace.session frame.id.session).connected = true := by
  rw [shapeSubmission] at h
  split at h
  · cases h
  · obtain ⟨hconnected, rfl⟩ := mem_submission.mp h
    exact ⟨rfl, hconnected⟩

end Workspace

/-! ### Sessions under operations -/

/-- A session later on: nothing that was given out is given out again, and without an executor no shape becomes
known. -/
structure Session.Continues (before after : Session) : Prop where
  id_eq : after.id = before.id
  connected_eq : after.connected = before.connected
  made_le : before.made ≤ after.made
  unshaped : before.connected = false → before.schemas = [] → after.schemas = []

/-- A session after a composition, which learns no shape of a frame that was there. -/
structure Session.Composes (before after : Session) : Prop extends before.Continues after where
  schema?_eq : ∀ id : FrameId, id.serial < before.made → after.schema? id = before.schema? id

namespace Session

variable {session before middle after : Session}

theorem Continues.refl (session : Session) : session.Continues session :=
  ⟨rfl, rfl, Nat.le_refl _, fun _ h => h⟩

theorem Continues.trans (hfirst : before.Continues middle) (hsecond : middle.Continues after) :
    before.Continues after where
  id_eq := hsecond.id_eq.trans hfirst.id_eq
  connected_eq := hsecond.connected_eq.trans hfirst.connected_eq
  made_le := Nat.le_trans hfirst.made_le hsecond.made_le
  unshaped hconnected hschemas :=
    hsecond.unshaped (hfirst.connected_eq.trans hconnected) (hfirst.unshaped hconnected hschemas)

theorem Composes.of_schemas_eq (hid : after.id = before.id) (hconnected : after.connected = before.connected)
    (hmade : before.made ≤ after.made) (hschemas : after.schemas = before.schemas) : before.Composes after where
  id_eq := hid
  connected_eq := hconnected
  made_le := hmade
  unshaped _ h := hschemas.trans h
  schema?_eq id _ := by rw [schema?, hschemas, schema?]

theorem derive_composes (session : Session) (parents : List Frame) (fragment : String) :
    session.Composes (session.derive parents fragment).2 :=
  .of_schemas_eq rfl rfl (Nat.le_succ _) rfl

theorem schema?_remember (session : Session) (id other : FrameId) (schema : Schema) :
    (session.remember id schema).schema? other = if id = other then some schema else session.schema? other :=
  Keyed.get?_put ..

/-- A renamed frame is new, so that its shape is remembered changes nothing for the others. -/
theorem aliasAs_composes {frame : Frame} {name : String} {made : Frame × Session}
    (h : session.aliasAs frame name = .ok made) : session.Composes made.2 := by
  obtain ⟨-, rfl⟩ := aliasAs_eq_ok.mp h
  dsimp only
  cases hknown : session.schema? frame.id with
  | none => exact .of_schemas_eq rfl rfl (Nat.le_succ _) rfl
  | some schema =>
      refine ⟨⟨rfl, rfl, Nat.le_succ _, fun _ hschemas => ?_⟩, fun id hid => ?_⟩
      · rw [schema?, hschemas] at hknown
        cases hknown
      · refine (schema?_remember ..).trans (if_neg ?_)
        rintro rfl
        exact Nat.lt_irrefl _ hid

theorem registerView_composes {name : String} {frame : Frame} (h : session.registerView name frame = .ok after) :
    session.Composes after := by
  obtain ⟨-, rfl⟩ := registerView_eq_ok.mp h
  exact .of_schemas_eq rfl rfl (Nat.le_refl _) rfl

end Session

namespace Workspace

variable {σ : Type}

/-- The session of a number was opened. -/
structure Holds (workspace : Workspace σ) (s : Nat) : Prop where
  lt : s < workspace.sessions.length
  id_eq : (workspace.session s).id = s

/-- The number of a frame was given out in its session. -/
def Issued (workspace : Workspace σ) (frame : Frame) : Prop :=
  frame.id.serial < (workspace.session frame.id.session).made

/-- The log of calls and the executor after some statements. -/
structure Sends (before : Workspace σ) (submissions : List Submission) (after : Workspace σ) : Prop where
  executor_eq : after.executor = before.executor
  calls_eq : after.calls = before.calls ++ submissions.map (·.call)
  replies : before.executor.Answers before.state submissions after.state

/-- A workspace after an operation that submitted some statements. What is known of the shape of a frame is what the
executor answered when it was asked for it. -/
structure Follows (before : Workspace σ) (submissions : List Submission) (after : Workspace σ) : Prop
    extends before.Sends submissions after where
  length_eq : after.sessions.length = before.sessions.length
  continues : ∀ t, (before.session t).Continues (after.session t)
  shapes_eq : ∀ frame, before.Issued frame →
    (after.schema? frame).toList = (before.schema? frame).toList ++ Submission.shapes frame.id submissions

variable {workspace before middle after : Workspace σ} {first second submissions : List Submission} {s : Nat}
  {session : Session} {frame : Frame} {mode : ExecutionMode} {sql fragment : String} {submission : Submission}

theorem session_put_of_holds (session : Session) (hs : workspace.Holds s)
    (hid : session.id = (workspace.session s).id) (t : Nat) :
    (workspace.put session).session t = if t = s then session else workspace.session t := by
  rw [session_put, hid, hs.id_eq]
  by_cases hst : t = s
  · rw [if_pos ⟨hst.symm, hst ▸ hs.lt⟩, if_pos hst]
  · rw [if_neg fun h => hst h.1.symm, if_neg hst]

/-- Only a session that was opened has given out a number. -/
theorem lt_of_issued (hissued : workspace.Issued frame) : frame.id.session < workspace.sessions.length := by
  refine Nat.lt_of_not_le fun hle => ?_
  have hfresh : workspace.session frame.id.session = .fresh frame.id.session .bigQuery false := by
    rw [Workspace.session, List.getD_eq_getElem?_getD, List.getElem?_eq_none hle]
    rfl
  rw [Issued, hfresh] at hissued
  cases hissued

theorem session_openSession_of_issued (hissued : workspace.Issued frame) (dialect : Dialect) (connected : Bool) :
    (workspace.openSession dialect connected).2.session frame.id.session =
      workspace.session frame.id.session := by
  rw [session_openSession, if_neg (Nat.ne_of_lt (lt_of_issued hissued))]

theorem Sends.refl (workspace : Workspace σ) : workspace.Sends [] workspace :=
  ⟨rfl, (List.append_nil _).symm, .nil _⟩

theorem Sends.trans (hfirst : before.Sends first middle) (hsecond : middle.Sends second after) :
    before.Sends (first ++ second) after where
  executor_eq := hsecond.executor_eq.trans hfirst.executor_eq
  calls_eq := by rw [hsecond.calls_eq, hfirst.calls_eq, List.map_append, List.append_assoc]
  replies := by
    have hreplies := hsecond.replies
    rw [hfirst.executor_eq] at hreplies
    exact hfirst.replies.append hreplies

theorem Follows.holds (h : before.Follows submissions after) (hs : before.Holds s) : after.Holds s where
  lt := h.length_eq ▸ hs.lt
  id_eq := (h.continues s).id_eq.trans hs.id_eq

theorem Follows.issued (h : before.Follows submissions after) (hissued : before.Issued frame) :
    after.Issued frame :=
  Nat.lt_of_lt_of_le hissued (h.continues _).made_le

theorem Follows.refl (workspace : Workspace σ) : workspace.Follows [] workspace where
  toSends := .refl workspace
  length_eq := rfl
  continues _ := .refl _
  shapes_eq _ _ := (List.append_nil _).symm

theorem Follows.trans (hfirst : before.Follows first middle) (hsecond : middle.Follows second after) :
    before.Follows (first ++ second) after where
  toSends := hfirst.toSends.trans hsecond.toSends
  length_eq := hsecond.length_eq.trans hfirst.length_eq
  continues t := (hfirst.continues t).trans (hsecond.continues t)
  shapes_eq frame hissued := by
    rw [hsecond.shapes_eq frame (hfirst.issued hissued), hfirst.shapes_eq frame hissued, Submission.shapes_append,
      List.append_assoc]

/-- Statements for one session, which is then put back. -/
theorem Follows.of_put (session : Session) (hs : before.Holds s) (hsends : before.Sends submissions after)
    (hsessions : after.sessions = (before.put session).sessions)
    (hcontinues : (before.session s).Continues session)
    (hothers : ∀ id : FrameId, id.session ≠ s → Submission.shapes id submissions = [])
    (hshapes : ∀ id : FrameId, id.serial < (before.session s).made →
      (session.schema? id).toList = ((before.session s).schema? id).toList ++ Submission.shapes id submissions) :
    before.Follows submissions after := by
  have hsession : ∀ t, after.session t = if t = s then session else before.session t := by
    intro t
    rw [Workspace.session, hsessions]
    exact session_put_of_holds session hs hcontinues.id_eq t
  refine ⟨hsends, ?_, fun t => ?_, fun frame hissued => ?_⟩
  · rw [hsessions, length_sessions_put]
  · rw [hsession]
    split
    · next hts => exact hts ▸ hcontinues
    · exact .refl _
  · rw [schema?, schema?, hsession]
    split
    · next hts =>
        rw [Issued, hts] at hissued
        rw [hts]
        exact hshapes frame.id hissued
    · next hts => rw [hothers frame.id hts, List.append_nil]

/-- Statements that answer no shape, and a session that learns none. -/
theorem Follows.of_composes (session : Session) (hs : before.Holds s) (hsends : before.Sends submissions after)
    (hsessions : after.sessions = (before.put session).sessions) (hcomposes : (before.session s).Composes session)
    (hshapes : ∀ id, Submission.shapes id submissions = []) : before.Follows submissions after := by
  refine .of_put session hs hsends hsessions hcomposes.toContinues (fun id _ => hshapes id) fun id hid => ?_
  rw [hshapes, hcomposes.schema?_eq id hid, List.append_nil]

/-! ### What each operation does -/

theorem compose_follows {α : Type} (outcome : Except FrameError (α × Session)) (hs : workspace.Holds s)
    (hcomposes : ∀ made, outcome = .ok made → (workspace.session s).Composes made.2) :
    workspace.Follows [] (workspace.compose outcome).2 := by
  cases outcome with
  | error error => exact .refl workspace
  | ok made =>
      have hsends : workspace.Sends [] (workspace.put made.2) := ⟨rfl, (List.append_nil _).symm, .nil _⟩
      exact .of_composes made.2 hs hsends rfl (hcomposes made rfl) fun _ => rfl

theorem execute_sends (workspace : Workspace σ) (frame : Frame) (mode : ExecutionMode) (sql : String) :
    workspace.Sends (workspace.submission frame mode sql) (workspace.execute frame.id.session mode sql).2 := by
  rw [Workspace.submission, execute]
  split
  · dsimp only
    split
    all_goals exact ⟨rfl, rfl, .cons rfl (.nil _)⟩
  · exact .refl workspace

theorem sessions_execute (workspace : Workspace σ) (s : Nat) (mode : ExecutionMode) (sql : String) :
    (workspace.execute s mode sql).2.sessions = workspace.sessions := by
  rw [execute]
  split
  · dsimp only
    split <;> rfl
  · rfl

theorem execute_answer (workspace : Workspace σ) (frame : Frame) (mode : ExecutionMode) (sql : String) :
    (workspace.execute frame.id.session mode sql).1 = Submission.answer (workspace.submission frame mode sql) := by
  rw [Workspace.submission, execute]
  split
  · dsimp only [Submission.answer]
    cases (workspace.executor ⟨mode, sql⟩ workspace.state).1 <;> rfl
  · rfl

/-- The session of a frame after one was derived from it to be submitted. -/
def derived (workspace : Workspace σ) (frame : Frame) (fragment : String) : Session :=
  ((workspace.session frame.id.session).derive [frame] fragment).2

theorem session_put_derived (hs : workspace.Holds frame.id.session) (fragment : String) (t : Nat) :
    (workspace.put (workspace.derived frame fragment)).session t =
      if t = frame.id.session then workspace.derived frame fragment else workspace.session t :=
  session_put_of_holds (workspace.derived frame fragment) hs rfl t

theorem submit_eq (hs : workspace.Holds frame.id.session) (fragment : String) (mode : ExecutionMode) :
    workspace.submit frame fragment mode =
      (workspace.put (workspace.derived frame fragment)).execute frame.id.session mode
        (workspace.textOver frame fragment) :=
  congrArg (fun s => (workspace.put (workspace.derived frame fragment)).execute s mode _) hs.id_eq

theorem submission_put_derived (hs : workspace.Holds frame.id.session) (fragment : String) (mode : ExecutionMode)
    (sql : String) :
    (workspace.put (workspace.derived frame fragment)).submission frame mode sql =
      workspace.submission frame mode sql := by
  rw [Workspace.submission, session_put_derived hs, if_pos rfl]
  rfl

theorem submit_answer (hs : workspace.Holds frame.id.session) (fragment : String) (mode : ExecutionMode) :
    (workspace.submit frame fragment mode).1 =
      Submission.answer (workspace.submission frame mode (workspace.textOver frame fragment)) := by
  rw [submit_eq hs, execute_answer, submission_put_derived hs]

theorem submit_sends (hs : workspace.Holds frame.id.session) (fragment : String) (mode : ExecutionMode) :
    workspace.Sends (workspace.submission frame mode (workspace.textOver frame fragment))
      (workspace.submit frame fragment mode).2 := by
  rw [submit_eq hs, ← submission_put_derived hs fragment]
  have hput : workspace.Sends [] (workspace.put (workspace.derived frame fragment)) :=
    ⟨rfl, (List.append_nil _).symm, .nil _⟩
  exact hput.trans (execute_sends _ frame mode _)

theorem sessions_submit (hs : workspace.Holds frame.id.session) (fragment : String) (mode : ExecutionMode) :
    (workspace.submit frame fragment mode).2.sessions =
      (workspace.put (workspace.derived frame fragment)).sessions := by
  rw [submit_eq hs, sessions_execute]

theorem shapes_materialize (workspace : Workspace σ) (frame : Frame) (sql : String) (id : FrameId) :
    Submission.shapes id (workspace.submission frame .materialize sql) = [] :=
  Submission.shapes_eq_nil_of_materialize fun _ h => congrArg Call.mode (frame_of_mem_submission h).2

theorem submit_follows (hs : workspace.Holds frame.id.session) (fragment : String) :
    workspace.Follows (workspace.submission frame .materialize (workspace.textOver frame fragment))
      (workspace.submit frame fragment .materialize).2 :=
  .of_composes _ hs (submit_sends hs _ _) (sessions_submit hs _ _) (Session.derive_composes ..)
    (shapes_materialize workspace frame _)

theorem collect_follows (hs : workspace.Holds frame.id.session) :
    workspace.Follows (workspace.submission frame .materialize (workspace.compile frame))
      (workspace.collect frame).2 := by
  have hsessions : (workspace.collect frame).2.sessions = workspace.sessions := sessions_execute ..
  have hput : workspace.sessions = (workspace.put (workspace.session frame.id.session)).sessions := by
    rw [put, hs.id_eq, Workspace.session, List.getD_eq_getElem?_getD, List.getElem?_eq_getElem hs.lt]
    exact (List.set_getElem_self hs.lt).symm
  exact .of_composes _ hs (execute_sends ..) (hsessions.trans hput) (.of_schemas_eq rfl rfl (Nat.le_refl _) rfl)
    (shapes_materialize workspace frame _)

theorem compile_derive (hs : workspace.Holds frame.id.session) (fragment : String) :
    (workspace.put (workspace.derived frame fragment)).compile
        ((workspace.session frame.id.session).derive [frame] fragment).1 =
      workspace.textOver frame fragment := by
  have hsession : (workspace.put (workspace.derived frame fragment)).session (workspace.session frame.id.session).id =
      workspace.derived frame fragment := by
    rw [session_put_derived hs, if_pos hs.id_eq]
  exact congrArg (·.compile ((workspace.session frame.id.session).derive [frame] fragment).1) hsession

/-- To take rows is to submit the frame that a limit would make. -/
theorem take_eq (hs : workspace.Holds frame.id.session) {count : Int} (hcount : 0 ≤ count) :
    workspace.take frame count =
      let (answer, workspace) := workspace.submit frame (Fragment.limit frame.name count) .materialize
      (answer.map (·.rows), workspace) := by
  have hcollect : ∀ (workspace : Workspace σ) (limited : Frame) (text : String), workspace.compile limited = text →
      workspace.collect limited =
        let (answer, workspace) := workspace.execute limited.id.session .materialize text
        (answer.map (·.rows), workspace) := by
    rintro workspace limited _ rfl
    rfl
  rw [take, Session.limit_eq_ok.mpr ⟨hcount, rfl⟩]
  exact hcollect _ _ _ (compile_derive hs _)

theorem take_of_neg (workspace : Workspace σ) (frame : Frame) {count : Int} (hcount : ¬ 0 ≤ count) :
    workspace.take frame count = (.error (.negativeLimit count), workspace) := by
  rw [take, Session.limit, if_pos (Int.not_le.mp hcount)]
  rfl

theorem take_follows (hs : workspace.Holds frame.id.session) (count : Int) :
    workspace.Follows (workspace.submissions (.take frame count)) (workspace.take frame count).2 := by
  rw [submissions]
  split
  · next hcount =>
      rw [take_eq hs hcount]
      exact submit_follows hs _
  · next hcount =>
      rw [take_of_neg _ _ hcount]
      exact .refl workspace

theorem registerView_follows {name : String} (hs : workspace.Holds s) :
    workspace.Follows [] (workspace.registerView s name frame).2 := by
  refine compose_follows _ hs fun made hmade => ?_
  rcases hview : (workspace.session s).registerView name frame with error | session <;> rw [hview] at hmade <;>
    cases hmade
  exact Session.registerView_composes hview

theorem schema_of_known {schema : Schema} (h : workspace.schema? frame = some schema) :
    workspace.schema frame = (.ok schema, workspace) := by
  rw [Workspace.schema, h]

theorem schema_answer (hs : workspace.Holds frame.id.session) (h : workspace.schema? frame = none) :
    (workspace.schema frame).1 = (Submission.answer (workspace.shapeSubmission frame)).map (·.schema) := by
  rw [Workspace.schema, shapeSubmission, h]
  dsimp only
  rw [← submit_answer hs]
  rcases workspace.submit frame (Fragment.limit frame.name 0) .dryRun with ⟨error | result, after⟩ <;> rfl

theorem shapes_submission (workspace : Workspace σ) (frame : Frame) (sql : String) :
    Submission.shapes frame.id (workspace.submission frame .dryRun sql) =
      ((Submission.answer (workspace.submission frame .dryRun sql)).toOption.map (·.schema)).toList := by
  rw [Workspace.submission, Submission.shapes]
  split
  · rw [List.filterMap_cons, Submission.shape?, if_pos ⟨rfl, rfl⟩, Submission.answer]
    cases (workspace.executor ⟨.dryRun, sql⟩ workspace.state).1 <;> rfl
  · rfl

theorem connected_of_answer {result : QueryResult}
    (h : Submission.answer (workspace.submission frame mode sql) = .ok result) :
    (workspace.session frame.id.session).connected = true := by
  rw [Workspace.submission] at h
  split at h
  · assumption
  · cases h

/-- Statements for a frame that answer its shape, which is then remembered in the session that made them. -/
theorem Follows.of_remember (hs : before.Holds frame.id.session) (hsends : before.Sends submissions after)
    (hsessions : after.sessions = (before.put session).sessions)
    (hcomposes : (before.session frame.id.session).Composes session)
    (hconnected : (before.session frame.id.session).connected = true)
    (hknown : before.schema? frame = none) (hothers : ∀ id, frame.id ≠ id → Submission.shapes id submissions = [])
    {schema : Schema} (hshapes : Submission.shapes frame.id submissions = [schema]) :
    before.Follows submissions (after.put ((after.session frame.id.session).remember frame.id schema)) := by
  have hsession : after.session frame.id.session = session := by
    rw [Workspace.session, hsessions]
    exact (session_put_of_holds session hs hcomposes.id_eq _).trans (if_pos rfl)
  -- A shape is remembered only where an executor gave it.
  have hremember : session.Continues (session.remember frame.id schema) := by
    refine ⟨rfl, rfl, Nat.le_refl _, fun hdisconnected => ?_⟩
    rw [hcomposes.connected_eq, hconnected] at hdisconnected
    cases hdisconnected
  rw [hsession]
  refine .of_put (session.remember frame.id schema) hs ⟨hsends.executor_eq, hsends.calls_eq, hsends.replies⟩ ?_
    (hcomposes.toContinues.trans hremember) ?_ ?_
  · rw [put, hsessions]
    exact List.set_set ..
  · intro id hid
    exact hothers id fun heq => hid (congrArg FrameId.session heq).symm
  · intro id hid
    rw [Session.schema?_remember, hcomposes.schema?_eq id hid]
    split
    · next heq =>
        rw [schema?, heq] at hknown
        rw [← heq, hshapes, heq, hknown]
        rfl
    · next hne => rw [hothers id hne, List.append_nil]

/-- A shape is asked for only while it is not known, and is known from the first answer on. -/
theorem schema_follows (hs : workspace.Holds frame.id.session) :
    workspace.Follows (workspace.shapeSubmission frame) (workspace.schema frame).2 := by
  rw [Workspace.schema, shapeSubmission]
  cases hknown : workspace.schema? frame with
  | some schema => exact .refl workspace
  | none =>
      dsimp only
      have hothers : ∀ id, frame.id ≠ id → Submission.shapes id (workspace.submission frame .dryRun
          (workspace.textOver frame (Fragment.limit frame.name 0))) = [] := fun id hid =>
        Submission.shapes_eq_nil_of_ne fun submission h heq => hid ((frame_of_mem_submission h).1 ▸ heq)
      have hshapes := shapes_submission workspace frame (workspace.textOver frame (Fragment.limit frame.name 0))
      have hanswer := submit_answer hs (Fragment.limit frame.name 0) .dryRun
      have hsends := submit_sends hs (Fragment.limit frame.name 0) .dryRun
      have hsessions := sessions_submit hs (Fragment.limit frame.name 0) .dryRun
      rw [← hanswer] at hshapes
      rcases hsubmit : workspace.submit frame (Fragment.limit frame.name 0) .dryRun with ⟨error | result, after⟩ <;>
        rw [hsubmit] at hanswer hsends hsessions hshapes
      · refine .of_composes _ hs hsends hsessions (Session.derive_composes ..) fun id => ?_
        by_cases hid : frame.id = id
        · exact hid ▸ hshapes
        · exact hothers id hid
      · exact .of_remember hs hsends hsessions (Session.derive_composes ..) (connected_of_answer hanswer.symm) hknown
          hothers hshapes

/-- The frame that a union by name answers, once both shapes are known. -/
def combineByName (workspace : Workspace σ) (left right : Frame) (allowMissing : Bool)
    (leftSchema rightSchema : Schema) : Except FrameError (Frame × Session) := do
  let split ← ColumnSplit.reconcile leftSchema.columnNames rightSchema.columnNames allowMissing
  let fragment ← split.unionFragment left.name right.name
  (workspace.session left.id.session).combine left right fragment

/-- A union by name asks for both shapes in turn, then composes in the session of its left side. -/
theorem unionByName_eq (workspace : Workspace σ) {left right : Frame} (allowMissing : Bool)
    (hsame : left.id.session = right.id.session) :
    workspace.unionByName left right allowMissing =
      match workspace.schema left with
      | (.error error, workspace) => (.error error, workspace)
      | (.ok leftSchema, workspace) =>
        match workspace.schema right with
        | (.error error, workspace) => (.error error, workspace)
        | (.ok rightSchema, workspace) =>
          workspace.compose (workspace.combineByName left right allowMissing leftSchema rightSchema) := by
  rw [unionByName, Session.checkSameSession, if_pos hsame]
  simp only [columns]
  rcases workspace.schema left with ⟨error | leftSchema, workspace⟩
  · rfl
  · dsimp only [Except.map]
    rcases workspace.schema right with ⟨error | rightSchema, workspace⟩ <;> rfl

theorem unionByName_of_foreign (workspace : Workspace σ) {left right : Frame} (allowMissing : Bool)
    (hforeign : left.id.session ≠ right.id.session) :
    workspace.unionByName left right allowMissing =
      (.error (.foreignFrames left.name right.name), workspace) := by
  rw [unionByName, Session.checkSameSession, if_neg hforeign]

theorem combineByName_composes {left right : Frame} {allowMissing : Bool} {leftSchema rightSchema : Schema}
    {made : Frame × Session}
    (h : workspace.combineByName left right allowMissing leftSchema rightSchema = .ok made) :
    (workspace.session left.id.session).Composes made.2 := by
  obtain ⟨split, -, h⟩ := exists_of_bind_eq_ok h
  obtain ⟨fragment, -, h⟩ := exists_of_bind_eq_ok h
  obtain ⟨-, rfl⟩ := Session.combine_eq_ok.mp h
  exact Session.derive_composes ..

theorem unionByName_follows_schema {left right : Frame} (allowMissing : Bool) {schema : Schema}
    (hsame : left.id.session = right.id.session) (hschema : workspace.schema left = (.ok schema, middle))
    (hleft : middle.Holds left.id.session) :
    (middle.schema right).2.Follows [] (workspace.unionByName left right allowMissing).2 := by
  have hholds : middle.Holds right.id.session := hsame ▸ hleft
  have hsecond := schema_follows hholds
  rw [unionByName_eq _ _ hsame, hschema]
  dsimp only
  rcases hright : middle.schema right with ⟨error | rightSchema, after⟩
  · exact .refl after
  · rw [hright] at hsecond
    exact compose_follows _ (hsecond.holds hleft) fun made => combineByName_composes

theorem unionByName_follows {left right : Frame} {allowMissing : Bool} (hleft : workspace.Holds left.id.session)
    (hright : workspace.Holds right.id.session) :
    workspace.Follows (workspace.submissions (.unionByName left right allowMissing))
      (workspace.unionByName left right allowMissing).2 := by
  rw [submissions]
  split
  · next hsame =>
      have hfirst := schema_follows hleft
      rcases hschema : workspace.schema left with ⟨error | schema, middle⟩ <;> rw [hschema] at hfirst
      · rw [unionByName_eq _ _ hsame, hschema, List.append_nil]
        exact hfirst
      · have hsecond := schema_follows (hfirst.holds hright)
        have hcomposed := unionByName_follows_schema allowMissing hsame hschema (hfirst.holds hleft)
        rw [← List.append_nil (Workspace.shapeSubmission _ _ ++ _), List.append_assoc]
        exact hfirst.trans (hsecond.trans hcomposed)
  · next hforeign =>
      rw [unionByName_of_foreign _ _ hforeign]
      exact .refl workspace

variable {operation : Operation}

theorem perform_follows_of_compose (outcome : Except FrameError (Frame × Session)) (hs : workspace.Holds s)
    (hperform : workspace.perform operation = answer .frame (workspace.compose outcome))
    (hsubmissions : workspace.submissions operation = [])
    (hcomposes : ∀ made, outcome = .ok made → (workspace.session s).Composes made.2) :
    workspace.Follows (workspace.submissions operation) (workspace.perform operation).2 := by
  rw [hsubmissions, hperform]
  exact compose_follows outcome hs hcomposes

/-- An operation logs what it submits, and learns the shapes that this answers. -/
theorem perform_follows (hframes : ∀ frame ∈ operation.frames, workspace.Holds frame.id.session)
    (hbuilder : ∀ s, operation.builder? = some s → workspace.Holds s) :
    workspace.Follows (workspace.submissions operation) (workspace.perform operation).2 := by
  have hframe : ∀ {frame : Frame}, operation.frames = [frame] → workspace.Holds frame.id.session :=
    fun h => hframes _ (h ▸ List.mem_singleton_self _)
  cases operation with
  | sql builder query =>
      apply perform_follows_of_compose _ (hbuilder builder rfl) rfl rfl
      rintro _ ⟨⟩
      exact Session.derive_composes ..
  | table builder path =>
      apply perform_follows_of_compose _ (hbuilder builder rfl) rfl rfl
      rintro _ ⟨⟩
      exact Session.derive_composes ..
  | sqlAs builder query name =>
      apply perform_follows_of_compose _ (hbuilder builder rfl) rfl rfl
      intro made hmade
      obtain ⟨-, rfl⟩ := Session.sqlAs_eq_ok.mp hmade
      exact .of_schemas_eq rfl rfl (Nat.le_succ _) rfl
  | registerView builder name frame => exact registerView_follows (hbuilder builder rfl)
  | createTempView frame name => exact registerView_follows (hframe rfl)
  | aliasAs frame name =>
      apply perform_follows_of_compose _ (hframe rfl) rfl rfl
      exact fun made => Session.aliasAs_composes
  | select frame columns =>
      apply perform_follows_of_compose _ (hframe rfl) rfl rfl
      intro made hmade
      obtain ⟨-, rfl⟩ := Session.select_eq_ok.mp hmade
      exact Session.derive_composes ..
  | filter frame predicate =>
      apply perform_follows_of_compose _ (hframe rfl) rfl rfl
      rintro _ ⟨⟩
      exact Session.derive_composes ..
  | limit frame count =>
      apply perform_follows_of_compose _ (hframe rfl) rfl rfl
      intro made hmade
      obtain ⟨-, rfl⟩ := Session.limit_eq_ok.mp hmade
      exact Session.derive_composes ..
  | sort frame columns =>
      apply perform_follows_of_compose _ (hframe rfl) rfl rfl
      intro made hmade
      obtain ⟨-, rfl⟩ := Session.sort_eq_ok.mp hmade
      exact Session.derive_composes ..
  | withColumn frame name expression replace =>
      apply perform_follows_of_compose _ (hframe rfl) rfl rfl
      rintro _ ⟨⟩
      exact Session.derive_composes ..
  | union left right =>
      apply perform_follows_of_compose _ (hframes left List.mem_cons_self) rfl rfl
      intro made hmade
      obtain ⟨-, rfl⟩ := Session.combine_eq_ok.mp hmade
      exact Session.derive_composes ..
  | unionByName left right allowMissing =>
      exact unionByName_follows (hframes left List.mem_cons_self)
        (hframes right (List.mem_cons_of_mem _ List.mem_cons_self))
  | schema frame => exact schema_follows (hframe rfl)
  | columns frame => exact schema_follows (hframe rfl)
  | treeString frame => exact schema_follows (hframe rfl)
  | collect frame => exact collect_follows (hframe rfl)
  | take frame count => exact take_follows (hframe rfl) count
  | count frame => exact submit_follows (hframe rfl) _

end Workspace

end QueryFrames
