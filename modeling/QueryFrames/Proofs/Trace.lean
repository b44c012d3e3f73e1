import QueryFrames.Proofs.Submissions

/-! The trace of a run: the statements of its operations, one after the other, with the replies that the executor
gave. The log of calls is this trace; an operation whose statement fails fails with it; and a session without an
executor submits nothing and refuses what only an executor can answer. -/

namespace QueryFrames

namespace Workspace

variable {σ : Type} {workspace middle : Workspace σ} {frame : Frame} {mode : ExecutionMode} {sql : String}
  {submission : Submission} {operation : Operation} {source : WorkerError} {error : FrameError}

theorem collect_of_answer
    (h : Submission.answer (workspace.submission frame .materialize (workspace.compile frame)) = .error error) :
    (workspace.collect frame).1 = .error error := by
  rw [← execute_answer] at h
  exact congrArg (Except.map (·.rows)) h

theorem take_of_answer (hs : workspace.Holds frame.id.session) {count : Int} (hcount : 0 ≤ count)
    (h : Submission.answer (workspace.submission frame .materialize
      (workspace.textOver frame (Fragment.limit frame.name count))) = .error error) :
    (workspace.take frame count).1 = .error error := by
  rw [← submit_answer hs] at h
  rw [take_eq hs hcount]
  exact congrArg (Except.map (·.rows)) h

theorem count_of_answer (hs : workspace.Holds frame.id.session)
    (h : Submission.answer (workspace.submission frame .materialize
      (workspace.textOver frame (Fragment.count frame.name))) = .error error) :
    (workspace.count frame).1 = .error error := by
  rw [← submit_answer hs] at h
  exact congrArg (Except.bind · fun result => countOfRows result.rows) h

theorem unionByName_of_left {left right : Frame} (allowMissing : Bool) (hsame : left.id.session = right.id.session)
    (h : (workspace.schema left).1 = .error error) :
    (workspace.unionByName left right allowMissing).1 = .error error := by
  rw [unionByName_eq _ _ hsame]
  rcases hschema : workspace.schema left with ⟨_, after⟩
  rw [hschema] at h
  cases h
  rfl

theorem unionByName_of_right {left right : Frame} (allowMissing : Bool) (hsame : left.id.session = right.id.session)
    {schema : Schema} (hleft : workspace.schema left = (.ok schema, middle))
    (h : (middle.schema right).1 = .error error) :
    (workspace.unionByName left right allowMissing).1 = .error error := by
  rw [unionByName_eq _ _ hsame, hleft]
  dsimp only
  rcases hschema : middle.schema right with ⟨_, after⟩
  rw [hschema] at h
  cases h
  rfl

theorem perform_of_error {α : Type} {form : α → Answer} {outcome : Outcome σ α} (h : outcome.1 = .error error) :
    (answer form outcome).1 = .error error :=
  congrArg (Except.map form) h

/-- The two ways in which a statement belongs to an operation: it runs one of its frames, or asks for the shape of
one, possibly after the operation has submitted others. If it fails, so does the operation. -/
inductive Submits (workspace : Workspace σ) (operation : Operation) (submission : Submission) : Prop
  | rows {frame : Frame} {sql : String} (hframe : frame ∈ operation.frames)
      (hmem : submission ∈ workspace.submission frame .materialize sql)
      (herror : ∀ error, Submission.answer (workspace.submission frame .materialize sql) = .error error →
        (workspace.perform operation).1 = .error error)
  | shape {frame : Frame} {earlier : List Submission} {middle : Workspace σ} (hframe : frame ∈ operation.frames)
      (hmiddle : workspace.Follows earlier middle) (hmem : submission ∈ middle.shapeSubmission frame)
      (herror : ∀ error, (middle.schema frame).1 = .error error → (workspace.perform operation).1 = .error error)

theorem submits_of_mem (hframes : ∀ frame ∈ operation.frames, workspace.Holds frame.id.session)
    (h : submission ∈ workspace.submissions operation) : workspace.Submits operation submission := by
  cases operation with
  | collect frame =>
      exact .rows (List.mem_singleton_self _) h fun error herror => perform_of_error (collect_of_answer herror)
  | take frame count =>
      have hframe : frame ∈ (Operation.take frame count).frames := List.mem_singleton_self _
      rw [submissions] at h
      split at h
      · next hcount =>
          exact .rows hframe h fun error herror =>
            perform_of_error (take_of_answer (hframes frame hframe) hcount herror)
      · cases h
  | count frame =>
      have hframe : frame ∈ (Operation.count frame).frames := List.mem_singleton_self _
      exact .rows hframe h fun error herror => perform_of_error (count_of_answer (hframes frame hframe) herror)
  | schema frame =>
      exact .shape (List.mem_singleton_self _) (.refl workspace) h fun error => perform_of_error
  | columns frame =>
      exact .shape (List.mem_singleton_self _) (.refl workspace) h fun error herror =>
        perform_of_error (congrArg (Except.map Schema.columnNames) herror)
  | treeString frame =>
      exact .shape (List.mem_singleton_self _) (.refl workspace) h fun error herror =>
        perform_of_error (congrArg (Except.map Schema.tree) herror)
  | unionByName left right allowMissing =>
      rw [submissions] at h
      split at h
      · next hsame =>
          rcases List.mem_append.mp h with h | h
          · exact .shape List.mem_cons_self (.refl workspace) h fun error herror =>
              perform_of_error (unionByName_of_left allowMissing hsame herror)
          · split at h
            · next schema middle hschema =>
                -- The right side is asked for in the workspace that the answer for the left one leaves behind.
                have hmiddle := schema_follows (hframes left List.mem_cons_self)
                rw [hschema] at hmiddle
                exact .shape (List.mem_cons_of_mem _ List.mem_cons_self) hmiddle h fun error herror =>
                  perform_of_error (unionByName_of_right allowMissing hsame hschema herror)
            · cases h
      · cases h
  | sql builder query => cases h
  | sqlAs builder query name => cases h
  | table builder path => cases h
  | registerView builder name frame => cases h
  | aliasAs frame name => cases h
  | createTempView frame name => cases h
  | select frame columns => cases h
  | filter frame predicate => cases h
  | limit frame count => cases h
  | sort frame columns => cases h
  | withColumn frame name expression replace => cases h
  | union left right => cases h

/-- Every statement is for a frame that the operation is given, in a session with an executor. -/
theorem mem_submissions (hframes : ∀ frame ∈ operation.frames, workspace.Holds frame.id.session)
    (h : submission ∈ workspace.submissions operation) :
    submission.frame ∈ operation.frames ∧
      (workspace.session submission.frame.id.session).connected = true := by
  cases submits_of_mem hframes h with
  | rows hframe hmem herror =>
      obtain ⟨hconnected, rfl⟩ := mem_submission.mp hmem
      exact ⟨hframe, hconnected⟩
  | shape hframe hmiddle hmem herror =>
      obtain ⟨rfl, hconnected⟩ := frame_of_mem_shapeSubmission hmem
      exact ⟨hframe, (hmiddle.continues _).connected_eq ▸ hconnected⟩

end Workspace

/-! ### Runs -/

namespace History

variable {σ : Type} {executor : Executor σ} {state : σ} {admits : History σ → Operation → Prop}
  {before history after : History σ} {registers : History σ → Nat × String → Prop} {operation : Operation}
  {sources : List Derivation} {trace rest : List Submission}

/-- A run from one history to another, and all that it submits. -/
inductive Run (before : History σ) : List Submission → History σ → Prop
  | nil : Run before [] before
  | openSession {trace : List Submission} {history : History σ} (dialect : Dialect) (connected : Bool)
      (hrun : Run before trace history) :
      Run before trace ⟨(history.workspace.openSession dialect connected).2, history.made⟩
  | perform {trace : List Submission} {history : History σ} {operation : Operation} {sources : List Derivation}
      (hrun : Run before trace history) (hoffers : history.Offers operation sources) :
      Run before (trace ++ history.workspace.submissions operation) (history.perform operation sources)

theorem Run.trans (hfirst : Run before trace history) (hsecond : Run history rest after) :
    Run before (trace ++ rest) after := by
  induction hsecond with
  | nil => exact (List.append_nil trace).symm ▸ hfirst
  | openSession dialect connected _ ih => exact .openSession dialect connected ih
  | perform _ hoffers ih =>
      rw [← List.append_assoc]
      exact .perform ih hoffers

theorem Run.reached (hrun : Run ⟨.start executor state, []⟩ trace history) :
    Reached executor state (fun _ _ => True) history := by
  induction hrun with
  | nil => exact .start
  | openSession dialect connected _ ih => exact .openSession dialect connected ih
  | perform _ hoffers ih => exact .perform ih hoffers trivial

/-- Every history that is reached has a trace. -/
theorem Reached.exists_run (hreached : Reached executor state admits history) :
    ∃ trace, Run ⟨.start executor state, []⟩ trace history := by
  induction hreached with
  | start => exact ⟨[], .nil⟩
  | openSession dialect connected _ ih =>
      obtain ⟨trace, hrun⟩ := ih
      exact ⟨trace, .openSession dialect connected hrun⟩
  | perform _ hoffers _ ih =>
      obtain ⟨trace, hrun⟩ := ih
      exact ⟨_, .perform hrun hoffers⟩

/-! ### What a run keeps -/

theorem Consistent.holds (hc : history.Consistent) {s : Nat} (hs : s < history.workspace.sessions.length) :
    history.workspace.Holds s :=
  ⟨hs, hc.id_eq s hs⟩

theorem Offers.exists_of_mem (hoffers : history.Offers operation sources) {frame : Frame}
    (hframe : frame ∈ operation.frames) : ∃ d ∈ history.made, d.frame = frame := by
  rw [hoffers.frames] at hframe
  obtain ⟨d, hd, heq⟩ := List.mem_map.mp hframe
  exact ⟨d, hoffers.made d hd, heq⟩

theorem Offers.holds (hoffers : history.Offers operation sources) (hc : history.Consistent) :
    ∀ frame ∈ operation.frames, history.workspace.Holds frame.id.session := by
  intro frame hframe
  obtain ⟨d, hd, rfl⟩ := hoffers.exists_of_mem hframe
  exact hc.holds (hc.session_lt d hd)

theorem Offers.follows (hoffers : history.Offers operation sources) (hc : history.Consistent) :
    history.workspace.Follows (history.workspace.submissions operation)
      (history.perform operation sources).workspace :=
  Workspace.perform_follows (hoffers.holds hc) fun s hs => hc.holds (hoffers.builder s hs)

theorem Run.sends (hrun : Run ⟨.start executor state, []⟩ trace history) :
    (Workspace.start executor state).Sends trace history.workspace := by
  induction hrun with
  | nil => exact .refl _
  | openSession dialect connected _ ih => exact ⟨ih.executor_eq, ih.calls_eq, ih.replies⟩
  | perform hrun hoffers ih => exact ih.trans (hoffers.follows hrun.reached.consistent).toSends

theorem issued_put (hc : history.Consistent) {s : Nat} (hs : s < history.workspace.sessions.length)
    {session : Session} (hid : session.id = (history.session s).id) (hmade : (history.session s).made ≤ session.made)
    (h : ∀ d ∈ history.made, history.workspace.Issued d.frame) :
    ∀ d ∈ history.made, (history.workspace.put session).Issued d.frame := by
  intro d hd
  have hissued := h d hd
  rw [Workspace.Issued] at hissued ⊢
  rw [Workspace.session_put_of_holds session (hc.holds hs) hid]
  split
  · next heq =>
      rw [heq] at hissued
      exact Nat.lt_of_lt_of_le hissued hmade
  · exact hissued

theorem issued_record (hc : history.Consistent) {s : Nat} (hs : s < history.workspace.sessions.length)
    {made : Frame × Session} {chosen : Bool} {parents : List Derivation}
    (hid : made.2.id = (history.session s).id) (hmade : (history.session s).made < made.2.made)
    (hframe : made.1.id = ⟨(history.session s).id, (history.session s).made⟩)
    (h : ∀ d ∈ history.made, history.workspace.Issued d.frame) :
    ∀ d ∈ (history.record made chosen parents).made, (history.workspace.put made.2).Issued d.frame := by
  refine List.forall_mem_append.mpr ⟨issued_put hc hs hid (Nat.le_of_lt hmade) h, List.forall_mem_singleton.mpr ?_⟩
  rw [Workspace.Issued, hframe, Workspace.session_put_of_holds made.2 (hc.holds hs) hid, if_pos (hc.id_eq s hs)]
  exact hmade

theorem Change.issued (hchange : Change registers history after) (hc : history.Consistent)
    (h : ∀ d ∈ history.made, history.workspace.Issued d.frame) :
    ∀ d ∈ after.made, after.workspace.Issued d.frame := by
  cases hchange with
  | derive hs hmade fragment => exact issued_record hc hs rfl (Nat.lt_succ_self _) rfl h
  | choose hs hname fragment => exact issued_record hc hs rfl (Nat.lt_succ_self _) rfl h
  | rename hd hname => exact issued_record hc (hc.session_lt _ hd) rfl (Nat.lt_succ_self _) rfl h
  | register hs hd hregisters hname => exact issued_put hc hs rfl (Nat.le_refl _) h
  | remember hs frame schema => exact issued_put hc hs rfl (Nat.le_refl _) h
  | submit call state => exact h

theorem Reached.issued (hreached : Reached executor state admits history) :
    ∀ d ∈ history.made, history.workspace.Issued d.frame := by
  apply hreached.change_induction
  · exact fun d hd => nomatch hd
  · intro history dialect connected _ h d hd
    rw [Workspace.Issued, Workspace.session_openSession_of_issued (h d hd)]
    exact h d hd
  · exact fun hc hchange h => hchange.issued hc h

/-- What a trace says of the sessions: only those with an executor submit anything or know any shape. -/
structure Accounted (history : History σ) (trace : List Submission) : Prop where
  issued : ∀ submission ∈ trace, history.workspace.Issued submission.frame
  connected : ∀ submission ∈ trace, (history.session submission.frame.id.session).connected = true
  unshaped : ∀ s, (history.session s).connected = false → (history.session s).schemas = []

theorem Accounted.openSession (h : history.Accounted trace) (dialect : Dialect) (connected : Bool) :
    (History.mk (history.workspace.openSession dialect connected).2 history.made).Accounted trace where
  issued submission hsubmission := by
    rw [Workspace.Issued, Workspace.session_openSession_of_issued (h.issued submission hsubmission)]
    exact h.issued submission hsubmission
  connected submission hsubmission := by
    rw [session, Workspace.session_openSession_of_issued (h.issued submission hsubmission)]
    exact h.connected submission hsubmission
  unshaped s hconnected := by
    rw [session, Workspace.session_openSession] at hconnected ⊢
    split
    · rfl
    · next hold =>
        rw [if_neg hold] at hconnected
        exact h.unshaped s hconnected

theorem Reached.issued_of_mem_submissions (hreached : Reached executor state admits history)
    (hoffers : history.Offers operation sources) {submission : Submission}
    (hsubmission : submission ∈ history.workspace.submissions operation) :
    history.workspace.Issued submission.frame ∧
      (history.session submission.frame.id.session).connected = true := by
  obtain ⟨hframe, hconnected⟩ := Workspace.mem_submissions (hoffers.holds hreached.consistent) hsubmission
  obtain ⟨d, hd, hframe⟩ := hoffers.exists_of_mem hframe
  exact ⟨hframe ▸ hreached.issued d hd, hconnected⟩

theorem Accounted.perform (h : history.Accounted trace) (hreached : Reached executor state admits history)
    (hoffers : history.Offers operation sources) :
    (history.perform operation sources).Accounted (trace ++ history.workspace.submissions operation) := by
  have hfollows := hoffers.follows hreached.consistent
  constructor
  · intro submission hsubmission
    apply hfollows.issued
    rcases List.mem_append.mp hsubmission with hsubmission | hsubmission
    · exact h.issued submission hsubmission
    · exact (hreached.issued_of_mem_submissions hoffers hsubmission).1
  · intro submission hsubmission
    refine (hfollows.continues _).connected_eq.trans ?_
    rcases List.mem_append.mp hsubmission with hsubmission | hsubmission
    · exact h.connected submission hsubmission
    · exact (hreached.issued_of_mem_submissions hoffers hsubmission).2
  · intro s hconnected
    have hbefore := (hfollows.continues s).connected_eq.symm.trans hconnected
    exact (hfollows.continues s).unshaped hbefore (h.unshaped s hbefore)

theorem Run.accounted (hrun : Run ⟨.start executor state, []⟩ trace history) : history.Accounted trace := by
  induction hrun with
  | nil => exact ⟨List.forall_mem_nil _, List.forall_mem_nil _, fun _ _ => rfl⟩
  | openSession dialect connected _ ih => exact ih.openSession dialect connected
  | perform hrun hoffers ih => exact ih.perform hrun.reached hoffers

end History

/-! ### An executor that fails at first, and a session without one -/

namespace Flaky

/-- Fails once, then answers every statement with one column and one row. -/
def executor : Executor Bool := fun _ failed =>
  if failed then (.ok ⟨[⟨"id", "INTEGER", .nullable, []⟩], [[.number (.whole 1)]]⟩, true)
  else (.error (.timeout 30), true)

def source : Derivation := ⟨⟨⟨0, 0⟩, "t", "SELECT 1 AS id", []⟩, true, []⟩

def offline : Derivation := ⟨⟨⟨1, 0⟩, "_default_alias_1", "SELECT 2 AS id", []⟩, false, []⟩

def start : History Bool := ⟨.start executor false, []⟩

def connected : History Bool := ⟨(start.workspace.openSession .bigQuery true).2, start.made⟩

def opened : History Bool := connected.perform (.sqlAs 0 "SELECT 1 AS id" "t") []

def failed : History Bool := opened.perform (.schema source.frame) [source]

def history : History Bool :=
  let history := failed.perform (.columns source.frame) [source] |>.perform (.take source.frame 2) [source]
  History.mk (history.workspace.openSession .bigQuery false).2 history.made
    |>.perform (.sql 1 "SELECT 2 AS id") []

/-- The text that reads the source with a limit. -/
def limited (count : Int) : String :=
  "WITH `t` AS (\n  SELECT 1 AS id\n)\nSELECT * FROM t LIMIT " ++ toString count

theorem offers_source {history : History Bool} (operation : Operation) (h : history.made[0]? = some source)
    (hframes : operation.frames = [source.frame]) (hbuilder : operation.builder? = none) :
    history.Offers operation [source] :=
  .of_frame (List.mem_of_getElem? h) hframes hbuilder

theorem run_opened : History.Run start [] opened := by
  have hoffers : connected.Offers (.sqlAs 0 "SELECT 1 AS id" "t") [] :=
    .of_builder (s := 0) (by decide) rfl rfl
  exact .perform (.openSession .bigQuery true .nil) hoffers

theorem exists_run : ∃ trace, History.Run start trace history ∧
    trace.map (·.call) = [⟨.dryRun, limited 0⟩, ⟨.dryRun, limited 0⟩, ⟨.materialize, limited 2⟩] := by
  have hfailed : History.Run start _ failed := .perform run_opened (offers_source _ rfl rfl rfl)
  have hknown := hfailed.perform (offers_source (.columns source.frame) rfl rfl rfl)
  have htaken := hknown.perform (offers_source (.take source.frame 2) rfl rfl rfl)
  refine ⟨_, .perform (.openSession .bigQuery false htaken) (.of_builder (s := 1) (by decide) rfl rfl), ?_⟩
  decide +kernel

end Flaky

end QueryFrames
