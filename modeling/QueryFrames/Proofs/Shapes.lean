import QueryFrames.Proofs.Trace

/-! What becomes known of shapes in a run. The shape of a frame is known from the first answer on; it is not asked for
again, it never changes, and a frame that gets another alias takes it along. A failure leaves nothing behind, so the
next who asks submits the statement once more. -/

namespace QueryFrames

namespace Session

/-- A renamed frame has the next number and the shape of the frame that it renames. -/
theorem aliasAs_schema? {session : Session} {frame : Frame} {name : String} {made : Frame × Session}
    {schema : Schema} (h : session.aliasAs frame name = .ok made)
    (hknown : session.schema? frame.id = some schema) :
    made.1.id = ⟨session.id, session.made⟩ ∧ made.2.id = session.id ∧ session.made < made.2.made ∧
      made.2.schema? made.1.id = some schema := by
  obtain ⟨-, rfl⟩ := aliasAs_eq_ok.mp h
  dsimp only
  rw [hknown]
  exact ⟨rfl, rfl, Nat.lt_succ_self _, (schema?_remember ..).trans (if_pos rfl)⟩

end Session

namespace Workspace

variable {σ : Type} {workspace before after : Workspace σ} {submissions : List Submission} {frame : Frame}
  {schema : Schema} {operation : Operation} {answer : Except FrameError Schema}

/-- The frames whose shapes an operation asks for, and what it is answered. -/
def resolutions (workspace : Workspace σ) : Operation → List (Frame × Except FrameError Schema)
  | .schema frame | .columns frame | .treeString frame => [(frame, (workspace.schema frame).1)]
  | .unionByName left right _ =>
    if left.id.session = right.id.session then
      match workspace.schema left with
      | (.ok schema, workspace) => [(left, .ok schema), (right, (workspace.schema right).1)]
      | (.error error, _) => [(left, .error error)]
    else []
  | _ => []

/-- The shape of a frame is known: whoever asks for it is answered at once, and the workspace stays as it is. -/
structure Remembers (workspace : Workspace σ) (frame : Frame) (schema : Schema) : Prop where
  known : workspace.schema? frame = some schema
  schema_eq : workspace.schema frame = (.ok schema, workspace)
  columns_eq : workspace.columns frame = (.ok schema.columnNames, workspace)
  treeString_eq : workspace.treeString frame = (.ok schema.tree, workspace)

theorem Remembers.of_known (h : workspace.schema? frame = some schema) : workspace.Remembers frame schema where
  known := h
  schema_eq := schema_of_known h
  columns_eq := by rw [columns, schema_of_known h]; rfl
  treeString_eq := by rw [treeString, schema_of_known h]; rfl

theorem eq_of_toList_eq {α : Type} {first second : Option α} (h : first.toList = second.toList) : first = second := by
  cases second with
  | none => exact Option.toList_eq_nil_iff.mp h
  | some value => exact Option.toList_eq_singleton_iff.mp h

theorem Follows.known (h : before.Follows submissions after) (hissued : before.Issued frame)
    (hknown : before.schema? frame = some schema) : after.schema? frame = some schema := by
  have hshapes := h.shapes_eq frame hissued
  rw [hknown] at hshapes
  cases hafter : after.schema? frame with
  | none =>
      rw [hafter] at hshapes
      cases hshapes
  | some other =>
      rw [hafter] at hshapes
      exact congrArg some (List.cons.inj hshapes).1

/-- The answer to who asks for a shape is what is known of it from then on. -/
theorem schema?_schema (hs : workspace.Holds frame.id.session) (hissued : workspace.Issued frame) :
    (workspace.schema frame).2.schema? frame = (workspace.schema frame).1.toOption := by
  cases hknown : workspace.schema? frame with
  | some schema =>
      rw [schema_of_known hknown]
      exact hknown
  | none =>
      have hshapes := (schema_follows hs).shapes_eq frame hissued
      rw [schema_answer hs hknown]
      rw [hknown, shapeSubmission, hknown] at hshapes
      rw [shapeSubmission, hknown]
      rw [eq_of_toList_eq (hshapes.trans (shapes_submission workspace frame _))]
      cases Submission.answer _ <;> rfl

theorem Follows.schema?_eq (h : before.Follows [] after) (hissued : before.Issued frame) :
    after.schema? frame = before.schema? frame :=
  eq_of_toList_eq ((h.shapes_eq frame hissued).trans (List.append_nil _))

theorem schema?_of_mem_unionByName {left right : Frame} {allowMissing : Bool}
    (hleft : workspace.Holds left.id.session) (hright : workspace.Holds right.id.session)
    (hissuedLeft : workspace.Issued left) (hissuedRight : workspace.Issued right)
    (h : (frame, answer) ∈ workspace.resolutions (.unionByName left right allowMissing)) :
    frame ∈ [left, right] ∧ (workspace.unionByName left right allowMissing).2.schema? frame = answer.toOption := by
  rw [resolutions] at h
  split at h
  · next hsame =>
      have hfirst := schema_follows hleft
      have hknown := schema?_schema hleft hissuedLeft
      rcases hschema : workspace.schema left with ⟨error | schema, middle⟩ <;> rw [hschema] at h hfirst hknown
      · obtain ⟨rfl, rfl⟩ := Prod.mk.inj (List.mem_singleton.mp h)
        rw [unionByName_eq _ _ hsame, hschema]
        exact ⟨List.mem_cons_self, hknown⟩
      · -- What the left side learned stays while the right one is asked, and both while the union is made.
        have hsecond := schema_follows (hfirst.holds hright)
        have hcomposed := unionByName_follows_schema allowMissing hsame hschema (hfirst.holds hleft)
        rcases List.mem_cons.mp h with h | h
        · obtain ⟨rfl, rfl⟩ := Prod.mk.inj h
          exact ⟨List.mem_cons_self, (hsecond.trans hcomposed).known (hfirst.issued hissuedLeft) hknown⟩
        · obtain ⟨rfl, rfl⟩ := Prod.mk.inj (List.mem_singleton.mp h)
          have hissued := hfirst.issued hissuedRight
          refine ⟨List.mem_cons_of_mem _ (List.mem_singleton_self _), ?_⟩
          rw [hcomposed.schema?_eq (hsecond.issued hissued)]
          exact schema?_schema (hfirst.holds hright) hissued
  · cases h

/-- What an operation is answered when it asks for a shape is what is known of it afterwards. -/
theorem schema?_of_mem_resolutions (hframes : ∀ frame ∈ operation.frames, workspace.Holds frame.id.session)
    (hissued : ∀ frame ∈ operation.frames, workspace.Issued frame)
    (h : (frame, answer) ∈ workspace.resolutions operation) :
    frame ∈ operation.frames ∧ (workspace.perform operation).2.schema? frame = answer.toOption := by
  have hsingle : ∀ {named : Frame}, operation.frames = [named] →
      (frame, answer) ∈ [(named, (workspace.schema named).1)] →
        frame ∈ [named] ∧ (workspace.schema named).2.schema? frame = answer.toOption := by
    intro named hnamed hmem
    obtain ⟨rfl, rfl⟩ := Prod.mk.inj (List.mem_singleton.mp hmem)
    have hmem : frame ∈ operation.frames := hnamed ▸ List.mem_singleton_self _
    exact ⟨List.mem_singleton_self _, schema?_schema (hframes frame hmem) (hissued frame hmem)⟩
  cases operation with
  | schema named => exact hsingle rfl h
  | columns named => exact hsingle rfl h
  | treeString named => exact hsingle rfl h
  | unionByName left right allowMissing =>
      have hleft : left ∈ (Operation.unionByName left right allowMissing).frames := List.mem_cons_self
      have hright : right ∈ (Operation.unionByName left right allowMissing).frames :=
        List.mem_cons_of_mem _ List.mem_cons_self
      exact schema?_of_mem_unionByName (hframes left hleft) (hframes right hright) (hissued left hleft)
        (hissued right hright) h
  | sql builder query => cases h
  | sqlAs builder query name => cases h
  | table builder path => cases h
  | registerView builder name frame => cases h
  | aliasAs frame name => cases h
  | createTempView frame name => cases h
  | select frame columns => cases h
  | filter frame predicate => cases h
  | limit frame count => cases h
  | sort frame columns => cases h
  | withColumn frame name expression replace => cases h
  | union left right => cases h
  | collect frame => cases h
  | take frame count => cases h
  | count frame => cases h

theorem calls_schema (hs : workspace.Holds frame.id.session) (hunknown : workspace.schema? frame = none)
    (hconnected : (workspace.session frame.id.session).connected = true) :
    (workspace.schema frame).2.calls =
      workspace.calls ++ [⟨.dryRun, workspace.textOver frame (Fragment.limit frame.name 0)⟩] := by
  have hcalls := (schema_follows hs).calls_eq
  rw [shapeSubmission, hunknown] at hcalls
  dsimp only at hcalls
  rw [submission, if_pos hconnected] at hcalls
  exact hcalls

/-- A renamed frame takes the known shape along. -/
theorem schema?_of_aliasAs {renamed : Frame} {name : String} (hs : workspace.Holds frame.id.session)
    (hknown : workspace.schema? frame = some schema)
    (hanswer : (workspace.perform (.aliasAs frame name)).1 = .ok (.frame renamed)) :
    (workspace.perform (.aliasAs frame name)).2.Issued renamed ∧
      (workspace.perform (.aliasAs frame name)).2.schema? renamed = some schema := by
  cases hmade : (workspace.session frame.id.session).aliasAs frame name with
  | error error =>
      rw [perform, hmade] at hanswer
      cases hanswer
  | ok made =>
      rw [perform, hmade] at hanswer ⊢
      obtain rfl : made.1 = renamed := by
        cases hanswer
        rfl
      obtain ⟨hid, hsession, hlt, hschema⟩ := Session.aliasAs_schema? hmade hknown
      have hput : (workspace.put made.2).session made.1.id.session = made.2 := by
        rw [session_put_of_holds made.2 hs hsession, hid, hs.id_eq, if_pos rfl]
      change (workspace.put made.2).Issued made.1 ∧ (workspace.put made.2).schema? made.1 = some schema
      rw [Issued, Workspace.schema?, hput, hid]
      exact ⟨hlt, hid ▸ hschema⟩

end Workspace

/-! ### Runs -/

namespace History

variable {σ : Type} {executor : Executor σ} {state : σ} {history later : History σ} {trace rest : List Submission}
  {operation : Operation} {sources : List Derivation} {frame named : Frame} {schema : Schema}

/-- What is known of a shape later on in a run is what was known before, then what the executor answered. -/
theorem Run.shapes_eq (hbefore : Run ⟨.start executor state, []⟩ trace history) (hrun : Run history rest later)
    (hissued : history.workspace.Issued frame) :
    later.workspace.Issued frame ∧
      (later.workspace.schema? frame).toList =
        (history.workspace.schema? frame).toList ++ Submission.shapes frame.id rest := by
  induction hrun with
  | nil => exact ⟨hissued, (List.append_nil _).symm⟩
  | openSession dialect connected _ ih =>
      obtain ⟨hlater, hshapes⟩ := ih
      rw [Workspace.Issued, Workspace.schema?, Workspace.session_openSession_of_issued hlater]
      exact ⟨hlater, hshapes⟩
  | perform hrun hoffers ih =>
      obtain ⟨hlater, hshapes⟩ := ih
      have hfollows := hoffers.follows (hbefore.trans hrun).reached.consistent
      refine ⟨hfollows.issued hlater, ?_⟩
      rw [hfollows.shapes_eq frame hlater, hshapes, Submission.shapes_append, List.append_assoc]

theorem shapes_eq_nil_of_not_issued {submissions : List Submission}
    (hissued : ∀ submission ∈ submissions, history.workspace.Issued submission.frame)
    (hnew : ¬ history.workspace.Issued frame) : Submission.shapes frame.id submissions = [] := by
  refine Submission.shapes_eq_nil_of_ne fun submission hsubmission heq => hnew ?_
  have h := hissued submission hsubmission
  rwa [Workspace.Issued, heq] at h

/-- The executor answered the shape of a frame only if it is known, and then once. -/
theorem Run.length_shapes_le (hrun : Run ⟨.start executor state, []⟩ trace history) (frame : Frame) :
    (Submission.shapes frame.id trace).length ≤ (history.workspace.schema? frame).toList.length := by
  induction hrun with
  | nil => exact Nat.zero_le _
  | @openSession trace history dialect connected hrun ih =>
      by_cases hissued : history.workspace.Issued frame
      · rw [Workspace.schema?, Workspace.session_openSession_of_issued hissued]
        exact ih
      · rw [shapes_eq_nil_of_not_issued hrun.accounted.issued hissued]
        exact Nat.zero_le _
  | @perform trace history operation sources hrun hoffers ih =>
      have hconsistent := hrun.reached.consistent
      rw [Submission.shapes_append, List.length_append]
      -- Of a frame that has no number yet no statement was submitted, and none is before it is made.
      by_cases hissued : history.workspace.Issued frame
      · rw [(hoffers.follows hconsistent).shapes_eq frame hissued, List.length_append]
        exact Nat.add_le_add_right ih _
      · have hsubmissions : ∀ submission ∈ history.workspace.submissions operation,
            history.workspace.Issued submission.frame :=
          fun submission hsubmission => (hrun.reached.issued_of_mem_submissions hoffers hsubmission).1
        rw [shapes_eq_nil_of_not_issued hrun.accounted.issued hissued,
          shapes_eq_nil_of_not_issued hsubmissions hissued]
        exact Nat.zero_le _

theorem Run.resolved (hrun : Run ⟨.start executor state, []⟩ trace history)
    (hoffers : history.Offers operation sources) {answer : Except FrameError Schema}
    (h : (frame, answer) ∈ history.workspace.resolutions operation) :
    (history.perform operation sources).workspace.Issued frame ∧
      (history.perform operation sources).workspace.schema? frame = answer.toOption := by
  have hconsistent := hrun.reached.consistent
  have hissued : ∀ frame ∈ operation.frames, history.workspace.Issued frame := by
    intro frame hframe
    obtain ⟨d, hd, rfl⟩ := hoffers.exists_of_mem hframe
    exact hrun.reached.issued d hd
  obtain ⟨hframe, hschema⟩ := Workspace.schema?_of_mem_resolutions (hoffers.holds hconsistent) hissued h
  exact ⟨(hoffers.follows hconsistent).issued (hissued frame hframe), hschema⟩

/-- A frame of a history later on in a run, or what renamings made of it since then. -/
inductive Renamed (history : History σ) (frame : Frame) : History σ → Frame → Prop
  | here : Renamed history frame history frame
  | openSession {later : History σ} {named : Frame} (dialect : Dialect) (connected : Bool)
      (h : Renamed history frame later named) :
      Renamed history frame ⟨(later.workspace.openSession dialect connected).2, later.made⟩ named
  | perform {later : History σ} {named : Frame} {operation : Operation} {sources : List Derivation}
      (h : Renamed history frame later named) (hoffers : later.Offers operation sources) :
      Renamed history frame (later.perform operation sources) named
  | rename {later : History σ} {named renamed : Frame} {name : String} {sources : List Derivation}
      (h : Renamed history frame later named) (hoffers : later.Offers (.aliasAs named name) sources)
      (hanswer : (later.workspace.perform (.aliasAs named name)).1 = .ok (.frame renamed)) :
      Renamed history frame (later.perform (.aliasAs named name) sources) renamed

theorem Renamed.exists_run (h : Renamed history frame later named) : ∃ rest, Run history rest later := by
  induction h with
  | here => exact ⟨[], .nil⟩
  | openSession dialect connected _ ih =>
      obtain ⟨rest, hrun⟩ := ih
      exact ⟨rest, .openSession dialect connected hrun⟩
  | perform _ hoffers ih =>
      obtain ⟨rest, hrun⟩ := ih
      exact ⟨_, .perform hrun hoffers⟩
  | rename _ hoffers _ ih =>
      obtain ⟨rest, hrun⟩ := ih
      exact ⟨_, .perform hrun hoffers⟩

/-- A known shape stays with the frame and goes along with every renaming. -/
theorem Renamed.known (h : Renamed history frame later named)
    (hbefore : Run ⟨.start executor state, []⟩ trace history) (hissued : history.workspace.Issued frame)
    (hknown : history.workspace.schema? frame = some schema) :
    later.workspace.Issued named ∧ later.workspace.schema? named = some schema := by
  induction h with
  | here => exact ⟨hissued, hknown⟩
  | openSession dialect connected _ ih =>
      obtain ⟨hlater, hschema⟩ := ih
      rw [Workspace.Issued, Workspace.schema?, Workspace.session_openSession_of_issued hlater]
      exact ⟨hlater, hschema⟩
  | perform h hoffers ih =>
      obtain ⟨hlater, hschema⟩ := ih
      obtain ⟨rest, hrun⟩ := h.exists_run
      have hfollows := hoffers.follows (hbefore.trans hrun).reached.consistent
      exact ⟨hfollows.issued hlater, hfollows.known hlater hschema⟩
  | @rename later named renamed name sources h hoffers hanswer ih =>
      obtain ⟨hlater, hschema⟩ := ih
      obtain ⟨rest, hrun⟩ := h.exists_run
      have hholds := hoffers.holds (hbefore.trans hrun).reached.consistent named (List.mem_singleton_self _)
      exact Workspace.schema?_of_aliasAs hholds hschema hanswer

/-- The executor answers the shape of a frame at most once in a run, whatever it answers otherwise. Once an operation
was answered a shape, the frame and all that renamings make of it from then on have this shape, and to ask for it
changes nothing; this holds of every shape that is known. Once an operation was refused it, it stays unknown until the
executor answers it, and who asks for it submits the statement again. -/
theorem Run.shapes_remembered (hrun : Run ⟨.start executor state, []⟩ trace history) :
    (history.workspace.calls = trace.map (·.call) ∧ executor.Answers state trace history.workspace.state ∧
        ∀ d ∈ history.made, (Submission.shapes d.frame.id trace).length ≤ 1) ∧
      (∀ operation sources, history.Offers operation sources → ∀ frame,
        (∀ schema, (frame, .ok schema) ∈ history.workspace.resolutions operation →
            ∀ later named, (history.perform operation sources).Renamed frame later named →
              later.workspace.Remembers named schema) ∧
          ∀ error, (frame, .error error) ∈ history.workspace.resolutions operation →
            ∀ rest later, (history.perform operation sources).Run rest later →
              Submission.shapes frame.id rest = [] → later.workspace.schema? frame = none ∧
                ((later.session frame.id.session).connected = true →
                  (later.workspace.schema frame).2.calls = later.workspace.calls ++
                    [⟨.dryRun, later.workspace.textOver frame (Fragment.limit frame.name 0)⟩])) ∧
        ∀ d ∈ history.made, ∀ schema, history.workspace.schema? d.frame = some schema →
          ∀ later named, history.Renamed d.frame later named → later.workspace.Remembers named schema := by
  have hsends := hrun.sends
  refine ⟨⟨hsends.calls_eq, hsends.replies, fun d hd => ?_⟩, fun operation sources hoffers frame => ⟨?_, ?_⟩, ?_⟩
  · exact Nat.le_trans (hrun.length_shapes_le d.frame) Option.length_toList_le
  · intro schema hresolved later named hrenamed
    obtain ⟨hissued, hschema⟩ := hrun.resolved hoffers hresolved
    exact .of_known (hrenamed.known (.perform hrun hoffers) hissued hschema).2
  · intro error hresolved rest later hrest hunanswered
    obtain ⟨hissued, hschema⟩ := hrun.resolved hoffers hresolved
    obtain ⟨hlater, hshapes⟩ := (hrun.perform hoffers).shapes_eq hrest hissued
    rw [hunanswered, hschema] at hshapes
    have hunknown := Option.toList_eq_nil_iff.mp hshapes
    have hholds := ((hrun.perform hoffers).trans hrest).reached.consistent.holds (Workspace.lt_of_issued hlater)
    exact ⟨hunknown, Workspace.calls_schema hholds hunknown⟩
  · intro d hd schema hknown later named hrenamed
    exact .of_known (hrenamed.known hrun (hrun.reached.issued d hd) hknown).2

end History

/-! ### A shape that is asked for twice, and goes along with a renaming -/

namespace Flaky

def renamed : Frame := ⟨⟨0, 3⟩, "u", "SELECT 1 AS id", []⟩

def known : History Bool := failed.perform (.columns source.frame) [source]

def later : History Bool :=
  known.perform (.registerView 0 "v" source.frame) [source] |>.perform (.aliasAs source.frame "u") [source]

theorem run_failed : ∃ trace, History.Run start trace failed :=
  ⟨_, .perform run_opened (offers_source _ rfl rfl rfl)⟩

theorem registered :
    known.Renamed source.frame (known.perform (.registerView 0 "v" source.frame) [source]) source.frame :=
  .perform .here ⟨rfl, List.forall_mem_singleton.mpr (List.mem_of_getElem? (i := 0) rfl), by rintro _ ⟨⟩; decide⟩

/-- After the failure the statement is submitted again; after the answer the shape is there under both aliases. -/
theorem remembered_source :
    (failed.workspace.schema source.frame).2.calls = [⟨.dryRun, limited 0⟩, ⟨.dryRun, limited 0⟩] ∧
      later.workspace.Remembers renamed [⟨"id", "INTEGER", .nullable, []⟩] ∧
        later.workspace.schema? source.frame = some [⟨"id", "INTEGER", .nullable, []⟩] := by
  have htext : failed.workspace.textOver source.frame (Fragment.limit "t" 0) = limited 0 := by decide +kernel
  have hcalls : failed.workspace.calls = [⟨.dryRun, limited 0⟩] := by decide +kernel
  obtain ⟨trace, hrun⟩ := run_failed
  have hrefused := (run_opened.shapes_remembered.2.1 _ _ (offers_source (.schema source.frame) rfl rfl rfl)
    source.frame).2 _ (List.mem_singleton.mpr rfl) [] failed .nil rfl
  have hanswered := (hrun.shapes_remembered.2.1 _ _ (offers_source (.columns source.frame) rfl rfl rfl)
    source.frame).1 [⟨"id", "INTEGER", .nullable, []⟩] (List.mem_singleton.mpr rfl)
  refine ⟨?_, hanswered _ _ (.rename registered (offers_source _ rfl rfl rfl) rfl),
    (hanswered _ _ (.perform registered (offers_source _ rfl rfl rfl))).known⟩
  have hagain := hrefused.2 rfl
  rw [hcalls] at hagain
  exact htext ▸ hagain

end Flaky

end QueryFrames
