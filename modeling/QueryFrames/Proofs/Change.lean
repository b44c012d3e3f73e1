import QueryFrames.Proofs.History

/-! The small changes that operations are made of. There are six: a frame is derived from others, made under a
chosen alias or renamed; a view is registered; a shape is remembered; a statement is submitted. Every operation
is a sequence of them, so a property that each change keeps holds of every history that is reached. -/

namespace QueryFrames

/-! ### What accepted operations of a session make -/

theorem exists_of_bind_eq_ok {ε α β : Type} {first : Except ε α} {next : α → Except ε β} {result : β}
    (h : first >>= next = .ok result) : ∃ value, first = .ok value ∧ next value = .ok result := by
  cases first with
  | error error => cases h
  | ok value => exact ⟨value, rfl, h⟩

namespace Session

variable {session : Session} {made : Frame × Session}

theorem sqlAs_eq_ok {query name : String} :
    session.sqlAs query name = .ok made ↔
      name ∉ session.views.aliases ∧ session.make name query [] = made := by
  unfold sqlAs checkAlias
  by_cases hname : name ∈ session.views.aliases <;> simp [hname, bind, Except.bind, pure, Except.pure]

/-- A renamed frame, and the session that knows its shape if the frame's own was known. -/
theorem aliasAs_eq_ok {frame : Frame} {name : String} :
    session.aliasAs frame name = .ok made ↔
      name ∉ session.views.aliases ++ Keyed.keys frame.dependencies ∧
        (let renamed := session.make name frame.fragment frame.dependencies
         (renamed.1, (session.schema? frame.id).elim renamed.2 (renamed.2.remember renamed.1.id))) = made := by
  unfold aliasAs checkAlias
  by_cases hname : name ∈ session.views.aliases ++ Keyed.keys frame.dependencies
  · simp [hname, bind, Except.bind]
  · have hschema : (session.make name frame.fragment frame.dependencies).2.schema? frame.id =
        session.schema? frame.id := rfl
    simp only [hname, if_false, bind, Except.bind, pure, Except.pure, hschema, not_false_eq_true, true_and]
    cases session.schema? frame.id <;> simp

theorem registerView_eq_ok {name : String} {frame : Frame} {after : Session} :
    session.registerView name frame = .ok after ↔
      name ∉ session.views.aliases ∧
        { session with views := ⟨session.views.entries ++ [(name, frame)]⟩ } = after := by
  unfold registerView Views.register checkAlias
  by_cases hname : name ∈ session.views.aliases <;> simp [hname, bind, Except.bind, pure, Except.pure]

theorem select_eq_ok {frame : Frame} {columns : List String} :
    session.select frame columns = .ok made ↔
      columns ≠ [] ∧ session.derive [frame] (Fragment.select frame.name columns) = made := by
  unfold select
  split <;> simp [*]

theorem limit_eq_ok {frame : Frame} {count : Int} :
    session.limit frame count = .ok made ↔
      0 ≤ count ∧ session.derive [frame] (Fragment.limit frame.name count) = made := by
  unfold limit
  split
  · next h => simp [Int.not_le.mpr h]
  · next h => simp [Int.not_lt.mp h]

theorem sort_eq_ok {frame : Frame} {columns : List String} :
    session.sort frame columns = .ok made ↔
      columns ≠ [] ∧ session.derive [frame] (Fragment.sort frame.name columns) = made := by
  unfold sort
  split <;> simp [*]

theorem combine_eq_ok {left right : Frame} {fragment : String} :
    session.combine left right fragment = .ok made ↔
      left.id.session = right.id.session ∧ session.derive [left, right] fragment = made := by
  unfold combine checkSameSession
  by_cases hsame : left.id.session = right.id.session <;> simp [hsame, bind, Except.bind, pure, Except.pure]

end Session

/-! ### Sessions of a workspace -/

namespace Workspace

variable {σ : Type}

theorem session_put (workspace : Workspace σ) (session : Session) (s : Nat) :
    (workspace.put session).session s =
      if session.id = s ∧ s < workspace.sessions.length then session else workspace.session s := by
  simp only [Workspace.session, Workspace.put, List.getD_eq_getElem?_getD, List.getElem?_set]
  by_cases hs : session.id = s
  · by_cases hlt : s < workspace.sessions.length
    · simp [hs, hlt]
    · simp [hs, hlt]
  · simp [hs]

@[simp] theorem length_sessions_put (workspace : Workspace σ) (session : Session) :
    (workspace.put session).sessions.length = workspace.sessions.length :=
  List.length_set

theorem session_openSession (workspace : Workspace σ) (dialect : Dialect) (connected : Bool) (s : Nat) :
    (workspace.openSession dialect connected).2.session s =
      if s = workspace.sessions.length then .fresh s dialect connected else workspace.session s := by
  simp only [Workspace.session, openSession, List.getD_eq_getElem?_getD]
  rcases Nat.lt_trichotomy s workspace.sessions.length with h | h | h
  · rw [List.getElem?_append_left h, if_neg (Nat.ne_of_lt h)]
  · subst h
    simp
  · rw [if_neg (Nat.ne_of_gt h), List.getElem?_eq_none (Nat.le_of_lt h), List.getElem?_eq_none]
    rw [List.length_append, List.length_singleton]
    exact h

end Workspace

namespace History

variable {σ : Type}

/-- A session of a history. -/
def session (history : History σ) (s : Nat) : Session :=
  history.workspace.session s

/-- A history with one session changed. -/
def put (history : History σ) (session : Session) : History σ :=
  { history with workspace := history.workspace.put session }

/-- A history with one more frame. -/
def record (history : History σ) (made : Frame × Session) (chosen : Bool) (parents : List Derivation) :
    History σ where
  workspace := history.workspace.put made.2
  made := history.made ++ [⟨made.1, chosen, parents⟩]

/-- One change within an operation, where a view may be registered under certain names only. -/
inductive Change (registers : History σ → Nat × String → Prop) : History σ → History σ → Prop
  | derive {history : History σ} {s : Nat} (hs : s < history.workspace.sessions.length)
      {parents : List Derivation} (hmade : ∀ p ∈ parents, p ∈ history.made ∧ p.frame.id.session = s)
      (fragment : String) :
      Change registers history
        (history.record ((history.session s).derive (parents.map (·.frame)) fragment) false parents)
  | choose {history : History σ} {s : Nat} (hs : s < history.workspace.sessions.length) {name : String}
      (hname : name ∉ (history.session s).views.aliases) (fragment : String) :
      Change registers history (history.record ((history.session s).make name fragment []) true [])
  | rename {history : History σ} {d : Derivation} (hd : d ∈ history.made) {name : String}
      (hname : name ∉ (history.session d.frame.id.session).views.aliases ++ Keyed.keys d.frame.dependencies) :
      Change registers history
        (history.record
          ((history.session d.frame.id.session).make name d.frame.fragment d.frame.dependencies) true d.parents)
  | register {history : History σ} {s : Nat} (hs : s < history.workspace.sessions.length) {d : Derivation}
      (hd : d ∈ history.made) {name : String} (hregisters : registers history (s, name))
      (hname : name ∉ (history.session s).views.aliases) :
      Change registers history
        (history.put { history.session s with
          views := ⟨(history.session s).views.entries ++ [(name, d.frame)]⟩ })
  | remember {history : History σ} {s : Nat} (hs : s < history.workspace.sessions.length) (frame : FrameId)
      (schema : Schema) : Change registers history (history.put ((history.session s).remember frame schema))
  | submit {history : History σ} (call : Call) (state : σ) :
      Change registers history
        { history with workspace := { history.workspace with state, calls := history.workspace.calls ++ [call] } }

/-- A sequence of changes within an operation. -/
abbrev Changes (registers : History σ → Nat × String → Prop) : History σ → History σ → Prop :=
  Relation.ReflTransGen (Change registers)

/-! ### Bookkeeping -/

/-- The sessions of a history carry their own numbers, and its frames belong to its sessions and are made of
frames of the same session. -/
structure Consistent (history : History σ) : Prop where
  id_eq : ∀ s < history.workspace.sessions.length, (history.session s).id = s
  session_lt : ∀ d ∈ history.made, d.frame.id.session < history.workspace.sessions.length
  parents_made : ∀ d ∈ history.made, ∀ p ∈ d.parents,
    p ∈ history.made ∧ p.frame.id.session = d.frame.id.session
  lineage : ∀ d ∈ history.made, d.frame.dependencies = Frame.lineageOf (d.parents.map (·.frame))

variable {history after : History σ} {registers : History σ → Nat × String → Prop}

theorem session_put (history : History σ) (session : Session) (s : Nat) :
    (history.put session).session s =
      if session.id = s ∧ s < history.workspace.sessions.length then session else history.session s :=
  Workspace.session_put ..

theorem session_record (history : History σ) (made : Frame × Session) (chosen : Bool)
    (parents : List Derivation) (s : Nat) :
    (history.record made chosen parents).session s =
      if made.2.id = s ∧ s < history.workspace.sessions.length then made.2 else history.session s :=
  Workspace.session_put ..

theorem Consistent.put (hc : history.Consistent) {s : Nat} {session : Session}
    (hid : session.id = (history.session s).id) (hs : s < history.workspace.sessions.length) :
    (history.put session).Consistent where
  id_eq t ht := by
    rw [History.put, Workspace.length_sessions_put] at ht
    rw [session_put, hid, hc.id_eq s hs]
    split
    · next h => rw [hid, hc.id_eq s hs, h.1]
    · exact hc.id_eq t ht
  session_lt d hd := by
    rw [History.put, Workspace.length_sessions_put]
    exact hc.session_lt d hd
  parents_made := hc.parents_made
  lineage := hc.lineage

theorem Consistent.record (hc : history.Consistent) {s : Nat} (hs : s < history.workspace.sessions.length)
    {made : Frame × Session} {chosen : Bool} {parents : List Derivation} (hid : made.2.id = s)
    (hframe : made.1.id.session = s) (hparents : ∀ p ∈ parents, p ∈ history.made ∧ p.frame.id.session = s)
    (hlineage : made.1.dependencies = Frame.lineageOf (parents.map (·.frame))) :
    (history.record made chosen parents).Consistent where
  id_eq t ht := (hc.put (hid.trans (hc.id_eq s hs).symm) hs).id_eq t ht
  session_lt d hd := by
    rw [History.record, Workspace.length_sessions_put]
    rcases List.mem_append.mp hd with hd | hd
    · exact hc.session_lt d hd
    · rw [List.mem_singleton.mp hd]
      exact hframe ▸ hs
  parents_made d hd p hp := by
    rcases List.mem_append.mp hd with hd | hd
    · obtain ⟨hmade, hsession⟩ := hc.parents_made d hd p hp
      exact ⟨List.mem_append_left _ hmade, hsession⟩
    · rw [List.mem_singleton.mp hd] at hp ⊢
      obtain ⟨hmade, hsession⟩ := hparents p hp
      exact ⟨List.mem_append_left _ hmade, hsession.trans hframe.symm⟩
  lineage d hd := by
    rcases List.mem_append.mp hd with hd | hd
    · exact hc.lineage d hd
    · rw [List.mem_singleton.mp hd]
      exact hlineage

theorem Change.consistent (hchange : Change registers history after) (hc : history.Consistent) :
    after.Consistent := by
  cases hchange with
  | derive hs hmade fragment =>
      exact hc.record hs (hc.id_eq _ hs) (hc.id_eq _ hs) hmade rfl
  | choose hs hname fragment =>
      exact hc.record hs (hc.id_eq _ hs) (hc.id_eq _ hs) (fun p hp => nomatch hp) rfl
  | rename hd hname =>
      have hs := hc.session_lt _ hd
      exact hc.record hs (hc.id_eq _ hs) (hc.id_eq _ hs) (hc.parents_made _ hd) (hc.lineage _ hd)
  | register hs hd hregisters hname => exact hc.put rfl hs
  | remember hs frame schema => exact hc.put rfl hs
  | submit call state => exact ⟨hc.id_eq, hc.session_lt, hc.parents_made, hc.lineage⟩

theorem Changes.consistent (hchanges : Changes registers history after) (hc : history.Consistent) :
    after.Consistent := by
  induction hchanges with
  | refl => exact hc
  | tail _ hchange ih => exact hchange.consistent ih

/-! ### Operations as sequences of changes -/

theorem execute_changes (history : History σ) (s : Nat) (mode : ExecutionMode) (sql : String) :
    Changes registers history ⟨(history.workspace.execute s mode sql).2, history.made⟩ := by
  rw [Workspace.execute]
  split
  · refine .single ?_
    dsimp only
    split <;> exact Change.submit ⟨mode, sql⟩ _
  · exact .refl

theorem derive_change (hc : history.Consistent) {d : Derivation} (hd : d ∈ history.made) (fragment : String) :
    Change registers history
      (history.record ((history.session d.frame.id.session).derive [d.frame] fragment) false [d]) :=
  .derive (hc.session_lt d hd) (List.forall_mem_singleton.mpr ⟨hd, rfl⟩) fragment

theorem submit_changes (hc : history.Consistent) {d : Derivation} (hd : d ∈ history.made) (fragment : String)
    (mode : ExecutionMode) :
    Changes registers history
      ⟨(history.workspace.submit d.frame fragment mode).2,
        history.made ++
          [⟨((history.workspace.session d.frame.id.session).derive [d.frame] fragment).1, false, [d]⟩]⟩ :=
  .head (derive_change hc hd fragment) (execute_changes _ _ mode _)

theorem schema_changes (hc : history.Consistent) {d : Derivation} (hd : d ∈ history.made) :
    Changes registers history
      ⟨(history.workspace.schema d.frame).2, history.made ++ history.workspace.shapeQuery d⟩ := by
  rw [Workspace.schema, Workspace.shapeQuery]
  cases hknown : history.workspace.schema? d.frame with
  | some schema =>
      rw [List.append_nil]
  | none =>
      have hsubmit : Changes registers history _ := submit_changes hc hd (Fragment.limit d.frame.name 0) .dryRun
      have hs := (hsubmit.consistent hc).session_lt d (List.mem_append_left _ hd)
      dsimp only
      split
      · next result workspace heq =>
          rw [heq] at hsubmit hs
          exact hsubmit.tail (Change.remember hs d.frame.id result.schema)
      · next error workspace heq =>
          rw [heq] at hsubmit
          exact hsubmit

theorem columns_changes (hc : history.Consistent) {d : Derivation} (hd : d ∈ history.made) :
    Changes registers history
      ⟨(history.workspace.columns d.frame).2, history.made ++ history.workspace.shapeQuery d⟩ :=
  schema_changes hc hd

variable {operation : Operation} {sources : List Derivation}

/-- The derivation of the frame that an operation answers with an outcome. -/
def answer (operation : Operation) (sources : List Derivation) : Except FrameError Frame → List Derivation
  | .ok frame => [⟨frame, operation.choosesAlias, operation.reads sources⟩]
  | .error _ => []

/-- An operation that answers a frame after the frames that it submits. -/
theorem perform_changes_of_frame (outcome : Outcome σ Frame)
    (hperform : history.workspace.perform operation = Workspace.answer .frame outcome) (queries : List Derivation)
    (hsubmitted : history.workspace.submitted operation sources = queries)
    (hchanges : Changes registers history
      ⟨outcome.2, history.made ++ queries ++ answer operation sources outcome.1⟩) :
    Changes registers history (history.perform operation sources) := by
  have hanswered : history.workspace.answered operation sources = answer operation sources outcome.1 := by
    rw [Workspace.answered, hperform, Workspace.answer]
    cases outcome.1 <;> rfl
  rw [perform, hanswered, hsubmitted, hperform]
  exact hchanges

/-- An operation whose only effect is the frame that it answers. -/
theorem perform_changes_of_compose (outcome : Except FrameError (Frame × Session))
    (hperform : history.workspace.perform operation =
      Workspace.answer .frame (history.workspace.compose outcome))
    (hsubmitted : history.workspace.submitted operation sources = [])
    (hmade : ∀ made, outcome = .ok made →
      Changes registers history (history.record made operation.choosesAlias (operation.reads sources))) :
    Changes registers history (history.perform operation sources) := by
  apply perform_changes_of_frame _ hperform [] hsubmitted
  rw [List.append_nil]
  cases outcome with
  | error error =>
      show Changes registers history ⟨history.workspace, history.made ++ []⟩
      rw [List.append_nil]
  | ok made => exact hmade made rfl

theorem derive_changes (hoffers : history.Offers operation sources) {s : Nat}
    (hs : s < history.workspace.sessions.length) (hsession : ∀ d ∈ sources, d.frame.id.session = s)
    (fragment : String) :
    Changes registers history
      (history.record ((history.session s).derive operation.frames fragment) false sources) := by
  rw [hoffers.frames]
  exact .single (.derive hs (fun p hp => ⟨hoffers.made p hp, hsession p hp⟩) fragment)

theorem Offers.exists_source (hoffers : history.Offers operation sources) {frame : Frame}
    (hframes : operation.frames = [frame]) : ∃ d ∈ history.made, sources = [d] ∧ d.frame = frame := by
  obtain ⟨d, rfl, hd⟩ := List.map_eq_singleton_iff.mp (hoffers.frames.symm.trans hframes)
  exact ⟨d, hoffers.made d List.mem_cons_self, rfl, hd⟩

theorem Offers.exists_sources (hoffers : history.Offers operation sources) {left right : Frame}
    (hframes : operation.frames = [left, right]) :
    ∃ first second, first ∈ history.made ∧ second ∈ history.made ∧ sources = [first, second] ∧
      first.frame = left ∧ second.frame = right := by
  obtain ⟨first, rest, rfl, hfirst, hrest⟩ := List.map_eq_cons_iff.mp (hoffers.frames.symm.trans hframes)
  obtain ⟨second, rfl, hsecond⟩ := List.map_eq_singleton_iff.mp hrest
  exact ⟨first, second, hoffers.made first (by simp), hoffers.made second (by simp), rfl, hfirst, hsecond⟩

/-- An operation that derives a frame from the one frame it is given. -/
theorem perform_changes_of_derive (hc : history.Consistent) (hoffers : history.Offers operation sources)
    {frame : Frame} (hframes : operation.frames = [frame]) (outcome : Except FrameError (Frame × Session))
    (hperform : history.workspace.perform operation =
      Workspace.answer .frame (history.workspace.compose outcome))
    (hsubmitted : history.workspace.submitted operation sources = [])
    (hchosen : operation.choosesAlias = false) (hreads : operation.reads sources = sources)
    (hmade : ∀ made, outcome = .ok made →
      ∃ fragment, (history.session frame.id.session).derive [frame] fragment = made) :
    Changes registers history (history.perform operation sources) := by
  apply perform_changes_of_compose outcome hperform hsubmitted
  intro made hok
  obtain ⟨fragment, rfl⟩ := hmade made hok
  obtain ⟨d, hd, rfl, rfl⟩ := hoffers.exists_source hframes
  rw [hchosen, hreads, ← hframes]
  exact derive_changes hoffers (hc.session_lt d hd) (fun p hp => by rw [List.mem_singleton.mp hp]) fragment

/-- An operation that answers no frame makes only the frames that it submits. -/
theorem perform_changes_of_form {α : Type} (form : α → Answer) (outcome : Outcome σ α)
    (hperform : history.workspace.perform operation = Workspace.answer form outcome)
    (hform : ∀ answer frame, form answer ≠ .frame frame) (queries : List Derivation)
    (hsubmitted : history.workspace.submitted operation sources = queries)
    (hchanges : Changes registers history ⟨outcome.2, history.made ++ queries⟩) :
    Changes registers history (history.perform operation sources) := by
  have hanswered : history.workspace.answered operation sources = [] := by
    rw [Workspace.answered, hperform, Workspace.answer]
    cases outcome.1 with
    | error error => rfl
    | ok answer =>
        dsimp only [Except.map]
        split
        · next frame h => exact absurd (Except.ok.inj h) (hform answer frame)
        · rfl
  rw [perform, hanswered, hsubmitted, List.append_nil, hperform]
  exact hchanges

theorem registerView_changes {s : Nat} (hs : s < history.workspace.sessions.length) {d : Derivation}
    (hd : d ∈ history.made) {name : String} (hregisters : registers history (s, name)) :
    Changes registers history ⟨(history.workspace.registerView s name d.frame).2, history.made⟩ := by
  rw [Workspace.registerView]
  cases hview : (history.workspace.session s).registerView name d.frame with
  | error error => exact .refl
  | ok after =>
      obtain ⟨hname, rfl⟩ := Session.registerView_eq_ok.mp hview
      exact .single (.register hs hd hregisters hname)

theorem put_record (history : History σ) (frame : Frame) {before session : Session}
    (hid : before.id = session.id) (chosen : Bool) (parents : List Derivation) :
    (history.record (frame, before) chosen parents).put session =
      history.record (frame, session) chosen parents := by
  simp only [put, record, Workspace.put, hid, List.set_set]

theorem rename_changes (hc : history.Consistent) {d : Derivation} (hd : d ∈ history.made) {name : String}
    {made : Frame × Session} (hok : (history.session d.frame.id.session).aliasAs d.frame name = .ok made) :
    Changes registers history (history.record made true d.parents) := by
  obtain ⟨hname, rfl⟩ := Session.aliasAs_eq_ok.mp hok
  have hrename : Change registers history _ := .rename hd hname
  dsimp only
  cases (history.session d.frame.id.session).schema? d.frame.id with
  | none => exact .single hrename
  | some schema =>
      have hs := hc.session_lt d hd
      have hsession := session_record history
        ((history.session d.frame.id.session).make name d.frame.fragment d.frame.dependencies) true d.parents
        d.frame.id.session
      rw [if_pos ⟨hc.id_eq _ hs, hs⟩] at hsession
      have hremember : Change registers
          (history.record ((history.session d.frame.id.session).make name d.frame.fragment d.frame.dependencies)
            true d.parents) _ :=
        .remember (s := d.frame.id.session) (by rw [record, Workspace.length_sessions_put]; exact hs)
          ((history.session d.frame.id.session).make name d.frame.fragment d.frame.dependencies).1.id schema
      rw [hsession, put_record] at hremember
      · exact .tail (.single hrename) hremember
      · rfl

theorem take_changes (hc : history.Consistent) {d : Derivation} (hd : d ∈ history.made) (count : Int) :
    Changes registers history
      ⟨(history.workspace.take d.frame count).2,
        history.made ++ history.workspace.submitted (.take d.frame count) [d]⟩ := by
  rw [Workspace.take, Workspace.submitted]
  cases hlimit : (history.workspace.session d.frame.id.session).limit d.frame count with
  | error error =>
      rw [List.append_nil]
      exact .refl
  | ok made =>
      obtain ⟨-, rfl⟩ := Session.limit_eq_ok.mp hlimit
      exact .head (derive_change hc hd _) (execute_changes _ _ .materialize _)

theorem unionByName_changes (hc : history.Consistent) {left right : Derivation} (hleft : left ∈ history.made)
    (hright : right ∈ history.made) (allowMissing : Bool) :
    Changes registers history
      ⟨(history.workspace.unionByName left.frame right.frame allowMissing).2,
        history.made ++
          history.workspace.submitted (.unionByName left.frame right.frame allowMissing) [left, right] ++
          answer (.unionByName left.frame right.frame allowMissing) [left, right]
            (history.workspace.unionByName left.frame right.frame allowMissing).1⟩ := by
  rw [Workspace.unionByName, Workspace.submitted]
  cases hsame : Session.checkSameSession left.frame right.frame with
  | error error =>
      simp only [answer, List.append_nil]
      exact .refl
  | ok _ =>
      have hfirst : Changes registers history _ := columns_changes hc hleft
      rcases hcolumns : history.workspace.columns left.frame with ⟨error | leftColumns, workspace⟩
      · rw [hcolumns] at hfirst
        simpa only [answer, List.append_nil] using hfirst
      · rw [hcolumns] at hfirst
        -- The right frame is asked in the workspace that the left one leaves.
        have hsecond : Changes registers _ _ :=
          columns_changes (hfirst.consistent hc) (List.mem_append_left _ hright)
        have hconsistent := Changes.consistent (hfirst.trans hsecond) hc
        simp only [← List.append_assoc]
        rcases hcolumns' : workspace.columns right.frame with ⟨error | rightColumns, workspace'⟩
        · rw [hcolumns'] at hsecond
          simpa only [answer, List.append_nil] using hfirst.trans hsecond
        · rw [hcolumns'] at hsecond hconsistent
          dsimp only at hsecond hconsistent ⊢
          rw [Workspace.compose.eq_def]
          split
          · next frame session hmade =>
              obtain ⟨split, -, hmade⟩ := exists_of_bind_eq_ok hmade
              obtain ⟨fragment, -, hmade⟩ := exists_of_bind_eq_ok hmade
              obtain ⟨hsession, hderived⟩ := Session.combine_eq_ok.mp hmade
              have hparents : ∀ p ∈ [left, right],
                  p ∈ history.made ++ history.workspace.shapeQuery left ++ workspace.shapeQuery right ∧
                    p.frame.id.session = left.frame.id.session := by
                simp [hleft, hright, hsession]
              have hderive : Change registers ⟨workspace', _⟩ (History.record _
                  ((workspace'.session left.frame.id.session).derive [left.frame, right.frame] fragment) false
                  [left, right]) :=
                .derive (hconsistent.session_lt left (hparents left List.mem_cons_self).1) hparents fragment
              rw [hderived] at hderive
              exact (hfirst.trans hsecond).tail hderive
          · simpa only [answer, List.append_nil] using hfirst.trans hsecond

theorem perform_changes (hc : history.Consistent) (hoffers : history.Offers operation sources)
    (hregisters : ∀ view, operation.registration? = some view → registers history view) :
    Changes registers history (history.perform operation sources) := by
  cases operation with
  | sql builder query =>
      obtain rfl : sources = [] := List.map_eq_nil_iff.mp hoffers.frames.symm
      apply perform_changes_of_compose (.ok ((history.session builder).sql query)) rfl rfl
      rintro _ ⟨⟩
      exact derive_changes hoffers (hoffers.builder builder rfl) (fun d hd => nomatch hd) query
  | table builder path =>
      obtain rfl : sources = [] := List.map_eq_nil_iff.mp hoffers.frames.symm
      apply perform_changes_of_compose (.ok ((history.session builder).table path)) rfl rfl
      rintro _ ⟨⟩
      exact derive_changes hoffers (hoffers.builder builder rfl) (fun d hd => nomatch hd) _
  | sqlAs builder query name =>
      obtain rfl : sources = [] := List.map_eq_nil_iff.mp hoffers.frames.symm
      apply perform_changes_of_compose ((history.session builder).sqlAs query name) rfl rfl
      intro made hok
      obtain ⟨hname, rfl⟩ := Session.sqlAs_eq_ok.mp hok
      exact .single (.choose (hoffers.builder builder rfl) hname query)
  | registerView builder name frame =>
      obtain ⟨d, hd, rfl, rfl⟩ := hoffers.exists_source rfl
      apply perform_changes_of_form (fun _ => .done) _ rfl (fun _ _ h => nomatch h) [] rfl
      rw [List.append_nil]
      exact registerView_changes (hoffers.builder builder rfl) hd (hregisters _ rfl)
  | aliasAs frame name =>
      obtain ⟨d, hd, rfl, rfl⟩ := hoffers.exists_source rfl
      apply perform_changes_of_compose _ rfl rfl
      intro made hok
      rw [Operation.reads, List.flatMap_singleton]
      exact rename_changes hc hd hok
  | createTempView frame name =>
      obtain ⟨d, hd, rfl, rfl⟩ := hoffers.exists_source rfl
      apply perform_changes_of_form (fun _ => .done) _ rfl (fun _ _ h => nomatch h) [] rfl
      rw [List.append_nil]
      exact registerView_changes (hc.session_lt d hd) hd (hregisters _ rfl)
  | select frame columns =>
      apply perform_changes_of_derive hc hoffers rfl _ rfl rfl rfl rfl
      intro made hok
      exact ⟨_, (Session.select_eq_ok.mp hok).2⟩
  | filter frame predicate =>
      apply perform_changes_of_derive hc hoffers rfl _ rfl rfl rfl rfl
      intro made hok
      exact ⟨_, Except.ok.inj hok⟩
  | limit frame count =>
      apply perform_changes_of_derive hc hoffers rfl _ rfl rfl rfl rfl
      intro made hok
      exact ⟨_, (Session.limit_eq_ok.mp hok).2⟩
  | sort frame columns =>
      apply perform_changes_of_derive hc hoffers rfl _ rfl rfl rfl rfl
      intro made hok
      exact ⟨_, (Session.sort_eq_ok.mp hok).2⟩
  | withColumn frame name expression replace =>
      apply perform_changes_of_derive hc hoffers rfl _ rfl rfl rfl rfl
      intro made hok
      exact ⟨_, Except.ok.inj hok⟩
  | union left right =>
      obtain ⟨first, second, hfirst, hsecond, rfl, rfl, rfl⟩ := hoffers.exists_sources rfl
      apply perform_changes_of_compose _ rfl rfl
      intro made hok
      obtain ⟨hsame, rfl⟩ := Session.combine_eq_ok.mp hok
      exact derive_changes hoffers (hc.session_lt first hfirst)
        (by simpa using hsame.symm) _
  | unionByName left right allowMissing =>
      obtain ⟨first, second, hfirst, hsecond, rfl, rfl, rfl⟩ := hoffers.exists_sources rfl
      exact perform_changes_of_frame _ rfl _ rfl (unionByName_changes hc hfirst hsecond allowMissing)
  | schema frame =>
      obtain ⟨d, hd, rfl, rfl⟩ := hoffers.exists_source rfl
      exact perform_changes_of_form .schema _ rfl (fun _ _ h => nomatch h) _ rfl (schema_changes hc hd)
  | columns frame =>
      obtain ⟨d, hd, rfl, rfl⟩ := hoffers.exists_source rfl
      exact perform_changes_of_form .columns _ rfl (fun _ _ h => nomatch h) _ rfl (columns_changes hc hd)
  | treeString frame =>
      obtain ⟨d, hd, rfl, rfl⟩ := hoffers.exists_source rfl
      exact perform_changes_of_form .text _ rfl (fun _ _ h => nomatch h) _ rfl (schema_changes hc hd)
  | collect frame =>
      apply perform_changes_of_form .rows _ rfl (fun _ _ h => nomatch h) [] rfl
      rw [List.append_nil]
      exact execute_changes history _ .materialize _
  | take frame count =>
      obtain ⟨d, hd, rfl, rfl⟩ := hoffers.exists_source rfl
      exact perform_changes_of_form .rows _ rfl (fun _ _ h => nomatch h) _ rfl (take_changes hc hd count)
  | count frame =>
      obtain ⟨d, hd, rfl, rfl⟩ := hoffers.exists_source rfl
      exact perform_changes_of_form .count _ rfl (fun _ _ h => nomatch h) _ rfl
        (submit_changes hc hd _ .materialize)

/-! ### Runs -/

variable {executor : Executor σ} {state : σ} {admits : History σ → Operation → Prop}

theorem Consistent.start : (History.mk (.start executor state) []).Consistent where
  id_eq _ hs := nomatch hs
  session_lt _ hd := nomatch hd
  parents_made _ hd := nomatch hd
  lineage _ hd := nomatch hd

theorem Consistent.openSession (hc : history.Consistent) (dialect : Dialect) (connected : Bool) :
    (History.mk (history.workspace.openSession dialect connected).2 history.made).Consistent where
  id_eq s hs := by
    rw [History.session, Workspace.session_openSession]
    split
    · rfl
    · next hne =>
        refine hc.id_eq s (Nat.lt_of_le_of_ne (Nat.le_of_lt_succ ?_) hne)
        rwa [Workspace.openSession, List.length_append] at hs
  session_lt d hd := by
    rw [Workspace.openSession, List.length_append]
    exact Nat.lt_add_right _ (hc.session_lt d hd)
  parents_made := hc.parents_made
  lineage := hc.lineage

theorem Reached.consistent (hrun : Reached executor state admits history) : history.Consistent := by
  induction hrun with
  | start => exact .start
  | openSession dialect connected _ ih => exact ih.openSession dialect connected
  | perform _ hoffers _ ih =>
      have hchanges : Changes (fun _ _ => True) _ _ := perform_changes ih hoffers fun _ _ => trivial
      exact hchanges.consistent ih

/-- What holds at the start and is kept by every change holds throughout a run. -/
theorem Reached.induction {motive : History σ → Prop}
    (hadmits : ∀ history operation view, admits history operation → operation.registration? = some view →
      registers history view)
    (start : motive ⟨.start executor state, []⟩)
    (openSession : ∀ {history : History σ} (dialect connected), history.Consistent → motive history →
      motive ⟨(history.workspace.openSession dialect connected).2, history.made⟩)
    (change : ∀ {history after : History σ}, history.Consistent → Change registers history after →
      motive history → motive after)
    (hrun : Reached executor state admits history) : motive history := by
  induction hrun with
  | start => exact start
  | openSession dialect connected h ih => exact openSession dialect connected h.consistent ih
  | @perform history operation sources h hoffers hadmitted ih =>
      have hchanges : Changes registers history (history.perform operation sources) :=
        perform_changes h.consistent hoffers fun view hview => hadmits _ _ view hadmitted hview
      refine (Relation.ReflTransGen.head_induction_on
        (motive := fun before _ => before.Consistent → motive before → motive (history.perform operation sources))
        hchanges (fun _ hmotive => hmotive) ?_) h.consistent ih
      intro before after hchange _ hrest hconsistent hmotive
      exact hrest (hchange.consistent hconsistent) (change hconsistent hchange hmotive)

theorem Reached.change_induction {motive : History σ → Prop} (start : motive ⟨.start executor state, []⟩)
    (openSession : ∀ {history : History σ} (dialect connected), history.Consistent → motive history →
      motive ⟨(history.workspace.openSession dialect connected).2, history.made⟩)
    (change : ∀ {history after : History σ}, history.Consistent → Change (fun _ _ => True) history after →
      motive history → motive after)
    (hrun : Reached executor state admits history) : motive history :=
  hrun.induction (fun _ _ _ _ _ => trivial) start openSession change

end History

end QueryFrames
