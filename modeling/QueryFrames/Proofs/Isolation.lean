import QueryFrames.Proofs.Registrations
import QueryFrames.Proofs.Submissions
import QueryFrames.Proofs.WithClause

/-! Which session the nodes of a run come from. A frame is made of frames of its own session only, since every
operation on two frames compares their sessions first, so whatever a frame reaches was made where it was. A view is
entered as it is given: nothing compares its session with the one it is entered in. The views of a session reach
nodes of that session only, then, exactly as long as its callers hand it nothing else. -/

namespace QueryFrames

/-- A frame reaches itself and what it depends on, at any depth. -/
inductive Frame.Reaches : Frame → Frame → Prop
  | self {frame : Frame} : Reaches frame frame
  | through {frame middle node : Frame} {name : String} (h : (name, middle) ∈ frame.dependencies)
      (hnode : Reaches middle node) : Reaches frame node

namespace Workspace

variable {σ : Type} {workspace : Workspace σ} {operation : Operation} {left right : Frame}

theorem perform_of_foreign (hframes : operation.frames = [left, right])
    (hforeign : left.id.session ≠ right.id.session) :
    workspace.perform operation = (.error (.foreignFrames left.name right.name), workspace) := by
  cases operation <;> cases hframes
  case union =>
    rw [perform, Session.union, Session.combine, Session.checkSameSession, if_neg hforeign]
    rfl
  case unionByName =>
    rw [perform, unionByName_of_foreign _ _ hforeign]
    rfl

theorem submitted_of_foreign (hframes : operation.frames = [left, right])
    (hforeign : left.id.session ≠ right.id.session) (sources : List Derivation) :
    workspace.submitted operation sources = [] := by
  have hcheck : Session.checkSameSession left right = .error (.foreignFrames left.name right.name) :=
    if_neg hforeign
  cases operation <;> cases hframes
  case union => rfl
  case unionByName =>
    rw [submitted.eq_def]
    split <;> simp_all

end Workspace

namespace History

variable {σ : Type} {executor : Executor σ} {state : σ} {history : History σ} {d : Derivation} {node : Frame}
  {operation : Operation} {left right : Frame} {attempts : List (Nat × Attempt)} {s : Nat}

/-- A frame that was made in the run, in a session. -/
def MadeIn (history : History σ) (s : Nat) (node : Frame) : Prop :=
  ∃ d ∈ history.made, d.frame = node ∧ node.id.session = s

/-- Whatever the views of a session reach was made in it. -/
def Isolated (history : History σ) (s : Nat) : Prop :=
  ∀ entry ∈ (history.session s).views.entries, ∀ node, entry.2.Reaches node → history.MadeIn s node

theorem Consistent.madeIn_of_reaches (hc : history.Consistent) (hd : d ∈ history.made)
    (hnode : d.frame.Reaches node) : history.MadeIn d.frame.id.session node := by
  -- Along the nodes passed on the way, each of which is the frame of an ancestor of the one before.
  generalize hframe : d.frame = frame at hnode
  induction hnode generalizing d with
  | self => exact ⟨d, hd, hframe, rfl⟩
  | through hmiddle _ ih =>
      subst hframe
      obtain ⟨e, he, heframe, -⟩ := (hc.faithful d hd).exists_ancestor hmiddle
      obtain ⟨hmade, hsession⟩ := hc.ancestor_made he hd
      have hreached := ih hmade heframe
      rwa [← heframe, hsession] at hreached

theorem perform_of_foreign (hframes : operation.frames = [left, right])
    (hforeign : left.id.session ≠ right.id.session) (sources : List Derivation) :
    history.perform operation sources = history := by
  rw [perform, Workspace.submitted_of_foreign hframes hforeign, Workspace.answered,
    Workspace.perform_of_foreign hframes hforeign, List.append_nil]
  exact congrArg (mk history.workspace) (List.append_nil _)

theorem Attempted.isolated_iff_accepted (hrun : Attempted ⟨.start executor state, []⟩ attempts history) :
    history.Isolated s ↔
      ∀ attempt ∈ Attempt.under s attempts, attempt.accepted = true → attempt.frame.id.session = s := by
  have hentries := (hrun.recorded s).entries_eq
  constructor
  · intro hisolated attempt hattempt haccepted
    have hentry : (attempt.name, attempt.frame) ∈ (history.session s).views.entries := by
      rw [hentries]
      exact List.mem_map_of_mem (List.mem_filter.mpr ⟨hattempt, haccepted⟩)
    obtain ⟨d, hd, hframe, hsession⟩ := hisolated _ hentry attempt.frame .self
    exact hsession
  · rintro hown ⟨name, frame⟩ hentry node hnode
    obtain ⟨d, hd, rfl⟩ := hrun.reached.viewsMade s _ hentry
    rw [hentries] at hentry
    obtain ⟨attempt, hattempt, heq⟩ := List.mem_map.mp hentry
    obtain ⟨hmem, haccepted⟩ := List.mem_filter.mp hattempt
    have hframe : attempt.frame = d.frame := congrArg Prod.snd heq
    rw [← hown attempt hmem haccepted, hframe]
    exact hrun.reached.consistent.madeIn_of_reaches hd hnode

/-- A frame reaches only what its own session made, and an operation on frames of two sessions is refused and leaves
everything as it was. The views of a session reach only what it made exactly if every frame that was entered as one
of them was its own; whether a frame is entered depends on the name alone. -/
theorem Attempted.isolated_iff (hrun : Attempted ⟨.start executor state, []⟩ attempts history) :
    (∀ d ∈ history.made, ∀ node, d.frame.Reaches node → history.MadeIn d.frame.id.session node) ∧
      (∀ operation left right, operation.frames = [left, right] → left.id.session ≠ right.id.session →
        (history.workspace.perform operation).1 = .error (.invalidArgument
            ("frames " ++ left.name ++ " and " ++ right.name ++ " belong to different builders")) ∧
          ∀ sources, history.perform operation sources = history) ∧
      ∀ s, (history.Isolated s ↔
          ∀ attempt ∈ Attempt.under s attempts, attempt.accepted = true → attempt.frame.id.session = s) ∧
        ∀ operation name frame, operation.view? = some (s, name, frame) →
          (history.workspace.perform operation).1 =
            if name ∈ (history.session s).views.aliases then .error (.duplicateAlias name) else .ok .done := by
  refine ⟨fun d hd node => hrun.reached.consistent.madeIn_of_reaches hd, ?_, fun s => ⟨hrun.isolated_iff_accepted, ?_⟩⟩
  · intro operation left right hframes hforeign
    exact ⟨congrArg Prod.fst (Workspace.perform_of_foreign hframes hforeign), perform_of_foreign hframes hforeign⟩
  · intro operation name frame hview
    rw [Workspace.perform_of_view? hview]
    split
    · next hname =>
        rw [Workspace.registerView_of_mem hname]
        rfl
    · next hname =>
        rw [Workspace.registerView_of_not_mem hname]
        rfl

end History

/-! ### Two sessions

Both have a frame over the same text, and one of these becomes a view of the first session. -/

namespace TwoSessions

def own : Derivation := ⟨⟨⟨0, 0⟩, "_default_alias_1", "SELECT 1 AS id", []⟩, false, []⟩

def foreign : Derivation := ⟨⟨⟨1, 0⟩, "_default_alias_1", "SELECT 1 AS id", []⟩, false, []⟩

def opened : History Unit := ⟨(History.opened.workspace.openSession .bigQuery false).2, []⟩

def before : History Unit :=
  opened.perform (.sql 0 "SELECT 1 AS id") [] |>.perform (.sql 1 "SELECT 1 AS id") []

def history (d : Derivation) : History Unit := before.perform (.registerView 0 "v" d.frame) [d]

theorem attempted {d : Derivation} (hd : d ∈ before.made) :
    History.Attempted ⟨.start Executor.absent (), []⟩ [(0, ⟨"v", d.frame, .ok ()⟩)] (history d) := by
  have hopened : History.Attempted ⟨.start Executor.absent (), []⟩ [] opened :=
    .openSession .bigQuery false (.openSession .bigQuery false .nil)
  have hown : opened.Offers (.sql 0 "SELECT 1 AS id") [] := .of_builder (s := 0) (by decide) rfl rfl
  have hforeign : (opened.perform (.sql 0 "SELECT 1 AS id") []).Offers (.sql 1 "SELECT 1 AS id") [] :=
    .of_builder (s := 1) (by decide) rfl rfl
  have hview : before.Offers (.registerView 0 "v" d.frame) [d] :=
    ⟨rfl, List.forall_mem_singleton.mpr hd, by rintro _ ⟨⟩; decide⟩
  exact .perform (.perform (.perform hopened hown) hforeign) hview

/-- With a view of its own the first session is isolated, and both sessions have no union. -/
theorem isolated_own :
    (history own).Isolated 0 ∧
      (history own).perform (.union own.frame foreign.frame) [own, foreign] = history own := by
  have hown : own ∈ before.made := List.mem_of_getElem? (i := 0) rfl
  obtain ⟨-, hforeign, hisolated⟩ := (attempted hown).isolated_iff
  refine ⟨(hisolated 0).1.mpr ?_, (hforeign _ own.frame foreign.frame rfl (by decide)).2 _⟩
  intro attempt hattempt _
  obtain rfl := List.mem_singleton.mp hattempt
  rfl

/-- The frame of the second session is entered as a view of the first. -/
theorem exists_foreign_view :
    ∃ (history : History Unit) (d : Derivation),
      History.Reached Executor.absent () (fun _ _ => True) history ∧ d ∈ history.made ∧
        ("v", d.frame) ∈ (history.session 0).views.entries ∧ d.frame.id.session = 1 ∧ ¬ history.Isolated 0 := by
  have hforeign : foreign ∈ before.made := List.mem_of_getElem? (i := 1) rfl
  have hentry : ("v", foreign.frame) ∈ ((history foreign).session 0).views.entries := List.mem_singleton_self _
  refine ⟨history foreign, foreign, (attempted hforeign).reached, hforeign, hentry, rfl, fun hisolated => ?_⟩
  obtain ⟨d, hd, hframe, hsession⟩ := hisolated _ hentry foreign.frame .self
  cases hsession

end TwoSessions

end QueryFrames
