import Mathlib.Logic.Function.Basic
import Mathlib.Logic.Relation
import QueryFrames.Proofs.Naming

/-! The history of a registry of views. Each call that registers a frame checks the name and enters it in one step,
so callers that run side by side leave behind a sequence of attempts, whoever came first. This sequence decides
everything: the first attempt at a name succeeds and keeps it, all others are refused, and what a registry holds only
grows at its end. The registry of a session is one of these, whatever else is done in its workspace. -/

namespace QueryFrames

/-- A call that registers a frame under a name, and what it was answered. -/
structure Attempt where
  name : String
  frame : Frame
  answer : Except FrameError Unit

namespace Attempt

/-- Whether the frame was registered. -/
def accepted (attempt : Attempt) : Bool := attempt.answer.isOk

/-- The attempts under a key, which is a caller or a session. -/
def under {ι : Type} [DecidableEq ι] (key : ι) (attempts : List (ι × Attempt)) : List Attempt :=
  (attempts.filter (·.1 = key)).map (·.2)

variable {ι : Type} [DecidableEq ι]

theorem under_append (key : ι) (first second : List (ι × Attempt)) :
    under key (first ++ second) = under key first ++ under key second := by
  rw [under, List.filter_append, List.map_append]
  rfl

theorem under_singleton (key other : ι) (attempt : Attempt) :
    under key [(other, attempt)] = if other = key then [attempt] else [] := by
  rw [under, List.filter_singleton]
  by_cases h : other = key <;> simp [h]

end Attempt

/-! ### One registry -/

theorem eraseDups_concat (names : List String) (name : String) :
    (names ++ [name]).eraseDups = if name ∈ names then names.eraseDups else names.eraseDups ++ [name] := by
  have hnew : [name].removeAll names = if name ∈ names then [] else [name] := by
    rw [List.removeAll, List.filter_singleton]
    by_cases h : name ∈ names <;> simp [h]
  rw [List.eraseDups_append, hnew]
  split
  · exact List.append_nil _
  · rw [List.eraseDups_cons]
    rfl

namespace Views

/-- A call that registers a frame, with its answer, and the views after it. -/
def attempt (views : Views) (name : String) (frame : Frame) : Attempt × Views :=
  match views.register name frame with
  | .ok after => (⟨name, frame, .ok ()⟩, after)
  | .error error => (⟨name, frame, .error error⟩, views)

/-- What attempts made one after the other leave behind. -/
structure Recorded (views : Views) (attempts : List Attempt) : Prop where
  answers : ∀ before attempt after, attempts = before ++ attempt :: after →
    attempt.answer = if attempt.name ∈ before.map (·.name) then .error (.duplicateAlias attempt.name) else .ok ()
  entries_eq : views.entries = (attempts.filter (·.accepted)).map fun attempt => (attempt.name, attempt.frame)
  aliases_eq : views.aliases = (attempts.map (·.name)).eraseDups
  nodup : views.aliases.Nodup
  first : ∀ name, Keyed.get? name views.entries = (attempts.find? (·.name = name)).map (·.frame)

variable {views later : Views} {name : String} {frame : Frame} {attempts rest : List Attempt}

theorem attempt_of_mem (h : name ∈ views.aliases) :
    views.attempt name frame = (⟨name, frame, .error (.duplicateAlias name)⟩, views) := by
  rw [attempt, register, checkAlias, if_pos h]

theorem attempt_of_not_mem (h : name ∉ views.aliases) :
    views.attempt name frame = (⟨name, frame, .ok ()⟩, ⟨views.entries ++ [(name, frame)]⟩) := by
  rw [attempt, register, checkAlias, if_neg h]

theorem attempt_call (views : Views) (name : String) (frame : Frame) :
    ((views.attempt name frame).1.name, (views.attempt name frame).1.frame) = (name, frame) := by
  rw [attempt]
  split <;> rfl

theorem Recorded.empty : Views.empty.Recorded [] where
  answers before attempt after h := by simp at h
  entries_eq := rfl
  aliases_eq := rfl
  nodup := List.nodup_nil
  first _ := rfl

theorem Recorded.mem_aliases (h : views.Recorded attempts) : name ∈ views.aliases ↔ name ∈ attempts.map (·.name) := by
  rw [h.aliases_eq, List.mem_eraseDups]

theorem Recorded.answers_concat (h : views.Recorded attempts) {last : Attempt}
    (hlast : last.answer = if last.name ∈ attempts.map (·.name) then .error (.duplicateAlias last.name) else .ok ()) :
    ∀ before attempt after, attempts ++ [last] = before ++ attempt :: after →
      attempt.answer = if attempt.name ∈ before.map (·.name) then .error (.duplicateAlias attempt.name) else .ok () := by
  intro before attempt after hsplit
  rcases List.eq_nil_or_concat after with rfl | ⟨after, other, rfl⟩
  · obtain ⟨rfl, rfl⟩ := List.append_singleton_inj.mp hsplit
    exact hlast
  · rw [List.concat_eq_append, ← List.cons_append, ← List.append_assoc] at hsplit
    obtain ⟨hattempts, -⟩ := List.append_singleton_inj.mp hsplit
    exact h.answers before attempt after hattempts

theorem Recorded.find?_eq_none (h : views.Recorded attempts) (hname : name ∉ views.aliases) :
    attempts.find? (·.name = name) = none := by
  rw [h.mem_aliases, List.mem_map, not_exists] at hname
  exact List.find?_eq_none.mpr fun attempt hattempt heq => hname attempt ⟨hattempt, of_decide_eq_true heq⟩

theorem Recorded.refuse (h : views.Recorded attempts) (hname : name ∈ views.aliases) (frame : Frame) :
    views.Recorded (attempts ++ [⟨name, frame, .error (.duplicateAlias name)⟩]) := by
  have hattempted : name ∈ attempts.map (·.name) := h.mem_aliases.mp hname
  refine ⟨h.answers_concat (by rw [if_pos hattempted]), ?_, ?_, h.nodup, fun other => ?_⟩
  · rw [List.filter_append, List.map_append, ← h.entries_eq]
    exact (List.append_nil _).symm
  · rw [List.map_append, List.map_singleton, eraseDups_concat, if_pos hattempted, h.aliases_eq]
  · rw [h.first, List.find?_append]
    by_cases hother : name = other
    · subst hother
      obtain ⟨attempt, hattempt, heq⟩ := List.mem_map.mp hattempted
      have hsome : (attempts.find? (·.name = name)).isSome :=
        List.find?_isSome.mpr ⟨attempt, hattempt, decide_eq_true heq⟩
      rw [Option.or_of_isSome hsome]
    · simp [hother]

theorem Recorded.enter (h : views.Recorded attempts) (hname : name ∉ views.aliases) (frame : Frame) :
    Recorded ⟨views.entries ++ [(name, frame)]⟩ (attempts ++ [⟨name, frame, .ok ()⟩]) := by
  have hattempted : name ∉ attempts.map (·.name) := fun hmem => hname (h.mem_aliases.mpr hmem)
  have haliases : aliases ⟨views.entries ++ [(name, frame)]⟩ = views.aliases ++ [name] :=
    Keyed.keys_append views.entries [(name, frame)]
  refine ⟨h.answers_concat (by rw [if_neg hattempted]), ?_, ?_, ?_, fun other => ?_⟩
  · rw [List.filter_append, List.map_append, ← h.entries_eq]
    rfl
  · rw [haliases, List.map_append, List.map_singleton, eraseDups_concat, if_neg hattempted, h.aliases_eq]
  · rw [haliases, List.nodup_append_comm]
    exact List.nodup_cons.mpr ⟨hname, h.nodup⟩
  · have hget : Keyed.get? other (views.entries ++ [(name, frame)]) =
        if name = other then some frame else Keyed.get? other views.entries := by
      rw [← Keyed.put_of_not_mem hname, Keyed.get?_put]
    rw [hget, List.find?_append]
    split
    · next hother =>
        subst hother
        simp [h.find?_eq_none hname]
    · next hother => simp [h.first, hother]

/-- One more attempt: a name that was attempted before is refused, a new one is entered behind the others. -/
theorem Recorded.attempt (h : views.Recorded attempts) (name : String) (frame : Frame) :
    (views.attempt name frame).2.Recorded (attempts ++ [(views.attempt name frame).1]) := by
  by_cases hname : name ∈ views.aliases
  · rw [attempt_of_mem hname]
    exact h.refuse hname frame
  · rw [attempt_of_not_mem hname]
    exact h.enter hname frame

theorem attempt_of_error {error : FrameError} (h : (views.attempt name frame).1.answer = .error error) :
    error = .duplicateAlias name ∧ (views.attempt name frame).2 = views := by
  by_cases hname : name ∈ views.aliases
  · rw [attempt_of_mem hname] at h ⊢
    exact ⟨(Except.error.inj h).symm, rfl⟩
  · rw [attempt_of_not_mem hname] at h
    cases h

theorem Recorded.entries_grow (h : views.Recorded attempts) (hlater : later.Recorded (attempts ++ rest)) :
    views.entries <+: later.entries := by
  rw [h.entries_eq, hlater.entries_eq, List.filter_append, List.map_append]
  exact List.prefix_append _ _

end Views

theorem Frame.viewCtes_grow {earlier later : List (String × Frame)} (h : earlier <+: later) (dialect : Dialect)
    (frame : Frame) : viewCtes dialect earlier <+: (frame.statement dialect later).ctes :=
  (h.map _).trans (List.prefix_append _ _)

/-! ### Callers of one registry -/

/-- Callers of one registry: the calls that each has still to make, in its own order, the views, and the attempts made
so far with the caller of each. -/
structure Callers (ι : Type) where
  waiting : ι → List (String × Frame)
  views : Views
  attempts : List (ι × Attempt)

namespace Callers

variable {ι : Type}

/-- Before the first call. -/
def start (calls : ι → List (String × Frame)) : Callers ι := ⟨calls, .empty, []⟩

variable [DecidableEq ι]

/-- After a call of one of them, who has `rest` still to make. -/
def after (state : Callers ι) (caller : ι) (name : String) (frame : Frame) (rest : List (String × Frame)) :
    Callers ι where
  waiting := Function.update state.waiting caller rest
  views := (state.views.attempt name frame).2
  attempts := state.attempts ++ [(caller, (state.views.attempt name frame).1)]

/-- Any caller that still has a call to make makes it, as one step. -/
inductive Step : Callers ι → Callers ι → Prop
  | call {state : Callers ι} {caller : ι} {name : String} {frame : Frame} {rest : List (String × Frame)}
      (hnext : state.waiting caller = (name, frame) :: rest) : Step state (state.after caller name frame rest)

variable {calls : ι → List (String × Frame)} {state now later : Callers ι}

/-- The calls made so far and those still to be made are those of every caller in its own order. -/
def Interleaved (calls : ι → List (String × Frame)) (state : Callers ι) : Prop :=
  ∀ caller, ((Attempt.under caller state.attempts).map fun attempt => (attempt.name, attempt.frame)) ++
    state.waiting caller = calls caller

theorem Step.recorded (hstep : Step state later) (h : state.views.Recorded (state.attempts.map (·.2))) :
    later.views.Recorded (later.attempts.map (·.2)) := by
  cases hstep with
  | call hnext =>
      rw [after, List.map_append]
      exact h.attempt _ _

theorem Step.interleaved (hstep : Step state later) (h : state.Interleaved calls) : later.Interleaved calls := by
  cases hstep with
  | @call caller name frame rest hnext =>
      intro other
      dsimp only [after]
      rw [← h other, Attempt.under_append, Attempt.under_singleton, List.map_append, List.append_assoc]
      by_cases hother : caller = other
      · subst hother
        rw [if_pos rfl, Function.update_self, List.map_singleton, Views.attempt_call, hnext]
        rfl
      · rw [if_neg hother, Function.update_of_ne (Ne.symm hother)]
        rfl

theorem Step.attempts_eq (hstep : Step state later) :
    ∃ caller attempt, later.attempts = state.attempts ++ [(caller, attempt)] ∧
      ∀ error, attempt.answer = .error error → later.views = state.views := by
  cases hstep with
  | call hnext => exact ⟨_, _, rfl, fun error herror => (Views.attempt_of_error herror).2⟩

/-- Callers after some steps. -/
abbrev Steps : Callers ι → Callers ι → Prop := Relation.ReflTransGen Step

theorem Steps.recorded (h : Steps (start calls) state) : state.views.Recorded (state.attempts.map (·.2)) := by
  induction h with
  | refl => exact .empty
  | tail _ hstep ih => exact hstep.recorded ih

theorem Steps.interleaved (h : Steps (start calls) state) : state.Interleaved calls := by
  induction h with
  | refl => exact fun caller => rfl
  | tail _ hstep ih => exact hstep.interleaved ih

theorem Steps.attempts_eq (h : Steps now later) : ∃ rest, later.attempts = now.attempts ++ rest := by
  induction h with
  | refl => exact ⟨[], (List.append_nil _).symm⟩
  | tail _ hstep ih =>
      obtain ⟨rest, hrest⟩ := ih
      obtain ⟨caller, attempt, hattempt, -⟩ := hstep.attempts_eq
      exact ⟨rest ++ [(caller, attempt)], by rw [hattempt, hrest, List.append_assoc]⟩

end Callers

/-! ### The registry of a session -/

/-- The view that an operation would register: its session, its name and its frame. -/
def Operation.view? : Operation → Option (Nat × String × Frame)
  | .registerView builder name frame => some (builder, name, frame)
  | .createTempView frame name => some (frame.id.session, name, frame)
  | _ => none

theorem Operation.registration?_eq (operation : Operation) :
    operation.registration? = operation.view?.map fun view => (view.1, view.2.1) := by
  cases operation <;> rfl

namespace Workspace

variable {σ : Type}

/-- The attempt that an operation makes, with its session: as it is called, and as the operation is answered. -/
def attempted (workspace : Workspace σ) (operation : Operation) : List (Nat × Attempt) :=
  operation.view?.toList.map fun (s, name, frame) =>
    (s, ⟨name, frame, (workspace.perform operation).1.map fun _ => ()⟩)

variable {workspace : Workspace σ} {operation : Operation} {s : Nat} {name : String} {frame : Frame}

theorem registerView_of_mem (h : name ∈ (workspace.session s).views.aliases) :
    workspace.registerView s name frame = (.error (.duplicateAlias name), workspace) := by
  rw [registerView, Session.registerView, Views.register, checkAlias, if_pos h]
  rfl

theorem registerView_of_not_mem (h : name ∉ (workspace.session s).views.aliases) :
    workspace.registerView s name frame =
      (.ok (), workspace.put { workspace.session s with
        views := ⟨(workspace.session s).views.entries ++ [(name, frame)]⟩ }) := by
  rw [registerView, Session.registerView, Views.register, checkAlias, if_neg h]
  rfl

theorem perform_of_view? (hview : operation.view? = some (s, name, frame)) :
    workspace.perform operation = answer (fun _ => .done) (workspace.registerView s name frame) := by
  cases operation <;> cases hview <;> rfl

theorem attempted_of_view? (hview : operation.view? = some (s, name, frame)) :
    workspace.attempted operation = [(s, ((workspace.session s).views.attempt name frame).1)] := by
  rw [attempted, hview, perform_of_view? hview]
  by_cases hname : name ∈ (workspace.session s).views.aliases
  · rw [registerView_of_mem hname, Views.attempt_of_mem hname]
    rfl
  · rw [registerView_of_not_mem hname, Views.attempt_of_not_mem hname]
    rfl

/-- A registration that fails was of a name that is given, and leaves everything as it was. -/
theorem perform_of_refused (hview : operation.view? = some (s, name, frame)) {error : FrameError}
    (h : (workspace.perform operation).1 = .error error) :
    error = .duplicateAlias name ∧ (workspace.perform operation).2 = workspace := by
  rw [perform_of_view? hview] at h ⊢
  by_cases hname : name ∈ (workspace.session s).views.aliases
  · rw [registerView_of_mem hname] at h ⊢
    exact ⟨(Except.error.inj h).symm, rfl⟩
  · rw [registerView_of_not_mem hname] at h
    cases h

end Workspace

namespace History

variable {σ : Type} {executor : Executor σ} {state : σ} {before history later : History σ}
  {operation : Operation} {sources : List Derivation} {attempts rest : List (Nat × Attempt)} {s : Nat}

/-- A run from one history to another, and the attempts to register views that are made in it. -/
inductive Attempted (before : History σ) : List (Nat × Attempt) → History σ → Prop
  | nil : Attempted before [] before
  | openSession {attempts : List (Nat × Attempt)} {history : History σ} (dialect : Dialect) (connected : Bool)
      (hrun : Attempted before attempts history) :
      Attempted before attempts ⟨(history.workspace.openSession dialect connected).2, history.made⟩
  | perform {attempts : List (Nat × Attempt)} {history : History σ} {operation : Operation}
      {sources : List Derivation} (hrun : Attempted before attempts history)
      (hoffers : history.Offers operation sources) :
      Attempted before (attempts ++ history.workspace.attempted operation) (history.perform operation sources)

theorem Attempted.trans (hfirst : Attempted before attempts history) (hsecond : Attempted history rest later) :
    Attempted before (attempts ++ rest) later := by
  induction hsecond with
  | nil => exact (List.append_nil attempts).symm ▸ hfirst
  | openSession dialect connected _ ih => exact .openSession dialect connected ih
  | perform _ hoffers ih =>
      rw [← List.append_assoc]
      exact .perform ih hoffers

theorem Attempted.reached (hrun : Attempted ⟨.start executor state, []⟩ attempts history) :
    Reached executor state (fun _ _ => True) history := by
  induction hrun with
  | nil => exact .start
  | openSession dialect connected _ ih => exact .openSession dialect connected ih
  | perform _ hoffers ih => exact .perform ih hoffers trivial

theorem Change.views_eq (hchange : Change (fun _ _ => False) history later) (hc : history.Consistent) (s : Nat) :
    (later.session s).views = (history.session s).views := by
  have hput : ∀ {t : Nat} (session : Session), t < history.workspace.sessions.length →
      session.id = (history.session t).id → session.views = (history.session t).views →
        ((history.put session).session s).views = (history.session s).views := by
    intro t session ht hid hviews
    rw [session_put_eq session hc ht hid]
    split
    · next hts => rw [hviews, hts]
    · rfl
  cases hchange with
  | derive hs hmade fragment => exact hput _ hs rfl rfl
  | choose hs hname fragment => exact hput _ hs rfl rfl
  | rename hd hname => exact hput _ (hc.session_lt _ hd) rfl rfl
  | register hs hd hregisters hname => exact hregisters.elim
  | remember hs frame schema => exact hput _ hs rfl rfl
  | submit call state => rfl

theorem Changes.views_eq (hchanges : Changes (fun _ _ => False) history later) (hc : history.Consistent) (s : Nat) :
    (later.session s).views = (history.session s).views := by
  induction hchanges with
  | refl => rfl
  | tail hbefore hchange ih => exact (hchange.views_eq (Changes.consistent hbefore hc) s).trans ih

theorem views_perform_of_view?_eq_none (hc : history.Consistent) (hoffers : history.Offers operation sources)
    (hview : operation.view? = none) (s : Nat) :
    ((history.perform operation sources).session s).views = (history.session s).views := by
  refine Changes.views_eq (perform_changes hc hoffers fun view hregistration => ?_) hc s
  rw [Operation.registration?_eq, hview] at hregistration
  cases hregistration

theorem session_lt_of_view? (hc : history.Consistent) (hoffers : history.Offers operation sources) {name : String}
    {frame : Frame} (hview : operation.view? = some (s, name, frame)) : s < history.workspace.sessions.length := by
  cases operation <;> cases hview
  · exact hoffers.builder s rfl
  · obtain ⟨d, hd, rfl, rfl⟩ := hoffers.exists_source rfl
    exact hc.session_lt d hd

theorem views_perform_of_view? (hc : history.Consistent) (hoffers : history.Offers operation sources) {name : String}
    {frame : Frame} (hview : operation.view? = some (s, name, frame)) (t : Nat) :
    ((history.perform operation sources).session t).views =
      if s = t then ((history.session s).views.attempt name frame).2 else (history.session t).views := by
  have hs := session_lt_of_view? hc hoffers hview
  rw [session, perform, Workspace.perform_of_view? hview]
  by_cases hname : name ∈ (history.session s).views.aliases
  · rw [Workspace.registerView_of_mem hname, Views.attempt_of_mem hname]
    split
    · next hst => exact hst ▸ rfl
    · rfl
  · rw [Workspace.registerView_of_not_mem hname, Views.attempt_of_not_mem hname]
    have hput := session_put_eq { history.session s with
      views := ⟨(history.session s).views.entries ++ [(name, frame)]⟩ } hc hs rfl t
    apply (congrArg Session.views hput).trans
    split <;> rfl

/-- The registry of every session is what the attempts on it leave behind. -/
theorem Attempted.recorded (hrun : Attempted ⟨.start executor state, []⟩ attempts history) (s : Nat) :
    (history.session s).views.Recorded (Attempt.under s attempts) := by
  induction hrun with
  | nil => exact .empty
  | @openSession attempts history dialect connected hrun ih =>
      rw [session, Workspace.session_openSession]
      split
      · next hs =>
          -- A number that was not given out before stands for a session without views.
          have hempty : (history.session s).views = .empty := by
            rw [session, Workspace.session, hs, List.getD_eq_getElem?_getD, List.getElem?_eq_none (Nat.le_refl _)]
            rfl
          rw [hempty] at ih
          exact ih
      · exact ih
  | @perform attempts history operation sources hrun hoffers ih =>
      have hc := hrun.reached.consistent
      rw [Attempt.under_append]
      rcases hview : operation.view? with _ | ⟨t, name, frame⟩
      · rw [views_perform_of_view?_eq_none hc hoffers hview, Workspace.attempted, hview]
        exact (List.append_nil (Attempt.under s attempts)).symm ▸ ih
      · rw [views_perform_of_view? hc hoffers hview, Workspace.attempted_of_view? hview, Attempt.under_singleton]
        split
        · next hts =>
            subst hts
            exact ih.attempt name frame
        · exact (List.append_nil (Attempt.under s attempts)).symm ▸ ih

/-- The registry of a session, and any registry whose callers run side by side, is decided by the order of the attempts
on it: of every name the first succeeds and keeps its frame, all others are refused and change nothing, and what was
there at some time stands in front at every later time, in the registry and in the statements that are compiled. -/
theorem Attempted.registry_history (hrun : Attempted ⟨.start executor state, []⟩ attempts history)
    (hrest : Attempted history rest later) (s : Nat) :
    ((history.session s).views.Recorded (Attempt.under s attempts) ∧
        ((history.session s).views.entries <+: (later.session s).views.entries ∧
          ∀ d ∈ later.made, d.frame.id.session = s →
            Frame.viewCtes (later.session s).dialect (history.session s).views.entries <+:
              (later.workspace.statement d.frame).ctes) ∧
        ∀ operation name frame error, operation.view? = some (s, name, frame) →
          (history.workspace.perform operation).1 = .error error →
            error = .duplicateAlias name ∧ (history.workspace.perform operation).2 = history.workspace) ∧
      ∀ (ι : Type) [DecidableEq ι] (calls : ι → List (String × Frame)) (now later : Callers ι),
        Callers.Steps (.start calls) now → Callers.Steps now later →
          (now.Interleaved calls ∧ now.views.Recorded (now.attempts.map (·.2))) ∧
          (now.views.entries <+: later.views.entries ∧
            ∀ dialect (frame : Frame),
              Frame.viewCtes dialect now.views.entries <+: (frame.statement dialect later.views.entries).ctes) ∧
          ∀ next, Callers.Step now next →
            ∃ caller attempt, next.attempts = now.attempts ++ [(caller, attempt)] ∧
              ∀ error, attempt.answer = .error error → next.views = now.views := by
  constructor
  · have hlater := (hrun.trans hrest).recorded s
    rw [Attempt.under_append] at hlater
    have hfront := (hrun.recorded s).entries_grow hlater
    refine ⟨hrun.recorded s, ⟨hfront, fun d _ hs => ?_⟩, fun operation name frame error hview herror => ?_⟩
    · rw [Workspace.statement, hs]
      exact Frame.viewCtes_grow hfront _ _
    · exact Workspace.perform_of_refused hview herror
  · intro ι _ calls now later hnow hlater
    obtain ⟨rest, hrest⟩ := hlater.attempts_eq
    have hrecorded := Callers.Steps.recorded (hnow.trans hlater)
    rw [hrest, List.map_append] at hrecorded
    have hfront := hnow.recorded.entries_grow hrecorded
    exact ⟨⟨hnow.interleaved, hnow.recorded⟩, ⟨hfront, Frame.viewCtes_grow hfront⟩,
      fun next => Callers.Step.attempts_eq⟩

end History

/-! ### A contested name

One session in which two frames are registered under one name, and two callers who do the same side by side. -/

namespace Contested

open Repeated (source)
open Registered (filtered)

def start : History Unit := ⟨.start Executor.absent (), []⟩

def history : History Unit :=
  Registered.before.perform (.registerView 0 "v" source.frame) [source]
    |>.perform (.createTempView filtered.frame "v") [filtered]

def later : History Unit := history.perform (.createTempView filtered.frame "w") [filtered]

def refused : FrameError := .duplicateAlias "v"

theorem attempted :
    History.Attempted start [(0, ⟨"v", source.frame, .ok ()⟩), (0, ⟨"v", filtered.frame, .error refused⟩)] history := by
  have hopened : History.Attempted start [] History.opened := .openSession .bigQuery false .nil
  have hsource : History.opened.Offers (.sqlAs 0 "SELECT 1 AS id" "t") [] := .of_builder (s := 0) (by decide) rfl rfl
  have hfiltered : (History.opened.perform (.sqlAs 0 "SELECT 1 AS id" "t") []).Offers
      (.filter source.frame "id > 0") [source] :=
    .of_frame (List.mem_of_getElem? (i := 0) rfl) rfl rfl
  have hview : Registered.before.Offers (.registerView 0 "v" source.frame) [source] :=
    ⟨rfl, List.forall_mem_singleton.mpr (List.mem_of_getElem? (i := 0) rfl), by rintro _ ⟨⟩; decide⟩
  have hagain : (Registered.before.perform (.registerView 0 "v" source.frame) [source]).Offers
      (.createTempView filtered.frame "v") [filtered] :=
    .of_frame (List.mem_of_getElem? (i := 1) rfl) rfl rfl
  exact .perform (.perform (.perform (.perform hopened hsource) hfiltered) hview) hagain

/-- What each of two callers registers. -/
def calls : Bool → List (String × Frame)
  | true => [("v", source.frame), ("w", source.frame)]
  | false => [("v", filtered.frame)]

/-- The second caller comes first with the contested name. -/
def race : Callers Bool :=
  ((Callers.start calls).after false "v" filtered.frame []).after true "v" source.frame [("w", source.frame)]

theorem steps_race : Callers.Steps (.start calls) race :=
  .tail (.single (.call rfl)) (.call rfl)

/-- The first of both keeps the name, in the session and in the race. -/
theorem registry_contested :
    (Keyed.get? "v" (history.session 0).views.entries = some source.frame ∧
        (later.session 0).views.aliases = ["v", "w"] ∧
          (history.session 0).views.entries <+: (later.session 0).views.entries) ∧
      Keyed.get? "v" race.views.entries = some filtered.frame := by
  have hoffers : history.Offers (.createTempView filtered.frame "w") [filtered] :=
    .of_frame (List.mem_of_getElem? (i := 1) rfl) rfl rfl
  have hlater : History.Attempted history _ later := .perform .nil hoffers
  obtain ⟨⟨hrecorded, ⟨hfront, -⟩, -⟩, hcallers⟩ := attempted.registry_history hlater 0
  have hrace := (hcallers Bool calls race race steps_race .refl).1.2
  exact ⟨⟨hrecorded.first "v", rfl, hfront⟩, hrace.first "v"⟩

end Contested

end QueryFrames
