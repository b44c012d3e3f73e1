import Mathlib.Data.List.Nodup
import Mathlib.Data.List.Pairwise
import QueryFrames.Proofs.Lineage

/-! Names in the sessions of a run. The views of a session have distinct names, and so have the dependencies of a
frame; the two sets are kept apart by no check that sees both, since a view is compared with other views only
and a generated alias with nothing. A statement therefore names a body twice exactly when a view has the name of
a dependency, and never in a run that registers views under names of their own. -/

namespace QueryFrames

/-- Two frames of one session do not share a generated alias. -/
def Derivation.GeneratedApart (d e : Derivation) : Prop :=
  d.chosen = false → e.chosen = false → d.frame.id.session = e.frame.id.session → d.frame.name ≠ e.frame.name

instance : Std.Symm Derivation.GeneratedApart where
  symm _ _ h he hd hsession := (h hd he hsession.symm).symm

namespace History

variable {σ : Type}

/-- The names of a session's views. -/
def views (history : History σ) (s : Nat) : List String :=
  (history.session s).views.aliases

/-- How many aliases a session has generated. -/
def allocated (history : History σ) (s : Nat) : Nat :=
  (history.session s).aliases.allocated

/-- What a change does to names. A frame is made under the next generated alias or under a chosen one that no
view of its session has, or a view is registered under a new name, or there is nothing new. -/
inductive Naming (registers : History σ → Nat × String → Prop) (history after : History σ) : Prop
  | generated (d : Derivation) (hmade : after.made = history.made ++ [d]) (hchosen : d.chosen = false)
      (hname : d.frame.name = AliasSupply.name (history.allocated d.frame.id.session + 1))
      (hviews : ∀ s, after.views s = history.views s)
      (hallocated : ∀ s, after.allocated s = history.allocated s + if d.frame.id.session = s then 1 else 0)
  | chosen (d : Derivation) (hmade : after.made = history.made ++ [d]) (hchosen : d.chosen = true)
      (hname : d.frame.name ∉ history.views d.frame.id.session)
      (hviews : ∀ s, after.views s = history.views s)
      (hallocated : ∀ s, after.allocated s = history.allocated s)
  | registered (s : Nat) (name : String) (hmade : after.made = history.made)
      (hname : name ∉ history.views s) (hregisters : registers history (s, name))
      (hviews : ∀ t, after.views t = history.views t ++ if s = t then [name] else [])
      (hallocated : ∀ s, after.allocated s = history.allocated s)
  | kept (hmade : after.made = history.made) (hviews : ∀ s, after.views s = history.views s)
      (hallocated : ∀ s, after.allocated s = history.allocated s)

variable {history after : History σ} {registers : History σ → Nat × String → Prop}

section

variable {s : Nat}

theorem session_put_eq (session : Session) (hc : history.Consistent)
    (hs : s < history.workspace.sessions.length) (hid : session.id = (history.session s).id) (t : Nat) :
    (history.put session).session t = if s = t then session else history.session t := by
  rw [session_put, hid, hc.id_eq s hs]
  by_cases hst : s = t
  · rw [if_pos ⟨hst, hst ▸ hs⟩, if_pos hst]
  · rw [if_neg fun h => hst h.1, if_neg hst]

theorem views_put {session : Session} (hc : history.Consistent) (hs : s < history.workspace.sessions.length)
    (hid : session.id = (history.session s).id) (hviews : session.views = (history.session s).views) (t : Nat) :
    (history.put session).views t = history.views t := by
  unfold views
  rw [session_put_eq session hc hs hid]
  split
  · next hst => rw [hviews, hst]
  · rfl

theorem allocated_put (session : Session) (hc : history.Consistent)
    (hs : s < history.workspace.sessions.length) (hid : session.id = (history.session s).id) (t : Nat) :
    (history.put session).allocated t = if s = t then session.aliases.allocated else history.allocated t := by
  unfold allocated
  rw [session_put_eq session hc hs hid]
  split <;> rfl

theorem allocated_put_of_eq {session : Session} (hc : history.Consistent)
    (hs : s < history.workspace.sessions.length) (hid : session.id = (history.session s).id) (haliases : session.aliases = (history.session s).aliases)
    (t : Nat) : (history.put session).allocated t = history.allocated t := by
  rw [allocated_put session hc hs hid]
  split
  · next hst => rw [haliases, hst]; rfl
  · rfl

end

theorem Change.naming (hc : history.Consistent) (hchange : Change registers history after) :
    Naming registers history after := by
  cases hchange with
  | @derive s hs parents hmade fragment =>
      have hid : ((history.session s).derive (parents.map (·.frame)) fragment).1.id.session = s := hc.id_eq s hs
      refine .generated _ rfl rfl ?_ (views_put hc hs rfl rfl) fun t => ?_
      · show AliasSupply.name ((history.session s).aliases.allocated + 1) = _
        rw [hid, allocated]
      · rw [hid]
        have hput := allocated_put ((history.session s).derive (parents.map (·.frame)) fragment).2 hc hs rfl t
        apply hput.trans
        by_cases hst : s = t
        · subst hst
          rw [if_pos rfl, if_pos rfl]
          rfl
        · rw [if_neg hst, if_neg hst]
          rfl
  | @choose s hs name hname fragment =>
      have hid : ((history.session s).make name fragment []).1.id.session = s := hc.id_eq s hs
      exact .chosen _ rfl rfl (by rw [hid]; exact hname) (views_put hc hs rfl rfl)
        (allocated_put_of_eq hc hs rfl rfl)
  | @rename d hd name hname =>
      have hs := hc.session_lt d hd
      have hid : ((history.session d.frame.id.session).make name d.frame.fragment
          d.frame.dependencies).1.id.session = d.frame.id.session := hc.id_eq _ hs
      refine .chosen _ rfl rfl ?_ (views_put hc hs rfl rfl) (allocated_put_of_eq hc hs rfl rfl)
      rw [hid]
      exact fun h => hname (List.mem_append_left _ h)
  | @register s hs d hd name hregisters hname =>
      refine .registered s name rfl hname hregisters (fun t => ?_) (allocated_put_of_eq hc hs rfl rfl)
      have hput := session_put_eq { history.session s with
        views := ⟨(history.session s).views.entries ++ [(name, d.frame)]⟩ } hc hs rfl t
      apply (congrArg (·.views.aliases) hput).trans
      by_cases hst : s = t
      · subst hst
        rw [if_pos rfl, if_pos rfl]
        exact Keyed.keys_append _ _
      · rw [if_neg hst, if_neg hst]
        exact (List.append_nil _).symm
  | remember hs frame schema =>
      exact .kept rfl (views_put hc hs rfl rfl) (allocated_put_of_eq hc hs rfl rfl)
  | submit call state => exact .kept rfl (fun _ => rfl) fun _ => rfl

theorem openSession_naming (registers : History σ → Nat × String → Prop) (history : History σ)
    (dialect : Dialect) (connected : Bool) :
    Naming registers history ⟨(history.workspace.openSession dialect connected).2, history.made⟩ := by
  -- A number that was never given out stands for a session without views and aliases.
  have hunopened : history.workspace.session history.workspace.sessions.length =
      .fresh history.workspace.sessions.length .bigQuery false := by
    rw [Workspace.session, List.getD_eq_getElem?_getD, List.getElem?_eq_none (Nat.le_refl _), Option.getD_none]
  refine .kept rfl (fun s => ?_) fun s => ?_
  · unfold views session
    rw [Workspace.session_openSession]
    split
    · next hs => rw [hs, hunopened]; rfl
    · rfl
  · unfold allocated session
    rw [Workspace.session_openSession]
    split
    · next hs => rw [hs, hunopened]; rfl
    · rfl

/-! ### Names in every run -/

/-- Views of a session have distinct names. Generated aliases are numbered by the supply of their session, and
no two frames of a session are given the same one. -/
structure Named (history : History σ) : Prop where
  views_nodup : ∀ s, (history.views s).Nodup
  generated : ∀ d ∈ history.made, d.chosen = false →
    ∃ n ≤ history.allocated d.frame.id.session, d.frame.name = AliasSupply.name n
  distinct : history.made.Pairwise Derivation.GeneratedApart

theorem Named.start {executor : Executor σ} {state : σ} : (History.mk (.start executor state) []).Named where
  views_nodup _ := List.nodup_nil
  generated _ hd := nomatch hd
  distinct := .nil

theorem Named.naming (hnamed : history.Named) (hnaming : Naming registers history after) : after.Named := by
  cases hnaming with
  | generated d hmade hchosen hname hviews hallocated =>
      refine ⟨fun s => hviews s ▸ hnamed.views_nodup s, fun e he hechosen => ?_, ?_⟩
      · rw [hmade, List.mem_append, List.mem_singleton] at he
        rw [hallocated]
        rcases he with he | rfl
        · obtain ⟨n, hn, hename⟩ := hnamed.generated e he hechosen
          exact ⟨n, Nat.le_add_right_of_le hn, hename⟩
        · exact ⟨_, by simp, hname⟩
      · rw [hmade, List.pairwise_append]
        refine ⟨hnamed.distinct, List.pairwise_singleton _ _, fun e he f hf hechosen _ hsession heq => ?_⟩
        obtain rfl := List.mem_singleton.mp hf
        obtain ⟨n, hn, hename⟩ := hnamed.generated e he hechosen
        have hnumber := AliasSupply.name_injective (hename.symm.trans (heq.trans hname))
        rw [hsession] at hn
        omega
  | chosen d hmade hchosen hname hviews hallocated =>
      refine ⟨fun s => hviews s ▸ hnamed.views_nodup s, fun e he hechosen => ?_, ?_⟩
      · rw [hmade, List.mem_append, List.mem_singleton] at he
        rw [hallocated]
        rcases he with he | rfl
        · exact hnamed.generated e he hechosen
        · rw [hchosen] at hechosen
          cases hechosen
      · rw [hmade, List.pairwise_append]
        refine ⟨hnamed.distinct, List.pairwise_singleton _ _, fun e he f hf _ hfchosen => ?_⟩
        rw [List.mem_singleton.mp hf, hchosen] at hfchosen
        cases hfchosen
  | registered s name hmade hname hregisters hviews hallocated =>
      refine ⟨fun t => ?_, ?_, hmade ▸ hnamed.distinct⟩
      · rw [hviews]
        split
        · next hst =>
            subst hst
            rw [List.nodup_append_comm]
            exact List.nodup_cons.mpr ⟨hname, hnamed.views_nodup s⟩
        · rw [List.append_nil]
          exact hnamed.views_nodup t
      · rw [hmade]
        intro e he hechosen
        rw [hallocated]
        exact hnamed.generated e he hechosen
  | kept hmade hviews hallocated =>
      refine ⟨fun s => hviews s ▸ hnamed.views_nodup s, ?_, hmade ▸ hnamed.distinct⟩
      rw [hmade]
      intro e he hechosen
      rw [hallocated]
      exact hnamed.generated e he hechosen

variable {executor : Executor σ} {state : σ} {admits : History σ → Operation → Prop}

theorem Reached.named (hrun : Reached executor state admits history) : history.Named := by
  have hadmits : ∀ history operation view, admits history operation →
      operation.registration? = some view → True :=
    fun _ _ _ _ _ => trivial
  apply hrun.induction hadmits .start
  · intro _ dialect connected _ hnamed
    exact hnamed.naming (openSession_naming (fun _ _ => True) _ dialect connected)
  · exact fun hc hchange hnamed => hnamed.naming (hchange.naming hc)

/-! ### Chosen aliases -/

/-- The aliases of a session's frames. -/
def frameAliases (history : History σ) (s : Nat) : List String :=
  (history.made.filter fun d => d.frame.id.session = s).map (·.frame.name)

/-- Those of them that callers chose. -/
def chosenAliases (history : History σ) (s : Nat) : List String :=
  (history.made.filter fun d => d.chosen ∧ d.frame.id.session = s).map (·.frame.name)

theorem mem_chosenAliases {d : Derivation} (hd : d ∈ history.made) (hchosen : d.chosen = true) :
    d.frame.name ∈ history.chosenAliases d.frame.id.session :=
  List.mem_map_of_mem (List.mem_filter.mpr ⟨hd, by simp [hchosen]⟩)

/-- Where chosen aliases differ from one another and from generated ones, frames of a session do too. -/
theorem Named.eq_of_name_eq (hnamed : history.Named) {s : Nat} (hdistinct : (history.chosenAliases s).Nodup)
    (hform : ∀ n, AliasSupply.name n ∉ history.chosenAliases s) {d e : Derivation} (hd : d ∈ history.made)
    (he : e ∈ history.made) (hds : d.frame.id.session = s) (hes : e.frame.id.session = s)
    (heq : d.frame.name = e.frame.name) : d = e := by
  cases hdchosen : d.chosen <;> cases hechosen : e.chosen
  · by_contra hne
    exact hnamed.distinct.forall hd he hne hdchosen hechosen (hds.trans hes.symm) heq
  · obtain ⟨n, -, hname⟩ := hnamed.generated d hd hdchosen
    have hmem := hes ▸ mem_chosenAliases he hechosen
    exact absurd (hname ▸ heq ▸ hmem) (hform n)
  · obtain ⟨n, -, hname⟩ := hnamed.generated e he hechosen
    have hmem := hds ▸ mem_chosenAliases hd hdchosen
    exact absurd (hname ▸ heq ▸ hmem) (hform n)
  · exact List.inj_on_of_nodup_map hdistinct (List.mem_filter.mpr ⟨hd, by simp [hdchosen, hds]⟩)
      (List.mem_filter.mpr ⟨he, by simp [hechosen, hes]⟩) heq

/-! ### Views under names of their own -/

/-- A view name that no frame of the session has and that no generated alias will have. -/
def OwnName (history : History σ) (view : Nat × String) : Prop :=
  (∀ d ∈ history.made, d.frame.id.session = view.1 → d.frame.name ≠ view.2) ∧
    ∀ n, AliasSupply.name n ≠ view.2

/-- No view has the name of a frame of its session or a generated alias. -/
structure Apart (history : History σ) : Prop where
  frames : ∀ d ∈ history.made, d.frame.name ∉ history.views d.frame.id.session
  generated : ∀ s n, AliasSupply.name n ∉ history.views s

theorem Apart.start {executor : Executor σ} {state : σ} : (History.mk (.start executor state) []).Apart where
  frames _ hd := nomatch hd
  generated _ _ h := nomatch h

theorem Apart.naming (hapart : history.Apart) (hnaming : Naming OwnName history after) : after.Apart := by
  cases hnaming with
  | generated d hmade hchosen hname hviews hallocated =>
      refine ⟨fun e he => ?_, fun s n => hviews s ▸ hapart.generated s n⟩
      rw [hmade, List.mem_append, List.mem_singleton] at he
      rw [hviews]
      rcases he with he | rfl
      · exact hapart.frames e he
      · exact hname ▸ hapart.generated _ _
  | chosen d hmade hchosen hname hviews hallocated =>
      refine ⟨fun e he => ?_, fun s n => hviews s ▸ hapart.generated s n⟩
      rw [hmade, List.mem_append, List.mem_singleton] at he
      rw [hviews]
      rcases he with he | rfl
      · exact hapart.frames e he
      · exact hname
  | registered s name hmade hname hregisters hviews hallocated =>
      refine ⟨fun e he => ?_, fun t n => ?_⟩
      · rw [hmade] at he
        rw [hviews, List.mem_append]
        rintro (h | h)
        · exact hapart.frames e he h
        · split at h
          · next hs => exact hregisters.1 e he hs.symm (List.mem_singleton.mp h)
          · cases h
      · rw [hviews, List.mem_append]
        rintro (h | h)
        · exact hapart.generated t n h
        · split at h
          · exact hregisters.2 n (List.mem_singleton.mp h)
          · cases h
  | kept hmade hviews hallocated =>
      refine ⟨?_, fun s n => hviews s ▸ hapart.generated s n⟩
      rw [hmade]
      intro e he
      rw [hviews]
      exact hapart.frames e he

end History

/-! ### Names of a statement -/

/-- The names of the bodies in a `WITH` clause. -/
def Statement.names (statement : Statement) : List String :=
  statement.ctes.map (·.name)

/-- The statement that a frame is compiled to. -/
def Workspace.statement {σ : Type} (workspace : Workspace σ) (frame : Frame) : Statement :=
  frame.statement (workspace.session frame.id.session).dialect
    (workspace.session frame.id.session).views.entries

theorem Workspace.compile_eq_render {σ : Type} (workspace : Workspace σ) (frame : Frame) :
    workspace.compile frame =
      (workspace.statement frame).render (workspace.session frame.id.session).dialect :=
  rfl

theorem Frame.names_statement (dialect : Dialect) (views : List (String × Frame)) (frame : Frame) :
    (frame.statement dialect views).names = Keyed.keys views ++ Keyed.keys frame.dependencies := by
  simp only [Statement.names, statement, viewCtes, dependencyCtes, Keyed.keys, List.map_append, List.map_map]
  rfl

namespace History

variable {σ : Type} {executor : Executor σ} {state : σ} {admits : History σ → Operation → Prop}
  {history : History σ} {d : Derivation}

end History

namespace Registered

open Repeated (source)

def filtered : Derivation :=
  ⟨⟨⟨0, 1⟩, "_default_alias_1", Fragment.filter "t" "id > 0", [("t", source.frame)]⟩, false, [source]⟩

def before : History Unit :=
  History.opened.perform (.sqlAs 0 "SELECT 1 AS id" "t") []
    |>.perform (.filter source.frame "id > 0") [source]

/-- A run that registers a filter of a source under some name. -/
def history (name : String) : History Unit :=
  before.perform (.registerView 0 name filtered.frame) [filtered]

theorem reached {admits : History Unit → Operation → Prop}
    (hadmits : ∀ history operation, operation.registration? = none → admits history operation) {name : String}
    (hname : admits before (.registerView 0 name filtered.frame)) :
    History.Reached Executor.absent () admits (history name) := by
  refine .perform (.perform (.perform .opened ?_ (hadmits _ _ rfl)) ?_ (hadmits _ _ rfl)) ?_ hname
  · exact .of_builder (s := 0) (by decide) rfl rfl
  · exact .of_frame (List.mem_of_getElem? (i := 0) rfl) rfl rfl
  · exact ⟨rfl, List.forall_mem_singleton.mpr (List.mem_of_getElem? (i := 1) rfl), by rintro _ ⟨⟩; decide⟩

end Registered

end QueryFrames
