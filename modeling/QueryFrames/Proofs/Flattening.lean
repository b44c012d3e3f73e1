import Mathlib.Logic.Function.Basic
import QueryFrames.Proofs.Naming

/-! What flattening keeps. A statement binds one name after another in a single scope, where a graph of frames
is read by evaluating the frames that a frame reads and binding each to its alias. Both give the same relation
when the aliases of a session are distinct: the flat list then holds each frame once, behind all that it reads,
so each name is bound to the value of its frame and stays so. -/

namespace QueryFrames

variable {ρ : Type}

/-- What names stand for. -/
abbrev Bindings (ρ : Type) := String → ρ

/-- What fragments stand for, given what names do. -/
abbrev Interpretation (ρ : Type) := String → Bindings ρ → ρ

namespace Statement

/-- The environment after named bodies, each evaluated in the environment that those before it leave. -/
def bindAll (interp : Interpretation ρ) (ctes : List Cte) (env : Bindings ρ) : Bindings ρ :=
  ctes.foldl (fun env cte => Function.update env cte.name (interp cte.body env)) env

/-- The relation of a statement. -/
def value (interp : Interpretation ρ) (statement : Statement) (env : Bindings ρ) : ρ :=
  interp statement.main (bindAll interp statement.ctes env)

end Statement

namespace Derivation

mutual

/-- The relation of a frame: that of its fragment, where each frame it reads is bound to its alias. -/
def value (interp : Interpretation ρ) (env : Bindings ρ) : Derivation → ρ
  | ⟨frame, _, parents⟩ => interp frame.fragment (bindParents interp env parents env)

/-- An environment in which frames are bound to their aliases. -/
def bindParents (interp : Interpretation ρ) (env : Bindings ρ) :
    List Derivation → Bindings ρ → Bindings ρ
  | [], bound => bound
  | p :: parents, bound =>
    bindParents interp env parents (Function.update bound p.frame.name (p.value interp env))

end

/-- The names that the fragment of a frame may depend on: the aliases of the frames it reads. If it reads none,
it is a caller's text and may depend on any name but the given aliases. -/
def MayRead (aliases : List String) (d : Derivation) (name : String) : Prop :=
  (∃ p ∈ d.parents, p.frame.name = name) ∨ (d.parents = [] ∧ name ∉ aliases)

/-- The fragment of a frame depends on no other name. -/
def IsLocal (interp : Interpretation ρ) (aliases : List String) (d : Derivation) : Prop :=
  ∀ first second : Bindings ρ, (∀ name, d.MayRead aliases name → first name = second name) →
    interp d.frame.fragment first = interp d.frame.fragment second

variable {interp : Interpretation ρ} {env bound : Bindings ρ} {aliases names : List String} {d e p : Derivation}
  {parents : List Derivation}

theorem value_eq (d : Derivation) :
    d.value interp env = interp d.frame.fragment (bindParents interp env d.parents env) := by
  cases d
  rw [value]

theorem bindParents_of_ne {name : String} (hne : ∀ p ∈ parents, p.frame.name ≠ name) :
    bindParents interp env parents bound name = bound name := by
  induction parents generalizing bound with
  | nil => rw [bindParents]
  | cons q rest ih =>
      rw [bindParents, ih fun p hp => hne p (List.mem_cons_of_mem _ hp)]
      exact Function.update_of_ne (hne q List.mem_cons_self).symm _ _

/-- A frame that shares its alias with no other is what its alias is bound to. -/
theorem bindParents_of_mem (hp : p ∈ parents) (hunique : ∀ q ∈ parents, q.frame.name = p.frame.name → q = p) :
    bindParents interp env parents bound p.frame.name = p.value interp env := by
  induction parents generalizing bound with
  | nil => cases hp
  | cons q rest ih =>
      rw [bindParents]
      by_cases hrest : p ∈ rest
      · exact ih hrest fun q hq => hunique q (List.mem_cons_of_mem _ hq)
      · obtain rfl : p = q := (List.mem_cons.mp hp).resolve_right hrest
        rw [bindParents_of_ne fun q hq hname => hrest (hunique q (List.mem_cons_of_mem _ hq) hname ▸ hq)]
        exact Function.update_self ..

/-- A fragment has the relation of its frame wherever the aliases it reads are bound as the frame reads them. -/
theorem IsLocal.interp_eq_value (hlocal : d.IsLocal interp aliases)
    (hunique : ∀ p ∈ d.parents, ∀ q ∈ d.parents, q.frame.name = p.frame.name → q = p)
    (hparents : ∀ p ∈ d.parents, bound p.frame.name = p.value interp env)
    (hothers : ∀ name ∉ aliases, bound name = env name) :
    interp d.frame.fragment bound = d.value interp env := by
  rw [value_eq]
  apply hlocal
  rintro name (⟨p, hp, rfl⟩ | ⟨hroot, hname⟩)
  · rw [hparents p hp, bindParents_of_mem hp (hunique p hp)]
  · rw [hothers name hname, hroot, bindParents]

/-! ### Binding the dependencies in order -/

/-- The environment binds those of the names that are aliases of frames read by `d`, directly or through others,
to the relations of these frames, and all other names as `env` does. -/
structure Binds (interp : Interpretation ρ) (env : Bindings ρ) (d : Derivation) (names : List String)
    (bound : Bindings ρ) : Prop where
  ancestors : ∀ e : Derivation, e.Ancestor d → e.frame.name ∈ names → bound e.frame.name = e.value interp env
  others : ∀ name ∉ names, bound name = env name

/-- No two frames read by `d`, directly or through others, have one alias. -/
def Distinct (d : Derivation) : Prop :=
  ∀ e f : Derivation, e.Ancestor d → f.Ancestor d → e.frame.name = f.frame.name → e = f

theorem Distinct.unambiguous (hdistinct : d.Distinct) (name : String) : d.Unambiguous name :=
  fun e f he hf hename hfname => congrArg (·.frame) (hdistinct e f he hf (hename.trans hfname.symm))

theorem Ancestor.of_parent (he : e.Ancestor d) (hp : p ∈ e.parents) : p.Ancestor d := by
  induction he with
  | parent hparent => exact .through hparent (.parent hp)
  | through hmiddle _ ih => exact .through hmiddle ih

theorem Binds.update (hdistinct : d.Distinct) (he : e.Ancestor d) (hlocal : e.IsLocal interp aliases)
    (hnames : names ⊆ aliases) (hreads : ∀ p ∈ e.parents, p.frame.name ∈ names)
    (h : Binds interp env d names bound) :
    Binds interp env d (names ++ [e.frame.name])
      (Function.update bound e.frame.name (interp e.frame.fragment bound)) := by
  have hancestor : ∀ p ∈ e.parents, p.Ancestor d := fun p hp => he.of_parent hp
  have hvalue : interp e.frame.fragment bound = e.value interp env := by
    apply hlocal.interp_eq_value
    · exact fun p hp q hq hname => hdistinct q p (hancestor q hq) (hancestor p hp) hname
    · exact fun p hp => h.ancestors p (hancestor p hp) (hreads p hp)
    · exact fun name hname => h.others name fun hmem => hname (hnames hmem)
  constructor
  · intro f hf hfname
    by_cases hname : f.frame.name = e.frame.name
    · rw [hdistinct f e hf he hname, Function.update_self, hvalue]
    · rw [Function.update_of_ne hname]
      refine h.ancestors f hf ((List.mem_append.mp hfname).resolve_right ?_)
      exact fun hmem => hname (List.mem_singleton.mp hmem)
  · intro name hname
    rw [List.mem_append, List.mem_singleton, not_or] at hname
    rw [Function.update_of_ne hname.2]
    exact h.others name hname.1

/-- Named bodies of dependencies, bound one after the other. -/
def bindFrames (interp : Interpretation ρ) (entries : List (String × Frame)) (env : Bindings ρ) :
    Bindings ρ :=
  entries.foldl (fun env entry => Function.update env entry.1 (interp entry.2.fragment env)) env

theorem bindAll_dependencyCtes (frame : Frame) :
    Statement.bindAll interp frame.dependencyCtes env = bindFrames interp frame.dependencies env :=
  List.foldl_map ..

theorem Faithful.binds (hd : d.Faithful) (hdistinct : d.Distinct)
    (haliases : ∀ e : Derivation, e.Ancestor d → e.frame.name ∈ aliases)
    (hlocal : ∀ e : Derivation, e.Ancestor d → e.IsLocal interp aliases) (before after : List (String × Frame))
    (hsplit : d.frame.dependencies = before ++ after) :
    Binds interp env d (Keyed.keys before) (bindFrames interp before env) := by
  induction before using List.reverseRecOn generalizing after with
  | nil => exact ⟨fun e he hname => absurd hname List.not_mem_nil, fun name _ => rfl⟩
  | append_singleton before last ih =>
      obtain ⟨name, node⟩ := last
      rw [List.append_assoc] at hsplit
      -- What stands before the last entry is bound; the entry is of an ancestor, and all that this reads is there.
      have hbefore := ih _ hsplit
      have hmem : ∀ key ∈ Keyed.keys before, key ∈ aliases := by
        intro key hkey
        obtain ⟨found, hfound⟩ := Keyed.exists_of_mem_keys hkey
        obtain ⟨f, hf, rfl, rfl⟩ := hd.exists_ancestor (hsplit ▸ List.mem_append_left _ hfound)
        exact haliases f hf
      obtain ⟨e, he, rfl, rfl⟩ := hd.exists_ancestor
        (hsplit ▸ List.mem_append_right _ List.mem_cons_self : (name, node) ∈ d.frame.dependencies)
      have hordered := hd.readsEarlier (hdistinct.unambiguous e.frame.name)
      rw [hsplit, Frame.readsEarlier_append] at hordered
      have hreads : ∀ p ∈ e.parents, p.frame.name ∈ Keyed.keys before :=
        fun p hp => hordered.2.1 rfl ((hd.ancestor he).parent_mem_keys hp)
      rw [bindFrames, List.foldl_append, Keyed.keys_append]
      exact hbefore.update hdistinct he (hlocal e he) hmem hreads

/-- The dependencies of a frame bound in order, then its fragment, give its relation. -/
theorem Faithful.value_dependencies (hd : d.Faithful) (hdistinct : d.Distinct)
    (haliases : ∀ e : Derivation, e.Ancestor d → e.frame.name ∈ aliases)
    (hancestors : ∀ e : Derivation, e.Ancestor d → e.IsLocal interp aliases)
    (hlocal : d.IsLocal interp aliases) :
    interp d.frame.fragment (Statement.bindAll interp d.frame.dependencyCtes env) = d.value interp env := by
  have hbinds : Binds interp env d (Keyed.keys d.frame.dependencies) _ :=
    hd.binds hdistinct haliases hancestors d.frame.dependencies [] (List.append_nil _).symm
  rw [bindAll_dependencyCtes]
  apply hlocal.interp_eq_value
  · exact fun p hp q hq hname => hdistinct q p (.parent hq) (.parent hp) hname
  · exact fun p hp => hbinds.ancestors p (.parent hp) (hd.parent_mem_keys hp)
  · intro name hname
    refine hbinds.others name fun hmem => hname ?_
    obtain ⟨found, hfound⟩ := Keyed.exists_of_mem_keys hmem
    obtain ⟨f, hf, rfl, rfl⟩ := hd.exists_ancestor hfound
    exact haliases f hf

end Derivation

namespace History

variable {σ : Type} {executor : Executor σ} {state : σ} {admits : History σ → Operation → Prop}
  {history : History σ} {d : Derivation}

theorem mem_frameAliases (hd : d ∈ history.made) : d.frame.name ∈ history.frameAliases d.frame.id.session :=
  List.mem_map_of_mem (List.mem_filter.mpr ⟨hd, decide_eq_true rfl⟩)

/-- In a session whose callers choose distinct aliases, none of them of the generated form, the statement of a
frame has the relation that the graph of frames gives it, over whatever its views are bound to before. -/
theorem Reached.value_statement (hrun : Reached executor state admits history) {s : Nat}
    (hchosen : (history.chosenAliases s).Nodup) (hform : ∀ n, AliasSupply.name n ∉ history.chosenAliases s)
    (interp : Interpretation ρ)
    (hlocal : ∀ d ∈ history.made, d.frame.id.session = s → d.IsLocal interp (history.frameAliases s))
    (hd : d ∈ history.made) (hs : d.frame.id.session = s) (env : Bindings ρ) :
    d.frame.standalone.value interp env = d.value interp env ∧
      (history.workspace.statement d.frame).value interp env =
        d.value interp (Statement.bindAll interp
          (Frame.viewCtes (history.session s).dialect (history.session s).views.entries) env) := by
  have hancestor : ∀ e : Derivation, e.Ancestor d → e ∈ history.made ∧ e.frame.id.session = s := by
    intro e he
    obtain ⟨hmade, hsession⟩ := hrun.consistent.ancestor_made he hd
    exact ⟨hmade, hsession.trans hs⟩
  have hdistinct : d.Distinct := by
    intro e f he hf hname
    obtain ⟨hemade, hes⟩ := hancestor e he
    obtain ⟨hfmade, hfs⟩ := hancestor f hf
    exact hrun.named.eq_of_name_eq hchosen hform hemade hfmade hes hfs hname
  have haliases : ∀ e : Derivation, e.Ancestor d → e.frame.name ∈ history.frameAliases s := by
    intro e he
    obtain ⟨hmade, rfl⟩ := hancestor e he
    exact mem_frameAliases hmade
  have hvalue : ∀ env, interp d.frame.fragment (Statement.bindAll interp d.frame.dependencyCtes env) =
      d.value interp env := by
    intro env
    apply (hrun.consistent.faithful d hd).value_dependencies hdistinct haliases
    · intro e he
      obtain ⟨hmade, hsession⟩ := hancestor e he
      exact hlocal e hmade hsession
    · exact hlocal d hd hs
  refine ⟨hvalue env, ?_⟩
  rw [← hvalue, Statement.value, Workspace.statement, Frame.statement, hs, Statement.bindAll, List.foldl_append]
  rfl

end History

/-! ### A diamond

Two filters of one source, one of them renamed, and their union. -/

namespace Diamond

def source : Derivation := ⟨⟨⟨0, 0⟩, "orders", "SELECT 1 AS id", []⟩, true, []⟩

def filtered : Derivation :=
  ⟨⟨⟨0, 1⟩, "_default_alias_1", Fragment.filter "orders" "id > 1", [("orders", source.frame)]⟩, false, [source]⟩

def large : Derivation := ⟨{ filtered.frame with id := ⟨0, 2⟩, name := "large" }, true, [source]⟩

def small : Derivation :=
  ⟨⟨⟨0, 3⟩, "_default_alias_2", Fragment.filter "orders" "id < 3", [("orders", source.frame)]⟩, false, [source]⟩

def combined : Derivation :=
  ⟨⟨⟨0, 4⟩, "_default_alias_3", Fragment.union "large" "_default_alias_2",
      [("orders", source.frame), ("large", large.frame), ("_default_alias_2", small.frame)]⟩,
    false, [large, small]⟩

def history : History Unit :=
  History.opened.perform (.sqlAs 0 "SELECT 1 AS id" "orders") []
    |>.perform (.filter source.frame "id > 1") [source]
    |>.perform (.aliasAs filtered.frame "large") [filtered]
    |>.perform (.filter source.frame "id < 3") [source]
    |>.perform (.union large.frame small.frame) [large, small]

theorem reached : History.Reached Executor.absent () (fun _ _ => True) history := by
  refine .perform (.perform (.perform (.perform (.perform .opened ?_ trivial) ?_ trivial) ?_ trivial) ?_
    trivial) ?_ trivial
  · exact .of_builder (s := 0) (by decide) rfl rfl
  · exact .of_frame (List.mem_of_getElem? (i := 0) rfl) rfl rfl
  · exact .of_frame (List.mem_of_getElem? (i := 1) rfl) rfl rfl
  · exact .of_frame (List.mem_of_getElem? (i := 0) rfl) rfl rfl
  · exact .of_frames (List.mem_of_getElem? (i := 2) rfl) (List.mem_of_getElem? (i := 3) rfl) rfl rfl

/-- Relations as lists of numbers, with three rows in the source. -/
def rows : Interpretation (List Nat) := fun fragment env =>
  if fragment = source.frame.fragment then [1, 2, 3]
  else if fragment = filtered.frame.fragment then (env "orders").filter (1 < ·)
  else if fragment = small.frame.fragment then (env "orders").filter (· < 3)
  else env "large" ++ env "_default_alias_2"

theorem isLocal (d : Derivation) (hd : d ∈ history.made) : d.IsLocal rows (history.frameAliases 0) := by
  have hmade : history.made = [source, filtered, large, small, combined] := rfl
  rw [hmade] at hd
  simp only [List.mem_cons, List.not_mem_nil, or_false] at hd
  intro first second hsame
  have horders : ∀ p ∈ d.parents, first p.frame.name = second p.frame.name :=
    fun p hp => hsame _ (Or.inl ⟨p, hp, rfl⟩)
  rcases hd with rfl | rfl | rfl | rfl | rfl
  · rfl
  · exact congrArg (List.filter (1 < ·)) (horders source List.mem_cons_self)
  · exact congrArg (List.filter (1 < ·)) (horders source List.mem_cons_self)
  · exact congrArg (List.filter (· < 3)) (horders source List.mem_cons_self)
  · exact congrArg₂ (· ++ ·) (horders large List.mem_cons_self)
      (horders small (List.mem_cons_of_mem _ List.mem_cons_self))

/-- The source is reached through both sides, one of them renamed. -/
theorem value_combined :
    combined.frame.standalone.value rows (fun _ => []) = combined.value rows (fun _ => []) ∧
      combined.frame.standalone.value rows (fun _ => []) = [2, 3, 1, 2] := by
  have hchosen : history.chosenAliases 0 = ["orders", "large"] := rfl
  have hform : ∀ n, AliasSupply.name n ∉ history.chosenAliases 0 := by
    intro n hn
    rw [hchosen] at hn
    have hhead := AliasSupply.head?_name n
    rcases List.mem_cons.mp hn with heq | hn
    · rw [heq] at hhead
      cases hhead
    · rw [List.mem_singleton.mp hn] at hhead
      cases hhead
  have hcombined : combined ∈ history.made := List.mem_of_getElem? (i := 4) rfl
  have hvalue := reached.value_statement (hchosen ▸ by decide) hform rows (fun d hd _ => isLocal d hd)
    hcombined rfl fun _ => []
  exact ⟨hvalue.1, by decide⟩

end Diamond

end QueryFrames
