import QueryFrames.Proofs.Naming

/-! Generated aliases against the names that a session has. Those that a session generates differ from one
another, but none is compared with what callers supply, so one is taken already exactly if a caller supplied that
very name. A chosen alias is never among the dependencies of its own frame; a generated one is exactly if the frame
reads, directly or through others, a frame whose alias a caller chose to be the same. -/

namespace QueryFrames

/-! ### A frame and what it reads -/

namespace Derivation

variable {d e : Derivation}

theorem Ancestor.sizeOf_lt (he : e.Ancestor d) : sizeOf e < sizeOf d := by
  induction he with
  | parent hparent => exact sizeOf_lt_of_mem_parents hparent
  | through hmiddle _ ih => exact Nat.lt_trans ih (sizeOf_lt_of_mem_parents hmiddle)

theorem Ancestor.ne (he : e.Ancestor d) : e ≠ d := by
  rintro rfl
  exact Nat.lt_irrefl _ he.sizeOf_lt

theorem Faithful.ancestor_mem_keys (hd : d.Faithful) (he : e.Ancestor d) :
    e.frame.name ∈ Keyed.keys d.frame.dependencies := by
  induction he with
  | parent hparent => exact hd.parent_mem_keys hparent
  | through hmiddle _ ih => exact hd.keys_parent_subset hmiddle (ih (hd.ancestor (.parent hmiddle)))

end Derivation

namespace History

variable {σ : Type} {executor : Executor σ} {state : σ} {admits : History σ → Operation → Prop}
  {history after : History σ} {registers : History σ → Nat × String → Prop} {operation : Operation}
  {sources : List Derivation} {s : Nat}

/-! ### Names of a session -/

/-- The names of a session: of its views and of its frames. -/
def names (history : History σ) (s : Nat) : List String :=
  history.views s ++ history.frameAliases s

/-- Those of them that callers supplied. -/
def suppliedNames (history : History σ) (s : Nat) : List String :=
  history.views s ++ history.chosenAliases s

theorem mem_frameAliases_iff {name : String} :
    name ∈ history.frameAliases s ↔ ∃ e ∈ history.made, e.frame.id.session = s ∧ e.frame.name = name := by
  simp [frameAliases, and_assoc]

theorem suppliedNames_subset (history : History σ) (s : Nat) : history.suppliedNames s ⊆ history.names s := by
  refine List.append_subset.mpr ⟨List.subset_append_left _ _, List.subset_append_of_subset_right _ ?_⟩
  intro name hname
  obtain ⟨e, he, rfl⟩ := List.mem_map.mp hname
  simp only [List.mem_filter, decide_eq_true_eq] at he
  exact mem_frameAliases_iff.mpr ⟨e, he.1, he.2.2, rfl⟩

theorem views_eq_of_changes (hc : history.Consistent) (hchanges : Changes (fun _ _ => False) history after) (s : Nat) :
    after.views s = history.views s := by
  induction hchanges with
  | refl => rfl
  | tail hbefore hchange ih =>
      cases hchange.naming (Changes.consistent hbefore hc) with
      | generated _ _ _ _ hviews _ => exact (hviews s).trans ih
      | chosen _ _ _ _ hviews _ => exact (hviews s).trans ih
      | registered _ _ _ _ hregisters _ _ => exact hregisters.elim
      | kept _ hviews _ => exact (hviews s).trans ih

theorem made_perform_of_registration {view : Nat × String} (hview : operation.registration? = some view) :
    (history.perform operation sources).made = history.made := by
  have hanswered : ∀ outcome : Outcome σ Unit,
      history.workspace.perform operation = Workspace.answer (fun _ => .done) outcome →
        history.workspace.answered operation sources = [] := by
    intro outcome hperform
    rw [Workspace.answered, hperform, Workspace.answer]
    cases outcome.1 <;> rfl
  cases operation <;> cases hview
  all_goals
    rw [perform, hanswered _ rfl, Workspace.submitted, List.append_nil, List.append_nil]
    all_goals simp

/-- An operation that makes a frame leaves the views as they are. -/
theorem views_perform (hc : history.Consistent) (hoffers : history.Offers operation sources)
    (hmade : (history.perform operation sources).made ≠ history.made) (s : Nat) :
    (history.perform operation sources).views s = history.views s := by
  apply views_eq_of_changes hc (perform_changes hc hoffers ?_)
  intro view hview
  exact hmade (made_perform_of_registration hview)

/-! ### Generated aliases -/

theorem Change.chosen_not_mem_keys (hchange : Change registers history after)
    (h : ∀ d ∈ history.made, d.chosen = true → d.frame.name ∉ Keyed.keys d.frame.dependencies) :
    ∀ d ∈ after.made, d.chosen = true → d.frame.name ∉ Keyed.keys d.frame.dependencies := by
  cases hchange with
  | derive hs hmade fragment =>
      refine List.forall_mem_append.mpr ⟨h, List.forall_mem_singleton.mpr ?_⟩
      intro hchosen
      cases hchosen
  | choose hs hname fragment =>
      refine List.forall_mem_append.mpr ⟨h, List.forall_mem_singleton.mpr ?_⟩
      exact fun _ => List.not_mem_nil
  | rename hd hname =>
      refine List.forall_mem_append.mpr ⟨h, List.forall_mem_singleton.mpr ?_⟩
      exact fun _ hmem => hname (List.mem_append_right _ hmem)
  | register hs hd hregisters hname => exact h
  | remember hs frame schema => exact h
  | submit call state => exact h

theorem Reached.chosen_not_mem_keys (hrun : Reached executor state admits history) :
    ∀ d ∈ history.made, d.chosen = true → d.frame.name ∉ Keyed.keys d.frame.dependencies := by
  have hadmits : ∀ history operation view, admits history operation →
      operation.registration? = some view → True :=
    fun _ _ _ _ _ => trivial
  apply hrun.induction hadmits
  · exact fun d hd => nomatch hd
  · exact fun _ _ _ h => h
  · exact fun _ hchange h => hchange.chosen_not_mem_keys h

/-- The history when an operation has come so far as to have made the frames of some derivations. -/
def midway (history : History σ) (operation : Operation) (sources earlier : List Derivation) : History σ where
  workspace := (history.perform operation sources).workspace
  made := history.made ++ earlier

/-- An alias that an operation generates is among the names of its session by then exactly if a caller supplied it,
and the alias of a frame is among its own dependencies exactly if it was generated and a caller chose it for a
frame that this one reads, directly or through others. -/
theorem Reached.generated_mem_names_iff (hrun : Reached executor state admits history) :
    (∀ (operation : Operation) (sources earlier : List Derivation) (d : Derivation) (later : List Derivation),
        history.Offers operation sources → admits history operation →
        (history.perform operation sources).made = history.made ++ earlier ++ d :: later → d.chosen = false →
        (∃ n, d.frame.name = AliasSupply.name n) ∧
          (∀ s, (history.midway operation sources earlier).views s = history.views s) ∧
            (d.frame.name ∈ (history.midway operation sources earlier).names d.frame.id.session ↔
              d.frame.name ∈ (history.midway operation sources earlier).suppliedNames d.frame.id.session)) ∧
      ∀ d ∈ history.made, d.frame.name ∈ Keyed.keys d.frame.dependencies ↔
        d.chosen = false ∧ ∃ e : Derivation, e.Ancestor d ∧ e.chosen = true ∧ e.frame.name = d.frame.name := by
  constructor
  · intro operation sources earlier d later hoffers hadmits hmade hgenerated
    have hnamed := (hrun.perform hoffers hadmits).named
    have hd : d ∈ (history.perform operation sources).made := by simp [hmade]
    have hdistinct := hnamed.distinct
    rw [hmade, List.pairwise_append] at hdistinct
    refine ⟨?_, ?_, ?_, fun h => suppliedNames_subset _ _ h⟩
    · obtain ⟨n, -, hname⟩ := hnamed.generated d hd hgenerated
      exact ⟨n, hname⟩
    · apply views_perform hrun.consistent hoffers
      rw [hmade, List.append_assoc]
      simp
    · intro hname
      rcases List.mem_append.mp hname with hview | hframe
      · exact List.mem_append_left _ hview
      · -- Two generated aliases differ, so the frame that has this one already got it from a caller.
        obtain ⟨e, he, hsession, heq⟩ := mem_frameAliases_iff.mp hframe
        have hchosen : e.chosen = true := by
          by_contra hne
          have happart := hdistinct.2.2 e he d List.mem_cons_self
          exact happart (Bool.eq_false_iff.mpr hne) hgenerated hsession heq
        have hmem : e.frame.name ∈ (history.midway operation sources earlier).chosenAliases _ :=
          mem_chosenAliases he hchosen
        rw [hsession, heq] at hmem
        exact List.mem_append_right _ hmem
  · intro d hd
    have hfaithful := hrun.consistent.faithful d hd
    constructor
    · intro hname
      have hgenerated : d.chosen = false :=
        Bool.eq_false_iff.mpr fun hchosen => hrun.chosen_not_mem_keys d hd hchosen hname
      obtain ⟨node, hnode⟩ := Keyed.exists_of_mem_keys hname
      obtain ⟨e, he, rfl, heq⟩ := hfaithful.exists_ancestor hnode
      obtain ⟨hmade, hsession⟩ := hrun.consistent.ancestor_made he hd
      refine ⟨hgenerated, e, he, ?_, heq⟩
      by_contra hne
      exact hrun.named.distinct.forall hmade hd he.ne (Bool.eq_false_iff.mpr hne) hgenerated hsession heq
    · rintro ⟨-, e, he, -, heq⟩
      exact heq ▸ hfaithful.ancestor_mem_keys he

end History

/-! ### A source under a supplied alias, and a filter of it -/

namespace Supplied

def source (name : String) : Derivation := ⟨⟨⟨0, 0⟩, name, "SELECT 1 AS id", []⟩, true, []⟩

def filtered (name : String) : Derivation :=
  ⟨⟨⟨0, 1⟩, "_default_alias_1", Fragment.filter name "id > 0", [(name, (source name).frame)]⟩, false, [source name]⟩

def history (name : String) : History Unit :=
  History.opened.perform (.sqlAs 0 "SELECT 1 AS id" name) []

theorem reached (name : String) : History.Reached Executor.absent () (fun _ _ => True) (history name) :=
  .perform .opened (.of_builder (s := 0) Nat.zero_lt_one rfl rfl) trivial

theorem offers (name : String) :
    (history name).Offers (.filter (source name).frame "id > 0") [source name] :=
  .of_frame (List.mem_of_getElem? (i := 0) rfl) rfl rfl

/-- With an alias that is not of the generated form the first generated one is new. -/
theorem filtered_not_mem_names :
    "_default_alias_1" ∉ (history "t").names 0 ∧
      "_default_alias_1" ∉ Keyed.keys (filtered "t").frame.dependencies := by
  constructor
  · intro hmem
    have hgenerated := (reached "t").generated_mem_names_iff.1 _ _ [] (filtered "t") [] (offers "t") trivial rfl rfl
    exact absurd (hgenerated.2.2.mp hmem) (by decide)
  · have hrun := (reached "t").perform (offers "t") trivial
    have hown := hrun.generated_mem_names_iff.2 (filtered "t") (List.mem_of_getElem? (i := 1) rfl)
    intro hmem
    obtain ⟨-, e, he, -, hname⟩ := hown.mp hmem
    obtain rfl : e = source "t" := by simpa [filtered, source, Derivation.ancestor_mk] using he
    exact absurd hname (by decide)

/-- A source whose alias has the generated form loses it to the first filter, which then depends on itself. -/
theorem exists_generated_mem_names :
    ∃ (history : History Unit) (operation : Operation) (sources : List Derivation) (d : Derivation),
      History.Reached Executor.absent () (fun _ _ => True) history ∧ history.Offers operation sources ∧
        (history.perform operation sources).made = history.made ++ [d] ∧ d.chosen = false ∧
          d.frame.name ∈ history.names d.frame.id.session ∧
            d.frame.name ∈ Keyed.keys d.frame.dependencies :=
  ⟨history "_default_alias_1", _, _, filtered "_default_alias_1", reached _, offers _, rfl, rfl, by decide, by decide⟩

end Supplied

end QueryFrames
