import QueryFrames.Proofs.Flattening
import QueryFrames.Proofs.Freshness

/-! Dependencies as ancestors. Where the aliases of a session are distinct, the dependency list of a frame holds the
frames that it reads, directly or through others, and no other frame of the session. Each stands there once under
its own alias, by however many ways it is reached. -/

namespace QueryFrames

namespace Derivation

variable {d e : Derivation}

theorem Faithful.mem_dependencies (hd : d.Faithful) (he : e.Ancestor d) (hname : d.Unambiguous e.frame.name) :
    (e.frame.name, e.frame) ∈ d.frame.dependencies := by
  obtain ⟨node, hnode⟩ := Keyed.exists_of_mem_keys (hd.ancestor_mem_keys he)
  obtain ⟨f, hf, hframe, hfname⟩ := hd.exists_ancestor hnode
  have heq : node = e.frame := hframe.symm.trans (hname f e hf he (hframe ▸ hfname) rfl)
  rwa [heq] at hnode

theorem Faithful.nodup_keys (hd : d.Faithful) : (Keyed.keys d.frame.dependencies).Nodup := by
  rw [hd.lineage]
  exact Keyed.nodup_keys_dedup _

theorem Faithful.nodup_dependencies (hd : d.Faithful) : (d.frame.dependencies.map (·.2)).Nodup := by
  have hnames : (d.frame.dependencies.map (·.2)).map (·.name) = Keyed.keys d.frame.dependencies := by
    rw [List.map_map, Keyed.keys]
    refine List.map_congr_left fun entry hentry => ?_
    obtain ⟨e, he, hframe, hname⟩ := hd.exists_ancestor hentry
    exact hname
  exact List.Nodup.of_map (·.name) (hnames ▸ hd.nodup_keys)

end Derivation

namespace History

variable {σ : Type} {executor : Executor σ} {state : σ} {admits : History σ → Operation → Prop}
  {history : History σ} {d : Derivation}

/-- In a session whose callers choose distinct aliases, none of them of the generated form, the dependencies of a
frame are the frames that it reads, directly or through others: each of them under its own alias, once, and no other
frame of the run. -/
theorem Reached.mem_dependencies_iff_ancestor (hrun : Reached executor state admits history) {s : Nat}
    (hchosen : (history.chosenAliases s).Nodup) (hform : ∀ n, AliasSupply.name n ∉ history.chosenAliases s)
    (hd : d ∈ history.made) (hs : d.frame.id.session = s) :
    (∀ name node, (name, node) ∈ d.frame.dependencies ↔
        ∃ e : Derivation, e.Ancestor d ∧ e.frame = node ∧ e.frame.name = name) ∧
      ((Keyed.keys d.frame.dependencies).Nodup ∧ (d.frame.dependencies.map (·.2)).Nodup) ∧
        ∀ e ∈ history.made, e.frame ∈ d.frame.dependencies.map (·.2) ↔ e.Ancestor d := by
  have hfaithful := hrun.consistent.faithful d hd
  have hsame : ∀ e f : Derivation, e.Ancestor d → f ∈ history.made → f.frame.id.session = s →
      e.frame.name = f.frame.name → e = f := by
    intro e f he hf hfs hname
    obtain ⟨hmade, hsession⟩ := hrun.consistent.ancestor_made he hd
    exact hrun.named.eq_of_name_eq hchosen hform hmade hf (hsession.trans hs) hfs hname
  have hmem : ∀ e : Derivation, e.Ancestor d → (e.frame.name, e.frame) ∈ d.frame.dependencies := by
    intro e he
    refine hfaithful.mem_dependencies he fun f g hf hg hfname hgname => ?_
    obtain ⟨hmade, hsession⟩ := hrun.consistent.ancestor_made hg hd
    exact congrArg (·.frame) (hsame f g hf hmade (hsession.trans hs) (hfname.trans hgname.symm))
  refine ⟨fun name node => ⟨fun h => ?_, ?_⟩, ⟨hfaithful.nodup_keys, hfaithful.nodup_dependencies⟩, ?_⟩
  · obtain ⟨e, he, rfl, hname⟩ := hfaithful.exists_ancestor h
    exact ⟨e, he, rfl, hname⟩
  · rintro ⟨e, he, rfl, rfl⟩
    exact hmem e he
  · intro e hmade
    refine ⟨fun h => ?_, fun he => List.mem_map_of_mem (hmem e he)⟩
    obtain ⟨⟨name, node⟩, hentry, hnode⟩ := List.mem_map.mp h
    obtain ⟨f, hf, hframe, -⟩ := hfaithful.exists_ancestor hentry
    have heq : f.frame = e.frame := hframe.trans hnode
    have hsession : e.frame.id.session = s := by
      rw [← heq, (hrun.consistent.ancestor_made hf hd).2, hs]
    exact hsame f e hf hmade hsession (congrArg (·.name) heq) ▸ hf

end History

namespace Diamond

theorem name_not_mem_chosenAliases (n : Nat) : AliasSupply.name n ∉ history.chosenAliases 0 := by
  have hchosen : history.chosenAliases 0 = ["orders", "large"] := rfl
  intro hn
  have hhead := AliasSupply.head?_name n
  rw [hchosen, List.mem_cons, List.mem_singleton] at hn
  rcases hn with heq | heq <;> rw [heq] at hhead <;> cases hhead

/-- The source is read by both sides and listed once. The filter that was renamed is listed under its new alias and
not as it was before. -/
theorem mem_dependencies_combined :
    combined.frame.dependencies.map (·.1) = ["orders", "large", "_default_alias_2"] ∧
      source.frame ∈ combined.frame.dependencies.map (·.2) ∧
        filtered.frame ∉ combined.frame.dependencies.map (·.2) := by
  have hchosen : (history.chosenAliases 0).Nodup := by decide
  have hcombined : combined ∈ history.made := List.mem_of_getElem? (i := 4) rfl
  have hmade := (reached.mem_dependencies_iff_ancestor hchosen name_not_mem_chosenAliases hcombined rfl).2.2
  have hlarge : large ∈ combined.parents := List.mem_cons_self
  have hsource : source.Ancestor combined := .through hlarge (.parent List.mem_cons_self)
  refine ⟨rfl, (hmade source (List.mem_of_getElem? (i := 0) rfl)).mpr hsource, fun hmem => ?_⟩
  have hfiltered := (hmade filtered (List.mem_of_getElem? (i := 1) rfl)).mp hmem
  simp [combined, large, small, filtered, source, Derivation.ancestor_mk] at hfiltered

end Diamond

end QueryFrames
