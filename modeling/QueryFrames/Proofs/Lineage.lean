import QueryFrames.Proofs.Change
import QueryFrames.Proofs.Dedup

/-! What the dependency list of a frame holds, and in which order. Its entries are frames that the frame reads,
directly or through others, each under its own alias, and it is closed: what an entry depends on is in the list
too. An entry stands behind all that it depends on if its alias is that of one such frame only. With several
the first place goes to one and the value to another, which may stand before its own dependencies then. -/

namespace QueryFrames

namespace Frame

variable {parents : List Frame} {name : String}

theorem mem_keys_lineageOf :
    name ∈ Keyed.keys (lineageOf parents) ↔
      (∃ p ∈ parents, name ∈ Keyed.keys p.dependencies) ∨ ∃ p ∈ parents, p.name = name := by
  rw [lineageOf, Keyed.mem_keys_dedup, Keyed.keys_append, List.mem_append]
  simp only [Keyed.keys, List.mem_map, List.mem_flatMap, List.map_map]
  refine or_congr ⟨?_, ?_⟩ (by simp)
  · rintro ⟨entry, ⟨p, hp, hentry⟩, hname⟩
    exact ⟨p, hp, entry, hentry, hname⟩
  · rintro ⟨p, hp, entry, hentry, hname⟩
    exact ⟨entry, ⟨p, hp, hentry⟩, hname⟩

end Frame

/-! ### Dependencies are ancestors -/

namespace Derivation

variable {d e : Derivation} {name : String} {node : Frame}

theorem sizeOf_lt_of_mem_parents (he : e ∈ d.parents) : sizeOf e < sizeOf d := by
  have hlt := List.sizeOf_lt_of_mem he
  obtain ⟨frame, chosen, parents⟩ := d
  rw [mk.sizeOf_spec]
  dsimp only at hlt
  omega

theorem ancestor_mk {frame : Frame} {chosen : Bool} {parents : List Derivation} :
    e.Ancestor ⟨frame, chosen, parents⟩ ↔ ∃ p ∈ parents, e = p ∨ e.Ancestor p := by
  constructor
  · intro he
    cases he with
    | parent hparent => exact ⟨e, hparent, Or.inl rfl⟩
    | through hmiddle he => exact ⟨_, hmiddle, Or.inr he⟩
  · rintro ⟨p, hp, rfl | he⟩
    · exact .parent hp
    · exact .through hp he

theorem Faithful.lineage (hd : d.Faithful) :
    d.frame.dependencies = Frame.lineageOf (d.parents.map (·.frame)) := by
  cases hd with
  | intro hlineage hparents => exact hlineage

/-- What a frame reads, with all that this depends on, are frames of ancestors under their own names. -/
theorem Faithful.exists_ancestor_of_mem (hd : d.Faithful)
    (h : (name, node) ∈ (d.parents.map (·.frame)).flatMap (·.dependencies) ++
      (d.parents.map (·.frame)).map fun parent => (parent.name, parent)) :
    ∃ e, Ancestor e d ∧ e.frame = node ∧ node.name = name := by
  induction hd with
  | @intro d _ hparents ih =>
      rcases List.mem_append.mp h with h | h
      · obtain ⟨p, hp, hmem⟩ := List.mem_flatMap.mp h
        obtain ⟨q, hq, rfl⟩ := List.mem_map.mp hp
        rw [(hparents q hq).lineage] at hmem
        obtain ⟨e, he, heq⟩ := ih q hq (Keyed.mem_of_mem_dedup hmem)
        exact ⟨e, .through hq he, heq⟩
      · obtain ⟨p, hp, heq⟩ := List.mem_map.mp h
        obtain ⟨q, hq, rfl⟩ := List.mem_map.mp hp
        obtain ⟨rfl, rfl⟩ := Prod.mk.inj heq
        exact ⟨q, .parent hq, rfl, rfl⟩

theorem Faithful.exists_ancestor (hd : d.Faithful) (h : (name, node) ∈ d.frame.dependencies) :
    ∃ e, Ancestor e d ∧ e.frame = node ∧ node.name = name := by
  rw [hd.lineage] at h
  exact hd.exists_ancestor_of_mem (Keyed.mem_of_mem_dedup h)

theorem Faithful.keys_parent_subset (hd : d.Faithful) (he : e ∈ d.parents) :
    Keyed.keys e.frame.dependencies ⊆ Keyed.keys d.frame.dependencies := by
  intro key hkey
  rw [hd.lineage, Frame.mem_keys_lineageOf]
  exact Or.inl ⟨e.frame, List.mem_map_of_mem he, hkey⟩

theorem Faithful.parent_mem_keys (hd : d.Faithful) (he : e ∈ d.parents) :
    e.frame.name ∈ Keyed.keys d.frame.dependencies := by
  rw [hd.lineage, Frame.mem_keys_lineageOf]
  exact Or.inr ⟨e.frame, List.mem_map_of_mem he, rfl⟩

theorem Faithful.ancestor (hd : d.Faithful) (he : e.Ancestor d) : e.Faithful := by
  induction he with
  | @parent d hparent =>
      cases hd with
      | intro hlineage hparents => exact hparents e hparent
  | @through middle d hmiddle _ ih =>
      cases hd with
      | intro hlineage hparents => exact ih (hparents middle hmiddle)

theorem Faithful.keys_subset (hd : d.Faithful) (he : e.Ancestor d) :
    Keyed.keys e.frame.dependencies ⊆ Keyed.keys d.frame.dependencies := by
  induction he with
  | parent hparent => exact hd.keys_parent_subset hparent
  | @through middle d hmiddle _ ih =>
      exact List.Subset.trans (ih (hd.ancestor (.parent hmiddle))) (hd.keys_parent_subset hmiddle)

end Derivation

namespace History

variable {σ : Type} {history : History σ} {d e : Derivation}

theorem Consistent.faithful (hc : history.Consistent) (d : Derivation) (hd : d ∈ history.made) : d.Faithful :=
  .intro (hc.lineage d hd) fun p hp => hc.faithful p (hc.parents_made d hd p hp).1
termination_by sizeOf d
decreasing_by exact Derivation.sizeOf_lt_of_mem_parents hp

theorem Consistent.ancestor_made (hc : history.Consistent) (he : e.Ancestor d) (hd : d ∈ history.made) :
    e ∈ history.made ∧ e.frame.id.session = d.frame.id.session := by
  induction he with
  | parent hparent => exact hc.parents_made _ hd _ hparent
  | through hmiddle _ ih =>
      obtain ⟨hmade, hsession⟩ := hc.parents_made _ hd _ hmiddle
      obtain ⟨hmade', hsession'⟩ := ih hmade
      exact ⟨hmade', hsession'.trans hsession⟩

end History

/-! ### The order of dependencies -/

namespace Frame

variable {name other : String} {node : Frame} {known : List String}
  {first second entries : List (String × Frame)}

/-- Every frame under a name depends only on the known names and on those that stand before it. -/
def ReadsEarlier (name : String) : List String → List (String × Frame) → Prop
  | _, [] => True
  | known, (other, node) :: rest =>
    (other = name → Keyed.keys node.dependencies ⊆ known) ∧ ReadsEarlier name (known ++ [other]) rest

theorem readsEarlier_append :
    ReadsEarlier name known (first ++ second) ↔
      ReadsEarlier name known first ∧ ReadsEarlier name (known ++ Keyed.keys first) second := by
  induction first generalizing known with
  | nil => simp [ReadsEarlier, Keyed.keys]
  | cons entry rest ih =>
      rw [List.cons_append, ReadsEarlier, ReadsEarlier, ih, and_assoc]
      simp [Keyed.keys]

theorem ReadsEarlier.mono {known' : List String} (hknown : known ⊆ known')
    (h : ReadsEarlier name known entries) : ReadsEarlier name known' entries := by
  induction entries generalizing known known' with
  | nil => trivial
  | cons entry rest ih =>
      refine ⟨fun hname => List.Subset.trans (h.1 hname) hknown, ih ?_ h.2⟩
      exact List.append_subset.mpr
        ⟨List.subset_append_of_subset_left _ hknown, List.subset_append_right _ _⟩

/-- Another value under another name changes nothing. -/
theorem ReadsEarlier.put (hne : other ≠ name) (hother : other ∈ Keyed.keys entries)
    (h : ReadsEarlier name known entries) : ReadsEarlier name known (Keyed.put other node entries) := by
  induction entries generalizing known with
  | nil => cases hother
  | cons entry rest ih =>
      rw [Keyed.put]
      split
      · next hentry => exact ⟨fun heq => absurd heq hne, hentry ▸ h.2⟩
      · next hentry =>
          exact ⟨h.1, ih ((List.mem_cons.mp hother).resolve_left fun heq => hentry heq.symm) h.2⟩

/-- Where all frames written under a name are one, deduplication keeps the order. -/
theorem ReadsEarlier.dedup (hvalue : ∀ x y, (name, x) ∈ entries → (name, y) ∈ entries → x = y)
    (h : ReadsEarlier name [] entries) : ReadsEarlier name [] (Keyed.dedup entries) := by
  induction entries using List.reverseRecOn with
  | nil => trivial
  | append_singleton entries last ih =>
      obtain ⟨other, node⟩ := last
      obtain ⟨hentries, hlast⟩ := readsEarlier_append.mp h
      have hdedup := ih (fun x y hx hy => hvalue x y (List.mem_append_left _ hx) (List.mem_append_left _ hy))
        hentries
      rw [Keyed.dedup_concat]
      by_cases hother : other ∈ Keyed.keys (Keyed.dedup entries)
      · by_cases hne : other = name
        · subst hne
          rw [Keyed.put_eq_self hother]
          · exact hdedup
          · intro found hfound
            exact hvalue found node (List.mem_append_left _ (Keyed.mem_of_mem_dedup hfound))
              (List.mem_append_right _ List.mem_cons_self)
        · exact hdedup.put hne hother
      · rw [Keyed.put_of_not_mem hother, readsEarlier_append]
        exact ⟨hdedup, hlast.mono fun key hkey => Keyed.mem_keys_dedup.mpr hkey⟩

end Frame

namespace Derivation

variable {d : Derivation} {name : String}

/-- A name is the alias of one frame only among those that a frame reads, directly or through others. -/
def Unambiguous (d : Derivation) (name : String) : Prop :=
  ∀ e f : Derivation, e.Ancestor d → f.Ancestor d → e.frame.name = name → f.frame.name = name →
    e.frame = f.frame

theorem Unambiguous.parent {p : Derivation} (h : d.Unambiguous name) (hp : p ∈ d.parents) :
    p.Unambiguous name :=
  fun e f he hf => h e f (.through hp he) (.through hp hf)

theorem readsEarlier_flatMap {parents : List Frame}
    (h : ∀ p ∈ parents, Frame.ReadsEarlier name [] p.dependencies) :
    Frame.ReadsEarlier name [] (parents.flatMap (·.dependencies)) := by
  induction parents with
  | nil => trivial
  | cons p rest ih =>
      rw [List.flatMap_cons, Frame.readsEarlier_append]
      exact ⟨h p List.mem_cons_self,
        (ih fun q hq => h q (List.mem_cons_of_mem _ hq)).mono (List.nil_subset _)⟩

theorem readsEarlier_parents {parents : List Frame} {known : List String}
    (h : ∀ p ∈ parents, Keyed.keys p.dependencies ⊆ known) :
    Frame.ReadsEarlier name known (parents.map fun p => (p.name, p)) := by
  induction parents generalizing known with
  | nil => trivial
  | cons p rest ih =>
      exact ⟨fun _ => h p List.mem_cons_self, ih fun q hq =>
        List.subset_append_of_subset_left _ (h q (List.mem_cons_of_mem _ hq))⟩

theorem Faithful.readsEarlier (hd : d.Faithful) (hname : d.Unambiguous name) :
    Frame.ReadsEarlier name [] d.frame.dependencies := by
  induction hd with
  | @intro d hlineage hparents ih =>
      have hd : d.Faithful := .intro hlineage hparents
      rw [hlineage, Frame.lineageOf]
      refine Frame.ReadsEarlier.dedup ?_
        (Frame.readsEarlier_append.mpr ⟨readsEarlier_flatMap ?_, readsEarlier_parents ?_⟩)
      · intro first second hfirst hsecond
        obtain ⟨e, he, rfl, hename⟩ := hd.exists_ancestor_of_mem hfirst
        obtain ⟨f, hf, rfl, hfname⟩ := hd.exists_ancestor_of_mem hsecond
        exact hname e f he hf hename hfname
      · intro p hp
        obtain ⟨q, hq, rfl⟩ := List.mem_map.mp hp
        exact ih q hq (hname.parent hq)
      · intro p hp key hkey
        obtain ⟨node, hnode⟩ := Keyed.exists_of_mem_keys hkey
        exact Keyed.mem_keys_of_mem (List.mem_flatMap.mpr ⟨p, hp, hnode⟩)

end Derivation

namespace History

variable {σ : Type} {executor : Executor σ} {state : σ} {admits : History σ → Operation → Prop}
  {history : History σ} {d : Derivation}

/-- The dependency list of a frame is closed, and an entry stands behind all that it depends on if its alias is
that of one frame only among those that the frame reads, directly or through others. -/
theorem Reached.dependencies_ordered (hrun : Reached executor state admits history) (hd : d ∈ history.made)
    {name : String} {node : Frame} {before after : List (String × Frame)}
    (hsplit : d.frame.dependencies = before ++ (name, node) :: after) :
    Keyed.keys node.dependencies ⊆ Keyed.keys d.frame.dependencies ∧
      (d.Unambiguous name → Keyed.keys node.dependencies ⊆ Keyed.keys before) := by
  have hfaithful := hrun.consistent.faithful d hd
  constructor
  · have hmem : (name, node) ∈ d.frame.dependencies := by
      rw [hsplit]
      exact List.mem_append_right _ List.mem_cons_self
    obtain ⟨e, he, rfl, -⟩ := hfaithful.exists_ancestor hmem
    exact hfaithful.keys_subset he
  · intro hname
    have hordered := hfaithful.readsEarlier hname
    rw [hsplit, Frame.readsEarlier_append] at hordered
    exact hordered.2.1 rfl

end History

/-! ### A repeated alias

Two sources, `source` and `other`. Some rows of the second are renamed to the alias of the first, which a union
then keeps in its first place with its last value. -/

namespace Repeated

def source : Derivation := ⟨⟨⟨0, 0⟩, "t", "SELECT 1 AS id", []⟩, true, []⟩

def other : Derivation := ⟨⟨⟨0, 1⟩, "_default_alias_1", "SELECT 2 AS id", []⟩, false, []⟩

def narrowed : Derivation :=
  ⟨⟨⟨0, 2⟩, "_default_alias_2", Fragment.filter "_default_alias_1" "id > 0",
      [("_default_alias_1", other.frame)]⟩, false, [other]⟩

def renamed : Derivation := ⟨{ narrowed.frame with id := ⟨0, 3⟩, name := "t" }, true, [other]⟩

def derived : Derivation :=
  ⟨⟨⟨0, 4⟩, "_default_alias_3", Fragment.filter "t" "id > 0", [("t", source.frame)]⟩, false, [source]⟩

def combined : Derivation :=
  ⟨⟨⟨0, 5⟩, "_default_alias_4", Fragment.union "_default_alias_3" "t",
      [("t", renamed.frame), ("_default_alias_1", other.frame), ("_default_alias_3", derived.frame)]⟩,
    false, [derived, renamed]⟩

def history : History Unit :=
  History.opened.perform (.sqlAs 0 "SELECT 1 AS id" "t") []
    |>.perform (.sql 0 "SELECT 2 AS id") []
    |>.perform (.filter other.frame "id > 0") [other]
    |>.perform (.aliasAs narrowed.frame "t") [narrowed]
    |>.perform (.filter source.frame "id > 0") [source]
    |>.perform (.union derived.frame renamed.frame) [derived, renamed]

theorem reached : History.Reached Executor.absent () (fun _ _ => True) history := by
  refine .perform (.perform (.perform (.perform (.perform (.perform .opened ?_ trivial) ?_ trivial) ?_ trivial)
    ?_ trivial) ?_ trivial) ?_ trivial
  · exact .of_builder (s := 0) (by decide) rfl rfl
  · exact .of_builder (s := 0) (by decide) rfl rfl
  · exact .of_frame (List.mem_of_getElem? (i := 1) rfl) rfl rfl
  · exact .of_frame (List.mem_of_getElem? (i := 2) rfl) rfl rfl
  · exact .of_frame (List.mem_of_getElem? (i := 0) rfl) rfl rfl
  · exact .of_frames (List.mem_of_getElem? (i := 4) rfl) (List.mem_of_getElem? (i := 3) rfl) rfl rfl

theorem ancestor_combined {e : Derivation} :
    e.Ancestor combined ↔ (e = derived ∨ e = source) ∨ e = renamed ∨ e = other := by
  have hsource : ¬ e.Ancestor source := by simp [source, Derivation.ancestor_mk]
  have hother : ¬ e.Ancestor other := by simp [other, Derivation.ancestor_mk]
  have hderived : e.Ancestor derived ↔ e = source := by simp [derived, Derivation.ancestor_mk, hsource]
  have hrenamed : e.Ancestor renamed ↔ e = other := by simp [renamed, Derivation.ancestor_mk, hother]
  simp [combined, Derivation.ancestor_mk, hderived, hrenamed]

/-- The filter of the first source has an alias of its own and stands behind what it reads. -/
theorem combined_dependencies_ordered :
    combined.Unambiguous "_default_alias_3" ∧
      Keyed.keys derived.frame.dependencies ⊆
        Keyed.keys [("t", renamed.frame), ("_default_alias_1", other.frame)] := by
  have hname : combined.Unambiguous "_default_alias_3" := by
    have honly : ∀ e, e.Ancestor combined → e.frame.name = "_default_alias_3" → e = derived := by
      intro e he hename
      rcases ancestor_combined.mp he with (rfl | rfl) | rfl | rfl
      · rfl
      · exact absurd hename (by decide)
      · exact absurd hename (by decide)
      · exact absurd hename (by decide)
    intro e f he hf hename hfname
    rw [honly e he hename, honly f hf hfname]
  have hcombined : combined ∈ history.made := List.mem_of_getElem? (i := 5) rfl
  have hsplit : combined.frame.dependencies =
      [("t", renamed.frame), ("_default_alias_1", other.frame)] ++ [("_default_alias_3", derived.frame)] := rfl
  exact ⟨hname, (reached.dependencies_ordered hcombined hsplit).2 hname⟩

/-- The renamed frame stands before the source that it reads. -/
theorem exists_dependency_before_its_own :
    ∃ (history : History Unit) (d : Derivation) (name : String) (node : Frame)
      (before after : List (String × Frame)),
      History.Reached Executor.absent () (fun _ _ => True) history ∧ d ∈ history.made ∧
        d.frame.dependencies = before ++ (name, node) :: after ∧
          ¬ Keyed.keys node.dependencies ⊆ Keyed.keys before := by
  refine ⟨history, combined, "t", renamed.frame, [], _, reached, List.mem_of_getElem? (i := 5) rfl, rfl, ?_⟩
  intro hsubset
  have hmem : "_default_alias_1" ∈ Keyed.keys renamed.frame.dependencies := by decide
  exact absurd (hsubset hmem) List.not_mem_nil

end Repeated

end QueryFrames
