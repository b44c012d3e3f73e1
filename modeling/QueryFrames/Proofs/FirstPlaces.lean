import Mathlib.Data.List.Basic
import QueryFrames.Proofs.Lineage

/-! First places and last values. A list of pairs, written one after the other, leaves every key in the place of its
first pair with the value of its last, and no other list is described in this way. What a part of the pairs leaves can
stand for the part, so it makes no difference whether lists are deduplicated before they are put together; the
dependencies of a frame are what all that it reads leaves when it is written out in full. -/

namespace QueryFrames

namespace Keyed

variable {κ ν : Type} [DecidableEq κ] {key other : κ} {value found : ν}
  {pairs first second rest entries written : List (κ × ν)}

/-- The entries that some pairs leave: a key has an entry exactly if it has a pair, the keys stand in the order of
their first pairs, so each of them once, and the pair of an entry is the last one of its key. -/
structure FirstPlaces (pairs entries : List (κ × ν)) : Prop where
  mem_keys : ∀ key, key ∈ keys entries ↔ key ∈ keys pairs
  ordered : (keys entries).Pairwise fun key later => (keys pairs).idxOf key < (keys pairs).idxOf later
  last : ∀ entry ∈ entries, ∃ before after, pairs = before ++ entry :: after ∧ entry.1 ∉ keys after

theorem FirstPlaces.nodup (h : FirstPlaces pairs entries) : (keys entries).Nodup := by
  refine h.ordered.imp ?_
  rintro key _ hlt rfl
  exact Nat.lt_irrefl _ hlt

/-! ### What writing leaves -/

theorem mem_dedup_concat :
    (other, found) ∈ dedup (pairs ++ [(key, value)]) ↔
      if key = other then value = found else (other, found) ∈ dedup pairs := by
  rw [← get?_eq_some_iff (nodup_keys_dedup _), get?_dedup_concat]
  split
  · exact Option.some_inj
  · exact get?_eq_some_iff (nodup_keys_dedup _)

/-- A key that is written again stays in its place, and a new one comes last. -/
theorem ordered_dedup (pairs : List (κ × ν)) :
    (keys (dedup pairs)).Pairwise fun key later => (keys pairs).idxOf key < (keys pairs).idxOf later := by
  induction pairs using List.reverseRecOn with
  | nil => exact List.Pairwise.nil
  | append_singleton pairs last ih =>
      obtain ⟨key, value⟩ := last
      have hplace : ∀ k ∈ keys (dedup pairs), (keys (pairs ++ [(key, value)])).idxOf k = (keys pairs).idxOf k := by
        intro k hk
        rw [keys_append, List.idxOf_append_of_mem (mem_keys_dedup.mp hk)]
      have hearlier : (keys (dedup pairs)).Pairwise fun k later =>
          (keys (pairs ++ [(key, value)])).idxOf k < (keys (pairs ++ [(key, value)])).idxOf later := by
        refine ih.imp_of_mem fun hk hlater hlt => ?_
        rwa [hplace _ hk, hplace _ hlater]
      rw [dedup_concat, keys_put]
      split
      · exact hearlier
      · next hkey =>
          refine List.pairwise_append.mpr ⟨hearlier, List.pairwise_singleton _ _, fun k hk later hlater => ?_⟩
          have hnew : key ∉ keys pairs := fun h => hkey (mem_keys_dedup.mpr h)
          have hmem : k ∈ keys pairs := mem_keys_dedup.mp hk
          rw [hplace k hk, List.mem_singleton.mp hlater, keys_append, List.idxOf_append_of_notMem hnew]
          exact Nat.lt_add_right _ (List.idxOf_lt_length_of_mem hmem)

theorem exists_last_of_mem_dedup (h : (key, value) ∈ dedup pairs) :
    ∃ before after, pairs = before ++ (key, value) :: after ∧ key ∉ keys after := by
  induction pairs using List.reverseRecOn with
  | nil => cases h
  | append_singleton pairs last ih =>
      obtain ⟨other, found⟩ := last
      rw [mem_dedup_concat] at h
      split at h
      · next heq =>
          subst heq h
          exact ⟨pairs, [], rfl, List.not_mem_nil⟩
      · next hne =>
          obtain ⟨before, after, rfl, hafter⟩ := ih h
          refine ⟨before, after ++ [(other, found)], by simp, ?_⟩
          rw [keys_append, List.mem_append, not_or]
          exact ⟨hafter, fun hmem => hne (List.mem_singleton.mp hmem).symm⟩

theorem firstPlaces_dedup (pairs : List (κ × ν)) : FirstPlaces pairs (dedup pairs) where
  mem_keys _ := mem_keys_dedup
  ordered := ordered_dedup pairs
  last _ h := exists_last_of_mem_dedup h

/-! ### Nothing else is left -/

/-- The last pair of a key is the first one from behind. -/
theorem get?_reverse_of_last {before after : List (κ × ν)} (hafter : key ∉ keys after) :
    get? key (before ++ (key, value) :: after).reverse = some value := by
  have hbehind : after.reverse.find? (·.1 = key) = none := by
    refine List.find?_eq_none.mpr fun entry hentry heq => hafter ?_
    exact of_decide_eq_true heq ▸ List.mem_map_of_mem (List.mem_reverse.mp hentry)
  rw [get?, List.reverse_append, List.reverse_cons, List.append_assoc, List.find?_append, hbehind]
  simp

theorem FirstPlaces.get?_reverse (h : FirstPlaces pairs entries) (hmem : (key, value) ∈ entries) :
    get? key pairs.reverse = some value := by
  obtain ⟨before, after, rfl, hafter⟩ := h.last _ hmem
  exact get?_reverse_of_last hafter

theorem FirstPlaces.keys_eq (h : FirstPlaces pairs entries) (hwritten : FirstPlaces pairs written) :
    keys entries = keys written := by
  have hperm : (keys entries).Perm (keys written) :=
    (List.perm_ext_iff_of_nodup h.nodup hwritten.nodup).mpr fun key =>
      (h.mem_keys key).trans (hwritten.mem_keys key).symm
  exact hperm.eq_of_pairwise (fun _ _ _ _ hlt hgt => absurd hlt (Nat.lt_asymm hgt)) h.ordered hwritten.ordered

theorem FirstPlaces.eq (h : FirstPlaces pairs entries) (hwritten : FirstPlaces pairs written) :
    entries = written := by
  have hkeys : entries.map (·.1) = written.map (·.1) := h.keys_eq hwritten
  have hlength : entries.length = written.length := by simpa using congrArg List.length hkeys
  refine List.ext_getElem hlength fun i hi hi' => ?_
  have hkey : entries[i].1 = written[i].1 := by
    simpa [hi, hi'] using congrArg (·[i]?) hkeys
  have hvalue : get? entries[i].1 pairs.reverse = some entries[i].2 := h.get?_reverse (List.getElem_mem hi)
  have hvalue' : get? written[i].1 pairs.reverse = some written[i].2 := hwritten.get?_reverse (List.getElem_mem hi')
  rw [← hkey, hvalue] at hvalue'
  exact Prod.ext hkey (Option.some.inj hvalue')

/-! ### Writing what was written -/

theorem put_put (key : κ) (value found : ν) (entries : List (κ × ν)) :
    put key value (put key found entries) = put key value entries := by
  induction entries with
  | nil => simp [put]
  | cons entry rest ih =>
      obtain ⟨k, v⟩ := entry
      by_cases hk : k = key
      · simp [put, hk]
      · simp [put, hk, ih]

/-- A key that has its place is written before or after another one, with the same result. -/
theorem put_comm (hne : other ≠ key) (hkey : key ∈ keys entries) :
    put key value (put other found entries) = put other found (put key value entries) := by
  induction entries with
  | nil => cases hkey
  | cons entry rest ih =>
      obtain ⟨k, v⟩ := entry
      by_cases hk : k = key
      · subst hk
        simp [put, Ne.symm hne]
      · have hrest : key ∈ keys rest := (List.mem_cons.mp hkey).resolve_left (Ne.symm hk)
        by_cases hother : k = other
        · subst hother
          simp [put, hne]
        · simp [put, hk, hother, ih hrest]

/-- Writes pairs over what is there. -/
def write (pairs entries : List (κ × ν)) : List (κ × ν) :=
  pairs.foldl (fun entries pair => put pair.1 pair.2 entries) entries

theorem write_append (first second entries : List (κ × ν)) :
    write (first ++ second) entries = write second (write first entries) :=
  List.foldl_append

theorem write_concat (pairs entries : List (κ × ν)) (key : κ) (value : ν) :
    write (pairs ++ [(key, value)]) entries = put key value (write pairs entries) :=
  write_append pairs _ entries

theorem put_write (hkey : key ∈ keys entries) (hpairs : key ∉ keys pairs) :
    put key value (write pairs entries) = write pairs (put key value entries) := by
  induction pairs generalizing entries with
  | nil => rfl
  | cons pair rest ih =>
      obtain ⟨hne, hrest⟩ := List.ne_and_not_mem_of_not_mem_cons hpairs
      have hput : key ∈ keys (put pair.1 pair.2 entries) := mem_keys_put.mpr (Or.inl hkey)
      calc put key value (write (pair :: rest) entries)
          = put key value (write rest (put pair.1 pair.2 entries)) := rfl
        _ = write rest (put key value (put pair.1 pair.2 entries)) := ih hput hrest
        _ = write rest (put pair.1 pair.2 (put key value entries)) := by rw [put_comm hne.symm hkey]
        _ = write (pair :: rest) (put key value entries) := rfl

/-- To change one entry and write them all is to write them all and then the change. -/
theorem write_put (hpairs : (keys pairs).Nodup) :
    write (put key value pairs) entries = put key value (write pairs entries) := by
  induction pairs generalizing entries with
  | nil => rfl
  | cons pair rest ih =>
      obtain ⟨k, v⟩ := pair
      obtain ⟨hk, hrest⟩ := List.nodup_cons.mp hpairs
      rw [put]
      split
      · next heq =>
          subst heq
          have hput : k ∈ keys (put k v entries) := mem_keys_put.mpr (Or.inr rfl)
          calc write ((k, value) :: rest) entries
              = write rest (put k value entries) := rfl
            _ = write rest (put k value (put k v entries)) := by rw [put_put]
            _ = put k value (write rest (put k v entries)) := (put_write hput hk).symm
      · exact ih hrest

/-- What pairs leave has the effect of the pairs wherever it is written. -/
theorem write_dedup (pairs entries : List (κ × ν)) : write (dedup pairs) entries = write pairs entries := by
  induction pairs using List.reverseRecOn with
  | nil => rfl
  | append_singleton pairs last ih =>
      rw [dedup_concat, write_put (nodup_keys_dedup pairs), ih, write_concat]

theorem dedup_append (first second : List (κ × ν)) : dedup (first ++ second) = write second (dedup first) :=
  write_append first second []

theorem dedup_dedup (pairs : List (κ × ν)) : dedup (dedup pairs) = dedup pairs :=
  write_dedup pairs []

theorem dedup_append_congr (hfirst : dedup first = dedup entries) (hsecond : dedup second = dedup rest) :
    dedup (first ++ second) = dedup (entries ++ rest) := by
  rw [dedup_append, dedup_append, hfirst, ← write_dedup second, hsecond, write_dedup]

theorem dedup_flatMap {ι : Type} {items : List ι} {parts written : ι → List (κ × ν)}
    (h : ∀ item ∈ items, dedup (parts item) = dedup (written item)) :
    dedup (items.flatMap parts) = dedup (items.flatMap written) := by
  induction items with
  | nil => rfl
  | cons item items ih =>
      obtain ⟨hitem, hitems⟩ := List.forall_mem_cons.mp h
      exact dedup_append_congr hitem (ih hitems)

end Keyed

/-! ### Lineage in full -/

namespace Derivation

mutual

/-- All that a frame reads, with every repetition: what each frame that it reads has read, then these frames. -/
def fullLineage : Derivation → List (String × Frame)
  | ⟨_, _, parents⟩ => inherited parents ++ parents.map fun p => (p.frame.name, p.frame)

/-- All that some frames read, one after the other. -/
def inherited : List Derivation → List (String × Frame)
  | [] => []
  | p :: parents => p.fullLineage ++ inherited parents

end

theorem inherited_eq (parents : List Derivation) : inherited parents = parents.flatMap fullLineage := by
  induction parents with
  | nil => rw [inherited, List.flatMap_nil]
  | cons p parents ih => rw [inherited, ih, List.flatMap_cons]

theorem fullLineage_eq (d : Derivation) :
    d.fullLineage = d.parents.flatMap fullLineage ++ d.parents.map fun p => (p.frame.name, p.frame) := by
  cases d
  rw [fullLineage, inherited_eq]

theorem Faithful.dependencies_eq {d : Derivation} (hd : d.Faithful) :
    d.frame.dependencies = Keyed.dedup d.fullLineage := by
  induction hd with
  | @intro d hlineage hparents ih =>
      have hinherited : Keyed.dedup (d.parents.flatMap fun p => p.frame.dependencies) =
          Keyed.dedup (d.parents.flatMap fullLineage) := by
        refine Keyed.dedup_flatMap fun p hp => ?_
        rw [ih p hp, Keyed.dedup_dedup]
      rw [hlineage, Frame.lineageOf, fullLineage_eq, List.flatMap_map, List.map_map]
      exact Keyed.dedup_append_congr hinherited rfl

end Derivation

namespace Keyed

/-- Deduplicated pairs are the one list that has the keys in the order of their first pairs, each once and with the
value of its last pair. Parts may be deduplicated before they are put together, so a lineage is what all that the
parents have read leaves, whether it is taken as their dependencies or as any sequence that leaves the same; the
dependencies of a frame are what its full lineage leaves. -/
theorem dedup_first_places {κ ν : Type} [DecidableEq κ] :
    (∀ pairs entries : List (κ × ν), dedup pairs = entries ↔ FirstPlaces pairs entries) ∧
      (∀ first second : List (κ × ν), dedup (dedup first ++ dedup second) = dedup (first ++ second)) ∧
        (∀ (parents : List Frame) (written : Frame → List (String × Frame)),
          (∀ parent ∈ parents, dedup parent.dependencies = dedup (written parent)) →
            Frame.lineageOf parents =
              dedup (parents.flatMap written ++ parents.map fun parent => (parent.name, parent))) ∧
          ∀ d : Derivation, d.Faithful → d.frame.dependencies = dedup d.fullLineage := by
  refine ⟨fun pairs entries => ⟨?_, fun h => ?_⟩, fun first second => ?_, fun parents written h => ?_, fun d hd => ?_⟩
  · rintro rfl
    exact firstPlaces_dedup pairs
  · exact (firstPlaces_dedup pairs).eq h
  · exact dedup_append_congr (dedup_dedup first) (dedup_dedup second)
  · exact dedup_append_congr (dedup_flatMap h) rfl
  · exact hd.dependencies_eq

end Keyed

namespace Repeated

/-- The union reads two frames of one alias, of which the second stays, in the place of the first. -/
theorem dependencies_combined :
    combined.fullLineage =
        [("t", source.frame), ("_default_alias_1", other.frame), ("_default_alias_3", derived.frame),
          ("t", renamed.frame)] ∧
      combined.frame.dependencies = Keyed.dedup combined.fullLineage ∧
        Frame.lineageOf [derived.frame, renamed.frame] = combined.frame.dependencies := by
  obtain ⟨-, -, hlineage, hfull⟩ := Keyed.dedup_first_places (κ := String) (ν := Frame)
  have hfaithful := reached.consistent.faithful combined (List.mem_of_getElem? (i := 5) rfl)
  refine ⟨rfl, hfull combined hfaithful, ?_⟩
  exact hlineage [derived.frame, renamed.frame] (·.dependencies) fun _ _ => rfl

end Repeated

end QueryFrames
