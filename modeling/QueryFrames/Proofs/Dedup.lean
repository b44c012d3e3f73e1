import Mathlib.Data.List.Induction
import QueryFrames.Keyed

/-! What a sequence of writes leaves behind: its keys are those written, each of its entries was written, and
the last write under a key is the one that is found. A write that repeats what its key holds leaves no trace,
so writes that agree with one another keep their first places for good. -/

namespace QueryFrames.Keyed

variable {κ ν : Type}

theorem mem_keys_of_mem {key : κ} {value : ν} {entries : List (κ × ν)} (h : (key, value) ∈ entries) :
    key ∈ keys entries :=
  List.mem_map_of_mem h

theorem exists_of_mem_keys {key : κ} {entries : List (κ × ν)} (h : key ∈ keys entries) :
    ∃ value, (key, value) ∈ entries := by
  obtain ⟨⟨k, v⟩, hmem, rfl⟩ := List.mem_map.mp h
  exact ⟨v, hmem⟩

theorem keys_append (first second : List (κ × ν)) : keys (first ++ second) = keys first ++ keys second :=
  List.map_append

variable [DecidableEq κ]

theorem mem_keys_put {key other : κ} {value : ν} {entries : List (κ × ν)} :
    other ∈ keys (put key value entries) ↔ other ∈ keys entries ∨ other = key := by
  rw [keys_put]
  split
  · next hkey =>
      constructor
      · exact Or.inl
      · rintro (h | rfl)
        · exact h
        · exact hkey
  · rw [List.mem_append, List.mem_singleton]

/-- An entry after a write is the one written or an earlier one. -/
theorem mem_put {key other : κ} {value found : ν} {entries : List (κ × ν)}
    (h : (other, found) ∈ put key value entries) :
    (other = key ∧ found = value) ∨ (other, found) ∈ entries := by
  induction entries with
  | nil =>
      rw [put, List.mem_singleton, Prod.mk.injEq] at h
      exact Or.inl h
  | cons entry rest ih =>
      obtain ⟨k, v⟩ := entry
      rw [put] at h
      split at h
      · rcases List.mem_cons.mp h with h | h
        · exact Or.inl (Prod.mk.injEq .. ▸ h)
        · exact Or.inr (List.mem_cons_of_mem _ h)
      · rcases List.mem_cons.mp h with h | h
        · exact Or.inr (h ▸ List.mem_cons_self)
        · exact (ih h).imp_right (List.mem_cons_of_mem _)

theorem put_eq_self {key : κ} {value : ν} {entries : List (κ × ν)} (hkey : key ∈ keys entries)
    (hvalue : ∀ found, (key, found) ∈ entries → found = value) : put key value entries = entries := by
  induction entries with
  | nil => cases hkey
  | cons entry rest ih =>
      obtain ⟨k, v⟩ := entry
      rw [put]
      split
      · next hk =>
          subst hk
          rw [hvalue v List.mem_cons_self]
      · next hk =>
          have hrest : key ∈ keys rest := (List.mem_cons.mp hkey).resolve_left fun h => hk h.symm
          rw [ih hrest fun found h => hvalue found (List.mem_cons_of_mem _ h)]

theorem put_of_not_mem {key : κ} {value : ν} {entries : List (κ × ν)} (hkey : key ∉ keys entries) :
    put key value entries = entries ++ [(key, value)] := by
  induction entries with
  | nil => rfl
  | cons entry rest ih =>
      obtain ⟨hne, hrest⟩ := List.ne_and_not_mem_of_not_mem_cons hkey
      rw [put, if_neg (Ne.symm hne), ih hrest, List.cons_append]

/-! ### Whole sequences -/

theorem dedup_concat (pairs : List (κ × ν)) (key : κ) (value : ν) :
    dedup (pairs ++ [(key, value)]) = put key value (dedup pairs) := by
  rw [dedup, List.foldl_append]
  rfl

theorem mem_keys_dedup {key : κ} {pairs : List (κ × ν)} : key ∈ keys (dedup pairs) ↔ key ∈ keys pairs := by
  induction pairs using List.reverseRecOn with
  | nil => exact Iff.rfl
  | append_singleton pairs last ih =>
      rw [dedup_concat, mem_keys_put, ih, keys_append, List.mem_append]
      exact or_congr_right List.mem_singleton.symm

theorem mem_of_mem_dedup {key : κ} {value : ν} {pairs : List (κ × ν)}
    (h : (key, value) ∈ dedup pairs) : (key, value) ∈ pairs := by
  induction pairs using List.reverseRecOn with
  | nil => exact h
  | append_singleton pairs last ih =>
      rw [dedup_concat] at h
      rcases mem_put h with ⟨rfl, rfl⟩ | h
      · exact List.mem_append_right _ List.mem_cons_self
      · exact List.mem_append_left _ (ih h)

/-- The last write under a key is found. -/
theorem get?_dedup_concat (pairs : List (κ × ν)) (key other : κ) (value : ν) :
    get? other (dedup (pairs ++ [(key, value)])) =
      if key = other then some value else get? other (dedup pairs) := by
  rw [dedup_concat, get?_put]

/-! ### Entries under distinct keys -/

theorem get?_eq_none_iff {key : κ} {entries : List (κ × ν)} : get? key entries = none ↔ key ∉ keys entries := by
  rw [get?, Option.map_eq_none_iff, List.find?_eq_none, keys, List.mem_map, not_exists]
  simp

theorem get?_eq_some_iff {key : κ} {value : ν} {entries : List (κ × ν)} (h : (keys entries).Nodup) :
    get? key entries = some value ↔ (key, value) ∈ entries := by
  induction entries with
  | nil => simp [get?]
  | cons entry rest ih =>
      obtain ⟨k, v⟩ := entry
      obtain ⟨hk, hrest⟩ := List.nodup_cons.mp h
      by_cases hkey : k = key
      · subst hkey
        have hnone : (k, value) ∉ rest := fun hmem => hk (mem_keys_of_mem hmem)
        simp [get?, hnone, eq_comm]
      · have hget : get? key ((k, v) :: rest) = get? key rest := by simp [get?, hkey]
        rw [hget, ih hrest]
        simp [Ne.symm hkey]

theorem mem_erase {key other : κ} {value : ν} {entries : List (κ × ν)} :
    (other, value) ∈ erase key entries ↔ (other, value) ∈ entries ∧ other ≠ key := by
  simp [erase]

theorem erase_of_not_mem {key : κ} {entries : List (κ × ν)} (h : key ∉ keys entries) : erase key entries = entries := by
  refine List.filter_eq_self.mpr fun entry hentry => decide_eq_true ?_
  rintro rfl
  exact h (List.mem_map_of_mem hentry)

end QueryFrames.Keyed
