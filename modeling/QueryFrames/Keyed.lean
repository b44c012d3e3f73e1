/-!
Lists of pairs in which every key has one entry. Writing to a key that is present keeps the key's place and
changes its value, so after a sequence of writes the keys stand in the order of their first writes, each with
the value of its last.
-/

namespace QueryFrames.Keyed

variable {κ ν : Type} [DecidableEq κ]

/-- Writes a value under a key, in place if the key is present and at the end otherwise. -/
def put (key : κ) (value : ν) : List (κ × ν) → List (κ × ν)
  | [] => [(key, value)]
  | (k, v) :: rest => if k = key then (key, value) :: rest else (k, v) :: put key value rest

/-- All pairs written one after the other. -/
def dedup (pairs : List (κ × ν)) : List (κ × ν) :=
  pairs.foldl (fun entries pair => put pair.1 pair.2 entries) []

/-- The value under a key. -/
def get? (key : κ) (entries : List (κ × ν)) : Option ν :=
  (entries.find? (·.1 = key)).map (·.2)

/-- The entries but that of a key. -/
def erase (key : κ) (entries : List (κ × ν)) : List (κ × ν) :=
  entries.filter (·.1 ≠ key)

/-- The keys in their order. -/
def keys (entries : List (κ × ν)) : List κ :=
  entries.map (·.1)

theorem keys_put (key : κ) (value : ν) (entries : List (κ × ν)) :
    keys (put key value entries) = if key ∈ keys entries then keys entries else keys entries ++ [key] := by
  induction entries with
  | nil => simp [put, keys]
  | cons entry rest ih =>
    obtain ⟨k, v⟩ := entry
    by_cases h : k = key
    · subst h
      simp [put, keys]
    · have h' : key ≠ k := fun e => h e.symm
      simp only [keys] at ih
      simp only [put, h, if_false, keys, List.map_cons, ih, List.mem_cons, h', false_or]
      by_cases hmem : key ∈ rest.map (·.1) <;> simp [hmem]

theorem get?_put (key other : κ) (value : ν) (entries : List (κ × ν)) :
    get? other (put key value entries) = if key = other then some value else get? other entries := by
  induction entries with
  | nil => by_cases h : key = other <;> simp [put, get?, h]
  | cons entry rest ih =>
    obtain ⟨k, v⟩ := entry
    simp only [get?] at ih
    by_cases h : k = key
    · subst h
      by_cases h' : k = other <;> simp [put, get?, h']
    · by_cases h' : k = other
      · subst h'
        have : ¬ key = k := fun e => h e.symm
        simp [put, get?, h, this]
      · simp [put, get?, h, h', ih]

theorem nodup_keys_put {key : κ} {value : ν} {entries : List (κ × ν)} (h : (keys entries).Nodup) :
    (keys (put key value entries)).Nodup := by
  rw [keys_put]
  split
  · exact h
  · next hkey =>
    refine List.nodup_append.2 ⟨h, by simp, fun k hk other hother => ?_⟩
    simp only [List.mem_singleton] at hother
    exact fun e => hkey (hother ▸ e ▸ hk)

theorem nodup_keys_dedup (pairs : List (κ × ν)) : (keys (dedup pairs)).Nodup := by
  suffices h : ∀ entries : List (κ × ν), (keys entries).Nodup →
      (keys (pairs.foldl (fun entries pair => put pair.1 pair.2 entries) entries)).Nodup from
    h [] (by simp [keys])
  induction pairs with
  | nil => exact fun _ h => h
  | cons pair rest ih => exact fun _ h => ih _ (nodup_keys_put h)

end QueryFrames.Keyed
