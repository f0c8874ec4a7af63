/-!
# Entries

Lists of keys and values in which a key has one value. `Entries.put` sets a value: in place if the
key is there, else at the end. The lemmas say what it does to the keys and to look-ups.
-/

namespace Relocation.Entries

variable {κ ν : Type} [BEq κ] [LawfulBEq κ]

/-- Set the value of a key. -/
def put (key : κ) (value : ν) : List (κ × ν) → List (κ × ν)
  | [] => [(key, value)]
  | entry :: rest =>
    if entry.1 == key then (key, value) :: rest else entry :: put key value rest

/-- The keys keep their places, and a new key comes last. -/
theorem map_fst_put (key : κ) (value : ν) (entries : List (κ × ν)) :
    (put key value entries).map Prod.fst =
      if key ∈ entries.map Prod.fst then entries.map Prod.fst
      else entries.map Prod.fst ++ [key] := by
  induction entries with
  | nil => simp [put]
  | cons entry rest ih =>
    by_cases h : entry.1 = key
    · simp [put, h]
    · have h' : ¬key = entry.1 := fun e => h e.symm
      have hb : (entry.1 == key) = false := by simp [h]
      simp only [put, hb, Bool.false_eq_true, if_false, List.map_cons, ih, List.mem_cons, h',
        false_or]
      split <;> simp

/-- Keys stay distinct. -/
theorem nodup_put {key : κ} {value : ν} {entries : List (κ × ν)}
    (h : (entries.map Prod.fst).Nodup) : ((put key value entries).map Prod.fst).Nodup := by
  rw [map_fst_put]
  split
  · exact h
  · next hnew =>
    refine List.nodup_append.mpr ⟨h, by simp, fun a ha b hb => ?_⟩
    obtain rfl := List.mem_singleton.mp hb
    exact fun e => hnew (e ▸ ha)

/-- The value that was set is found. -/
theorem lookup_put_self (key : κ) (value : ν) (entries : List (κ × ν)) :
    (put key value entries).lookup key = some value := by
  induction entries with
  | nil => simp [put]
  | cons entry rest ih =>
    obtain ⟨k, v⟩ := entry
    by_cases h : k = key
    · simp [put, h]
    · have h' : (key == k) = false := by simp [Ne.symm h]
      simp [put, h, List.lookup_cons, h', ih]

/-- Other keys keep their values. -/
theorem lookup_put_of_ne {key other : κ} (value : ν) (entries : List (κ × ν))
    (h : other ≠ key) : (put key value entries).lookup other = entries.lookup other := by
  have h' : (other == key) = false := by simp [h]
  induction entries with
  | nil => simp [put, List.lookup_cons, h']
  | cons entry rest ih =>
    obtain ⟨k, v⟩ := entry
    by_cases hk : k = key
    · subst hk
      simp [put, List.lookup_cons, h']
    · simp [put, hk, List.lookup_cons, ih]

/-- Setting the value that a key has changes nothing. -/
theorem put_of_lookup {key : κ} {value : ν} {entries : List (κ × ν)}
    (h : entries.lookup key = some value) : put key value entries = entries := by
  induction entries with
  | nil => cases h
  | cons entry rest ih =>
    obtain ⟨k, v⟩ := entry
    by_cases hk : k = key
    · subst hk
      obtain rfl : v = value := by simpa using h
      simp [put]
    · have h' : (key == k) = false := by simp [Ne.symm hk]
      rw [List.lookup_cons, h'] at h
      simp [put, hk, ih h]

/-- Of two values that are set for a key, the second one stays. -/
theorem put_put (key : κ) (value value' : ν) (entries : List (κ × ν)) :
    put key value' (put key value entries) = put key value' entries := by
  induction entries with
  | nil => simp [put]
  | cons entry rest ih =>
    by_cases h : entry.1 = key
    · simp [put, h]
    · simp [put, h, ih]

end Relocation.Entries
