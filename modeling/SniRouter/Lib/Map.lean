import Mathlib.Data.List.AList

/-!
# Finite maps

Hash maps as association lists without repeated keys. `AList` has insertion,
removal and lookup; this adds `retain`, the number of entries, and the lookup
lemmas in the one-line form that case analysis on keys wants, and how the
operations change the number of entries.
-/

/-- A finite map from `K` to `V`. -/
abbrev Map (K V : Type*) := AList fun _ : K => V

namespace Map

variable {K V : Type*} [DecidableEq K]

/-- Number of entries. -/
def size (m : Map K V) : Nat := m.entries.length

/-- The entries that `keep` accepts. -/
def retain (keep : K → V → Bool) (m : Map K V) : Map K V :=
  ⟨m.entries.filter fun e => keep e.1 e.2, m.nodupKeys.sublist List.filter_sublist⟩

/-- What a lookup finds is an entry. -/
theorem lookup_eq_some_iff {m : Map K V} {k : K} {v : V} :
    m.lookup k = some v ↔ ⟨k, v⟩ ∈ m.entries :=
  AList.mem_lookup_iff

/-- An insertion changes its own key only. -/
theorem lookup_insert (m : Map K V) (k k' : K) (v : V) :
    (m.insert k v).lookup k' = if k' = k then some v else m.lookup k' := by
  by_cases h : k' = k
  · rw [if_pos h, h, AList.lookup_insert]
  · rw [if_neg h, AList.lookup_insert_ne h]

/-- An erasure changes its own key only. -/
theorem lookup_erase (m : Map K V) (k k' : K) :
    (m.erase k).lookup k' = if k' = k then none else m.lookup k' := by
  by_cases h : k' = k
  · rw [if_pos h, h, AList.lookup_erase]
  · rw [if_neg h, AList.lookup_erase_ne h]

/-- What `retain` keeps is found as before. -/
theorem lookup_retain (keep : K → V → Bool) (m : Map K V) (k : K) :
    (m.retain keep).lookup k = (m.lookup k).filter (keep k) := by
  apply Option.ext
  intro v
  rw [Option.filter_eq_some_iff, lookup_eq_some_iff, lookup_eq_some_iff, retain, List.mem_filter]

/-- `retain` by the key alone. -/
theorem lookup_retain_key (keep : K → Bool) (m : Map K V) (k : K) :
    (m.retain fun k _ => keep k).lookup k = if keep k then m.lookup k else none := by
  rw [lookup_retain]
  cases hlookup : m.lookup k with
  | none => simp
  | some v => by_cases hkeep : keep k = true <;> simp [Option.filter, hkeep]

omit [DecidableEq K] in
/-- A map has as many entries as keys. -/
theorem size_eq_length_keys (m : Map K V) : m.size = m.keys.length :=
  (List.length_map ..).symm

/-- A key of the map has a value. -/
theorem exists_lookup_of_mem_keys {m : Map K V} {k : K} (h : k ∈ m.keys) :
    ∃ v, m.lookup k = some v :=
  Option.isSome_iff_exists.mp (AList.lookup_isSome.mpr (AList.mem_keys.mpr h))

/-- What is found has its key in the map. -/
theorem mem_keys_of_lookup {m : Map K V} {k : K} {v : V} (h : m.lookup k = some v) :
    k ∈ m.keys :=
  AList.mem_keys.mp (AList.lookup_isSome.mp (Option.isSome_of_eq_some h))

/-- Distinct keys of a map are no more than its entries. -/
theorem length_le_size {m : Map K V} {keys : List K} (hnodup : keys.Nodup)
    (h : ∀ k ∈ keys, ∃ v, m.lookup k = some v) : keys.length ≤ m.size := by
  rw [size_eq_length_keys]
  refine List.Nodup.length_le_of_subset hnodup fun k hk => ?_
  obtain ⟨v, hv⟩ := h k hk
  exact mem_keys_of_lookup hv

/-- A map with fewer lookups has fewer entries. -/
theorem size_le_size {m m' : Map K V} (h : ∀ k v, m'.lookup k = some v → m.lookup k = some v) :
    m'.size ≤ m.size := by
  rw [size_eq_length_keys m']
  refine length_le_size m'.keys_nodup fun k hk => ?_
  obtain ⟨v, hv⟩ := exists_lookup_of_mem_keys hk
  exact ⟨v, h k v hv⟩

/-- Erasing a key that is there makes the map one smaller. -/
theorem size_erase {m : Map K V} {k : K} {v : V} (h : m.lookup k = some v) :
    Map.size (m.erase k) + 1 = m.size := by
  have hmem := mem_keys_of_lookup h
  rw [size_eq_length_keys, size_eq_length_keys, AList.keys_erase, List.length_erase_of_mem hmem]
  have hpos := List.length_pos_of_mem hmem
  omega

/-- A map that lost an entry is smaller. -/
theorem size_lt_size {m m' : Map K V} (h : ∀ k v, m'.lookup k = some v → m.lookup k = some v)
    {k : K} {v : V} (hk : m.lookup k = some v) (hlost : m'.lookup k = none) : m'.size < m.size := by
  have herased : m'.size ≤ Map.size (m.erase k) := by
    refine size_le_size fun k' v' hk' => ?_
    rw [lookup_erase]
    split_ifs with heq
    · rw [heq, hlost] at hk'
      exact absurd hk' (by simp)
    · exact h k' v' hk'
  have hsize := size_erase hk
  omega

/-- Inserting makes the map larger only when the key is new. -/
theorem size_insert (m : Map K V) (k : K) (v : V) :
    Map.size (m.insert k v) = if (m.lookup k).isSome then m.size else m.size + 1 := by
  rw [size_eq_length_keys, size_eq_length_keys, AList.keys_insert, List.length_cons]
  by_cases hmem : k ∈ m.keys
  · have hpos := List.length_pos_of_mem hmem
    rw [if_pos (AList.lookup_isSome.mpr (AList.mem_keys.mpr hmem)),
      List.length_erase_of_mem hmem]
    omega
  · rw [if_neg fun h => hmem (AList.mem_keys.mp (AList.lookup_isSome.mp h)),
      List.erase_of_not_mem hmem]

/-- An entry is found in a map that is not empty. -/
theorem exists_lookup_of_size {m : Map K V} (h : 0 < m.size) : ∃ k v, m.lookup k = some v := by
  rw [size_eq_length_keys] at h
  obtain ⟨k, hk⟩ := List.exists_mem_of_length_pos h
  obtain ⟨v, hv⟩ := exists_lookup_of_mem_keys hk
  exact ⟨k, v, hv⟩

end Map
