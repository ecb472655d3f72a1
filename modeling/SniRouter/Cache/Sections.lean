import SniRouter.Cache.State

/-!
# SniRouter — what the cache's critical sections do

One specification for each section, in terms of lookups in the maps.

* `CacheState.Indexed` — the reverse index is exact.
* `CacheState.Shrinks` — entries only go, the in-flight side stays as it is:
  what removal, eviction and purging do.
* `insert_stores`, `finishLoad_ok`, `finishLoad_error`, `mem_invalidate` —
  the sections themselves.
-/

namespace SniRouter

-- ---------------------------------------------------------------------------
-- The reverse index
-- ---------------------------------------------------------------------------

/-- What is indexed under a key after an addition. -/
theorem RouteIndex.mem_get_add {index : RouteIndex} {key key' : RouteKey}
    {candidates c : RouteCandidates} :
    c ∈ (index.add key candidates).get key' ↔
      (key' = key ∧ c = candidates) ∨ c ∈ index.get key' := by
  unfold add get
  rw [Map.lookup_insert]
  by_cases h : key' = key
  · rw [if_pos h, h]
    simp [List.mem_insert_iff]
  · rw [if_neg h]
    simp [h]

/-- What is indexed under a key after a removal. -/
theorem RouteIndex.mem_get_remove {index : RouteIndex} {key key' : RouteKey}
    {candidates c : RouteCandidates} :
    c ∈ (index.remove key candidates).get key' ↔
      c ∈ index.get key' ∧ ¬ (key' = key ∧ c = candidates) := by
  unfold remove get
  cases hlookup : index.lookup key with
  | none =>
    by_cases h : key' = key
    · subst h
      simp [hlookup]
    · simp [h]
  | some indexed =>
    dsimp only
    by_cases h : key' = key
    · subst h
      rw [hlookup]
      split_ifs with hempty
      · rw [Map.lookup_erase, if_pos rfl]
        have hall := List.filter_eq_nil_iff.mp (List.isEmpty_iff.mp hempty)
        simpa using hall c
      · rw [Map.lookup_insert, if_pos rfl]
        simp
    · split_ifs
      · rw [Map.lookup_erase, if_neg h]
        simp [h]
      · rw [Map.lookup_insert, if_neg h]
        simp [h]

/-- Adding under each of several keys. -/
theorem RouteIndex.mem_get_foldl_add {keys : List RouteKey} {index : RouteIndex} {key : RouteKey}
    {candidates c : RouteCandidates} :
    c ∈ RouteIndex.get (keys.foldl (fun index key => index.add key candidates) index) key ↔
      (key ∈ keys ∧ c = candidates) ∨ c ∈ index.get key := by
  induction keys generalizing index with
  | nil => simp
  | cons k keys ih =>
    rw [List.foldl_cons, ih, mem_get_add, List.mem_cons]
    tauto

/-- Removing under each of several keys. -/
theorem RouteIndex.mem_get_foldl_remove {keys : List RouteKey} {index : RouteIndex}
    {key : RouteKey} {candidates c : RouteCandidates} :
    c ∈ RouteIndex.get (keys.foldl (fun index key => index.remove key candidates) index) key ↔
      c ∈ index.get key ∧ ¬ (key ∈ keys ∧ c = candidates) := by
  induction keys generalizing index with
  | nil => simp
  | cons k keys ih =>
    rw [List.foldl_cons, ih, mem_get_remove, List.mem_cons]
    tauto

/-- A key that is erased has nothing under it. -/
theorem RouteIndex.get_erase {index : RouteIndex} {key key' : RouteKey} :
    RouteIndex.get (AList.erase key index) key' = if key' = key then [] else index.get key' := by
  unfold get
  rw [Map.lookup_erase]
  split_ifs <;> rfl

namespace CacheState

variable {state state' : CacheState}

/-- The index holds exactly the cached candidates, under exactly their keys. -/
def Indexed (state : CacheState) : Prop :=
  ∀ key c, c ∈ state.index.get key ↔ (state.entries.lookup c).isSome ∧ key ∈ c.keys

/-- `state'` comes from `state` by dropping entries. -/
structure Shrinks (state state' : CacheState) : Prop where
  entries  : ∀ c entry, state'.entries.lookup c = some entry → state.entries.lookup c = some entry
  indexed  : state.Indexed → state'.Indexed
  inflight : state'.inflight = state.inflight
  nextId   : state'.nextId = state.nextId
  running  : state'.runningLoads = state.runningLoads
  seed     : state'.jitterSeed = state.jitterSeed

theorem Shrinks.refl (state : CacheState) : Shrinks state state :=
  ⟨fun _ _ h => h, fun h => h, rfl, rfl, rfl, rfl⟩

theorem Shrinks.trans {s t u : CacheState} (h : Shrinks s t) (h' : Shrinks t u) : Shrinks s u where
  entries c entry hc := h.entries c entry (h'.entries c entry hc)
  indexed hs := h'.indexed (h.indexed hs)
  inflight := h'.inflight.trans h.inflight
  nextId := h'.nextId.trans h.nextId
  running := h'.running.trans h.running
  seed := h'.seed.trans h.seed

-- ---------------------------------------------------------------------------
-- Removing entries
-- ---------------------------------------------------------------------------

/-- Removing an entry removes it only. -/
theorem lookup_removeEntry (state : CacheState) (candidates c : RouteCandidates) :
    (state.removeEntry candidates).entries.lookup c =
      if c = candidates then none else state.entries.lookup c := by
  unfold removeEntry
  by_cases habsent : (state.entries.lookup candidates).isNone = true
  · rw [if_pos habsent]
    by_cases hc : c = candidates
    · rw [if_pos hc, hc]
      exact Option.isNone_iff_eq_none.mp habsent
    · rw [if_neg hc]
  · rw [if_neg habsent]
    exact Map.lookup_erase state.entries candidates c

/-- With the entry its index records go. -/
theorem mem_index_removeEntry {candidates c : RouteCandidates} {key : RouteKey} :
    c ∈ (state.removeEntry candidates).index.get key ↔ c ∈ state.index.get key ∧
      ¬ (c = candidates ∧ (state.entries.lookup c).isSome ∧ key ∈ c.keys) := by
  unfold removeEntry
  split_ifs with habsent
  · rw [Option.isNone_iff_eq_none] at habsent
    refine ⟨fun h => ⟨h, ?_⟩, fun h => h.1⟩
    intro hbad
    rw [hbad.1, habsent] at hbad
    exact absurd hbad.2.1 (by simp)
  · have hpresent : (state.entries.lookup candidates).isSome := by
      rw [Option.isNone_iff_eq_none] at habsent
      exact Option.isSome_iff_ne_none.mpr habsent
    show c ∈ RouteIndex.get (candidates.keys.foldl _ state.index) key ↔ _
    rw [RouteIndex.mem_get_foldl_remove]
    refine and_congr_right fun _ => not_congr ?_
    refine ⟨fun h => ?_, fun h => ?_⟩
    · obtain ⟨hkey, rfl⟩ := h
      exact ⟨rfl, hpresent, hkey⟩
    · obtain ⟨rfl, _, hkey⟩ := h
      exact ⟨hkey, rfl⟩

/-- Removing an entry shrinks the state. -/
theorem removeEntry_shrinks (state : CacheState) (candidates : RouteCandidates) :
    Shrinks state (state.removeEntry candidates) := by
  refine ⟨?_, ?_, ?_, ?_, ?_, ?_⟩
  · intro c entry hc
    rw [lookup_removeEntry] at hc
    split_ifs at hc
    exact hc
  · intro hindexed key c
    rw [mem_index_removeEntry, hindexed key c, lookup_removeEntry]
    split_ifs with hc
    · simp only [hc, true_and, Option.isSome_none, Bool.false_eq_true, false_and, iff_false]
      tauto
    · simp [hc]
  all_goals
    unfold removeEntry
    split_ifs <;> rfl

/-- Removing entries one by one removes them only. -/
theorem lookup_foldl_removeEntry {dead : List RouteCandidates} {c : RouteCandidates} :
    (dead.foldl removeEntry state).entries.lookup c =
      if c ∈ dead then none else state.entries.lookup c := by
  induction dead generalizing state with
  | nil => simp
  | cons candidates dead ih =>
    rw [List.foldl_cons, ih, lookup_removeEntry]
    by_cases hmem : c ∈ dead
    · simp [hmem]
    · by_cases hc : c = candidates <;> simp [hmem, hc]

/-- With the entries their index records go. -/
theorem mem_index_foldl_removeEntry {dead : List RouteCandidates} {c : RouteCandidates}
    {key : RouteKey} :
    c ∈ (dead.foldl removeEntry state).index.get key ↔ c ∈ state.index.get key ∧
      ¬ (c ∈ dead ∧ (state.entries.lookup c).isSome ∧ key ∈ c.keys) := by
  induction dead generalizing state with
  | nil => simp
  | cons candidates dead ih =>
    rw [List.foldl_cons, ih, mem_index_removeEntry, lookup_removeEntry, List.mem_cons]
    by_cases hc : c = candidates
    · simp only [hc, true_and, true_or, if_true, Option.isSome_none, Bool.false_eq_true,
        false_and, and_false, not_false_eq_true, and_true]
    · simp [hc]

/-- Removing entries one by one shrinks the state. -/
theorem foldl_removeEntry_shrinks (dead : List RouteCandidates) (state : CacheState) :
    Shrinks state (dead.foldl removeEntry state) := by
  induction dead generalizing state with
  | nil => exact .refl state
  | cons candidates dead ih => exact (removeEntry_shrinks state candidates).trans (ih _)

/-- Eviction order and purge time are not part of the correspondence. -/
theorem Shrinks.reorder (h : Shrinks state state') (order : List (RouteCandidates × Nat))
    (lastPurge : Option Nat) :
    Shrinks state { state' with order := order, lastPurge := lastPurge } :=
  ⟨h.entries, h.indexed, h.inflight, h.nextId, h.running, h.seed⟩

/-- Eviction shrinks the state. -/
theorem evict_shrinks (maxEntries : Nat) (order : List (RouteCandidates × Nat))
    (state : CacheState) : Shrinks state (evict maxEntries state order) := by
  induction order generalizing state with
  | nil => exact (Shrinks.refl state).reorder [] state.lastPurge
  | cons r order ih =>
    obtain ⟨key, id⟩ := r
    unfold evict
    split_ifs
    · exact (removeEntry_shrinks state key).trans (ih _)
    · exact ih state
    · exact (Shrinks.refl state).reorder _ state.lastPurge

/-- The entries that a purge at `now` removes. -/
def dead (state : CacheState) (now : Nat) : List RouteCandidates :=
  (state.entries.entries.filter fun e => decide (now ≥ e.2.staleUntil)).map (·.1)

/-- The purge of `make_room`. -/
def purge (state : CacheState) (now : Nat) : CacheState :=
  { (state.dead now).foldl removeEntry state with lastPurge := some now }

/-- A purge is a full scan, so the next one waits for `negative_ttl`. -/
def purgeDue (state : CacheState) (now : Nat) (config : CacheConfig) : Bool :=
  state.lastPurge.all fun last => decide (now - last ≥ config.negativeTtl)

/-- In a full cache a purge, if it is due, comes before eviction. -/
theorem makeRoom_full {now : Nat} {config : CacheConfig}
    (h : ¬ state.entries.size < config.maxEntries) :
    state.makeRoom now config =
      if state.purgeDue now config then
        evict config.maxEntries (state.purge now) (state.purge now).order
      else evict config.maxEntries state state.order := by
  unfold makeRoom
  rw [if_neg h]
  unfold purgeDue purge dead
  dsimp only
  split_ifs
  · rfl
  · rfl

/-- A purge shrinks the state. -/
theorem purge_shrinks (state : CacheState) (now : Nat) : Shrinks state (state.purge now) :=
  (foldl_removeEntry_shrinks (state.dead now) state).reorder _ (some now)

/-- Making room shrinks the state. -/
theorem makeRoom_shrinks (state : CacheState) (now : Nat) (config : CacheConfig) :
    Shrinks state (state.makeRoom now config) := by
  by_cases hroom : state.entries.size < config.maxEntries
  · rw [makeRoom, if_pos hroom]
    exact .refl state
  · rw [makeRoom_full hroom]
    split_ifs
    · exact (purge_shrinks state now).trans (evict_shrinks ..)
    · exact evict_shrinks ..

-- ---------------------------------------------------------------------------
-- Storing an answer
-- ---------------------------------------------------------------------------

/-- `state'` comes from `state` by storing `entry` and dropping others. -/
structure Stores (state state' : CacheState) (candidates : RouteCandidates) (entry : Entry) :
    Prop where
  stored   : state'.entries.lookup candidates = some entry
  others   : ∀ c e, c ≠ candidates → state'.entries.lookup c = some e →
    state.entries.lookup c = some e
  indexed  : state.Indexed → state'.Indexed
  inflight : state'.inflight = state.inflight
  nextId   : state'.nextId = state.nextId + 1
  running  : state'.runningLoads = state.runningLoads
  seed     : state'.jitterSeed = state.jitterSeed

/-- The index lists `candidates` as well as what is cached. -/
def IndexedWith (state : CacheState) (candidates : RouteCandidates) : Prop :=
  ∀ key c, c ∈ state.index.get key ↔
    (c = candidates ∨ (state.entries.lookup c).isSome) ∧ key ∈ c.keys

/-- After registration the index lists the candidates; at most entries go. -/
theorem register_spec (state : CacheState) (candidates : RouteCandidates) (now : Nat)
    (config : CacheConfig) :
    (∀ c entry, (state.register candidates now config).entries.lookup c = some entry →
      state.entries.lookup c = some entry) ∧
    (state.Indexed → (state.register candidates now config).IndexedWith candidates) ∧
    (state.register candidates now config).inflight = state.inflight ∧
    (state.register candidates now config).nextId = state.nextId ∧
    (state.register candidates now config).runningLoads = state.runningLoads ∧
    (state.register candidates now config).jitterSeed = state.jitterSeed := by
  unfold register
  split_ifs with hpresent
  · refine ⟨fun _ _ h => h, ?_, rfl, rfl, rfl, rfl⟩
    intro hindexed key c
    rw [hindexed key c]
    by_cases hc : c = candidates
    · subst hc
      simp [hpresent]
    · simp [hc]
  · have hroom := makeRoom_shrinks state now config
    refine ⟨hroom.entries, ?_, hroom.inflight, hroom.nextId, hroom.running, hroom.seed⟩
    intro hindexed key c
    show c ∈ RouteIndex.get (candidates.keys.foldl _ _) key ↔ _
    rw [RouteIndex.mem_get_foldl_add, hroom.indexed hindexed key c]
    by_cases hc : c = candidates
    · subst hc
      simp only [and_true, true_or, true_and]
      tauto
    · simp [hc]

/-- Compaction leaves the index alone. -/
theorem compactOrder_index (state : CacheState) (config : CacheConfig) :
    (state.compactOrder config).index = state.index := by
  unfold compactOrder
  split_ifs <;> rfl

/-- Compaction only touches the eviction order. -/
theorem Stores.compactOrder {candidates : RouteCandidates} {entry : Entry}
    (h : Stores state state' candidates entry) (config : CacheConfig) :
    Stores state (state'.compactOrder config) candidates entry := by
  unfold CacheState.compactOrder
  split_ifs
  · exact ⟨h.stored, h.others, h.indexed, h.inflight, h.nextId, h.running, h.seed⟩
  · exact h

/-- A cache for no entries stores none. -/
theorem insert_disabled {candidates : RouteCandidates} {hits : Answer} {config : CacheConfig}
    {now : Nat} (h : config.maxEntries = 0) : state.insert candidates hits config now = state :=
  if_pos h

/-- What an insertion is to write, and it does not panic. -/
theorem entryOf_eq_some_iff {jitterSeed : Nat → UInt64} {config : CacheConfig} {hits : Answer}
    {now id : Nat} {entry : Entry} : entryOf jitterSeed config hits now id = some entry ↔
      later now (entryTtl jitterSeed config hits id) = some entry.expires ∧
        later entry.expires (config.staleIfError.getD 0) = some entry.staleUntil ∧
        entry.hits = hits ∧ entry.id = id := by
  obtain ⟨hits', expires, staleUntil, id'⟩ := entry
  simp only [entryOf, Option.bind_eq_some_iff, Option.map_eq_some_iff, Entry.mk.injEq]
  constructor
  · rintro ⟨_, hexpires, _, hstale, rfl, rfl, rfl, rfl⟩
    exact ⟨hexpires, hstale, rfl, rfl⟩
  · rintro ⟨hexpires, hstale, rfl, rfl⟩
    exact ⟨_, hexpires, _, hstale, rfl, rfl, rfl, rfl⟩

/-- An insertion takes an id, makes room, and then writes. -/
theorem insert_enabled {candidates : RouteCandidates} {hits : Answer} {config : CacheConfig}
    {now : Nat} {entry : Entry} (h : config.maxEntries ≠ 0)
    (hentry : entryOf state.jitterSeed config hits now state.nextId = some entry) :
    state.insert candidates hits config now =
      ({ state.takeId.2.register candidates now config with
        entries := (state.takeId.2.register candidates now config).entries.insert candidates entry
        order := (state.takeId.2.register candidates now config).order ++
          [(candidates, state.nextId)] } : CacheState).compactOrder config := by
  have htaken : entryOf state.takeId.2.jitterSeed config hits now state.takeId.1 = some entry :=
    hentry
  unfold insert
  rw [if_neg h]
  dsimp only
  rw [htaken]
  rfl

/-- An insertion that panics has only taken its id. -/
theorem insert_panicked {candidates : RouteCandidates} {hits : Answer} {config : CacheConfig}
    {now : Nat} (h : config.maxEntries ≠ 0)
    (hentry : entryOf state.jitterSeed config hits now state.nextId = none) :
    state.insert candidates hits config now = state.takeId.2 := by
  have htaken : entryOf state.takeId.2.jitterSeed config hits now state.takeId.1 = none := hentry
  unfold insert
  rw [if_neg h]
  dsimp only
  rw [htaken]

/-- A successful load's answer is stored with its expiry. -/
theorem insert_stores {candidates : RouteCandidates} {hits : Answer} {config : CacheConfig}
    {now : Nat} {entry : Entry} (h : config.maxEntries ≠ 0)
    (hentry : entryOf state.jitterSeed config hits now state.nextId = some entry) :
    Stores state (state.insert candidates hits config now) candidates entry := by
  rw [insert_enabled h hentry]
  obtain ⟨hentries, hindex, hinflight, hnext, hrunning, hseed⟩ :=
    register_spec state.takeId.2 candidates now config
  refine Stores.compactOrder ?_ config
  refine ⟨?_, ?_, ?_, hinflight, hnext, hrunning, hseed⟩
  · exact (Map.lookup_insert ..).trans (if_pos rfl)
  · intro c entry hne hc
    exact hentries c entry ((Map.lookup_insert ..).trans (if_neg hne) ▸ hc)
  · intro hindexed key c
    refine (hindex hindexed key c).trans ?_
    show _ ↔ (AList.lookup c (AList.insert candidates _
      (state.takeId.2.register candidates now config).entries)).isSome = true ∧ _
    rw [Map.lookup_insert]
    by_cases hc : c = candidates <;> simp [hc]

/-- What any insertion does: nothing, take an id, or store the entry. -/
theorem insert_cases (state : CacheState) (candidates : RouteCandidates) (hits : Answer)
    (config : CacheConfig) (now : Nat) :
    state.insert candidates hits config now = state ∨
      state.insert candidates hits config now = state.takeId.2 ∨
      ∃ entry, config.maxEntries ≠ 0 ∧
        entryOf state.jitterSeed config hits now state.nextId = some entry ∧
        Stores state (state.insert candidates hits config now) candidates entry := by
  by_cases hmax : config.maxEntries = 0
  · exact .inl (insert_disabled hmax)
  · cases hentry : entryOf state.jitterSeed config hits now state.nextId with
    | none => exact .inr (.inl (insert_panicked hmax hentry))
    | some entry => exact .inr (.inr ⟨entry, hmax, rfl, insert_stores hmax hentry⟩)

-- ---------------------------------------------------------------------------
-- The sections
-- ---------------------------------------------------------------------------

/-- A load that ends gives back its count, and its slot if it owns it. -/
theorem lookup_release {candidates c : RouteCandidates} {id : Nat} :
    (state.release candidates id).inflight.lookup c =
      if state.ownsSlot candidates id ∧ c = candidates then none
      else state.inflight.lookup c := by
  unfold release
  by_cases howns : state.ownsSlot candidates id = true
  · rw [if_pos howns]
    simp only [howns, true_and]
    exact Map.lookup_erase ..
  · simp [howns]

/-- What the finish section does to the slots and the counter. -/
theorem finishLoad_inflight (state : CacheState) (config : CacheConfig) (now : Nat)
    (candidates : RouteCandidates) (id : Nat) (result : LoadResult) :
    (state.finishLoad config now candidates id result).inflight =
        (state.release candidates id).inflight ∧
      (state.finishLoad config now candidates id result).runningLoads = state.runningLoads - 1 ∧
      state.nextId ≤ (state.finishLoad config now candidates id result).nextId ∧
      (state.finishLoad config now candidates id result).jitterSeed = state.jitterSeed ∧
      (state.Indexed → (state.finishLoad config now candidates id result).Indexed) := by
  unfold finishLoad
  cases result with
  | ok hits =>
    dsimp only
    split_ifs
    · rcases insert_cases (state.release candidates id) candidates hits config now with
        hsame | hpanic | ⟨entry, -, -, hstores⟩
      · rw [hsame]
        exact ⟨rfl, rfl, Nat.le_refl _, rfl, fun h => h⟩
      · rw [hpanic]
        exact ⟨rfl, rfl, Nat.le_succ _, rfl, fun h => h⟩
      · refine ⟨hstores.inflight, hstores.running, ?_, hstores.seed, hstores.indexed⟩
        rw [hstores.nextId]
        exact Nat.le_succ _
    · exact ⟨rfl, rfl, Nat.le_refl _, rfl, fun h => h⟩
  | error e =>
    dsimp only
    split_ifs
    · have hshrinks := removeEntry_shrinks (state.release candidates id) candidates
      refine ⟨hshrinks.inflight, hshrinks.running, ?_, hshrinks.seed, hshrinks.indexed⟩
      rw [hshrinks.nextId]
      exact Nat.le_refl _
    · exact ⟨rfl, rfl, Nat.le_refl _, rfl, fun h => h⟩

/-- Every entry after a load has ended was there before, or is the answer of a
load that still owned its slot. -/
theorem lookup_finishLoad {config : CacheConfig} {now id : Nat} {candidates c : RouteCandidates}
    {result : LoadResult} {entry : Entry}
    (h : (state.finishLoad config now candidates id result).entries.lookup c = some entry) :
    state.entries.lookup c = some entry ∨
      c = candidates ∧ state.ownsSlot candidates id = true ∧ config.maxEntries ≠ 0 ∧
        ∃ hits, result = .ok hits ∧
          entryOf state.jitterSeed config hits now state.nextId = some entry := by
  unfold finishLoad at h
  cases result with
  | ok hits =>
    dsimp only at h
    split_ifs at h with howns
    · rcases insert_cases (state.release candidates id) candidates hits config now with
        hsame | hpanic | ⟨stored, hmax, hentry, hstores⟩
      · rw [hsame] at h
        exact .inl h
      · rw [hpanic] at h
        exact .inl h
      · by_cases hc : c = candidates
        · right
          rw [hc, hstores.stored] at h
          injection h with h
          exact ⟨hc, howns, hmax, hits, rfl, h ▸ hentry⟩
        · exact .inl (hstores.others c entry hc h)
    · exact .inl h
  | error e =>
    dsimp only at h
    split_ifs at h
    · exact .inl ((removeEntry_shrinks (state.release candidates id) candidates).entries c entry h)
    · exact .inl h

/-- A section that is to store an answer, and can, does not panic. -/
theorem finishPanics_of_entry {config : CacheConfig} {now id : Nat} {candidates : RouteCandidates}
    {hits : Answer} {entry : Entry}
    (h : entryOf state.jitterSeed config hits now state.nextId = some entry) :
    state.finishPanics config now candidates id (.ok hits) = false := by
  rw [finishPanics, insertPanics, h, Option.isNone_some, Bool.and_false, Bool.and_false]

/-- A failed load leaves every entry, or removes its own past its stale
window. -/
theorem lookup_finishLoad_error (state : CacheState) (config : CacheConfig) (now : Nat)
    (candidates : RouteCandidates) (id : Nat) (error : LookupError) (c : RouteCandidates) :
    (state.finishLoad config now candidates id (.error error)).entries.lookup c =
        state.entries.lookup c ∨
      c = candidates ∧
        (state.finishLoad config now candidates id (.error error)).entries.lookup c = none ∧
        ∃ entry, state.entries.lookup c = some entry ∧ entry.staleUntil ≤ now := by
  unfold finishLoad
  dsimp only
  split_ifs with hdead
  · rw [lookup_removeEntry]
    by_cases hc : c = candidates
    · right
      obtain ⟨entry, hentry, hnow⟩ := (Option.any_eq_true _ _).mp hdead
      exact ⟨hc, if_pos hc, entry, hc ▸ hentry, of_decide_eq_true hnow⟩
    · left
      rw [if_neg hc]
      rfl
  · exact .inl rfl

/-- Invalidation leaves exactly the entries and slots that the key could not
have answered. -/
theorem lookup_invalidate {key : RouteKey} (hindexed : state.Indexed) (c : RouteCandidates) :
    (state.invalidate key).entries.lookup c =
        (if c.contains key then none else state.entries.lookup c) ∧
      (state.invalidate key).inflight.lookup c =
        (if c.contains key then none else state.inflight.lookup c) := by
  have hshrinks := foldl_removeEntry_shrinks (state.index.get key)
    { state with index := state.index.erase key }
  refine ⟨?_, ?_⟩
  · refine lookup_foldl_removeEntry.trans ?_
    show (if c ∈ state.index.get key then none else state.entries.lookup c) = _
    by_cases hkey : c.contains key = true
    · rw [if_pos hkey]
      split_ifs with hmem
      · rfl
      · rw [hindexed, RouteCandidates.contains_iff.mp hkey |> eq_true, and_true] at hmem
        simpa using hmem
    · rw [if_neg hkey, if_neg ?_]
      intro hmem
      exact hkey (RouteCandidates.contains_iff.mpr ((hindexed key c).mp hmem).2)
  · show (Map.retain _ _).lookup c = _
    rw [Map.lookup_retain, hshrinks.inflight]
    cases hslot : state.inflight.lookup c with
    | none => simp
    | some slot => by_cases hkey : c.contains key = true <;> simp [Option.filter, hkey]

/-- An invalidation keeps the index exact for the entries. -/
theorem invalidate_indexed {key : RouteKey} (hindexed : state.Indexed) :
    (state.invalidate key).Indexed := by
  intro key' c
  rw [(lookup_invalidate hindexed c).1]
  refine mem_index_foldl_removeEntry.trans ?_
  show c ∈ RouteIndex.get (AList.erase key state.index) key' ∧
    ¬ (c ∈ state.index.get key ∧ (state.entries.lookup c).isSome ∧ key' ∈ c.keys) ↔ _
  rw [RouteIndex.get_erase, hindexed key c]
  by_cases hkey : c.contains key = true
  · have hmem := RouteCandidates.contains_iff.mp hkey
    rw [if_pos hkey]
    by_cases heq : key' = key
    · simp [heq]
    · rw [if_neg heq, hindexed key' c]
      simp [hmem]
  · have hmem : key ∉ c.keys := fun h => hkey (RouteCandidates.contains_iff.mpr h)
    rw [if_neg hkey]
    by_cases heq : key' = key
    · simp [heq, hmem]
    · rw [if_neg heq, hindexed key' c]
      simp [hmem]

/-- An invalidation leaves ids, counter and seed alone. -/
theorem invalidate_rest (state : CacheState) (key : RouteKey) :
    (state.invalidate key).nextId = state.nextId ∧
      (state.invalidate key).runningLoads = state.runningLoads ∧
      (state.invalidate key).jitterSeed = state.jitterSeed := by
  have hshrinks := foldl_removeEntry_shrinks (state.index.get key)
    { state with index := state.index.erase key }
  exact ⟨hshrinks.nextId, hshrinks.running, hshrinks.seed⟩

/-- An empty cache has an empty index. -/
theorem clear_indexed (state : CacheState) : state.clear.Indexed := by
  intro key c
  simp [clear, RouteIndex.get]

end CacheState

end SniRouter
