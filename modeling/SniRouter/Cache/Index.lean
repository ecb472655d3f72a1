import SniRouter.Cache.Operations

/-!
# SniRouter — the reverse index

The index makes an invalidation look at one bucket instead of at every entry.
After any sequence of operations it maps each key to exactly the cached
candidates that contain it, and keeps no empty bucket, so walking the bucket is
the same as filtering the whole cache.

* `RouteIndex.Tidy` — no bucket is empty or holds candidates twice.
* `CacheState.IndexExact` — the index is the inverse of what is cached.
* `invalidate_filters` — an invalidation is a filter.
-/

namespace SniRouter

-- ---------------------------------------------------------------------------
-- Buckets
-- ---------------------------------------------------------------------------

/-- No key is indexed with an empty set, nor any candidates twice under it. -/
def RouteIndex.Tidy (index : RouteIndex) : Prop :=
  ∀ key indexed, index.lookup key = some indexed → indexed ≠ [] ∧ indexed.Nodup

namespace RouteIndex.Tidy

variable {index : RouteIndex} {key : RouteKey} {candidates : RouteCandidates}

/-- No entry is indexed twice under a key. -/
theorem get_nodup (h : index.Tidy) (key : RouteKey) : (index.get key).Nodup := by
  unfold RouteIndex.get
  cases hlookup : index.lookup key with
  | none => exact List.nodup_nil
  | some indexed => exact (h key indexed hlookup).2

/-- Replacing one bucket by a tidy one. -/
theorem insert (h : index.Tidy) {bucket : List RouteCandidates} (hne : bucket ≠ [])
    (hnodup : bucket.Nodup) : RouteIndex.Tidy (AList.insert key bucket index) := by
  intro key' indexed hlookup
  rw [Map.lookup_insert] at hlookup
  by_cases hkey : key' = key
  · rw [if_pos hkey] at hlookup
    injection hlookup with hlookup
    exact hlookup ▸ ⟨hne, hnodup⟩
  · rw [if_neg hkey] at hlookup
    exact h key' indexed hlookup

/-- Erasing a key keeps the index tidy. -/
theorem erase (h : index.Tidy) : RouteIndex.Tidy (AList.erase key index) := by
  intro key' indexed hlookup
  rw [Map.lookup_erase] at hlookup
  split_ifs at hlookup
  exact h key' indexed hlookup

/-- Adding under a key keeps it tidy. -/
theorem add (h : index.Tidy) : (index.add key candidates).Tidy := by
  refine h.insert (fun hempty => ?_) (List.Nodup.insert (h.get_nodup key))
  have hmem : candidates ∈ (index.get key).insert candidates := List.mem_insert_self
  rw [hempty] at hmem
  exact absurd hmem List.not_mem_nil

/-- Removing under a key keeps it tidy. -/
theorem remove (h : index.Tidy) : (index.remove key candidates).Tidy := by
  unfold RouteIndex.remove
  cases hlookup : index.lookup key with
  | none => exact h
  | some indexed =>
    dsimp only
    have hnodup := (h key indexed hlookup).2.filter (fun c => decide (c ≠ candidates))
    split_ifs with hempty
    · exact h.erase
    · exact h.insert (fun hnil => hempty (List.isEmpty_iff.mpr hnil)) hnodup

/-- Adding under all keys of an entry keeps it tidy. -/
theorem foldl_add (keys : List RouteKey) (h : index.Tidy) :
    RouteIndex.Tidy (keys.foldl (fun index key => index.add key candidates) index) := by
  induction keys generalizing index with
  | nil => exact h
  | cons key keys ih => exact ih h.add

/-- Removing under all keys of an entry keeps it tidy. -/
theorem foldl_remove (keys : List RouteKey) (h : index.Tidy) :
    RouteIndex.Tidy (keys.foldl (fun index key => index.remove key candidates) index) := by
  induction keys generalizing index with
  | nil => exact h
  | cons key keys ih => exact ih h.remove

end RouteIndex.Tidy

-- ---------------------------------------------------------------------------
-- The operations keep the buckets tidy
-- ---------------------------------------------------------------------------

namespace CacheState

variable {state : CacheState} {config : CacheConfig} {now : Nat}

theorem tidy_removeEntry (h : state.index.Tidy) (candidates : RouteCandidates) :
    (state.removeEntry candidates).index.Tidy := by
  unfold removeEntry
  split_ifs
  · exact h
  · exact h.foldl_remove candidates.keys

theorem tidy_foldl_removeEntry (h : state.index.Tidy) (dead : List RouteCandidates) :
    (dead.foldl removeEntry state).index.Tidy := by
  induction dead generalizing state with
  | nil => exact h
  | cons candidates dead ih => exact ih (tidy_removeEntry h candidates)

theorem tidy_purge (h : state.index.Tidy) (now : Nat) : (state.purge now).index.Tidy :=
  tidy_foldl_removeEntry h (state.dead now)

theorem tidy_evict (h : state.index.Tidy) (maxEntries : Nat)
    (order : List (RouteCandidates × Nat)) : (evict maxEntries state order).index.Tidy := by
  induction order generalizing state with
  | nil => exact h
  | cons r order ih =>
    obtain ⟨key, id⟩ := r
    unfold evict
    split_ifs
    · exact ih (tidy_removeEntry h key)
    · exact ih h
    · exact h

theorem tidy_makeRoom (h : state.index.Tidy) : (state.makeRoom now config).index.Tidy := by
  by_cases hroom : state.entries.size < config.maxEntries
  · rw [makeRoom, if_pos hroom]
    exact h
  · rw [makeRoom_full hroom]
    split_ifs
    · exact tidy_evict (tidy_purge h now) _ _
    · exact tidy_evict h _ _

theorem tidy_register (h : state.index.Tidy) (candidates : RouteCandidates) :
    (state.register candidates now config).index.Tidy := by
  unfold register
  split_ifs
  · exact h
  · exact (tidy_makeRoom h).foldl_add candidates.keys

theorem tidy_insert (h : state.index.Tidy) (candidates : RouteCandidates) (hits : Answer) :
    (state.insert candidates hits config now).index.Tidy := by
  have htaken : state.takeId.2.index.Tidy := h
  by_cases hmax : config.maxEntries = 0
  · rw [insert_disabled hmax]
    exact h
  · cases hentry : entryOf state.jitterSeed config hits now state.nextId with
    | none =>
      rw [insert_panicked hmax hentry]
      exact htaken
    | some entry =>
      rw [insert_enabled hmax hentry, compactOrder_index]
      exact tidy_register htaken candidates

theorem tidy_finishLoad (h : state.index.Tidy) (candidates : RouteCandidates) (id : Nat)
    (result : LoadResult) : (state.finishLoad config now candidates id result).index.Tidy := by
  have hrelease : (state.release candidates id).index.Tidy := h
  unfold finishLoad
  cases result with
  | ok hits =>
    dsimp only
    split_ifs
    · exact tidy_insert hrelease candidates hits
    · exact hrelease
  | error e =>
    dsimp only
    split_ifs
    · exact tidy_removeEntry hrelease candidates
    · exact hrelease

/-- The bucket of the key is taken out of the index before it is walked. -/
theorem tidy_invalidate (h : state.index.Tidy) (key : RouteKey) :
    (state.invalidate key).index.Tidy := by
  have herased : RouteIndex.Tidy (AList.erase key state.index) := h.erase
  have hrest : CacheState.index { state with index := state.index.erase key } |>.Tidy := herased
  exact tidy_foldl_removeEntry hrest (state.index.get key)

-- ---------------------------------------------------------------------------
-- Every operation keeps the index exact
-- ---------------------------------------------------------------------------

/-- An insertion keeps the index exact for the entries. -/
theorem insert_indexed (h : state.Indexed) (candidates : RouteCandidates) (hits : Answer) :
    (state.insert candidates hits config now).Indexed := by
  rcases insert_cases state candidates hits config now with hsame | hpanic | ⟨_, -, -, hstores⟩
  · rw [hsame]
    exact h
  · rw [hpanic]
    exact h
  · exact hstores.indexed h

/-- Every operation keeps the index exact for the entries. -/
theorem operate_indexed (h : state.Indexed) (op : CacheOp) :
    (state.operate config now op).Indexed := by
  cases op with
  | tick => exact h
  | startLoad => exact h
  | finishLoad candidates id result =>
    exact (state.finishLoad_inflight config now candidates id result).2.2.2.2 h
  | insert candidates hits => exact insert_indexed h candidates hits
  | remove candidates => exact (state.removeEntry_shrinks candidates).indexed h
  | invalidate => exact invalidate_indexed h
  | clear => exact state.clear_indexed

/-- Every operation keeps the index tidy. -/
theorem operate_tidy (h : state.index.Tidy) (op : CacheOp) :
    (state.operate config now op).index.Tidy := by
  cases op with
  | tick => exact h
  | startLoad => exact h
  | finishLoad candidates id result => exact tidy_finishLoad h candidates id result
  | insert candidates hits => exact tidy_insert h candidates hits
  | remove candidates => exact tidy_removeEntry h candidates
  | invalidate key => exact tidy_invalidate h key
  | clear => exact fun _ _ hlookup => absurd hlookup (by simp [operate, clear])

/-- The index maps each key to the set of cached candidates that contain it,
and has no empty sets. -/
structure IndexExact (state : CacheState) : Prop where
  bucket : ∀ key indexed, state.index.lookup key = some indexed →
    indexed ≠ [] ∧ indexed.Nodup ∧
      ∀ c, c ∈ indexed ↔ (state.entries.lookup c).isSome ∧ c.contains key = true
  absent : ∀ key, state.index.lookup key = none →
    ∀ c, (state.entries.lookup c).isSome → c.contains key = false

/-- A tidy index of exactly the cached entries is exact. -/
theorem Indexed.exact (h : state.Indexed) (htidy : state.index.Tidy) : state.IndexExact := by
  refine ⟨?_, ?_⟩
  · intro key indexed hlookup
    obtain ⟨hne, hnodup⟩ := htidy key indexed hlookup
    refine ⟨hne, hnodup, fun c => ?_⟩
    have hget : state.index.get key = indexed := by
      unfold RouteIndex.get
      rw [hlookup]
      rfl
    rw [← hget, h key c, RouteCandidates.contains_iff]
  · intro key hlookup c hcached
    have hget : state.index.get key = [] := by
      unfold RouteIndex.get
      rw [hlookup]
      rfl
    by_contra hcontains
    have hmem := (h key c).mpr
      ⟨hcached, RouteCandidates.contains_iff.mp ((Bool.not_eq_false _).mp hcontains)⟩
    rw [hget] at hmem
    exact absurd hmem List.not_mem_nil

end CacheState

variable {config : CacheConfig} {jitterSeed : Nat → UInt64} {s : TimedCache}

/-- The index is exact after any sequence of operations. -/
theorem cacheOps_indexed (hr : (cacheOps config jitterSeed).Reachable s) :
    s.cache.Indexed ∧ s.cache.index.Tidy := by
  refine ⟨TimedCache.invariant CacheState.Indexed ?_ ?_ hr,
    TimedCache.invariant (fun state => state.index.Tidy) ?_ ?_ hr⟩
  · intro key c
    simp [CacheState.new, RouteIndex.get]
  · exact fun _ op _ hindexed => CacheState.operate_indexed hindexed op
  · exact fun _ _ hlookup => absurd hlookup (by simp [CacheState.new])
  · exact fun _ op _ htidy => CacheState.operate_tidy htidy op

/-- **The reverse index makes an invalidation a filter.** After any sequence of
operations the index is exactly the inverse of what is cached, and so an
`invalidate` leaves exactly the entries and in-flight slots whose candidates do
not contain the key, each as it was. -/
theorem invalidate_filters (hr : (cacheOps config jitterSeed).Reachable s) :
    s.cache.IndexExact ∧ ∀ key c,
      (s.cache.invalidate key).entries.lookup c =
        (s.cache.entries.retain fun c _ => !c.contains key).lookup c ∧
      (s.cache.invalidate key).inflight.lookup c =
        (s.cache.inflight.retain fun c _ => !c.contains key).lookup c := by
  obtain ⟨hindexed, htidy⟩ := cacheOps_indexed hr
  refine ⟨hindexed.exact htidy, fun key c => ?_⟩
  obtain ⟨hentries, hinflight⟩ := @CacheState.lookup_invalidate _ key hindexed c
  have hkeep : ∀ {V : Type} (m : Map RouteCandidates V),
      (m.retain fun c _ => !c.contains key).lookup c =
        if c.contains key then none else m.lookup c := by
    intro V m
    refine (Map.lookup_retain_key (fun c : RouteCandidates => !c.contains key) m c).trans ?_
    by_cases hcontains : c.contains key = true
    · simp [hcontains]
    · simp [hcontains]
  exact ⟨hentries.trans (hkeep _).symm, hinflight.trans (hkeep _).symm⟩

/-- Two hostnames share their wildcard; one entry is replaced before the
wildcard is invalidated. -/
theorem invalidate_filters_at :
    ∃ (a b : RouteCandidates) (key : RouteKey) (s : TimedCache),
      (cacheOps .default fun _ => 0).run
        [.insert a ⟨[], 0⟩, .insert b ⟨[], 1⟩, .insert a ⟨[], 2⟩, .startLoad b 3]
        ⟨0, .new fun _ => 0⟩ = some s ∧
      s.cache.index.lookup key = some [b, a] ∧ s.cache.IndexExact ∧
      (s.cache.invalidate key).entries.lookup a =
        (s.cache.entries.retain fun c _ => !c.contains key).lookup a := by
  let key : RouteKey := ⟨[120, 46, 121], true⟩
  let a : RouteCandidates := ⟨⟨[97], false⟩, some key⟩
  let b : RouteCandidates := ⟨⟨[98], false⟩, some key⟩
  obtain ⟨s, hrun, hbucket⟩ : ∃ s, (cacheOps .default fun _ => 0).run
      [.insert a ⟨[], 0⟩, .insert b ⟨[], 1⟩, .insert a ⟨[], 2⟩, .startLoad b 3]
      ⟨0, .new fun _ => 0⟩ = some s ∧ s.cache.index.lookup key = some [b, a] :=
    Option.map_eq_some_iff.mp (by decide +kernel)
  obtain ⟨hexact, hfilter⟩ := invalidate_filters ⟨_, _, rfl, hrun⟩
  exact ⟨a, b, key, s, hrun, hbucket, hexact, (hfilter key a).1⟩

end SniRouter
