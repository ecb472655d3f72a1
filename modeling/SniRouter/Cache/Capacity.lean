import SniRouter.Cache.Index

/-!
# SniRouter — capacity and eviction order

`order` is maintained lazily: it keeps the records of entries that were removed
or replaced, and is only compacted once it is twice the capacity. What makes
the eviction loop work all the same is that every live entry keeps its record
and that ids only grow along the list.

* `CacheState.Ordered` — the invariant that ties the two structures together.
* `CacheState.Prunes` — what removal, purging and eviction do to it.
* `evict_full` — the loop on a full cache takes the entry with the smallest id.
* `cache_capacity` — the invariant after any sequence of operations, and what
  an insert into a full cache removes.
-/

namespace SniRouter

namespace CacheState

variable {state state' : CacheState} {config : CacheConfig} {now : Nat}

-- ---------------------------------------------------------------------------
-- The invariant
-- ---------------------------------------------------------------------------

/-- The eviction order records every live entry, in the order of the ids. -/
structure Recorded (state : CacheState) : Prop where
  increasing : state.order.Pairwise fun r r' => r.2 < r'.2
  issued     : ∀ r ∈ state.order, r.2 < state.nextId
  live       : ∀ c entry, state.entries.lookup c = some entry → (c, entry.id) ∈ state.order

/-- The bounds of the cache, with the records that they rest on. -/
structure Ordered (config : CacheConfig) (state : CacheState) : Prop where
  recorded : state.Recorded
  capacity : state.entries.size ≤ config.maxEntries
  bounded  : state.order.length ≤ 2 * config.maxEntries

/-- An empty cache records nothing. -/
theorem new_recorded (jitterSeed : Nat → UInt64) : (new jitterSeed).Recorded where
  increasing := .nil
  issued _ hr := absurd hr List.not_mem_nil
  live _ _ h := absurd h (by simp [new])

/-- A live entry has one record with its id. -/
theorem Recorded.filter_eq (h : state.Recorded) {c : RouteCandidates} {entry : Entry}
    (hc : state.entries.lookup c = some entry) :
    state.order.filter (fun r => r.2 == entry.id) = [(c, entry.id)] := by
  have hlive := h.live c entry hc
  obtain ⟨before, after, hsplit⟩ := List.append_of_mem hlive
  have hincreasing := h.increasing
  rw [hsplit, List.pairwise_append, List.pairwise_cons] at hincreasing
  obtain ⟨-, ⟨hafter, -⟩, hbefore⟩ := hincreasing
  rw [hsplit, List.filter_append, List.filter_cons_of_pos (by simp)]
  have hnone : before.filter (fun r => r.2 == entry.id) = [] := by
    refine List.filter_eq_nil_iff.mpr fun r hr => ?_
    have hlt := hbefore r hr _ List.mem_cons_self
    simp only [beq_iff_eq]
    omega
  have hnone' : after.filter (fun r => r.2 == entry.id) = [] := by
    refine List.filter_eq_nil_iff.mpr fun r hr => ?_
    have hlt := hafter r hr
    simp only [beq_iff_eq]
    omega
  rw [hnone, hnone', List.nil_append]

-- ---------------------------------------------------------------------------
-- Removal
-- ---------------------------------------------------------------------------

/-- `state'` comes from `state` by dropping entries, and records of entries that
are gone. -/
structure Prunes (state state' : CacheState) : Prop where
  entries : ∀ c entry, state'.entries.lookup c = some entry → state.entries.lookup c = some entry
  order   : state'.order.Sublist state.order
  kept    : ∀ c entry, state'.entries.lookup c = some entry → (c, entry.id) ∈ state.order →
    (c, entry.id) ∈ state'.order
  nextId  : state'.nextId = state.nextId

theorem Prunes.refl (state : CacheState) : Prunes state state :=
  ⟨fun _ _ h => h, .refl _, fun _ _ _ h => h, rfl⟩

theorem Prunes.trans {s t u : CacheState} (h : Prunes s t) (h' : Prunes t u) : Prunes s u where
  entries c entry hc := h.entries c entry (h'.entries c entry hc)
  order := h'.order.trans h.order
  kept c entry hc hmem := h'.kept c entry hc (h.kept c entry (h'.entries c entry hc) hmem)
  nextId := h'.nextId.trans h.nextId

/-- What drops entries makes the cache no larger. -/
theorem Prunes.size_le (h : Prunes state state') : state'.entries.size ≤ state.entries.size :=
  Map.size_le_size h.entries

/-- What drops entries keeps the records of those that stay. -/
theorem Prunes.recorded (h : Prunes state state') (hr : state.Recorded) : state'.Recorded where
  increasing := hr.increasing.sublist h.order
  issued r hmem := h.nextId ▸ hr.issued r (h.order.subset hmem)
  live c entry hc := h.kept c entry hc (hr.live c entry (h.entries c entry hc))

/-- Dropping entries keeps the bounds. -/
theorem Prunes.ordered (h : Prunes state state') (hs : Ordered config state) :
    Ordered config state' where
  recorded := h.recorded hs.recorded
  capacity := h.size_le.trans hs.capacity
  bounded := h.order.length_le.trans hs.bounded

/-- The order is left to be compacted later. -/
theorem removeEntry_order (state : CacheState) (candidates : RouteCandidates) :
    (state.removeEntry candidates).order = state.order := by
  unfold removeEntry
  split_ifs <;> rfl

/-- Removing an entry drops it. -/
theorem removeEntry_prunes (state : CacheState) (candidates : RouteCandidates) :
    Prunes state (state.removeEntry candidates) := by
  have hshrinks := removeEntry_shrinks state candidates
  have horder := removeEntry_order state candidates
  exact ⟨hshrinks.entries, horder ▸ .refl _, fun _ _ _ hmem => horder ▸ hmem, hshrinks.nextId⟩

/-- Removing entries one by one drops them. -/
theorem foldl_removeEntry_prunes (dead : List RouteCandidates) (state : CacheState) :
    Prunes state (dead.foldl removeEntry state) := by
  induction dead generalizing state with
  | nil => exact .refl state
  | cons candidates dead ih => exact (removeEntry_prunes state candidates).trans (ih _)

/-- A purge drops dead entries. -/
theorem purge_prunes (state : CacheState) (now : Nat) : Prunes state (state.purge now) := by
  obtain ⟨hentries, horder, hkept, hnext⟩ := foldl_removeEntry_prunes (state.dead now) state
  exact ⟨hentries, horder, hkept, hnext⟩

/-- The dead entries are those past their stale window. -/
theorem mem_dead {c : RouteCandidates} :
    c ∈ state.dead now ↔ ∃ entry, state.entries.lookup c = some entry ∧ entry.staleUntil ≤ now := by
  unfold dead
  rw [List.mem_map]
  constructor
  · rintro ⟨⟨c, entry⟩, hmem, rfl⟩
    obtain ⟨hmem, hdead⟩ := List.mem_filter.mp hmem
    exact ⟨entry, Map.lookup_eq_some_iff.mpr hmem, of_decide_eq_true hdead⟩
  · rintro ⟨entry, hc, hdead⟩
    have hmem := Map.lookup_eq_some_iff.mp hc
    exact ⟨⟨c, entry⟩, List.mem_filter.mpr ⟨hmem, decide_eq_true hdead⟩, rfl⟩

/-- Something in the cache is past its stale window. -/
def HasDead (state : CacheState) (now : Nat) : Prop :=
  ∃ c entry, state.entries.lookup c = some entry ∧ entry.staleUntil ≤ now

/-- A purge keeps what is within its stale window. -/
theorem lookup_purge {c : RouteCandidates} {entry : Entry}
    (hc : state.entries.lookup c = some entry) :
    (state.purge now).entries.lookup c = some entry ↔ ¬ entry.staleUntil ≤ now := by
  have hlookup : (state.purge now).entries.lookup c =
      if c ∈ state.dead now then none else state.entries.lookup c := lookup_foldl_removeEntry
  have hmem : c ∈ state.dead now ↔ entry.staleUntil ≤ now := by
    rw [mem_dead, hc]
    simp
  rw [hlookup, hc, ← hmem]
  split_ifs with hdead
  · simp [hdead]
  · simp [hdead]

/-- A purge of something dead frees a slot. -/
theorem purge_frees (h : state.HasDead now) :
    (state.purge now).entries.size < state.entries.size := by
  obtain ⟨c, entry, hc, hstale⟩ := h
  have hprunes := purge_prunes state now
  refine Map.size_lt_size hprunes.entries hc ?_
  cases hlookup : (state.purge now).entries.lookup c with
  | none => rfl
  | some entry' =>
    have hsame : entry' = entry :=
      Option.some.inj ((hprunes.entries c entry' hlookup).symm.trans hc)
    subst hsame
    exact absurd hstale ((lookup_purge hc).mp hlookup)

/-- A purge that finds nothing only notes that it ran. -/
theorem purge_nothing (h : ¬ state.HasDead now) :
    state.purge now = { state with lastPurge := some now } := by
  have hnone : state.dead now = [] := by
    refine List.eq_nil_iff_forall_not_mem.mpr fun c hmem => h ?_
    exact ⟨c, mem_dead.mp hmem⟩
  unfold purge
  rw [hnone]
  rfl

-- ---------------------------------------------------------------------------
-- Eviction
-- ---------------------------------------------------------------------------

/-- The loop stops as soon as there is room. -/
theorem evict_of_lt {order : List (RouteCandidates × Nat)} {maxEntries : Nat}
    (h : state.entries.size < maxEntries) :
    evict maxEntries state order = { state with order := order } := by
  cases order with
  | nil => rfl
  | cons r order =>
    unfold evict
    exact if_neg (Nat.not_le.mpr h)

/-- No cached entry has a smaller id. -/
def Oldest (state : CacheState) (entry : Entry) : Prop :=
  ∀ c entry', state.entries.lookup c = some entry' → entry.id ≤ entry'.id

/-- **The eviction loop on a full cache takes the entry with the smallest id,
and nothing else.** It pops the records up to that entry's, all of them of
entries that are gone, and so never runs out of them. -/
theorem evict_full {order : List (RouteCandidates × Nat)} {maxEntries : Nat}
    (hfull : state.entries.size = maxEntries) (hpos : 0 < maxEntries)
    (hincreasing : order.Pairwise fun r r' => r.2 < r'.2)
    (hlive : ∀ c entry, state.entries.lookup c = some entry → (c, entry.id) ∈ order) :
    ∃ key entry popped rest, order = popped ++ (key, entry.id) :: rest ∧
      state.entries.lookup key = some entry ∧ state.Oldest entry ∧
      evict maxEntries state order = { state.removeEntry key with order := rest } := by
  induction order with
  | nil =>
    -- an empty order would mean an empty cache
    obtain ⟨c, entry, hc⟩ := Map.exists_lookup_of_size (hfull ▸ hpos)
    exact absurd (hlive c entry hc) List.not_mem_nil
  | cons r order ih =>
    obtain ⟨key, id⟩ := r
    obtain ⟨hhead, hincreasing⟩ := List.pairwise_cons.mp hincreasing
    unfold evict
    rw [if_pos (Nat.le_of_eq hfull.symm)]
    split_ifs with hrecord
    · obtain ⟨entry, hkey, hid⟩ := (Option.any_eq_true _ _).mp hrecord
      have hid : entry.id = id := beq_iff_eq.mp hid
      refine ⟨key, entry, [], order, by rw [hid]; rfl, hkey, ?_, ?_⟩
      · -- every other live entry is recorded further down
        intro c entry' hc
        rcases List.mem_cons.mp (hlive c entry' hc) with heq | hmem
        · exact Nat.le_of_eq (hid.trans (congrArg Prod.snd heq).symm)
        · exact hid ▸ Nat.le_of_lt (hhead _ hmem)
      · have hroom : (state.removeEntry key).entries.size < maxEntries := by
          have hsize : (state.removeEntry key).entries.size + 1 = state.entries.size := by
            unfold removeEntry
            rw [hkey]
            exact Map.size_erase hkey
          omega
        exact evict_of_lt hroom
    · -- the record is of an entry that is gone or was replaced
      have hlive' : ∀ c entry, state.entries.lookup c = some entry → (c, entry.id) ∈ order := by
        intro c entry hc
        rcases List.mem_cons.mp (hlive c entry hc) with heq | hmem
        · injection heq with hkey hid
          subst hkey
          rw [hc] at hrecord
          exact absurd (beq_iff_eq.mpr hid) (by simpa using hrecord)
        · exact hmem
      obtain ⟨key', entry, popped, rest, rfl, hkey, holdest, hevict⟩ := ih hincreasing hlive'
      exact ⟨key', entry, (key, id) :: popped, rest, rfl, hkey, holdest, hevict⟩

/-- Among several entries only one has the smallest id. -/
theorem Recorded.oldest_unique (h : state.Recorded) {c c' : RouteCandidates}
    {entry entry' : Entry} (hc : state.entries.lookup c = some entry)
    (hc' : state.entries.lookup c' = some entry') (hold : state.Oldest entry)
    (hold' : state.Oldest entry') : c = c' := by
  have hid : entry.id = entry'.id := by
    have hle := hold c' entry' hc'
    have hge := hold' c entry hc
    omega
  have hmem : (c, entry'.id) ∈ state.order.filter fun r => r.2 == entry'.id :=
    List.mem_filter.mpr ⟨hid ▸ h.live c entry hc, beq_self_eq_true _⟩
  rw [h.filter_eq hc'] at hmem
  exact congrArg Prod.fst (List.mem_singleton.mp hmem)

/-- After the loop there is room. If the cache was full the entry with the
smallest id is gone; nothing else is. -/
theorem evict_room (h : state.Recorded) {maxEntries : Nat} (hpos : 0 < maxEntries)
    (hcapacity : state.entries.size ≤ maxEntries) :
    Prunes state (evict maxEntries state state.order) ∧
      (evict maxEntries state state.order).entries.size < maxEntries ∧
      ∀ c entry, state.entries.lookup c = some entry →
        ((evict maxEntries state state.order).entries.lookup c = some entry ↔
          ¬ (state.entries.size = maxEntries ∧ state.Oldest entry)) := by
  by_cases hfull : state.entries.size = maxEntries
  · obtain ⟨key, oldest, popped, rest, horder, hkey, holdest, hevict⟩ :=
      evict_full hfull hpos h.increasing h.live
    have hincreasing := h.increasing
    rw [horder, List.pairwise_append] at hincreasing
    have hlookup : ∀ c, (evict maxEntries state state.order).entries.lookup c =
        if c = key then none else state.entries.lookup c := by
      intro c
      rw [hevict]
      exact lookup_removeEntry state key c
    have hprunes : Prunes state (evict maxEntries state state.order) := by
      refine ⟨?_, ?_, ?_, ?_⟩
      · intro c entry hc
        rw [hlookup] at hc
        split_ifs at hc
        exact hc
      · rw [hevict, horder]
        exact (List.sublist_cons_self _ _).trans (List.sublist_append_right _ _)
      · -- what is still cached is younger than what was popped
        intro c entry hc hmem
        rw [hlookup] at hc
        split_ifs at hc with hne
        rw [hevict]
        rw [horder] at hmem
        rcases List.mem_append.mp hmem with hpopped | hrest
        · have hlt := hincreasing.2.2 _ hpopped _ List.mem_cons_self
          have hle := holdest c entry hc
          omega
        · rcases List.mem_cons.mp hrest with heq | hrest
          · exact absurd (congrArg Prod.fst heq) hne
          · exact hrest
      · rw [hevict]
        exact (removeEntry_shrinks state key).nextId
    refine ⟨hprunes, ?_, ?_⟩
    · have hlost : (evict maxEntries state state.order).entries.lookup key = none :=
        (hlookup key).trans (if_pos rfl)
      have hlt := Map.size_lt_size hprunes.entries hkey hlost
      omega
    · intro c entry hc
      rw [hlookup]
      by_cases hne : c = key
      · subst hne
        have hsame : oldest = entry := Option.some.inj (hkey.symm.trans hc)
        rw [if_pos rfl]
        exact ⟨fun hnone => absurd hnone (by simp),
          fun hnot => absurd ⟨hfull, hsame ▸ holdest⟩ hnot⟩
      · rw [if_neg hne]
        refine ⟨fun _ => ?_, fun _ => hc⟩
        exact fun hbad => hne (h.oldest_unique hc hkey hbad.2 holdest)
  · have hroom : state.entries.size < maxEntries := by omega
    rw [evict_of_lt hroom]
    refine ⟨.refl state, hroom, fun c entry hc => ⟨fun _ h => hfull h.1, fun _ => hc⟩⟩

-- ---------------------------------------------------------------------------
-- Making room
-- ---------------------------------------------------------------------------

/-- What making room at `now` takes out of a full cache: the entries past their
stale window if a purge is due and, unless that frees a slot, the entry with
the smallest id. -/
def Displaces (state : CacheState) (config : CacheConfig) (now : Nat) (entry : Entry) : Prop :=
  state.entries.size = config.maxEntries ∧
    ((state.purgeDue now config ∧ entry.staleUntil ≤ now) ∨
      (¬ (state.purgeDue now config ∧ state.HasDead now) ∧ state.Oldest entry))

/-- Making room leaves room, and takes out exactly what it has to. -/
theorem makeRoom_room (h : state.Recorded) (hpos : 0 < config.maxEntries)
    (hcapacity : state.entries.size ≤ config.maxEntries) :
    Prunes state (state.makeRoom now config) ∧
      (state.makeRoom now config).entries.size < config.maxEntries ∧
      ∀ c entry, state.entries.lookup c = some entry →
        ((state.makeRoom now config).entries.lookup c = some entry ↔
          ¬ state.Displaces config now entry) := by
  by_cases hroom : state.entries.size < config.maxEntries
  · rw [makeRoom, if_pos hroom]
    refine ⟨.refl state, hroom, fun c entry hc => ⟨fun _ hdisplaced => ?_, fun _ => hc⟩⟩
    have hfull := hdisplaced.1
    omega
  · have hfull : state.entries.size = config.maxEntries := by omega
    rw [makeRoom_full hroom]
    by_cases hdue : state.purgeDue now config = true
    · rw [if_pos hdue]
      have hpurge := purge_prunes state now
      obtain ⟨hprunes, hsize, hevict⟩ :=
        evict_room (hpurge.recorded h) hpos (hpurge.size_le.trans hcapacity)
      refine ⟨hpurge.trans hprunes, hsize, fun c entry hc => ?_⟩
      by_cases hdead : state.HasDead now
      · -- the purge frees a slot, so nothing is evicted
        have hfreed : (state.purge now).entries.size < config.maxEntries :=
          hfull ▸ purge_frees hdead
        have hdisplaces : state.Displaces config now entry ↔ entry.staleUntil ≤ now := by
          unfold Displaces
          simp [hfull, hdue, hdead]
        rw [hdisplaces, ← lookup_purge hc]
        refine ⟨fun hlookup => hprunes.entries c entry hlookup, fun hlookup => ?_⟩
        refine (hevict c entry hlookup).mpr fun hbad => ?_
        omega
      · have hfresh : ¬ entry.staleUntil ≤ now := fun hstale => hdead ⟨c, entry, hc, hstale⟩
        have hdisplaces : state.Displaces config now entry ↔ state.Oldest entry := by
          unfold Displaces
          simp [hfull, hdue, hdead, hfresh]
        rw [purge_nothing hdead] at hevict ⊢
        rw [hdisplaces]
        refine (hevict c entry hc).trans (not_congr ?_)
        exact ⟨fun hbad => hbad.2, fun holdest => ⟨hfull, holdest⟩⟩
    · rw [if_neg hdue]
      obtain ⟨hprunes, hsize, hevict⟩ := evict_room h hpos hcapacity
      refine ⟨hprunes, hsize, fun c entry hc => (hevict c entry hc).trans (not_congr ?_)⟩
      unfold Displaces
      simp [hfull, hdue]

-- ---------------------------------------------------------------------------
-- Inserting
-- ---------------------------------------------------------------------------

/-- Taking an id keeps the records. -/
theorem takeId_recorded (h : state.Recorded) : state.takeId.2.Recorded where
  increasing := h.increasing
  issued r hr := Nat.lt_succ_of_lt (h.issued r hr)
  live := h.live

/-- Registration keeps the records, and leaves room for what is not cached. -/
theorem register_room (h : Ordered config state) (hpos : 0 < config.maxEntries)
    (candidates : RouteCandidates) :
    Prunes state (state.register candidates now config) ∧
      (state.register candidates now config).entries.size +
        (if ((state.register candidates now config).entries.lookup candidates).isSome then 0
          else 1) ≤ config.maxEntries := by
  by_cases hcached : (state.entries.lookup candidates).isSome = true
  · rw [register, if_pos hcached, if_pos hcached]
    exact ⟨.refl state, h.capacity⟩
  · rw [register, if_neg hcached]
    obtain ⟨hprunes, hroom, -⟩ := @makeRoom_room _ _ now h.recorded hpos h.capacity
    refine ⟨⟨hprunes.entries, hprunes.order, hprunes.kept, hprunes.nextId⟩, ?_⟩
    show (state.makeRoom now config).entries.size + _ ≤ _
    split_ifs
    · omega
    · omega

/-- Compaction keeps the records of live entries, so it leaves no more than one
for each. -/
theorem compactOrder_ordered (h : state.Recorded)
    (hcapacity : state.entries.size ≤ config.maxEntries) :
    Ordered config (state.compactOrder config) := by
  unfold compactOrder
  split_ifs with hlong
  · let live := fun r : RouteCandidates × Nat => (state.entries.lookup r.1).any (·.id == r.2)
    have hlive : ∀ r ∈ state.order.filter live,
        ∃ entry, state.entries.lookup r.1 = some entry ∧ entry.id = r.2 := by
      intro r hr
      obtain ⟨entry, hc, hid⟩ := (Option.any_eq_true _ _).mp (List.mem_filter.mp hr).2
      exact ⟨entry, hc, beq_iff_eq.mp hid⟩
    have hincreasing := h.increasing.sublist (List.filter_sublist (p := live))
    refine ⟨⟨hincreasing, ?_, ?_⟩, hcapacity, ?_⟩
    · exact fun r hr => h.issued r (List.mem_filter.mp hr).1
    · intro c entry hc
      refine List.mem_filter.mpr ⟨h.live c entry hc, ?_⟩
      exact (Option.any_eq_true _ _).mpr ⟨entry, hc, beq_self_eq_true _⟩
    · -- live records have distinct candidates
      have hnodup : ((state.order.filter live).map Prod.fst).Nodup := by
        refine List.pairwise_map.mpr (hincreasing.imp_of_mem fun {r r'} hr hr' hlt hsame => ?_)
        obtain ⟨entry, hc, hid⟩ := hlive r hr
        obtain ⟨entry', hc', hid'⟩ := hlive r' hr'
        rw [hsame] at hc
        have heq : entry = entry' := Option.some.inj (hc.symm.trans hc')
        subst heq
        omega
      have hlength : ((state.order.filter live).map Prod.fst).length ≤ state.entries.size := by
        refine Map.length_le_size hnodup fun c hc => ?_
        obtain ⟨r, hr, rfl⟩ := List.mem_map.mp hc
        obtain ⟨entry, hentry, -⟩ := hlive r hr
        exact ⟨entry, hentry⟩
      rw [List.length_map] at hlength
      show (state.order.filter live).length ≤ _
      omega
  · refine ⟨h, hcapacity, ?_⟩
    omega

/-- Taking an id keeps the bounds. -/
theorem takeId_ordered (h : Ordered config state) : Ordered config state.takeId.2 :=
  ⟨takeId_recorded h.recorded, h.capacity, h.bounded⟩

/-- An insertion keeps the bounds. -/
theorem insert_ordered (h : Ordered config state) (candidates : RouteCandidates) (hits : Answer) :
    Ordered config (state.insert candidates hits config now) := by
  have htaken := takeId_ordered h
  by_cases hmax : config.maxEntries = 0
  · rw [insert_disabled hmax]
    exact h
  cases hstored : entryOf state.jitterSeed config hits now state.nextId with
  | none =>
    rw [insert_panicked hmax hstored]
    exact htaken
  | some stored =>
    rw [insert_enabled hmax hstored]
    obtain ⟨-, -, -, hid⟩ := entryOf_eq_some_iff.mp hstored
    obtain ⟨hprunes, hsize⟩ :=
      @register_room _ _ now htaken (Nat.pos_of_ne_zero hmax) candidates
    have hkept := hprunes.recorded htaken.recorded
    have hissued : ∀ r ∈ (state.takeId.2.register candidates now config).order,
        r.2 < state.nextId := fun r hr => h.recorded.issued r (hprunes.order.subset hr)
    refine compactOrder_ordered ⟨?_, ?_, ?_⟩ ?_
    · -- the new record has the largest id
      refine List.pairwise_append.mpr ⟨hkept.increasing, List.pairwise_singleton .., ?_⟩
      intro r hr r' hr'
      rw [List.mem_singleton.mp hr']
      exact hissued r hr
    · intro r hr
      show r.2 < (state.takeId.2.register candidates now config).nextId
      rw [hprunes.nextId]
      rcases List.mem_append.mp hr with hold | hnew
      · exact Nat.lt_succ_of_lt (hissued r hold)
      · rw [List.mem_singleton.mp hnew]
        exact Nat.lt_succ_self _
    · intro c entry hc
      rw [Map.lookup_insert (state.takeId.2.register candidates now config).entries
        candidates c stored] at hc
      split_ifs at hc with hsame
      · injection hc with hc
        rw [hsame, ← hc, hid]
        exact List.mem_append_right _ List.mem_cons_self
      · exact List.mem_append_left _ (hkept.live c entry hc)
    · show Map.size (AList.insert _ _ _) ≤ _
      rw [Map.size_insert]
      split_ifs at hsize ⊢
      · exact hsize
      · exact hsize

-- ---------------------------------------------------------------------------
-- Any sequence of operations
-- ---------------------------------------------------------------------------

/-- The finish section keeps the bounds. -/
theorem finishLoad_ordered (h : Ordered config state) (candidates : RouteCandidates) (id : Nat)
    (result : LoadResult) : Ordered config (state.finishLoad config now candidates id result) := by
  -- the count and the slot are not part of the order
  have hrelease : Ordered config (state.release candidates id) :=
    ⟨⟨h.recorded.increasing, h.recorded.issued, h.recorded.live⟩, h.capacity, h.bounded⟩
  unfold finishLoad
  cases result with
  | ok hits =>
    dsimp only
    split_ifs
    · exact insert_ordered hrelease candidates hits
    · exact hrelease
  | error e =>
    dsimp only
    split_ifs
    · exact (removeEntry_prunes _ candidates).ordered hrelease
    · exact hrelease

/-- An invalidation keeps the bounds. -/
theorem invalidate_ordered (h : Ordered config state) (key : RouteKey) :
    Ordered config (state.invalidate key) := by
  have herased : Ordered config { state with index := state.index.erase key } :=
    ⟨⟨h.recorded.increasing, h.recorded.issued, h.recorded.live⟩, h.capacity, h.bounded⟩
  have hpruned := (foldl_removeEntry_prunes (state.index.get key) _).ordered herased
  exact ⟨⟨hpruned.recorded.increasing, hpruned.recorded.issued, hpruned.recorded.live⟩,
    hpruned.capacity, hpruned.bounded⟩

/-- Every operation keeps the bounds. -/
theorem operate_ordered (h : Ordered config state) (op : CacheOp) :
    Ordered config (state.operate config now op) := by
  cases op with
  | tick => exact h
  | startLoad =>
    obtain ⟨htaken, hcapacity, hbounded⟩ := takeId_ordered h
    exact ⟨⟨htaken.increasing, htaken.issued, htaken.live⟩, hcapacity, hbounded⟩
  | finishLoad candidates id result => exact finishLoad_ordered h candidates id result
  | insert candidates hits => exact insert_ordered h candidates hits
  | remove candidates => exact (removeEntry_prunes state candidates).ordered h
  | invalidate key => exact invalidate_ordered h key
  | clear =>
    refine ⟨⟨.nil, fun r hr => absurd hr List.not_mem_nil, ?_⟩, Nat.zero_le _, Nat.zero_le _⟩
    exact fun c entry hc => absurd hc (by simp [operate, clear])

/-- An insert of new candidates takes out exactly what making room does, unless
it panics before that. -/
theorem insert_displaces (h : Ordered config state) {candidates : RouteCandidates}
    (hnew : state.entries.lookup candidates = none) (hits : Answer) {c : RouteCandidates}
    {entry : Entry} (hc : state.entries.lookup c = some entry) (hmax : config.maxEntries ≠ 0) :
    (state.insert candidates hits config now).entries.lookup c = some entry ↔
      ¬ (state.insertPanics hits config now = false ∧ state.Displaces config now entry) := by
  have hpanics : state.insertPanics hits config now = true ↔
      entryOf state.jitterSeed config hits now state.nextId = none := by
    simp [insertPanics, hmax]
  cases hstored : entryOf state.jitterSeed config hits now state.nextId with
  | none =>
    rw [insert_panicked hmax hstored, hpanics.mpr hstored]
    exact ⟨fun _ h => absurd h.1 (by simp), fun _ => hc⟩
  | some stored =>
  have hreturns : state.insertPanics hits config now = false := by
    rw [← Bool.not_eq_true, hpanics, hstored]
    simp
  have hne : c ≠ candidates := by
    rintro rfl
    rw [hnew] at hc
    exact absurd hc (by simp)
  have hroom := (@makeRoom_room _ _ now (takeId_recorded h.recorded)
    (Nat.pos_of_ne_zero hmax) h.capacity).2.2 c entry hc
  have hentries : (state.insert candidates hits config now).entries.lookup c =
      (state.takeId.2.makeRoom now config).entries.lookup c := by
    rw [insert_enabled hmax hstored]
    have hcompact : ∀ s : CacheState, (s.compactOrder config).entries = s.entries := by
      intro s
      unfold compactOrder
      split_ifs <;> rfl
    rw [hcompact]
    refine (Map.lookup_insert ..).trans ((if_neg hne).trans ?_)
    have habsent : ¬ (state.takeId.2.entries.lookup candidates).isSome = true := by
      show ¬ (state.entries.lookup candidates).isSome = true
      rw [hnew]
      simp
    rw [register, if_neg habsent]
  rw [hentries, hreturns]
  exact hroom.trans (not_congr (and_iff_right rfl).symm)

end CacheState

variable {config : CacheConfig} {jitterSeed : Nat → UInt64} {s : TimedCache}

/-- The bounds hold after any operations. -/
theorem cacheOps_ordered (hr : (cacheOps config jitterSeed).Reachable s) :
    s.cache.Ordered config := by
  refine TimedCache.invariant (CacheState.Ordered config) ?_ ?_ hr
  · exact ⟨CacheState.new_recorded jitterSeed, Nat.zero_le _, Nat.zero_le _⟩
  · exact fun _ op _ h => CacheState.operate_ordered h op

/-- **Capacity and eviction order.** After any sequence of operations the cache
is within its capacity, the ids of the eviction order increase, each live entry
has exactly one record with its id, and there are at most twice as many records
as the capacity. The eviction loop always ends because there is room. An insert
of new candidates into a full cache takes out the entries past their stale
window if a purge is due and, unless that frees a slot, the one entry with the
smallest id; one that panics in `later` takes out nothing. -/
theorem cache_capacity (hr : (cacheOps config jitterSeed).Reachable s) :
    s.cache.entries.size ≤ config.maxEntries ∧
    (s.cache.order.Pairwise fun r r' => r.2 < r'.2) ∧
    (∀ c entry, s.cache.entries.lookup c = some entry →
      s.cache.order.filter (fun r => r.2 == entry.id) = [(c, entry.id)]) ∧
    s.cache.order.length ≤ 2 * config.maxEntries ∧
    (config.maxEntries ≠ 0 → ∀ now,
      (s.cache.takeId.2.makeRoom now config).entries.size < config.maxEntries) ∧
    (config.maxEntries ≠ 0 → ∀ now candidates hits,
      s.cache.entries.lookup candidates = none →
      ∀ c entry, s.cache.entries.lookup c = some entry →
        ((s.cache.insert candidates hits config now).entries.lookup c = some entry ↔
          ¬ (s.cache.insertPanics hits config now = false ∧
            s.cache.Displaces config now entry))) ∧
    ∀ c c' entry entry', s.cache.entries.lookup c = some entry →
      s.cache.entries.lookup c' = some entry' → s.cache.Oldest entry → s.cache.Oldest entry' →
      c = c' := by
  have h := cacheOps_ordered hr
  refine ⟨h.capacity, h.recorded.increasing, fun c entry => h.recorded.filter_eq, h.bounded,
    ?_, ?_, fun c c' entry entry' => h.recorded.oldest_unique⟩
  · intro hmax now
    exact (CacheState.makeRoom_room (CacheState.takeId_recorded h.recorded)
      (Nat.pos_of_ne_zero hmax) h.capacity).2.1
  · exact fun hmax now candidates hits hnew c entry hc =>
      CacheState.insert_displaces h hnew hits hc hmax

/-- Two entries at most. -/
def pairConfig : CacheConfig where
  ttl := nanosPerSec
  negativeTtl := nanosPerSec
  jitter := .finite 0
  maxEntries := 2
  staleIfError := none
  loadTimeout := 1
  maxInflightLoads := 1

/-- Of two entries the first was replaced, so the second makes room for a third
although it came later. -/
theorem cache_capacity_at :
    ∃ (a b c : RouteCandidates) (s : TimedCache) (entry : Entry),
      (cacheOps pairConfig fun _ => 0).run
        [.insert a ⟨[], 0⟩, .insert b ⟨[], 1⟩, .insert a ⟨[], 2⟩] ⟨0, .new fun _ => 0⟩ = some s ∧
      s.cache.order.length = 3 ∧ s.cache.entries.size ≤ 2 ∧ s.cache.entries.lookup c = none ∧
      s.cache.entries.lookup b = some entry ∧ s.cache.Displaces pairConfig 0 entry := by
  let a : RouteCandidates := ⟨⟨[97], false⟩, none⟩
  let b : RouteCandidates := ⟨⟨[98], false⟩, none⟩
  let c : RouteCandidates := ⟨⟨[99], false⟩, none⟩
  obtain ⟨s, hrun, hval⟩ : ∃ s, (cacheOps pairConfig fun _ => 0).run
      [.insert a ⟨[], 0⟩, .insert b ⟨[], 1⟩, .insert a ⟨[], 2⟩] ⟨0, .new fun _ => 0⟩ = some s ∧
      (s.cache.order.length, s.cache.entries.lookup c, (s.cache.entries.lookup b).map Entry.id,
        (s.cache.insert c ⟨[], 3⟩ pairConfig 0).entries.lookup b) = (3, none, some 1, none) :=
    Option.map_eq_some_iff.mp (by decide +kernel)
  injection hval with horder hval
  injection hval with hnew hval
  injection hval with hb hgone
  obtain ⟨entry, hb, -⟩ := Option.map_eq_some_iff.mp hb
  obtain ⟨hsize, -, -, -, -, hinsert, -⟩ := cache_capacity ⟨_, _, rfl, hrun⟩
  refine ⟨a, b, c, s, entry, hrun, horder, hsize, hnew, hb, ?_⟩
  by_contra hkept
  have hlookup := (hinsert (by decide) 0 c ⟨[], 3⟩ hnew b entry hb).mpr fun h => hkept h.2
  rw [hgone] at hlookup
  exact absurd hlookup (by simp)

end SniRouter
