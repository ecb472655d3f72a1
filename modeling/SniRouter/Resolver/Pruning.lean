import SniRouter.Resolver.Answers

/-!
# SniRouter — pruning is invisible

A resolver that prunes its cache and one that never does, event by event. The
two caches differ in the entries they have and in the ends of stale windows,
but only where nothing reads them: an entry that was pruned is neither fresh
nor has addresses that a failure would fall back on, at that time and ever
after.

* `storeUnpruned` / `unprunedMachine` — the resolver without the `retain`.
* `SameCache` — how the two caches agree at a time.
* `SameCache.fresh_eq` / `SameCache.store` — the cache answers the same, and
  recording a result keeps the agreement.
* `pruning_invisible` — the two resolvers have the same runs.
-/

namespace SniRouter

open Resolver

namespace Resolver

/-- `store`, without the pruning. -/
def storeUnpruned (config : ResolverConfig) (now : Nat) (cache : DnsCache) (key : ResolverKey)
    (p : Nat) (result : DnsResult) : Option Outcome × DnsCache :=
  match result with
  | .ok (addr :: addrs) =>
    let addrs : Addresses := ⟨addr :: addrs, p⟩
    match goodEntry config now addrs with
    | none => (none, cache)
    | some entry => (some (.ok addrs), cache.insert key entry)
  | failed => storeFailure now cache key (failure key failed)

/-- Storing is pruning and then storing. -/
theorem store_eq (config : ResolverConfig) (now : Nat) (cache : DnsCache) (key : ResolverKey)
    (p : Nat) (result : DnsResult) :
    store config now cache key p result =
      storeUnpruned config now (prune config now cache) key p result := rfl

/-- The locked section of a lookup, without the pruning. -/
def recordUnpruned (config : ResolverConfig) (s : ResolverSystem) (p : Nat) (lookup : DnsLookup)
    (result : DnsResult) : ResolverSystem :=
  let (outcome, cache) := storeUnpruned config s.clock s.state.cache lookup.key p result
  { s with
    state := ⟨cache, s.state.inflight.erase lookup.key⟩
    lookups := s.lookups.set p (lookup.recorded s.clock result outcome) }

/-- The step relation without pruning. -/
def stepUnpruned (config : ResolverConfig) (event : ResolverStep) (s : ResolverSystem) :
    Option ResolverSystem :=
  match event with
  | .record p =>
    (s.lookups[p]?).bind fun lookup => lookup.ready.map (recordUnpruned config s p lookup)
  | event => step config event s

end Resolver

/-- The resolver that never prunes. -/
def unprunedMachine (config : ResolverConfig) : Machine ResolverSystem ResolverStep where
  init s := s = Resolver.start config
  step   := Resolver.stepUnpruned config

-- ---------------------------------------------------------------------------
-- Two caches at a time
-- ---------------------------------------------------------------------------

/-- Nothing reads the entry again: it is not fresh, and has no addresses a
failure would fall back on. -/
def DnsEntry.Dead (now : Nat) (entry : DnsEntry) : Prop :=
  entry.freshUntil ≤ now ∧ (entry.addrs.isSome → entry.staleUntil ≤ now)

/-- Two entries that are read alike; without addresses the stale window means
nothing. -/
structure DnsEntry.Same (entry other : DnsEntry) : Prop where
  addrs : other.addrs = entry.addrs
  fresh : other.freshUntil = entry.freshUntil
  stale : entry.addrs.isSome → other.staleUntil = entry.staleUntil

/-- What the pruned cache and the full one hold under a key: entries that are read
alike, or on either side none or a dead one. -/
inductive SameEntry (now : Nat) : Option DnsEntry → Option DnsEntry → Prop where
  | dead {entry other} (hentry : ∀ e ∈ entry, e.Dead now) (hother : ∀ e ∈ other, e.Dead now) :
      SameEntry now entry other
  | both {entry other} (hsame : entry.Same other) : SameEntry now (some entry) (some other)

/-- The pruned cache and the full one agree. -/
def SameCache (now : Nat) (cache full : DnsCache) : Prop :=
  ∀ key, SameEntry now (cache.lookup key) (full.lookup key)

theorem DnsEntry.Same.refl (entry : DnsEntry) : entry.Same entry := ⟨rfl, rfl, fun _ => rfl⟩

/-- The dead stay dead. -/
theorem DnsEntry.Dead.later {now now' : Nat} {entry : DnsEntry} (h : entry.Dead now)
    (hle : now ≤ now') : entry.Dead now' :=
  ⟨h.1.trans hle, fun haddrs => (h.2 haddrs).trans hle⟩

/-- A dead entry answers nothing. -/
theorem Resolver.fresh_of_dead {now : Nat} {cache : DnsCache} {key : ResolverKey}
    (h : ∀ entry ∈ cache.lookup key, entry.Dead now) : fresh cache now key = none := by
  unfold fresh
  cases hentry : cache.lookup key with
  | none => rfl
  | some entry => rw [Option.bind_some, if_neg (Nat.not_lt.mpr (h entry hentry).1)]

namespace SameCache

variable {config : ResolverConfig} {now : Nat} {cache full : DnsCache}

/-- Caches that agree now agree later. -/
theorem later {now' : Nat} (h : SameCache now cache full) (hle : now ≤ now') :
    SameCache now' cache full := by
  intro key
  have hentry := h key
  generalize cache.lookup key = entry at hentry
  generalize full.lookup key = other at hentry
  cases hentry with
  | dead hentry hother =>
    exact .dead (fun e he => (hentry e he).later hle) (fun e he => (hother e he).later hle)
  | both hsame => exact .both hsame

/-- A dropped entry is dead in the full cache. -/
theorem prune (h : SameCache now cache full) :
    SameCache now (Resolver.prune config now cache) full := by
  intro key
  have hentry := h key
  rcases lookup_prune config now cache key with hkept | ⟨hdropped, hold⟩
  · rw [hkept]
    exact hentry
  · rw [hdropped]
    cases hcache : cache.lookup key with
    | none =>
      rw [hcache] at hentry
      exact hentry
    | some entry =>
      have hover := hold entry hcache
      rw [hcache] at hentry
      generalize full.lookup key = other at hentry
      cases hentry with
      | dead _ hother => exact .dead (fun e he => absurd he (by simp)) hother
      | both hsame =>
        refine .dead (fun e he => absurd he (by simp)) fun e he => ?_
        obtain rfl := Option.some.inj he
        refine ⟨?_, fun haddrs => ?_⟩
        · rw [hsame.fresh]
          omega
        · rw [hsame.stale (hsame.addrs ▸ haddrs)]
          omega

/-- The same entry is inserted into both. -/
theorem insert_entry (h : SameCache now cache full) (key : ResolverKey) {entry other : DnsEntry}
    (hsame : SameEntry now (some entry) (some other)) :
    SameCache now (cache.insert key entry) (full.insert key other) := by
  intro key'
  rw [Map.lookup_insert, Map.lookup_insert]
  split_ifs
  · exact hsame
  · exact h key'

/-- Entries that do not differ for a reader are inserted. -/
theorem insert (h : SameCache now cache full) (key : ResolverKey) {entry other : DnsEntry}
    (hsame : entry.Same other) : SameCache now (cache.insert key entry) (full.insert key other) :=
  h.insert_entry key (.both hsame)

/-- The cache answers the same without a lookup. -/
theorem fresh_eq (h : SameCache now cache full) (key : ResolverKey) :
    fresh cache now key = fresh full now key := by
  have hentry := h key
  generalize hcache : cache.lookup key = entry at hentry
  generalize hfull : full.lookup key = other at hentry
  cases hentry with
  | dead hentry hother =>
    rw [fresh_of_dead (hcache.symm ▸ hentry), fresh_of_dead (hfull.symm ▸ hother)]
  | both hsame =>
    unfold fresh
    simp only [hcache, hfull, Option.bind_some, hsame.addrs, hsame.fresh]

/-- What a failure starts from when there is no entry is dead, too. -/
theorem getD_dead {entry : Option DnsEntry} (h : ∀ e ∈ entry, e.Dead now) :
    (entry.getD ⟨none, now, now⟩).Dead now := by
  cases entry with
  | none => exact ⟨le_rfl, fun haddrs => absurd haddrs (by simp)⟩
  | some entry => exact h entry rfl

/-- A failed lookup is answered the same, and leaves agreeing caches. -/
theorem storeFailure (h : SameCache now cache full) (key : ResolverKey) (error : IoError) :
    (Resolver.storeFailure now cache key error).1 = (Resolver.storeFailure now full key error).1 ∧
      SameCache now (Resolver.storeFailure now cache key error).2
        (Resolver.storeFailure now full key error).2 := by
  have hentry := h key
  generalize hcache : cache.lookup key = entry at hentry
  generalize hfull : full.lookup key = other at hentry
  cases hfresh : SniRouter.later now negativeTtl with
  | none =>
    -- both panic, and keep what they had
    rw [storeFailure_panicked hfresh, storeFailure_panicked hfresh, hcache, hfull]
    refine ⟨rfl, h.insert_entry key ?_⟩
    cases hentry with
    | dead hentry hother =>
      refine .dead (fun e he => ?_) (fun e he => ?_)
      · exact Option.some.inj he ▸ getD_dead hentry
      · exact Option.some.inj he ▸ getD_dead hother
    | both hsame => exact .both hsame
  | some freshUntil =>
    cases hentry with
    | dead hentry hother =>
      -- the full cache has nothing to fall back on either
      obtain ⟨_, hstore⟩ := storeFailure_failed hfresh
        (fun e he => (hentry e (hcache.symm.trans he)).2) error
      obtain ⟨_, hstore'⟩ := storeFailure_failed hfresh
        (fun e he => (hother e (hfull.symm.trans he)).2) error
      rw [hstore, hstore']
      exact ⟨rfl, h.insert key ⟨rfl, rfl, fun hsome => absurd hsome (by simp)⟩⟩
    | @both entry other hsame =>
      by_cases hkept : entry.addrs.isSome ∧ now < entry.staleUntil
      · obtain ⟨hsome, hnow⟩ := hkept
        obtain ⟨addrs, haddrs⟩ := Option.isSome_iff_exists.mp hsome
        rw [storeFailure_kept hfresh hcache haddrs hnow,
          storeFailure_kept hfresh hfull (hsame.addrs.trans haddrs) (hsame.stale hsome ▸ hnow)]
        have hrefreshed : DnsEntry.Same { entry with freshUntil := freshUntil }
            { other with freshUntil := freshUntil } := ⟨hsame.addrs, rfl, hsame.stale⟩
        exact ⟨rfl, h.insert key hrefreshed⟩
      · have hover : entry.addrs.isSome → entry.staleUntil ≤ now := fun hsome =>
          Nat.not_lt.mp fun hnow => hkept ⟨hsome, hnow⟩
        have hover' : other.addrs.isSome → other.staleUntil ≤ now := fun hsome => by
          rw [hsame.addrs] at hsome
          rw [hsame.stale hsome]
          exact hover hsome
        have hcover : ∀ e ∈ cache.lookup key, e.addrs.isSome → e.staleUntil ≤ now :=
          fun e he => Option.some.inj (hcache.symm.trans he) ▸ hover
        have hfover : ∀ e ∈ full.lookup key, e.addrs.isSome → e.staleUntil ≤ now :=
          fun e he => Option.some.inj (hfull.symm.trans he) ▸ hover'
        obtain ⟨_, hstore⟩ := storeFailure_failed hfresh hcover error
        obtain ⟨_, hstore'⟩ := storeFailure_failed hfresh hfover error
        rw [hstore, hstore']
        exact ⟨rfl, h.insert key ⟨rfl, rfl, fun hsome => absurd hsome (by simp)⟩⟩

/-- Recording a result is answered the same, and leaves agreeing caches. -/
theorem store (h : SameCache now cache full) (key : ResolverKey) (p : Nat) (result : DnsResult) :
    (Resolver.store config now cache key p result).1 =
        (storeUnpruned config now full key p result).1 ∧
      SameCache now (Resolver.store config now cache key p result).2
        (storeUnpruned config now full key p result).2 := by
  have hpruned : SameCache now (Resolver.prune config now cache) full := h.prune
  rw [store_eq]
  unfold storeUnpruned
  split
  · next addr addrs =>
    dsimp only
    cases goodEntry config now ⟨addr :: addrs, p⟩ with
    | none => exact ⟨rfl, hpruned⟩
    | some entry => exact ⟨rfl, hpruned.insert key (.refl _)⟩
  · exact hpruned.storeFailure key _

end SameCache

-- ---------------------------------------------------------------------------
-- Two resolvers, event by event
-- ---------------------------------------------------------------------------

/-- The resolver with another cache. -/
def ResolverSystem.withCache (s : ResolverSystem) (cache : DnsCache) : ResolverSystem :=
  { s with state := { s.state with cache := cache } }

/-- The second resolver is the first with a cache that agrees. -/
def Unpruned (s u : ResolverSystem) : Prop :=
  ∃ full, u = s.withCache full ∧ SameCache s.clock s.state.cache full

namespace Unpruned

variable {config : ResolverConfig} {s u : ResolverSystem}

/-- An event that leaves the cache alone. -/
theorem frame {full : DnsCache} (h : SameCache s.clock s.state.cache full) {s' : ResolverSystem}
    (hclock : s.clock ≤ s'.clock) (hcache : s'.state.cache = s.state.cache) :
    Unpruned s' (s'.withCache full) :=
  ⟨full, rfl, hcache ▸ h.later hclock⟩

/-- Answering a call is independent of the cache. -/
theorem answer_withCache (s : ResolverSystem) (full : DnsCache) (c : Nat) (call : ResolveCall)
    (outcome : Outcome) :
    answer (s.withCache full) c call outcome = (answer s c call outcome).withCache full := by
  cases outcome with
  | error error => rfl
  | ok addrs => rfl

/-- Under the lock both caches give the same. -/
theorem lock {full : DnsCache} (h : SameCache s.clock s.state.cache full) (c : Nat)
    (call : ResolveCall) :
    Unpruned (Resolver.lock s c call) (Resolver.lock (s.withCache full) c call) := by
  have hfresh : fresh full s.clock call.key = fresh s.state.cache s.clock call.key :=
    (h.fresh_eq call.key).symm
  unfold Resolver.lock
  rw [show (s.withCache full).state.cache = full from rfl,
    show (s.withCache full).clock = s.clock from rfl, hfresh,
    show (s.withCache full).state.inflight = s.state.inflight from rfl]
  cases fresh s.state.cache s.clock call.key with
  | some cached =>
    dsimp only
    obtain ⟨hstate, -, hclock, -⟩ := Resolver.answer_frame s c call cached
    rw [answer_withCache]
    exact frame h hclock.ge (congrArg ResolverState.cache hstate)
  | none =>
    dsimp only
    cases s.state.inflight.lookup call.key with
    | some channel => exact ⟨full, rfl, h⟩
    | none => exact ⟨full, rfl, h⟩

/-- One event keeps them in step. -/
theorem step (config : ResolverConfig) (event : ResolverStep) (h : Unpruned s u) :
    Option.Rel Unpruned (Resolver.step config event s) (stepUnpruned config event u) := by
  obtain ⟨full, rfl, hcache⟩ := h
  cases event with
  | tick duration =>
    have hu : stepUnpruned config (.tick duration) (s.withCache full) =
        if s.clock + duration ≤ maxInstant then
          some (ResolverSystem.withCache { s with clock := s.clock + duration } full)
        else none := rfl
    rw [hu]
    unfold Resolver.step
    dsimp only
    split_ifs
    · exact .some ⟨full, rfl, hcache.later (Nat.le_add_right ..)⟩
    · exact .none
  | begin key => exact .some ⟨full, rfl, hcache⟩
  | locked c =>
    refine .bind_same (s.calls[c]?) fun call => ?_
    cases call.phase with
    | begun => exact .some (lock hcache c call)
    | waiting | returned | cancelled => exact .none
  | wake c =>
    refine .bind_same (s.calls[c]?) fun call => ?_
    cases call.phase with
    | waiting channel =>
      refine .map_same ((s.lookups[channel]?).bind DnsLookup.received) fun outcome => ?_
      obtain ⟨hstate, -, hclock, -⟩ := Resolver.answer_frame s c call outcome
      rw [answer_withCache]
      exact frame hcache hclock.ge (congrArg ResolverState.cache hstate)
    | begun | returned | cancelled => exact .none
  | cancel c =>
    refine .bind_same (s.calls[c]?) fun call => ?_
    cases call.phase with
    | waiting channel => exact .some ⟨full, rfl, hcache⟩
    | begun | returned | cancelled => exact .none
  | lookup p event =>
    refine .bind_same (s.lookups[p]?) fun lookup => ?_
    exact .map_same (lookup.advance event s.permits) fun next => ⟨full, rfl, hcache⟩
  | record p =>
    refine .bind_same (s.lookups[p]?) fun lookup => .map_same lookup.ready fun result => ?_
    obtain ⟨houtcome, hstored⟩ := @SameCache.store config _ _ _ hcache lookup.key p result
    refine ⟨(storeUnpruned config s.clock full lookup.key p result).2, ?_, hstored⟩
    unfold recordUnpruned recordSection ResolverSystem.withCache
    simp only [houtcome]

/-- A run from the start keeps them in step. -/
theorem run (config : ResolverConfig) (es : List ResolverStep) :
    Option.Rel Unpruned ((resolverMachine config).run es (Resolver.start config))
      ((unprunedMachine config).run es (Resolver.start config)) := by
  have hstart : Unpruned (Resolver.start config) (Resolver.start config) :=
    ⟨∅, rfl, fun key => .dead (fun e he => absurd he (by simp [start]))
      (fun e he => absurd he (by simp))⟩
  exact Machine.run_rel (fun event _ _ h => h.step config event) es hstart

end Unpruned

-- ---------------------------------------------------------------------------
-- Invisibility
-- ---------------------------------------------------------------------------

/-- Everything but the cache: the calls and what they returned, the lookups
that were started, the slots, the channels, the rotation. -/
def ResolverSystem.visible (s : ResolverSystem) : ResolverSystem := s.withCache ∅

/-- **Pruning is invisible.** For every TTL, concurrency limit and threshold
and every sequence of calls, lookup results and clock ticks, the resolver that
prunes and the one that never does can do the same, and are the same but for
their caches. In the states they reach, every key is answered from the cache
alike, and every result of every lookup is recorded with the same outcome. -/
theorem pruning_invisible (config : ResolverConfig) (es : List ResolverStep) :
    ((resolverMachine config).run es (Resolver.start config)).map ResolverSystem.visible =
      ((unprunedMachine config).run es (Resolver.start config)).map ResolverSystem.visible ∧
    ∀ s u, (resolverMachine config).run es (Resolver.start config) = some s →
      (unprunedMachine config).run es (Resolver.start config) = some u →
      (∀ key, fresh s.state.cache s.clock key = fresh u.state.cache u.clock key) ∧
      ∀ key p result, (store config s.clock s.state.cache key p result).1 =
        (storeUnpruned config u.clock u.state.cache key p result).1 := by
  have hrel := Unpruned.run config es
  refine ⟨?_, fun s u hs hu => ?_⟩
  · generalize (resolverMachine config).run es (Resolver.start config) = s at hrel
    generalize (unprunedMachine config).run es (Resolver.start config) = u at hrel
    cases hrel with
    | none => rfl
    | some h =>
      obtain ⟨full, rfl, -⟩ := h
      rfl
  · rw [hs, hu] at hrel
    cases hrel with
    | some h =>
      obtain ⟨full, rfl, hcache⟩ := h
      exact ⟨hcache.fresh_eq, fun key p result => (hcache.store key p result).1⟩

end SniRouter
