import SniRouter.Cache.Invariant

/-!
# SniRouter — the cache events add up

What `CachedLookup` reports, against what its lookups and loads have done: no
call is counted twice or not at all, whatever happens to it afterwards. The code
records an event right after the locked section that decided it, with the lock
released; here the record is part of the section.

* `Lookup.tally` — what a call is counted as.
* `CacheSystem.reports` — what one event reports.
* `CacheLedger` — the counts.
* `cache_events_add_up` — in every reachable state.
-/

namespace SniRouter

open Table

-- ---------------------------------------------------------------------------
-- What is counted
-- ---------------------------------------------------------------------------

/-- What a call of `cached_lookup` is counted as. -/
inductive Tally where
  /-- It has not come to the lock. -/
  | uncounted
  | hit
  | negativeHit
  /-- A miss, or coalesced with one. -/
  | joined
  | shed
deriving DecidableEq

/-- How a call is counted, by what became of it. -/
def Lookup.tally (lookup : Lookup) : Tally :=
  match lookup.phase with
  | .begun => .uncounted
  | .returned .fresh (.ok hits) => if hits.hits.isEmpty then .negativeHit else .hit
  -- no fresh entry holds an error
  | .returned .fresh (.error _) => .hit
  | .returned .shed _ => .shed
  | .waiting _ _ | .cancelled | .returned (.joined _) _ => .joined

/-- The load has sent an error. -/
def Load.failed (load : Load) : Bool :=
  match load.value with
  | some (.error _) => true
  | _ => false

/-- Whoever waits for the load gets an error: the one it sent, or that its
sender is gone. -/
def Load.denied (load : Load) : Bool :=
  match CacheSystem.received load with
  | some (.error _) => true
  | _ => false

/-- The call got a stale answer: its load failed, or it could not have one. -/
def Lookup.servedStale (loads : List Load) (lookup : Lookup) : Bool :=
  match lookup.phase with
  | .returned .shed (.ok _) => true
  | .returned (.joined p) (.ok _) => (loads[p]?).any Load.denied
  | _ => false

/-- What a load reports. -/
def Load.reports (load : Load) (event : TaskEvent) : List CacheEvent :=
  match event, load.task with
  | .send, .finished (.error _) _ => [.loadError]
  | _, _ => []

namespace CacheSystem

/-- How many calls are counted as this. -/
def tallied (s : CacheSystem) (tally : Tally) : Nat :=
  s.lookups.countP fun lookup => lookup.tally = tally

/-- What the locked section of a lookup reports. -/
def reportsFound : CacheState.Found → List CacheEvent
  | .fresh hits => [if hits.hits.isEmpty then .negativeHit else .hit]
  | .coalesced _ _ => [.coalesced]
  | .saturated stale => (shed stale).2
  | .miss _ => [.miss]

/-- What an event reports. -/
def reports (config : CacheConfig) (s : CacheSystem) : CacheStep → List CacheEvent
  | .locked l =>
    ((s.lookups[l]?).map fun lookup =>
      reportsFound (s.cache.find config lookup.started lookup.candidates)).getD []
  | .wake l =>
    ((s.lookups[l]?).map fun lookup =>
      match lookup.phase with
      | .waiting channel stale =>
        (((s.loads[channel]?).bind received).map fun loaded => (settle loaded stale).2).getD []
      | _ => []).getD []
  | .task p event => ((s.loads[p]?).map fun load => load.reports event).getD []
  | _ => []

variable {config : CacheConfig} {s s' : CacheSystem}

theorem record_nil (s : CacheSystem) : s.record [] = s := by
  rw [record, List.append_nil]

/-- A lookup reports what it finds under the lock. -/
theorem reports_locked {l : Nat} {lookup : Lookup} {found : CacheState.Found}
    (hlookup : s.lookups[l]? = some lookup)
    (hfound : s.cache.find config lookup.started lookup.candidates = found) :
    s.reports config (.locked l) = reportsFound found := by
  rw [reports, hlookup, Option.map_some, hfound]
  rfl

/-- A waiting lookup reports how it settles. -/
theorem reports_wake {l channel : Nat} {lookup : Lookup} {stale : Option Answer} {load : Load}
    {loaded : LoadResult} (hlookup : s.lookups[l]? = some lookup)
    (hphase : lookup.phase = .waiting channel stale) (hload : s.loads[channel]? = some load)
    (hreceived : received load = some loaded) :
    s.reports config (.wake l) = (settle loaded stale).2 := by
  simp only [reports, hlookup, hphase, hload, hreceived, Option.bind_some, Option.map_some,
    Option.getD_some]

/-- A task reports what its load does. -/
theorem reports_task {p : Nat} {load : Load} (event : TaskEvent) (hload : s.loads[p]? = some load) :
    s.reports config (.task p event) = load.reports event := by
  rw [reports, hload]
  rfl

/-- The section records what it found. -/
theorem metrics_lock (l : Nat) (lookup : Lookup) : (s.lock config l lookup).metrics =
    s.metrics ++ reportsFound (s.cache.find config lookup.started lookup.candidates) := by
  unfold lock
  split <;> next hfound => rw [hfound]; rfl

/-- An event adds to the metrics what it reports. -/
theorem step_metrics {event : CacheStep} (h : step config event s = some s') :
    s'.metrics = s.metrics ++ s.reports config event := by
  cases event with
  | tick duration =>
    simp only [step] at h
    split_ifs at h
    cases h
    exact (List.append_nil _).symm
  | begin | invalidate | clear =>
    cases h
    exact (List.append_nil _).symm
  | locked l =>
    obtain ⟨lookup, hlookup, h⟩ := Option.bind_eq_some_iff.mp h
    split at h
    · cases h
      rw [metrics_lock, reports, hlookup, Option.map_some, Option.getD_some]
    · exact absurd h (by simp)
  | wake l =>
    obtain ⟨lookup, hlookup, h⟩ := Option.bind_eq_some_iff.mp h
    split at h
    · next hphase =>
      obtain ⟨loaded, hloaded, rfl⟩ := Option.map_eq_some_iff.mp h
      simp only [reports, hlookup, hphase, hloaded, Option.map_some, Option.getD_some]
      rfl
    · exact absurd h (by simp)
  | cancel l =>
    obtain ⟨lookup, hlookup, h⟩ := Option.bind_eq_some_iff.mp h
    split at h
    · cases h
      exact (List.append_nil _).symm
    · exact absurd h (by simp)
  | task p event =>
    obtain ⟨load, hload, h⟩ := Option.bind_eq_some_iff.mp h
    obtain ⟨load', hadvance, rfl⟩ := Option.map_eq_some_iff.mp h
    simp only [reports, hload, Option.map_some, Option.getD_some]
    rfl
  | finish p =>
    obtain ⟨load, hload, h⟩ := Option.bind_eq_some_iff.mp h
    split at h
    · cases h
      exact (List.append_nil _).symm
    · exact absurd h (by simp)

/-- How the tallies change when a lookup goes on. -/
theorem tallied_setPhase {l : Nat} {lookup : Lookup} (hlookup : s.lookups[l]? = some lookup)
    (phase : LookupPhase) (tally : Tally) :
    (s.setPhase l lookup phase).tallied tally + (if lookup.tally = tally then 1 else 0) =
      s.tallied tally +
        if ({ lookup with phase := phase } : Lookup).tally = tally then 1 else 0 := by
  have hset := countP_set (fun lookup : Lookup => decide (lookup.tally = tally)) hlookup
    { lookup with phase := phase }
  simpa only [tallied, setPhase, decide_eq_true_eq] using hset

end CacheSystem

-- ---------------------------------------------------------------------------
-- What loads change
-- ---------------------------------------------------------------------------

/-- A load that ends has published no more than before. -/
theorem Load.finish_value (load : Load) (result : LoadResult) (dropping : Bool) :
    (load.finish result dropping).value = load.value := by
  unfold finish
  split_ifs <;> rfl

/-- Only `send` puts a value on the channel. -/
theorem Load.advance_value {config : CacheConfig} {now p : Nat} {event : TaskEvent}
    {load load' : Load} (h : load.advance config now p event = some load')
    (hsend : event ≠ .send) : load'.value = load.value := by
  unfold advance at h
  split at h
  case h_4 =>
    split_ifs at h
    cases h
    exact load.finish_value _ _
  case h_9 => exact absurd rfl hsend
  case h_11 => exact absurd h (by simp)
  case h_1 | h_10 =>
    cases h
    rfl
  all_goals
    cases h
    exact Load.finish_value _ _ _

/-- A load fails when it sends an error, and reports it. -/
theorem Load.advance_failed {config : CacheConfig} {now p : Nat} {event : TaskEvent}
    {load load' : Load} (hok : load.Ok p) (h : load.advance config now p event = some load') :
    (if load'.failed then 1 else 0) =
      (if load.failed then 1 else 0) + (load.reports event).count .loadError := by
  by_cases hsend : event = .send
  · subst hsend
    cases htask : load.task with
    | finished result dropping =>
      simp only [advance, htask, Option.some.injEq] at h
      subst h
      unfold Load.Ok at hok
      rw [htask] at hok
      cases result <;> simp [failed, reports, htask, hok.2.1]
    | _ => exact absurd h (by simp [advance, htask])
  · have hnone : load.reports event = [] := by
      unfold reports
      split
      · exact absurd rfl hsend
      · rfl
    rw [failed, Load.advance_value h hsend, hnone]
    rfl

/-- Stale answers stay stale answers while the loads go on. -/
theorem servedStale_mono {config : CacheConfig} {jitterSeed : Nat → UInt64} {s : CacheSystem}
    (inv : CacheInv config jitterSeed s) {loads : List Load}
    (hext : Evolves Load.Extends s.loads loads) :
    s.lookups.countP (Lookup.servedStale loads) =
      s.lookups.countP (Lookup.servedStale s.loads) := by
  refine List.countP_congr fun lookup hmem => ?_
  obtain ⟨l, hlookup⟩ := List.getElem?_of_mem hmem
  unfold Lookup.servedStale
  split
  · rfl
  · next p hits hphase =>
    have hwarranted := inv.warranted hlookup hphase
    obtain ⟨load, hload, -, hvalue⟩ := hwarranted
    obtain ⟨load', hload', hle⟩ := hext p load hload
    have hsame : CacheSystem.received load' = CacheSystem.received load := by
      rcases hvalue with ⟨hvalue, -⟩ | ⟨⟨error, hreceived⟩, -⟩
      · have hreceived := Load.received_of_value hvalue
        exact (hle.received _ hreceived).trans hreceived.symm
      · exact (hle.received _ hreceived).trans hreceived.symm
    rw [hload, hload', Option.any_some, Option.any_some, Load.denied, Load.denied, hsame]
  · rfl

-- ---------------------------------------------------------------------------
-- The ledger
-- ---------------------------------------------------------------------------

/-- How many calls were reported as this. -/
def Tally.count (metrics : List CacheEvent) : Tally → Nat
  | .uncounted => 0
  | .hit => metrics.count .hit
  | .negativeHit => metrics.count .negativeHit
  | .joined => metrics.count .miss + metrics.count .coalesced
  | .shed => metrics.count .shed

theorem Tally.count_append (metrics events : List CacheEvent) (tally : Tally) :
    tally.count (metrics ++ events) = tally.count metrics + tally.count events := by
  cases tally <;> simp only [count, List.count_append, Nat.add_add_add_comm]

/-- The reports of each kind, as counts of calls and loads. -/
structure CacheLedger (s : CacheSystem) : Prop where
  /-- Every call that has come to the lock was counted once. -/
  calls  : ∀ tally, tally ≠ .uncounted → tally.count s.metrics = s.tallied tally
  /-- Every load was started by a miss, and by one. -/
  misses : s.metrics.count .miss = s.loads.length
  stale  : s.metrics.count .staleServed = s.lookups.countP (Lookup.servedStale s.loads)
  errors : s.metrics.count .loadError = s.loads.countP Load.failed

namespace CacheLedger

variable {config : CacheConfig} {jitterSeed : Nat → UInt64} {s : CacheSystem}

theorem start (jitterSeed : Nat → UInt64) : CacheLedger (.start jitterSeed) where
  calls tally h := by cases tally <;> rfl
  misses := rfl
  stale := rfl
  errors := rfl

/-- A lookup goes on, and may have started a load. -/
theorem setPhase (ledger : CacheLedger s) (inv : CacheInv config jitterSeed s) {l : Nat}
    {lookup : Lookup} (hlookup : s.lookups[l]? = some lookup) {phase : LookupPhase}
    {events : List CacheEvent} {cache : CacheState} {loads : List Load}
    (hext : Evolves Load.Extends s.loads loads)
    (hcalls : ∀ tally, tally ≠ .uncounted → (if lookup.tally = tally then 1 else 0) +
      tally.count events = if ({ lookup with phase := phase } : Lookup).tally = tally then 1 else 0)
    (hlength : loads.length = s.loads.length + events.count .miss)
    (hstale : (if lookup.servedStale loads then 1 else 0) + events.count .staleServed =
      if ({ lookup with phase := phase } : Lookup).servedStale loads then 1 else 0)
    (hfailed : loads.countP Load.failed = s.loads.countP Load.failed + events.count .loadError) :
    CacheLedger (({ s with cache := cache, loads := loads }.setPhase l lookup phase).record
      events) := by
  obtain ⟨calls, misses, stale, errors⟩ := ledger
  have hserved := countP_set (Lookup.servedStale loads) hlookup { lookup with phase := phase }
  refine ⟨fun tally htally => ?_, ?_, ?_, ?_⟩
  · have htallied := CacheSystem.tallied_setPhase hlookup phase tally
    have hbefore := calls tally htally
    have hnew := hcalls tally htally
    show tally.count (s.metrics ++ events) = (s.setPhase l lookup phase).tallied tally
    rw [Tally.count_append]
    omega
  · show (s.metrics ++ events).count .miss = loads.length
    rw [List.count_append, misses, hlength]
  · show (s.metrics ++ events).count .staleServed =
      (s.lookups.set l { lookup with phase := phase }).countP (Lookup.servedStale loads)
    have hmono := servedStale_mono inv hext
    rw [List.count_append]
    omega
  · show (s.metrics ++ events).count .loadError = loads.countP Load.failed
    rw [List.count_append, errors, hfailed]

/-- The loads go on, and the lookups do not. -/
theorem setLoads (ledger : CacheLedger s) (inv : CacheInv config jitterSeed s)
    {events : List CacheEvent} {cache : CacheState} {loads : List Load}
    (hext : Evolves Load.Extends s.loads loads) (hlength : loads.length = s.loads.length)
    (hcalls : ∀ tally : Tally, tally.count events = 0) (hmiss : events.count .miss = 0)
    (hstale : events.count .staleServed = 0)
    (hfailed : loads.countP Load.failed = s.loads.countP Load.failed + events.count .loadError) :
    CacheLedger ({ s with cache := cache, loads := loads }.record events) := by
  obtain ⟨calls, misses, stale, errors⟩ := ledger
  refine ⟨fun tally htally => ?_, ?_, ?_, ?_⟩
  · show tally.count (s.metrics ++ events) = s.tallied tally
    rw [Tally.count_append, hcalls, calls tally htally, Nat.add_zero]
  · show (s.metrics ++ events).count .miss = loads.length
    rw [List.count_append, misses, hmiss, hlength, Nat.add_zero]
  · show (s.metrics ++ events).count .staleServed = s.lookups.countP (Lookup.servedStale loads)
    rw [List.count_append, stale, hstale, servedStale_mono inv hext, Nat.add_zero]
  · show (s.metrics ++ events).count .loadError = loads.countP Load.failed
    rw [List.count_append, errors, hfailed]

/-- The locked section of a lookup counts it, as what it comes to. -/
theorem locked (ledger : CacheLedger s) (inv : CacheInv config jitterSeed s) {l : Nat}
    {lookup : Lookup} (hlookup : s.lookups[l]? = some lookup) (hphase : lookup.phase = .begun)
    {phase : LookupPhase} {events : List CacheEvent} {cache : CacheState} {loads : List Load}
    (hext : Evolves Load.Extends s.loads loads)
    (hcalls : ∀ tally : Tally,
      tally.count events = if ({ lookup with phase := phase } : Lookup).tally = tally then 1 else 0)
    (hlength : loads.length = s.loads.length + events.count .miss)
    (hstale : events.count .staleServed =
      if ({ lookup with phase := phase } : Lookup).servedStale loads then 1 else 0)
    (hfailed : loads.countP Load.failed = s.loads.countP Load.failed)
    (herror : events.count .loadError = 0) :
    CacheLedger (({ s with cache := cache, loads := loads }.setPhase l lookup phase).record
      events) := by
  have htally : lookup.tally = .uncounted := by rw [Lookup.tally, hphase]
  have hserved : lookup.servedStale loads = false := by rw [Lookup.servedStale, hphase]
  refine ledger.setPhase inv hlookup hext (fun tally hne => ?_) hlength ?_ ?_
  · rw [htally, if_neg (Ne.symm hne), hcalls, Nat.zero_add]
  · rw [hserved, hstale]
    exact Nat.zero_add _
  · rw [hfailed, herror, Nat.add_zero]

/-- A waiting lookup gets its result, or the stale answer instead. -/
theorem wake (ledger : CacheLedger s) (inv : CacheInv config jitterSeed s) {l channel : Nat}
    {lookup : Lookup} {stale : Option Answer} {load : Load} {loaded : LoadResult}
    (hlookup : s.lookups[l]? = some lookup) (hphase : lookup.phase = .waiting channel stale)
    (hload : s.loads[channel]? = some load)
    (hreceived : CacheSystem.received load = some loaded) :
    CacheLedger ((s.setPhase l lookup
      (.returned (.joined channel) (settle loaded stale).1)).record (settle loaded stale).2) := by
  have htally : lookup.tally = .joined := by rw [Lookup.tally, hphase]
  have hserved : lookup.servedStale s.loads = false := by rw [Lookup.servedStale, hphase]
  refine ledger.setPhase inv hlookup (.refl Load.Extends.refl _) (fun tally _ => ?_) ?_ ?_ ?_
  · rw [htally]
    cases loaded <;> cases stale <;> cases tally <;> rfl
  · cases loaded <;> cases stale <;> rfl
  · rw [hserved]
    cases loaded <;> cases stale <;>
      simp [settle, Lookup.servedStale, hload, Load.denied, hreceived]
  · cases loaded <;> cases stale <;> rfl

/-- A cancelled call stays counted, and nothing is reported. -/
theorem cancel (ledger : CacheLedger s) (inv : CacheInv config jitterSeed s) {l channel : Nat}
    {lookup : Lookup} {stale : Option Answer} (hlookup : s.lookups[l]? = some lookup)
    (hphase : lookup.phase = .waiting channel stale) :
    CacheLedger (s.setPhase l lookup .cancelled) := by
  have htally : lookup.tally = .joined := by rw [Lookup.tally, hphase]
  have hserved : lookup.servedStale s.loads = false := by rw [Lookup.servedStale, hphase]
  rw [← CacheSystem.record_nil (s.setPhase l lookup .cancelled)]
  refine ledger.setPhase inv hlookup (.refl Load.Extends.refl _) (fun tally _ => ?_) rfl ?_ rfl
  · rw [htally]
    cases tally <;> rfl
  · rw [hserved]
    rfl

/-- The task of a load goes on, and reports an error at most. -/
theorem task (ledger : CacheLedger s) (inv : CacheInv config jitterSeed s) {p : Nat}
    {load load' : Load} {event : TaskEvent} (hload : s.loads[p]? = some load)
    (hadvance : load.advance config s.clock p event = some load') :
    CacheLedger (({ s with loads := s.loads.set p load' } : CacheSystem).record
      (load.reports event)) := by
  obtain ⟨-, hle, -⟩ := Load.advance_spec (inv.loads p load hload).1 hadvance
  have hquiet : load.reports event = [] ∨ load.reports event = [.loadError] := by
    unfold Load.reports
    split
    · exact .inr rfl
    · exact .inl rfl
  refine ledger.setLoads inv (.set Load.Extends.refl hload hle) List.length_set ?_ ?_ ?_ ?_
  · intro tally
    rcases hquiet with hquiet | hquiet <;> rw [hquiet] <;> cases tally <;> rfl
  · rcases hquiet with hquiet | hquiet <;> rw [hquiet] <;> rfl
  · rcases hquiet with hquiet | hquiet <;> rw [hquiet] <;> rfl
  · have hfailed := Load.advance_failed (inv.loads p load hload).1 hadvance
    have hset := countP_set Load.failed hload load'
    omega

theorem step (ledger : CacheLedger s) (inv : CacheInv config jitterSeed s) {event : CacheStep}
    {s' : CacheSystem} (h : CacheSystem.step config event s = some s') : CacheLedger s' := by
  have hmetrics := CacheSystem.step_metrics h
  have hrefl : Evolves Load.Extends s.loads s.loads := .refl Load.Extends.refl _
  cases CacheSystem.step_cases h with
  | tick | invalidate | clear => exact ⟨ledger.calls, ledger.misses, ledger.stale, ledger.errors⟩
  | begin =>
    refine ⟨fun tally htally => ?_, ledger.misses, ?_, ledger.errors⟩
    · rw [CacheSystem.tallied, List.countP_append, List.countP_singleton]
      have hnew : ¬ Tally.uncounted = tally := fun heq => htally heq.symm
      simp only [Lookup.tally, decide_eq_true_eq, hnew, if_false, Nat.add_zero]
      exact ledger.calls tally htally
    · rw [List.countP_append, List.countP_singleton]
      exact ledger.stale
  | @fresh l lookup hits hlookup hphase hfound events =>
    obtain rfl : events = [if hits.hits.isEmpty then .negativeHit else .hit] :=
      List.append_cancel_left (hmetrics.trans
        (congrArg _ (CacheSystem.reports_locked hlookup hfound)))
    refine ledger.locked inv hlookup hphase hrefl (fun tally => ?_) ?_ ?_ rfl ?_
    · cases hempty : hits.hits.isEmpty <;> cases tally <;>
        simp [Lookup.tally, Tally.count, hempty]
    all_goals cases hits.hits.isEmpty <;> rfl
  | @coalesced l lookup channel stale hlookup hphase hfound events =>
    obtain rfl : events = [.coalesced] :=
      List.append_cancel_left (hmetrics.trans
        (congrArg _ (CacheSystem.reports_locked hlookup hfound)))
    exact ledger.locked inv hlookup hphase hrefl (fun tally => by cases tally <;> rfl) rfl rfl rfl
      rfl
  | @saturated l lookup stale hlookup hphase hfound events =>
    obtain rfl : events = (shed stale).2 :=
      List.append_cancel_left (hmetrics.trans
        (congrArg _ (CacheSystem.reports_locked hlookup hfound)))
    refine ledger.locked inv hlookup hphase hrefl (fun tally => ?_) ?_ ?_ rfl ?_
    · cases stale <;> cases tally <;> rfl
    all_goals cases stale <;> rfl
  | @miss l lookup stale hlookup hphase hfound events =>
    obtain rfl : events = [.miss] :=
      List.append_cancel_left (hmetrics.trans
        (congrArg _ (CacheSystem.reports_locked hlookup hfound)))
    refine ledger.locked inv hlookup hphase (.append Load.Extends.refl _ _)
      (fun tally => by cases tally <;> rfl) ?_ rfl ?_ rfl
    · exact List.length_append
    · rw [List.countP_append, List.countP_singleton]
      rfl
  | @wake l lookup channel stale load loaded hlookup hphase hload hreceived events =>
    obtain rfl : events = (settle loaded stale).2 :=
      List.append_cancel_left (hmetrics.trans
        (congrArg _ (CacheSystem.reports_wake hlookup hphase hload hreceived)))
    exact ledger.wake inv hlookup hphase hload hreceived
  | cancel hlookup hphase => exact ledger.cancel inv hlookup hphase
  | @task p event load load' hload hadvance events =>
    obtain rfl : events = load.reports event :=
      List.append_cancel_left (hmetrics.trans (congrArg _ (CacheSystem.reports_task event hload)))
    exact ledger.task inv hload hadvance
  | @finish p load result dropping hload htask =>
    obtain ⟨-, hle, -⟩ := CacheInv.finished_ok (inv.loads p load hload).1 htask rfl
    rw [← CacheSystem.record_nil (s.finishSection config p load result dropping)]
    refine ledger.setLoads inv (.set Load.Extends.refl hload hle) List.length_set
      (fun tally => by cases tally <;> rfl) rfl rfl ?_
    exact Nat.add_right_cancel (countP_set Load.failed hload _)

end CacheLedger

end SniRouter
