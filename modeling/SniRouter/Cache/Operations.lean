import SniRouter.Cache.System

/-!
# SniRouter — operations on the cache state

The state under the lock and the operations on it, in any order, without the
tasks that run them: what the order and the index keep does not depend on who
calls.

* `CacheOp` — insertion, removal and the sections of lookups and loads.
* `cacheOps` — the machine whose runs are all sequences of operations.
* `operates` — the cache at work only ever runs such a sequence.
-/

namespace SniRouter

/-- The clock and the state under the lock. -/
structure TimedCache where
  clock : Nat
  cache : CacheState

/-- What is done under the lock, with its parts, and the passage of time. -/
inductive CacheOp where
  | tick (duration : Nat)
  | startLoad (candidates : RouteCandidates) (channel : Nat)
  | finishLoad (candidates : RouteCandidates) (id : Nat) (result : LoadResult)
  | insert (candidates : RouteCandidates) (hits : Answer)
  | remove (candidates : RouteCandidates)
  | invalidate (key : RouteKey)
  | clear

/-- What an operation at `now` makes of the cache. -/
def CacheState.operate (config : CacheConfig) (now : Nat) (op : CacheOp) (state : CacheState) :
    CacheState :=
  match op with
  | .tick _ => state
  | .startLoad candidates channel => (state.startLoad candidates channel).2
  | .finishLoad candidates id result => state.finishLoad config now candidates id result
  | .insert candidates hits => state.insert candidates hits config now
  | .remove candidates => state.removeEntry candidates
  | .invalidate key => state.invalidate key
  | .clear => state.clear

/-- Only the passage of time moves the clock. -/
def CacheOp.duration : CacheOp → Nat
  | .tick duration => duration
  | _ => 0

/-- An operation at the clock, which may not pass its end. -/
def TimedCache.step (config : CacheConfig) (op : CacheOp) (s : TimedCache) : Option TimedCache :=
  if s.clock + op.duration ≤ maxInstant then
    some ⟨s.clock + op.duration, s.cache.operate config s.clock op⟩
  else none

/-- The cache under any sequence of operations. -/
def cacheOps (config : CacheConfig) (jitterSeed : Nat → UInt64) : Machine TimedCache CacheOp where
  init s := s = ⟨0, .new jitterSeed⟩
  step   := TimedCache.step config

/-- A step moves the clock and operates on the cache. -/
theorem TimedCache.step_cases {config : CacheConfig} {op : CacheOp} {s s' : TimedCache}
    (h : TimedCache.step config op s = some s') :
    s.clock + op.duration ≤ maxInstant ∧ s'.clock = s.clock + op.duration ∧
      s'.cache = s.cache.operate config s.clock op := by
  unfold TimedCache.step at h
  split_ifs at h with hclock
  injection h with h
  rw [← h]
  exact ⟨hclock, rfl, rfl⟩

variable {config : CacheConfig} {jitterSeed : Nat → UInt64}

/-- What every operation keeps, the cache has after any sequence of them. -/
theorem TimedCache.invariant (Inv : CacheState → Prop) (hnew : Inv (.new jitterSeed))
    (hop : ∀ now op state, Inv state → Inv (state.operate config now op)) {s : TimedCache}
    (hr : (cacheOps config jitterSeed).Reachable s) : Inv s.cache := by
  have hinit : ∀ {s}, (cacheOps config jitterSeed).init s → Inv s.cache := by
    rintro s rfl
    exact hnew
  have hstep : ∀ {op s s'}, Inv s.cache → (cacheOps config jitterSeed).step op s = some s' →
      Inv s'.cache := by
    intro op s s' hs hstep
    obtain ⟨-, -, hcache⟩ := TimedCache.step_cases hstep
    exact hcache ▸ hop s.clock op s.cache hs
  exact hr.invariant hinit hstep

/-- The state of the cache at work, as that of the operations. -/
def CacheSystem.timed (s : CacheSystem) : TimedCache := ⟨s.clock, s.cache⟩

/-- What is under the lock came about by operations. -/
def CacheSystem.Operates (config : CacheConfig) (jitterSeed : Nat → UInt64) (s : CacheSystem) :
    Prop :=
  (cacheOps config jitterSeed).Reachable s.timed ∧ s.clock ≤ maxInstant

/-- An operation in a reachable state that takes no time. -/
theorem reachable_operate {now : Nat} {state : CacheState} (op : CacheOp)
    (hr : (cacheOps config jitterSeed).Reachable ⟨now, state⟩) (hclock : now ≤ maxInstant)
    (hop : op.duration = 0) :
    (cacheOps config jitterSeed).Reachable ⟨now, state.operate config now op⟩ := by
  refine hr.step (e := op) ?_
  show TimedCache.step config op ⟨now, state⟩ = _
  unfold TimedCache.step
  rw [hop]
  exact if_pos hclock

/-- **Whatever lookups, loads and callers do, the cache goes through a sequence
of operations.** -/
theorem operates {s : CacheSystem} (hr : (cacheMachine config jitterSeed).Reachable s) :
    (cacheOps config jitterSeed).Reachable s.timed := by
  have hinit : ∀ {s}, (cacheMachine config jitterSeed).init s → s.Operates config jitterSeed := by
    rintro s rfl
    exact ⟨.init rfl, Nat.zero_le _⟩
  have hstep : ∀ {event s s'}, s.Operates config jitterSeed →
      (cacheMachine config jitterSeed).step event s = some s' →
      s'.Operates config jitterSeed := by
    rintro event s s' ⟨hs, hclock⟩ hstep
    cases CacheSystem.step_cases hstep with
    | @tick duration htick => exact ⟨hs.step (e := .tick duration) (if_pos htick), htick⟩
    -- lookups touch the cache only to start a load
    | @miss l lookup _ _ _ _ _ =>
      exact ⟨reachable_operate (.startLoad lookup.candidates s.loads.length) hs hclock rfl, hclock⟩
    | begin => exact ⟨hs, hclock⟩
    | fresh => exact ⟨hs, hclock⟩
    | coalesced => exact ⟨hs, hclock⟩
    | saturated => exact ⟨hs, hclock⟩
    | wake => exact ⟨hs, hclock⟩
    | cancel => exact ⟨hs, hclock⟩
    | task => exact ⟨hs, hclock⟩
    | @finish p load result dropping _ _ =>
      exact ⟨reachable_operate (.finishLoad load.candidates load.id result) hs hclock rfl, hclock⟩
    | @invalidate key => exact ⟨reachable_operate (.invalidate key) hs hclock rfl, hclock⟩
    | clear => exact ⟨reachable_operate .clear hs hclock rfl, hclock⟩
  exact (hr.invariant hinit hstep).1

end SniRouter
