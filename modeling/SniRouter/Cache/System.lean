import SniRouter.Cache.Sections
import SniRouter.Lib.Machine

/-!
# SniRouter — the lookup cache at work

Lookups, load tasks, invalidations and the clock as one machine. Each section
that the code runs under the state lock is one event; so is everything a task
does between two awaits outside the lock.

* `Load` — a load task: its guard, its channel and what it has done.
* `Lookup` — a call of `cached_lookup`.
* `cacheMachine` — the machine; a run is any interleaving.
* `step_cases` — all that one event can do.
-/

namespace SniRouter

def loadAborted : LookupError := ⟨"route load aborted before completing"⟩
def loadTimedOut : LookupError := ⟨"route load timed out"⟩
def tooManyLoads : LookupError := ⟨"too many route loads in flight"⟩

-- ---------------------------------------------------------------------------
-- Load tasks
-- ---------------------------------------------------------------------------

/-- Where a load task is. `dropping` tells a `finish` called from `Drop` from
one called from `complete`. -/
inductive LoadTask where
  /-- Not polled yet. -/
  | spawned
  /-- The inner lookup is under way. -/
  | running
  /-- In `finish` with the sender taken, before the locked section. -/
  | finishing (result : LoadResult) (dropping : Bool)
  /-- In `finish`, after the locked section. -/
  | finished (result : LoadResult) (dropping : Bool)
  /-- The locked section panicked; the sender is still to go. -/
  | unwinding
  /-- `finish` returned to `complete`; the guard is still to be dropped. -/
  | completed
  | ended
  /-- The panic in `finish` has dropped the sender, with nothing sent. -/
  | panicked

/-- A load task: its guard, its channel, and ghosts of what it has done. -/
structure Load where
  candidates : RouteCandidates
  id         : Nat
  task       : LoadTask
  /-- The guard still holds the sender of the channel. -/
  sender     : Bool
  /-- When the inner lookup was called. -/
  startedAt  : Nat
  /-- The value on the watch channel. -/
  value      : Option LoadResult
  /-- Ghost: the hits the inner lookup returned. -/
  answered   : Option RouteHits
  /-- Ghost: when its answer was stored. -/
  storedAt   : Option Nat
  /-- Ghosts: how often it gave back its count, and sent a result. -/
  decrements : Nat
  sends      : Nat

/-- What a load task does outside the lock. -/
inductive TaskEvent where
  | poll
  | answer (result : Except LookupError RouteHits)
  | timeout
  | panic
  | drop
  | send
  | unwind

namespace Load

/-- The load that a miss spawns. -/
def spawn (candidates : RouteCandidates) (id : Nat) : Load :=
  ⟨candidates, id, .spawned, true, 0, none, none, none, 0, 0⟩

/-- `LoadGuard::finish` up to the lock: only the first call has a sender. -/
def finish (load : Load) (result : LoadResult) (dropping : Bool) : Load :=
  if load.sender then { load with sender := false, task := .finishing result dropping }
  else { load with task := if dropping then .ended else .completed }

/-- One event of the task of load number `p`. -/
def advance (config : CacheConfig) (now p : Nat) (event : TaskEvent) (load : Load) : Option Load :=
  match event, load.task with
  | .poll, .spawned => some { load with task := .running, startedAt := now }
  | .answer (.ok hits), .running =>
    some ({ load with answered := some hits }.finish (.ok ⟨hits, p⟩) false)
  | .answer (.error error), .running => some (load.finish (.error error) false)
  | .timeout, .running =>
    if load.startedAt + config.loadTimeout ≤ now then
      some (load.finish (.error loadTimedOut) false)
    else none
  -- unwinding and aborting drop the guard without completing it
  | .panic, .running => some (load.finish (.error loadAborted) true)
  | .drop, .spawned => some (load.finish (.error loadAborted) true)
  | .drop, .running => some (load.finish (.error loadAborted) true)
  -- the guard dropped at the end of `complete`
  | .drop, .completed => some (load.finish (.error loadAborted) true)
  -- a channel without receivers keeps the value too: nobody can look
  | .send, .finished result dropping =>
    some { load with
      value := some result
      sends := load.sends + 1
      task := if dropping then .ended else .completed }
  -- the guard dropped on the way finds no sender
  | .unwind, .unwinding => some { load with task := .panicked }
  | _, _ => none

/-- The locked section of `finish` has not run yet. -/
def unfinished (load : Load) : Bool :=
  match load.task with
  | .spawned | .running | .finishing _ _ => true
  | _ => false

/-- The sender is gone: `finish` has returned, or panicked. -/
def senderDropped (load : Load) : Bool :=
  match load.task with
  | .completed | .ended | .panicked => true
  | _ => false

/-- `finish` panicked in the locked section. -/
def lost (load : Load) : Bool :=
  match load.task with
  | .unwinding | .panicked => true
  | _ => false

end Load

-- ---------------------------------------------------------------------------
-- Lookups
-- ---------------------------------------------------------------------------

/-- How a lookup came to its answer: from a fresh entry, without a load, or
through the load it started or joined. -/
inductive LookupPath where
  | fresh
  | shed
  | joined (load : Nat)
deriving DecidableEq

/-- What became of a call. -/
inductive LookupPhase where
  | begun
  | waiting (channel : Nat) (stale : Option Answer)
  | returned (path : LookupPath) (result : LoadResult)
  | cancelled
deriving DecidableEq

/-- A call of `cached_lookup`, with the `now` it read before taking the lock. -/
structure Lookup where
  candidates : RouteCandidates
  started    : Nat
  phase      : LookupPhase

/-- Without a load: stale if possible, else fail closed. -/
def shed (stale : Option Answer) : LoadResult × List CacheEvent :=
  match stale with
  | some stale => (.ok stale, [.shed, .staleServed])
  | none => (.error tooManyLoads, [.shed])

/-- The end of `cached_lookup`: a failed load is covered by a stale entry. -/
def settle (loaded : LoadResult) (stale : Option Answer) : LoadResult × List CacheEvent :=
  match loaded, stale with
  | .ok hits, _ => (.ok hits, [])
  | .error _, some stale => (.ok stale, [.staleServed])
  | .error error, none => (.error error, [])

-- ---------------------------------------------------------------------------
-- The machine
-- ---------------------------------------------------------------------------

/-- The cache with its clock, its load tasks, its calls and its metrics. -/
structure CacheSystem where
  clock   : Nat
  cache   : CacheState
  loads   : List Load
  lookups : List Lookup
  metrics : List CacheEvent

/-- The passage of time, a step of a call or of a load task, or an invalidation. -/
inductive CacheStep where
  | tick (duration : Nat)
  | begin (candidates : RouteCandidates)
  | locked (l : Nat)
  | wake (l : Nat)
  | cancel (l : Nat)
  | task (p : Nat) (event : TaskEvent)
  | finish (p : Nat)
  | invalidate (key : RouteKey)
  | clear

namespace CacheSystem

/-- An empty cache at the clock's zero. -/
def start (jitterSeed : Nat → UInt64) : CacheSystem :=
  ⟨0, .new jitterSeed, [], [], []⟩

/-- The phase of a lookup changes. -/
def setPhase (s : CacheSystem) (l : Nat) (lookup : Lookup) (phase : LookupPhase) : CacheSystem :=
  { s with lookups := s.lookups.set l { lookup with phase := phase } }

/-- Metrics are appended. -/
def record (s : CacheSystem) (events : List CacheEvent) : CacheSystem :=
  { s with metrics := s.metrics ++ events }

/-- The locked section of `cached_lookup`, and what follows it without an
await. -/
def lock (config : CacheConfig) (s : CacheSystem) (l : Nat) (lookup : Lookup) : CacheSystem :=
  match s.cache.find config lookup.started lookup.candidates with
  | .fresh hits =>
    (s.setPhase l lookup (.returned .fresh (.ok hits))).record
      [if hits.hits.isEmpty then .negativeHit else .hit]
  | .coalesced channel stale => (s.setPhase l lookup (.waiting channel stale)).record [.coalesced]
  | .saturated stale =>
    (s.setPhase l lookup (.returned .shed (shed stale).1)).record (shed stale).2
  | .miss stale =>
    let channel := s.loads.length
    let (id, cache) := s.cache.startLoad lookup.candidates channel
    let s := { s with cache := cache, loads := s.loads ++ [Load.spawn lookup.candidates id] }
    (s.setPhase l lookup (.waiting channel stale)).record [.miss]

/-- What a receiver waiting for a value gets, once there is something to get. -/
def received (load : Load) : Option LoadResult :=
  match load.value with
  | some result => some result
  | none => if load.senderDropped then some (.error loadAborted) else none

/-- The locked section of a load's `finish`. Its panic leaves the slot and the
count given back. -/
def finishSection (config : CacheConfig) (s : CacheSystem) (p : Nat) (load : Load)
    (result : LoadResult) (dropping : Bool) : CacheSystem :=
  let panics := s.cache.finishPanics config s.clock load.candidates load.id result
  let stores := !panics && s.cache.ownsSlot load.candidates load.id && result.isOk &&
    config.maxEntries != 0
  { s with
    cache := s.cache.finishLoad config s.clock load.candidates load.id result
    loads := s.loads.set p { load with
      task := if panics then .unwinding else .finished result dropping
      storedAt := if stores then some s.clock else load.storedAt
      decrements := load.decrements + 1 } }

/-- The step relation; `none` is an event that cannot happen. -/
def step (config : CacheConfig) (event : CacheStep) (s : CacheSystem) : Option CacheSystem :=
  match event with
  | .tick duration =>
    if s.clock + duration ≤ maxInstant then some { s with clock := s.clock + duration } else none
  | .begin candidates =>
    some { s with lookups := s.lookups ++ [⟨candidates, s.clock, .begun⟩] }
  | .locked l =>
    (s.lookups[l]?).bind fun lookup =>
      match lookup.phase with
      | .begun => some (s.lock config l lookup)
      | _ => none
  | .wake l =>
    (s.lookups[l]?).bind fun lookup =>
      match lookup.phase with
      | .waiting channel stale =>
        ((s.loads[channel]?).bind received).map fun loaded =>
          (s.setPhase l lookup (.returned (.joined channel) (settle loaded stale).1)).record
            (settle loaded stale).2
      | _ => none
  | .cancel l =>
    (s.lookups[l]?).bind fun lookup =>
      match lookup.phase with
      | .waiting _ _ => some (s.setPhase l lookup .cancelled)
      | _ => none
  | .task p event =>
    (s.loads[p]?).bind fun load =>
      (load.advance config s.clock p event).map fun load' =>
        ({ s with loads := s.loads.set p load' }).record
          (match event, load.task with
            | .send, .finished (.error _) _ => [.loadError]
            | _, _ => [])
  | .finish p =>
    (s.loads[p]?).bind fun load =>
      match load.task with
      | .finishing result dropping => some (s.finishSection config p load result dropping)
      | _ => none
  | .invalidate key => some { s with cache := s.cache.invalidate key }
  | .clear => some { s with cache := s.cache.clear }

/-- All that one event can do. -/
inductive Stepped (config : CacheConfig) (s : CacheSystem) : CacheStep → CacheSystem → Prop where
  | tick {duration} (hclock : s.clock + duration ≤ maxInstant) :
      Stepped config s (.tick duration) { s with clock := s.clock + duration }
  | begin {candidates} :
      Stepped config s (.begin candidates)
        { s with lookups := s.lookups ++ [⟨candidates, s.clock, .begun⟩] }
  | fresh {l lookup hits} (hlookup : s.lookups[l]? = some lookup) (hphase : lookup.phase = .begun)
      (hfound : s.cache.find config lookup.started lookup.candidates = .fresh hits) (events) :
      Stepped config s (.locked l)
        ((s.setPhase l lookup (.returned .fresh (.ok hits))).record events)
  | coalesced {l lookup channel stale} (hlookup : s.lookups[l]? = some lookup)
      (hphase : lookup.phase = .begun)
      (hfound : s.cache.find config lookup.started lookup.candidates =
        .coalesced channel stale) (events) :
      Stepped config s (.locked l) ((s.setPhase l lookup (.waiting channel stale)).record events)
  | saturated {l lookup stale} (hlookup : s.lookups[l]? = some lookup)
      (hphase : lookup.phase = .begun)
      (hfound : s.cache.find config lookup.started lookup.candidates = .saturated stale) (events) :
      Stepped config s (.locked l)
        ((s.setPhase l lookup (.returned .shed (shed stale).1)).record events)
  | miss {l lookup stale} (hlookup : s.lookups[l]? = some lookup) (hphase : lookup.phase = .begun)
      (hfound : s.cache.find config lookup.started lookup.candidates = .miss stale) (events) :
      Stepped config s (.locked l)
        ((({ s with
          cache := (s.cache.startLoad lookup.candidates s.loads.length).2
          loads := s.loads ++ [Load.spawn lookup.candidates s.cache.nextId] }).setPhase l lookup
            (.waiting s.loads.length stale)).record events)
  | wake {l lookup channel stale load loaded} (hlookup : s.lookups[l]? = some lookup)
      (hphase : lookup.phase = .waiting channel stale) (hload : s.loads[channel]? = some load)
      (hreceived : received load = some loaded) (events) :
      Stepped config s (.wake l)
        ((s.setPhase l lookup (.returned (.joined channel) (settle loaded stale).1)).record events)
  | cancel {l lookup channel stale} (hlookup : s.lookups[l]? = some lookup)
      (hphase : lookup.phase = .waiting channel stale) :
      Stepped config s (.cancel l) (s.setPhase l lookup .cancelled)
  | task {p event load load'} (hload : s.loads[p]? = some load)
      (hadvance : load.advance config s.clock p event = some load') (events) :
      Stepped config s (.task p event)
        (({ s with loads := s.loads.set p load' }).record events)
  | finish {p load result dropping} (hload : s.loads[p]? = some load)
      (htask : load.task = .finishing result dropping) :
      Stepped config s (.finish p) (s.finishSection config p load result dropping)
  | invalidate {key} : Stepped config s (.invalidate key) { s with cache := s.cache.invalidate key }
  | clear : Stepped config s .clear { s with cache := s.cache.clear }

/-- An event that happens, case by case. -/
theorem step_cases {config : CacheConfig} {event : CacheStep} {s s' : CacheSystem}
    (h : step config event s = some s') : Stepped config s event s' := by
  cases event with
  | tick duration =>
    unfold step at h
    dsimp only at h
    split_ifs at h with hclock
    injection h with h
    exact h ▸ .tick hclock
  | begin candidates =>
    injection h with h
    exact h ▸ .begin
  | locked l =>
    obtain ⟨lookup, hlookup, h⟩ := Option.bind_eq_some_iff.mp h
    split at h
    · next hphase =>
      injection h with h
      subst h
      unfold lock
      split
      · next hfound => exact .fresh hlookup hphase hfound _
      · next hfound => exact .coalesced hlookup hphase hfound _
      · next hfound => exact .saturated hlookup hphase hfound _
      · next hfound => exact .miss hlookup hphase hfound _
    · exact absurd h (by simp)
  | wake l =>
    obtain ⟨lookup, hlookup, h⟩ := Option.bind_eq_some_iff.mp h
    split at h
    · next channel stale hphase =>
      obtain ⟨loaded, hloaded, rfl⟩ := Option.map_eq_some_iff.mp h
      obtain ⟨load, hload, hreceived⟩ := Option.bind_eq_some_iff.mp hloaded
      exact .wake hlookup hphase hload hreceived _
    · exact absurd h (by simp)
  | cancel l =>
    obtain ⟨lookup, hlookup, h⟩ := Option.bind_eq_some_iff.mp h
    split at h
    · next hphase =>
      injection h with h
      exact h ▸ .cancel hlookup hphase
    · exact absurd h (by simp)
  | task p event =>
    obtain ⟨load, hload, h⟩ := Option.bind_eq_some_iff.mp h
    obtain ⟨load', hadvance, rfl⟩ := Option.map_eq_some_iff.mp h
    exact .task hload hadvance _
  | finish p =>
    obtain ⟨load, hload, h⟩ := Option.bind_eq_some_iff.mp h
    split at h
    · next htask =>
      injection h with h
      exact h ▸ .finish hload htask
    · exact absurd h (by simp)
  | invalidate key =>
    injection h with h
    exact h ▸ .invalidate
  | clear =>
    injection h with h
    exact h ▸ .clear

end CacheSystem

/-- The cache with its lookups and loads. -/
def cacheMachine (config : CacheConfig) (jitterSeed : Nat → UInt64) :
    Machine CacheSystem CacheStep where
  init s := s = .start jitterSeed
  step   := CacheSystem.step config

end SniRouter
