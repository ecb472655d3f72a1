import SniRouter.Cache.System
import SniRouter.Lib.Table

/-!
# SniRouter — spawning a load under the state lock

`start_load` hands the load's future to `tokio::spawn` while the call that
misses still holds the state lock, and the future owns the guard whose drop
takes that lock. The sections of the other modules are atomic; here the lock is
held for as long as the call is in `spawn`, so that what the runtime does with
the future meanwhile can be told apart.

* `SpawnBehaviour` — what `spawn` does with a future.
* `lockedMachine` — the cache at work, with the time spent in `spawn`.
* `SelfLocked` — a thread waits for the lock that it holds.
* `kept_run` / `kept_step` — when `spawn` keeps every future, this is the cache
  at work.
* `cleansUp_iff_keeps` — a load that never runs is cleaned up exactly when
  `spawn` keeps its future.
-/

namespace SniRouter

open Table

/-- What `tokio::spawn` does with the future it is passed. -/
inductive SpawnBehaviour where
  /-- It becomes a task, polled or dropped by the runtime at its own time. -/
  | keeps
  /-- It is dropped before `spawn` returns: the runtime is shutting down. -/
  | drops
  /-- It is dropped while `spawn` panics: there is no runtime. -/
  | panics
deriving DecidableEq

/-- A call that is in `spawn`, with the load it starts. -/
structure SpawnSite where
  lookup   : Nat
  load     : Nat
  /-- The future is being dropped on the thread of the call. -/
  dropping : Bool

/-- The cache at work, and the call that holds the state lock while it is in
`spawn`. Every other section takes the lock and gives it back in one event. -/
structure LockedSystem where
  system : CacheSystem
  holder : Option SpawnSite

/-- An event of the cache, or what `spawn` does while the lock is held. -/
inductive LockedStep where
  | call (event : CacheStep)
  | spawn (behaviour : SpawnBehaviour)

/-- The events whose section takes the state lock. -/
def CacheStep.takesLock : CacheStep → Bool
  | .locked _ | .finish _ | .invalidate _ | .clear => true
  | _ => false

/-- What a lookup does of its own. -/
def CacheStep.ofLookup (l : Nat) : CacheStep → Bool
  | .wake l' | .cancel l' => l' == l
  | _ => false

/-- The call whose section this is, and the load it starts, if it starts one. -/
def CacheSystem.starts (config : CacheConfig) (s : CacheSystem) : CacheStep → Option SpawnSite
  | .locked l =>
    (s.lookups[l]?).bind fun lookup =>
      match s.cache.find config lookup.started lookup.candidates with
      | .miss _ => some ⟨l, s.loads.length, false⟩
      | _ => none
  | _ => none

namespace LockedSystem

/-- The empty cache, and nobody holds the lock. -/
def start (jitterSeed : Nat → UInt64) : LockedSystem :=
  ⟨.start jitterSeed, none⟩

/-- An event outside `spawn`. While a call is in `spawn` it does nothing else,
and nobody gets the lock: it is not reentrant, and it has one holder. -/
def call (config : CacheConfig) (event : CacheStep) (s : LockedSystem) : Option LockedSystem :=
  match s.holder with
  | none => (CacheSystem.step config event s.system).map (⟨·, s.system.starts config event⟩)
  | some site =>
    if event.takesLock || event.ofLookup site.lookup then none
    else (CacheSystem.step config event s.system).map (⟨·, s.holder⟩)

/-- The guard is dropped before the task has been polled. Its `finish` takes
the sender and comes to the lock. -/
def dropFuture (s : LockedSystem) (site : SpawnSite) : Option LockedSystem :=
  (s.system.loads[site.load]?).bind fun load =>
    match load.task with
    | .spawned => some ⟨{ s.system with
        loads := s.system.loads.set site.load (load.finish (.error loadAborted) true) },
        some { site with dropping := true }⟩
    | _ => none

/-- What `spawn` does. It returns only after the future is dropped, if it drops
it; and a panic unwinds through it the same way. -/
def spawn (behaviour : SpawnBehaviour) (s : LockedSystem) : Option LockedSystem :=
  s.holder.bind fun site =>
    if site.dropping then none
    else
      match behaviour with
      | .keeps => some { s with holder := none }
      | .drops | .panics => s.dropFuture site

/-- The step relation. -/
def step (config : CacheConfig) : LockedStep → LockedSystem → Option LockedSystem
  | .call event, s => s.call config event
  | .spawn behaviour, s => s.spawn behaviour

end LockedSystem

/-- The cache with `tokio::spawn` under the lock. -/
def lockedMachine (config : CacheConfig) (jitterSeed : Nat → UInt64) :
    Machine LockedSystem LockedStep where
  init s := s = .start jitterSeed
  step   := LockedSystem.step config

variable {config : CacheConfig} {jitterSeed : Nat → UInt64}

-- ---------------------------------------------------------------------------
-- Futures that are kept
-- ---------------------------------------------------------------------------

/-- What the event does to the cache at work, when `spawn` keeps futures. -/
def LockedStep.unlocked : LockedStep → List CacheStep
  | .call event => [event]
  | .spawn _ => []

/-- `spawn` keeps its future, if this is a `spawn`. -/
def LockedStep.keeps : LockedStep → Prop
  | .call _ => True
  | .spawn behaviour => behaviour = .keeps

/-- A thread in `finish` waits for the lock that it holds itself. -/
def LockedSystem.SelfLocked (s : LockedSystem) : Prop :=
  ∃ site load result, s.holder = some site ∧ site.dropping = true ∧
    s.system.loads[site.load]? = some load ∧ load.task = .finishing result true

/-- The call in `spawn`, if there is one, is not dropping anything. -/
def LockedSystem.Keeping (s : LockedSystem) : Prop :=
  ∀ site, s.holder = some site → site.dropping = false

/-- A caller that gets its lock back is not locked out. -/
theorem LockedSystem.Keeping.not_selfLocked {s : LockedSystem} (h : s.Keeping) :
    ¬ s.SelfLocked := by
  rintro ⟨site, load, result, hholder, hdropping, -⟩
  rw [h site hholder] at hdropping
  exact absurd hdropping (by simp)

/-- The site of a call that starts a load drops nothing. -/
theorem starts_keeping {s : CacheSystem} {event : CacheStep} {site : SpawnSite}
    (h : s.starts config event = some site) : site.dropping = false := by
  unfold CacheSystem.starts at h
  split at h
  · obtain ⟨lookup, -, h⟩ := Option.bind_eq_some_iff.mp h
    split at h
    · injection h with h
      rw [← h]
    · exact absurd h (by simp)
  · exact absurd h (by simp)

/-- An event of a call is an event of the cache at work. -/
theorem LockedSystem.call_step {s s' : LockedSystem} {event : CacheStep}
    (h : s.call config event = some s') :
    CacheSystem.step config event s.system = some s'.system ∧
      (s'.holder = s.holder ∨ s.holder = none ∧ s'.holder = s.system.starts config event) := by
  unfold call at h
  cases hholder : s.holder with
  | none =>
    rw [hholder] at h
    obtain ⟨system, hsystem, rfl⟩ := Option.map_eq_some_iff.mp h
    exact ⟨hsystem, .inr ⟨rfl, rfl⟩⟩
  | some site =>
    rw [hholder] at h
    dsimp only at h
    split_ifs at h
    obtain ⟨system, hsystem, rfl⟩ := Option.map_eq_some_iff.mp h
    exact ⟨hsystem, .inl rfl⟩

/-- **As long as `spawn` keeps its futures nobody waits for their own lock, and
the time spent in `spawn` makes no difference.** -/
theorem kept_run {es : List LockedStep} {s s' : LockedSystem} (hs : s.Keeping)
    (hkeeps : ∀ e ∈ es, e.keeps) (h : (lockedMachine config jitterSeed).run es s = some s') :
    s'.Keeping ∧ ¬ s'.SelfLocked ∧
      (cacheMachine config jitterSeed).run (es.flatMap LockedStep.unlocked) s.system =
        some s'.system := by
  induction es generalizing s with
  | nil =>
    cases h
    exact ⟨hs, hs.not_selfLocked, rfl⟩
  | cons e es ih =>
    obtain ⟨s₁, he, hes⟩ := Machine.run_cons _ |>.mp h
    have hrest : ∀ e ∈ es, e.keeps := fun e he => hkeeps e (List.mem_cons_of_mem _ he)
    cases e with
    | call event =>
      obtain ⟨hsystem, hholder⟩ := LockedSystem.call_step he
      have hs₁ : s₁.Keeping := by
        intro site hsite
        rcases hholder with hsame | ⟨-, hstarts⟩
        · exact hs site (hsame ▸ hsite)
        · exact starts_keeping (hstarts ▸ hsite)
      obtain ⟨hkeeping, hfree, hrun⟩ := ih hs₁ hrest hes
      exact ⟨hkeeping, hfree, (Machine.run_cons _).mpr ⟨s₁.system, hsystem, hrun⟩⟩
    | spawn behaviour =>
      have hbehaviour : behaviour = .keeps := hkeeps _ List.mem_cons_self
      subst hbehaviour
      obtain ⟨site, -, hspawn⟩ := Option.bind_eq_some_iff.mp he
      split_ifs at hspawn
      injection hspawn with hspawn
      subst hspawn
      have hs₁ : LockedSystem.Keeping ⟨s.system, none⟩ := fun site hsite => nomatch hsite
      have hrec := ih hs₁ hrest hes
      exact hrec

/-- And whatever the cache at work can do, it can do with the futures kept. -/
theorem kept_step {event : CacheStep} {s s' : CacheSystem} {P : LockedStep → Prop}
    (hcall : P (.call event)) (hspawn : P (.spawn .keeps))
    (h : CacheSystem.step config event s = some s') :
    (lockedMachine config jitterSeed).Reaches P ⟨s, none⟩ ⟨s', none⟩ := by
  have hmove : LockedSystem.step config (.call event) ⟨s, none⟩ =
      some ⟨s', s.starts config event⟩ := by
    show Option.map _ (CacheSystem.step config event s) = _
    rw [h, Option.map_some]
  cases hstarts : s.starts config event with
  | none =>
    rw [hstarts] at hmove
    exact .single hcall hmove
  | some site =>
    rw [hstarts] at hmove
    have hkept : LockedSystem.step config (.spawn .keeps) ⟨s', some site⟩ = some ⟨s', none⟩ := by
      simp only [LockedSystem.step, LockedSystem.spawn, Option.bind_some, starts_keeping hstarts,
        Bool.false_eq_true, if_false]
    exact (Machine.Reaches.single hspawn hkept).head hcall hmove

-- ---------------------------------------------------------------------------
-- Futures that are dropped
-- ---------------------------------------------------------------------------

/-- The call that holds the lock is in the `finish` of its own load `p`, before
the lock. -/
structure LockedSystem.Stuck (p : Nat) (s : LockedSystem) : Prop where
  holder : ∃ site, s.holder = some site ∧ site.load = p ∧ site.dropping = true
  load   : ∃ load, s.system.loads[p]? = some load ∧
    load.task = .finishing (.error loadAborted) true ∧ load.value = none

/-- In a stuck state the lock holder waits for itself. -/
theorem LockedSystem.Stuck.selfLocked {p : Nat} {s : LockedSystem} (h : s.Stuck p) :
    s.SelfLocked := by
  obtain ⟨⟨site, hholder, rfl, hdropping⟩, load, hload, htask, -⟩ := h
  exact ⟨site, load, _, hholder, hdropping, hload, htask⟩

/-- Without the lock a load does not leave its `finish`. -/
theorem step_keeps_finishing {s s' : CacheSystem} {event : CacheStep} {p : Nat} {load : Load}
    {result : LoadResult} {dropping : Bool} (hstep : CacheSystem.step config event s = some s')
    (hlock : event.takesLock = false) (hload : s.loads[p]? = some load)
    (htask : load.task = .finishing result dropping) : s'.loads[p]? = some load := by
  cases CacheSystem.step_cases hstep with
  | @task p' event load' load'' hload' hadvance =>
    show (s.loads.set p' load'')[p]? = some load
    by_cases hp : p' = p
    · -- it has no event of its own either
      subst hp
      have hsame : load = load' := Option.some.inj (hload.symm.trans hload')
      subst hsame
      unfold Load.advance at hadvance
      rw [htask] at hadvance
      split at hadvance
      all_goals contradiction
    · rw [List.getElem?_set_ne hp]
      exact hload
  | finish => exact absurd hlock (by simp [CacheStep.takesLock])
  | invalidate => exact absurd hlock (by simp [CacheStep.takesLock])
  | clear => exact absurd hlock (by simp [CacheStep.takesLock])
  | fresh => exact absurd hlock (by simp [CacheStep.takesLock])
  | coalesced => exact absurd hlock (by simp [CacheStep.takesLock])
  | saturated => exact absurd hlock (by simp [CacheStep.takesLock])
  | miss => exact absurd hlock (by simp [CacheStep.takesLock])
  | tick => exact hload
  | begin => exact hload
  | wake => exact hload
  | cancel => exact hload

/-- A thread that waits for its own lock does so for ever. -/
theorem LockedSystem.Stuck.step {p : Nat} {s s' : LockedSystem} {event : LockedStep}
    (h : s.Stuck p) (hstep : LockedSystem.step config event s = some s') : s'.Stuck p := by
  obtain ⟨⟨site, hholder, hsite, hdropping⟩, load, hload, htask, hvalue⟩ := h
  cases event with
  | call event =>
    have hcall : s.call config event = some s' := hstep
    unfold LockedSystem.call at hcall
    rw [hholder] at hcall
    dsimp only at hcall
    split_ifs at hcall with hlock
    obtain ⟨system, hsystem, rfl⟩ := Option.map_eq_some_iff.mp hcall
    have hfree : event.takesLock = false := by
      cases htakes : event.takesLock with
      | false => rfl
      | true => exact absurd (by simp [htakes]) hlock
    exact ⟨⟨site, rfl, hsite, hdropping⟩, load, step_keeps_finishing hsystem hfree hload htask,
      htask, hvalue⟩
  | spawn behaviour =>
    obtain ⟨site', hsite', hspawn⟩ := Option.bind_eq_some_iff.mp hstep
    have hsame : site' = site := Option.some.inj (hsite'.symm.trans hholder)
    rw [hsame, if_pos hdropping] at hspawn
    exact absurd hspawn (by simp)

/-- A stuck state stays stuck. -/
theorem LockedSystem.Stuck.run {p : Nat} {s s' : LockedSystem} {es : List LockedStep}
    (h : s.Stuck p) (hrun : (lockedMachine config jitterSeed).run es s = some s') :
    s'.Stuck p :=
  Machine.run_invariant (fun hs hstep => hs.step hstep) h hrun

-- ---------------------------------------------------------------------------
-- A load that never runs
-- ---------------------------------------------------------------------------

/-- Load `p` is out of the cache: it owns no slot, its count is given back, and
whoever waits for it gets an error. -/
structure LockedSystem.Cleaned (p running : Nat) (s : LockedSystem) : Prop where
  running : s.system.cache.runningLoads = running
  load    : ∃ load, s.system.loads[p]? = some load ∧
    s.system.cache.ownsSlot load.candidates load.id = false ∧
    CacheSystem.received load = some (.error loadAborted)

/-- In a stuck state nothing is ever cleaned up. -/
theorem LockedSystem.Stuck.not_cleaned {p running : Nat} {s : LockedSystem} (h : s.Stuck p) :
    ¬ s.Cleaned p running := by
  obtain ⟨-, load, hload, htask, hvalue⟩ := h
  rintro ⟨-, load', hload', -, hreceived⟩
  have hsame : load' = load := Option.some.inj (hload'.symm.trans hload)
  subst hsame
  unfold CacheSystem.received Load.senderDropped at hreceived
  rw [hvalue, htask] at hreceived
  exact absurd hreceived (by simp)

/-- What a dropped load still does. -/
def LockedStep.cleaning (p : Nat) : LockedStep → Bool
  | .call (.task p' .drop) | .call (.finish p') | .call (.task p' .send) => p' == p
  | _ => false

/-- The load that the call starts in `s` is never polled: `spawn` behaves as
given, and what the drop of the guard still does cleans it up. -/
def CleansUp (config : CacheConfig) (behaviour : SpawnBehaviour) (l : Nat) (s : LockedSystem) :
    Prop :=
  ∃ s₁ s₂, LockedSystem.step config (.call (.locked l)) s = some s₁ ∧
    LockedSystem.step config (.spawn behaviour) s₁ = some s₂ ∧ ¬ s₂.SelfLocked ∧
    ∃ es s₃, (∀ e ∈ es, e.cleaning s.system.loads.length = true) ∧
      (lockedMachine config s.system.cache.jitterSeed).run es s₂ = some s₃ ∧
      s₃.Cleaned s.system.loads.length s.system.cache.runningLoads

/-- A guard dropped before its first poll, on a thread without the lock: the
section of `finish` runs, and then the waiters are woken. -/
theorem drop_cleans {s : CacheSystem} {p : Nat} {load : Load} (hload : s.loads[p]? = some load)
    (htask : load.task = .spawned) (hsender : load.sender = true) :
    ∃ s' load', (cacheMachine config jitterSeed).run
        [.task p .drop, .finish p, .task p .send] s = some s' ∧
      s'.cache = s.cache.finishLoad config s.clock load.candidates load.id (.error loadAborted) ∧
      s'.loads[p]? = some load' ∧ load'.candidates = load.candidates ∧ load'.id = load.id ∧
      load'.value = some (.error loadAborted) := by
  have hlt : p < s.loads.length := (List.getElem?_eq_some_iff.mp hload).1
  let dropped : Load :=
    { load with sender := false, task := .finishing (.error loadAborted) true }
  let s₁ : CacheSystem := { s with loads := s.loads.set p dropped }
  have hdrop : CacheSystem.step config (.task p .drop) s = some (s₁.record []) := by
    have hadvance : load.advance config s.clock p .drop = some dropped := by
      unfold Load.advance
      rw [htask]
      show some (load.finish (.error loadAborted) true) = _
      unfold Load.finish
      rw [if_pos hsender]
    unfold CacheSystem.step
    dsimp only
    rw [hload, Option.bind_some, hadvance, Option.map_some]
  let s₂ := (s₁.record []).finishSection config p dropped (.error loadAborted) true
  have hfinish : CacheSystem.step config (.finish p) (s₁.record []) = some s₂ := by
    have hdropped : (s₁.record []).loads[p]? = some dropped := List.getElem?_set_self hlt
    unfold CacheSystem.step
    dsimp only
    rw [hdropped, Option.bind_some]
  let finished : Load := { dropped with
    task := .finished (.error loadAborted) true
    storedAt := if s.cache.ownsSlot load.candidates load.id && false && config.maxEntries != 0 then
      some s.clock else load.storedAt
    decrements := load.decrements + 1 }
  have hfinished : s₂.loads[p]? = some finished := by
    show ((s.loads.set p dropped).set p finished)[p]? = some finished
    rw [List.set_set]
    exact List.getElem?_set_self hlt
  let sent : Load := { finished with
    value := some (.error loadAborted), sends := finished.sends + 1, task := .ended }
  have hsend : CacheSystem.step config (.task p .send) s₂ =
      some (CacheSystem.record { s₂ with loads := s₂.loads.set p sent } [.loadError]) := by
    unfold CacheSystem.step
    dsimp only
    rw [hfinished, Option.bind_some]
    rfl
  refine ⟨_, sent, (Machine.run_cons _).mpr ⟨_, hdrop, (Machine.run_cons _).mpr ⟨_, hfinish,
    (Machine.run_cons _).mpr ⟨_, hsend, rfl⟩⟩⟩, rfl, ?_, rfl, rfl, rfl⟩
  refine List.getElem?_set_self ?_
  exact (List.getElem?_eq_some_iff.mp hfinished).1

/-- Without a call in `spawn` other events are those of the cache at work. -/
theorem run_calls {es : List CacheStep} {s s' : CacheSystem}
    (hes : ∀ e ∈ es, ∀ s : CacheSystem, s.starts config e = none)
    (h : (cacheMachine config jitterSeed).run es s = some s') :
    (lockedMachine config jitterSeed).run (es.map .call) ⟨s, none⟩ = some ⟨s', none⟩ := by
  induction es generalizing s with
  | nil =>
    cases h
    rfl
  | cons e es ih =>
    obtain ⟨s₁, he, hrest⟩ := (Machine.run_cons _).mp h
    have hcall : LockedSystem.step config (.call e) ⟨s, none⟩ = some ⟨s₁, none⟩ := by
      have he : CacheSystem.step config e s = some s₁ := he
      show Option.map _ (CacheSystem.step config e s) = _
      rw [he, Option.map_some, hes e List.mem_cons_self s]
    exact (Machine.run_cons _).mpr
      ⟨_, hcall, ih (fun e he => hes e (List.mem_cons_of_mem _ he)) hrest⟩

/-- The call that misses goes into `spawn` with the lock. -/
theorem call_miss {s : LockedSystem} {l : Nat} {lookup : Lookup} {stale : Option Answer}
    (hfree : s.holder = none) (hlookup : s.system.lookups[l]? = some lookup)
    (hphase : lookup.phase = .begun)
    (hmiss : s.system.cache.find config lookup.started lookup.candidates = .miss stale) :
    ∃ system, LockedSystem.step config (.call (.locked l)) s =
        some ⟨system, some ⟨l, s.system.loads.length, false⟩⟩ ∧
      system.cache = (s.system.cache.startLoad lookup.candidates s.system.loads.length).2 ∧
      system.loads[s.system.loads.length]? =
        some (Load.spawn lookup.candidates s.system.cache.nextId) := by
  have hlocked : CacheSystem.step config (.locked l) s.system =
      some (s.system.lock config l lookup) := by
    unfold CacheSystem.step
    dsimp only
    rw [hlookup, Option.bind_some, hphase]
  have hlock : (s.system.lock config l lookup).cache =
        (s.system.cache.startLoad lookup.candidates s.system.loads.length).2 ∧
      (s.system.lock config l lookup).loads =
        s.system.loads ++ [Load.spawn lookup.candidates s.system.cache.nextId] := by
    unfold CacheSystem.lock
    rw [hmiss]
    exact ⟨rfl, rfl⟩
  have hstarts : s.system.starts config (.locked l) =
      some ⟨l, s.system.loads.length, false⟩ := by
    unfold CacheSystem.starts
    dsimp only
    rw [hlookup, Option.bind_some, hmiss]
  refine ⟨s.system.lock config l lookup, ?_, hlock.1, ?_⟩
  · show s.call config (.locked l) = _
    unfold LockedSystem.call
    rw [hfree]
    dsimp only
    rw [hlocked, Option.map_some, hstarts]
  · rw [hlock.2]
    exact List.getElem?_concat_length

/-- A future that `spawn` drops takes its guard into `finish`, and there it
stays. -/
theorem spawn_drops {system : CacheSystem} {l p : Nat} {candidates : RouteCandidates} {id : Nat}
    (hload : system.loads[p]? = some (Load.spawn candidates id)) {behaviour : SpawnBehaviour}
    (hne : behaviour ≠ .keeps) :
    ∃ s, LockedSystem.step config (.spawn behaviour) ⟨system, some ⟨l, p, false⟩⟩ = some s ∧
      s.Stuck p := by
  let dropped := (Load.spawn candidates id).finish (.error loadAborted) true
  let s : LockedSystem := ⟨{ system with loads := system.loads.set p dropped }, some ⟨l, p, true⟩⟩
  have hdrop : LockedSystem.dropFuture ⟨system, some ⟨l, p, false⟩⟩ ⟨l, p, false⟩ = some s := by
    unfold LockedSystem.dropFuture
    dsimp only
    rw [hload, Option.bind_some]
    rfl
  have hspawn : LockedSystem.step config (.spawn behaviour) ⟨system, some ⟨l, p, false⟩⟩ =
      some s := by
    cases behaviour with
    | keeps => exact absurd rfl hne
    | drops => exact hdrop
    | panics => exact hdrop
  refine ⟨s, hspawn, ⟨_, rfl, rfl, rfl⟩, dropped, ?_, rfl, rfl⟩
  exact List.getElem?_set_self (List.getElem?_eq_some_iff.mp hload).1

/-- A load that ends no longer owns a slot. -/
theorem finishLoad_disowns (cache : CacheState) (config : CacheConfig) (now : Nat)
    (candidates : RouteCandidates) (id : Nat) (result : LoadResult) :
    (cache.finishLoad config now candidates id result).ownsSlot candidates id = false := by
  obtain ⟨hinflight, -⟩ := cache.finishLoad_inflight config now candidates id result
  unfold CacheState.ownsSlot
  rw [hinflight, CacheState.lookup_release]
  by_cases howns : cache.ownsSlot candidates id = true
  · rw [if_pos ⟨howns, rfl⟩]
    rfl
  · rw [if_neg (fun h => howns h.1)]
    exact (Bool.not_eq_true _).mp howns

/-- A future that `spawn` does not keep is not cleaned up. -/
theorem not_cleansUp {s : LockedSystem} {l : Nat} {lookup : Lookup} {stale : Option Answer}
    (hfree : s.holder = none) (hlookup : s.system.lookups[l]? = some lookup)
    (hphase : lookup.phase = .begun)
    (hmiss : s.system.cache.find config lookup.started lookup.candidates = .miss stale)
    {behaviour : SpawnBehaviour} (hne : behaviour ≠ .keeps) : ¬ CleansUp config behaviour l s := by
  rintro ⟨s₁, s₂, hcall', hspawn, hfine, -⟩
  obtain ⟨system, hcall, -, hload⟩ := call_miss hfree hlookup hphase hmiss
  have hs₁ := Option.some.inj (hcall.symm.trans hcall')
  obtain ⟨s₂', hspawn', hstuck⟩ := spawn_drops (l := l) hload hne
  rw [← hs₁, hspawn'] at hspawn
  injection hspawn with hs₂
  exact hfine (hs₂ ▸ hstuck.selfLocked)

/-- **A load that never runs is cleaned up if and only if `spawn` keeps its
future.** Otherwise the guard is dropped on the thread that holds the lock, and
in every run from there that thread waits for itself. -/
theorem cleansUp_iff_keeps {s : LockedSystem} {l : Nat} {lookup : Lookup} {stale : Option Answer}
    (hfree : s.holder = none) (hlookup : s.system.lookups[l]? = some lookup)
    (hphase : lookup.phase = .begun)
    (hmiss : s.system.cache.find config lookup.started lookup.candidates = .miss stale)
    (behaviour : SpawnBehaviour) :
    (CleansUp config behaviour l s ↔ behaviour = .keeps) ∧
      (behaviour ≠ .keeps → ∃ s₁ s₂, LockedSystem.step config (.call (.locked l)) s = some s₁ ∧
        LockedSystem.step config (.spawn behaviour) s₁ = some s₂ ∧
        ∀ jitterSeed es s₃, (lockedMachine config jitterSeed).run es s₂ = some s₃ →
          s₃.SelfLocked ∧
            ¬ s₃.Cleaned s.system.loads.length s.system.cache.runningLoads) := by
  obtain ⟨system, hcall, hcache, hload⟩ := call_miss hfree hlookup hphase hmiss
  refine ⟨⟨?_, ?_⟩, ?_⟩
  · intro hcleans
    by_contra hne
    exact not_cleansUp hfree hlookup hphase hmiss hne hcleans
  · rintro rfl
    -- the runtime drops the task later, when the call has left its section
    obtain ⟨s', load, hrun, hfinish, hload', hcandidates, hid, hvalue⟩ :=
      @drop_cleans config s.system.cache.jitterSeed _ _ _ hload rfl rfl
    have hstarts : ∀ e ∈ [CacheStep.task s.system.loads.length .drop,
        .finish s.system.loads.length, .task s.system.loads.length .send],
        ∀ s : CacheSystem, s.starts config e = none := by
      intro e he s
      simp only [List.mem_cons, List.not_mem_nil, or_false] at he
      rcases he with rfl | rfl | rfl
      · rfl
      · rfl
      · rfl
    have hfree' : ¬ LockedSystem.SelfLocked ⟨system, none⟩ :=
      LockedSystem.Keeping.not_selfLocked fun site hsite => nomatch hsite
    refine ⟨_, ⟨system, none⟩, hcall, rfl, hfree', _, _, ?_, run_calls hstarts hrun, ?_, load,
      hload', ?_, ?_⟩
    · intro e he
      obtain ⟨event, hevent, rfl⟩ := List.mem_map.mp he
      simp only [List.mem_cons, List.not_mem_nil, or_false] at hevent
      rcases hevent with rfl | rfl | rfl
      · exact beq_self_eq_true _
      · exact beq_self_eq_true _
      · exact beq_self_eq_true _
    · show s'.cache.runningLoads = _
      rw [hfinish, (CacheState.finishLoad_inflight ..).2.1, hcache]
      exact Nat.add_sub_cancel ..
    · show s'.cache.ownsSlot load.candidates load.id = false
      rw [hfinish, hcandidates, hid]
      exact finishLoad_disowns ..
    · unfold CacheSystem.received
      rw [hvalue]
  · intro hne
    obtain ⟨s₂, hspawn, hstuck⟩ := spawn_drops (l := l) hload hne
    refine ⟨_, s₂, hcall, hspawn, fun jitterSeed es s₃ hrun => ?_⟩
    have hstuck₃ := hstuck.run hrun
    exact ⟨hstuck₃.selfLocked, hstuck₃.not_cleaned⟩

/-- The first lookup of a host has begun. -/
def firstMiss : LockedSystem :=
  ⟨{ CacheSystem.start (fun _ => 0) with lookups := [⟨⟨⟨[97], false⟩, none⟩, 0, .begun⟩] }, none⟩

/-- Kept by `spawn`, the first load of a host cleans up. -/
theorem cleansUp_iff_keeps_at : CleansUp .default .keeps 0 firstMiss :=
  have hlookup : firstMiss.system.lookups[0]? = some ⟨⟨⟨[97], false⟩, none⟩, 0, .begun⟩ := rfl
  (cleansUp_iff_keeps rfl hlookup rfl rfl .keeps).1.mpr rfl

/-- A runtime that is shutting down drops the first load of a host: the call
that started it holds the lock for good. -/
theorem dropped_load_deadlocks :
    ∃ (config : CacheConfig) (jitterSeed : Nat → UInt64) (s : LockedSystem) (l : Nat)
      (lookup : Lookup), (lockedMachine config jitterSeed).Reachable s ∧ s.holder = none ∧
      s.system.lookups[l]? = some lookup ∧ lookup.phase = .begun ∧
      s.system.cache.find config lookup.started lookup.candidates = .miss none ∧
      ¬ CleansUp config .drops l s := by
  have hlookup : firstMiss.system.lookups[0]? = some ⟨⟨⟨[97], false⟩, none⟩, 0, .begun⟩ := rfl
  refine ⟨.default, fun _ => 0, firstMiss, 0, _, ?_, rfl, hlookup, rfl, rfl, ?_⟩
  · exact ⟨_, [.call (.begin ⟨⟨[97], false⟩, none⟩)], rfl, rfl⟩
  · exact not_cleansUp rfl hlookup rfl rfl (by decide)

end SniRouter
