import SniRouter.Cache.Consistency

/-!
# SniRouter — how long a lookup takes

The cache with a runtime that is never later than a slack. The load timeout is
the only one: everything else a lookup waits for is a task that can go on.

* `LoadTask.limit` — how long a load task may stay where it is.
* `ClockedCache.step` — one event of the cache, or time passing.
* `ClockedCache.Timely` — what the clock says about the waiting lookups.
* `lookups_end_on_time` — how long a call takes, whatever the store does.
* `lookups_go_on` — and no call can stop the clock.
-/

namespace SniRouter

open Table

-- ---------------------------------------------------------------------------
-- Load tasks
-- ---------------------------------------------------------------------------

/-- The stages of a load task in order. -/
def LoadTask.number : LoadTask → Nat
  | .spawned => 0
  | .running => 1
  | .finishing _ _ => 2
  | .finished _ _ | .unwinding => 3
  | .completed | .ended | .panicked => 4

/-- How long a task may stay where it is, apart from the slack. -/
def LoadTask.limit (config : CacheConfig) : LoadTask → Option Nat
  | .spawned | .finishing _ _ | .finished _ _ | .unwinding => some 0
  | .running => some config.loadTimeout
  | .completed | .ended | .panicked => none

/-- How long after its load was started a task comes to where it is at the
latest. -/
def LoadTask.latest (config : CacheConfig) (slack : Nat) : LoadTask → Nat
  | .spawned => 0
  | .running => slack
  | .finishing _ _ => config.loadTimeout + 2 * slack
  | .finished _ _ | .unwinding => config.loadTimeout + 3 * slack
  | .completed | .ended | .panicked => config.loadTimeout + 4 * slack

namespace LoadTask

variable {config : CacheConfig}

/-- The limits of a task depend on its stage only. -/
theorem eq_of_number {task task' : LoadTask} (h : task'.number = task.number) :
    task'.limit config = task.limit config ∧
      ∀ slack, task'.latest config slack = task.latest config slack := by
  cases task <;> cases task' <;>
    first
    | exact ⟨rfl, fun _ => rfl⟩
    | exact absurd h (by simp [number])

/-- A task that goes on leaves the next stages the time that they have. -/
theorem room {task task' : LoadTask} (h : task.number < task'.number) (slack : Nat) :
    ∃ limit, task.limit config = some limit ∧
      task.latest config slack + limit + slack ≤ task'.latest config slack := by
  cases task <;> cases task' <;>
    first
    | (refine ⟨_, rfl, ?_⟩; simp only [latest]; omega)
    | exact absurd h (by simp [number])

/-- A task with a limit ends in the time of all of them. -/
theorem limit_room {task : LoadTask} {limit : Nat} (h : task.limit config = some limit)
    (slack : Nat) :
    task.latest config slack + limit + slack ≤ config.loadTimeout + 4 * slack := by
  cases task <;> cases h <;> simp only [latest] <;> omega

/-- Only a finished task has no limit. -/
theorem limit_eq_none_iff {task : LoadTask} : task.limit config = none ↔ task.number = 4 := by
  cases task <;> simp [limit, number]

/-- A task is finished at the latest after the timeout and four wakes. -/
theorem latest_of_number {task : LoadTask} (h : task.number = 4) (slack : Nat) :
    task.latest config slack = config.loadTimeout + 4 * slack := by
  cases task <;> first | rfl | exact absurd h (by simp [number])

end LoadTask

namespace Load

variable {config : CacheConfig} {now p : Nat} {load load' : Load}

/-- What ends a running load comes to its finish section. -/
theorem finish_number (load : Load) (result : LoadResult) (dropping : Bool) :
    2 ≤ (load.finish result dropping).task.number := by
  unfold finish
  split_ifs <;> simp [LoadTask.number]

/-- A running task has not ended. -/
theorem number_of_running (h : load.task = .running) : load.task.number < 2 := by
  rw [h]
  decide

/-- A task never goes back, and begins to run once. -/
theorem advance_number {event : TaskEvent} (hok : load.Ok p)
    (h : load.advance config now p event = some load') :
    load.task.number ≤ load'.task.number ∧
      (load'.task = .running → load.task = .spawned ∧ load'.startedAt = now) := by
  have hends : ∀ {other : Load} {result dropping}, load.task.number ≤ 2 →
      other.finish result dropping = load' → load.task.number ≤ load'.task.number ∧
        (load'.task = .running → load.task = .spawned ∧ load'.startedAt = now) := by
    rintro other result dropping hle rfl
    have hnumber := other.finish_number result dropping
    exact ⟨hle.trans hnumber, fun hrunning => absurd (number_of_running hrunning) (by omega)⟩
  unfold advance at h
  split at h
  case h_11 => exact absurd h (by simp)
  case h_1 htask =>
    cases h
    rw [htask]
    exact ⟨Nat.zero_le _, fun _ => ⟨rfl, rfl⟩⟩
  case h_4 htask =>
    split_ifs at h
    exact hends (by rw [htask]; decide) (Option.some.inj h)
  case h_8 htask =>
    -- the second call of `finish` does nothing
    cases h
    unfold Load.Ok at hok
    rw [htask] at hok
    rw [finish, if_neg (by simp [hok.1]), htask]
    exact ⟨le_rfl, fun hrunning => absurd hrunning (by simp)⟩
  case h_9 result dropping htask =>
    cases h
    rw [htask]
    cases dropping <;> exact ⟨Nat.le_succ 3, fun hrunning => absurd hrunning (by simp)⟩
  case h_10 htask =>
    cases h
    rw [htask]
    exact ⟨Nat.le_succ 3, fun hrunning => absurd hrunning (by simp)⟩
  all_goals
    next htask => exact hends (by rw [htask]; decide) (Option.some.inj h)

/-- Something comes on the channel of a load when its task is past the finish
section, and stays there. -/
theorem received_isSome_iff (hok : load.Ok p) :
    (CacheSystem.received load).isSome = true ↔ load.task.number = 4 := by
  unfold Load.Ok at hok
  unfold CacheSystem.received senderDropped
  cases htask : load.task with
  | completed | ended =>
    rw [htask] at hok
    obtain ⟨-, -, -, result, hvalue, -⟩ := hok
    simp [hvalue, LoadTask.number]
  | _ =>
    rw [htask] at hok
    simp [hok.2.1, LoadTask.number]

end Load

-- ---------------------------------------------------------------------------
-- What an event changes
-- ---------------------------------------------------------------------------

/-- The call has not ended. -/
def Lookup.pending (lookup : Lookup) : Bool :=
  match lookup.phase with
  | .begun | .waiting _ _ => true
  | .returned _ _ | .cancelled => false

namespace CacheSystem

variable {config : CacheConfig} {jitterSeed : Nat → UInt64} {s s' : CacheSystem}

/-- A load is what it was, a task that has gone on, or new. -/
theorem step_loads (inv : CacheInv config jitterSeed s) {event : CacheStep}
    (h : step config event s = some s') {p : Nat} {load' : Load}
    (hload' : s'.loads[p]? = some load') :
    s.loads[p]? = some load' ∨
      (∃ load, s.loads[p]? = some load ∧ load.task.number ≤ load'.task.number ∧
        (load'.task = .running → load.task = .spawned ∧ load'.startedAt = s.clock)) ∨
      p = s.loads.length ∧ load'.task = .spawned := by
  cases step_cases h with
  | tick | begin | fresh | coalesced | saturated | wake | cancel | invalidate | clear =>
    exact .inl hload'
  | miss =>
    rcases lookup_append_cases hload' with ⟨rfl, rfl⟩ | hold
    · exact .inr (.inr ⟨rfl, rfl⟩)
    · exact .inl hold
  | task hload hadvance =>
    rcases lookup_set_cases hload hload' with ⟨rfl, rfl⟩ | ⟨-, hold⟩
    · exact .inr (.inl ⟨_, hload, Load.advance_number (inv.loads _ _ hload).1 hadvance⟩)
    · exact .inl hold
  | finish hload htask =>
    rcases lookup_set_cases hload hload' with ⟨rfl, rfl⟩ | ⟨-, hold⟩
    · refine .inr (.inl ⟨_, hload, ?_, fun hrunning => ?_⟩)
      · rw [htask]
        dsimp only
        split_ifs <;> exact Nat.le_succ 2
      · dsimp only at hrunning
        split_ifs at hrunning
    · exact .inl hold

/-- A call that has not ended is what it was, new, or comes from the lock, where
its load has sent nothing. -/
theorem step_lookups (inv : CacheInv config jitterSeed s) {event : CacheStep}
    (h : step config event s = some s') {l : Nat} {lookup' : Lookup}
    (hlookup' : s'.lookups[l]? = some lookup') (hpending : lookup'.pending = true) :
    s.lookups[l]? = some lookup' ∨ lookup'.phase = .begun ∧ lookup'.started = s.clock ∨
      ∃ lookup channel stale, s.lookups[l]? = some lookup ∧ lookup.phase = .begun ∧
        lookup'.started = lookup.started ∧ lookup'.phase = .waiting channel stale ∧
        ∀ load, s'.loads[channel]? = some load → load.task.number ≤ 2 := by
  -- an event that ends the call of `lookup`
  have hends : ∀ {l₀ : Nat} {lookup ended : Lookup}, s.lookups[l₀]? = some lookup →
      (s.lookups.set l₀ ended)[l]? = some lookup' → ended.pending = false →
      s.lookups[l]? = some lookup' := by
    intro l₀ lookup ended hlookup hset hended
    rcases lookup_set_cases hlookup hset with ⟨rfl, rfl⟩ | ⟨-, hold⟩
    · exact absurd hpending (by simp [hended])
    · exact hold
  cases step_cases h with
  | tick | task | finish | invalidate | clear => exact .inl hlookup'
  | begin =>
    rcases lookup_append_cases hlookup' with ⟨-, rfl⟩ | hold
    · exact .inr (.inl ⟨rfl, rfl⟩)
    · exact .inl hold
  | fresh hlookup | saturated hlookup | wake hlookup | cancel hlookup =>
    exact .inl (hends hlookup hlookup' rfl)
  | @coalesced _ lookup channel stale hlookup hphase hfound =>
    rcases lookup_set_cases hlookup hlookup' with ⟨rfl, rfl⟩ | ⟨-, hold⟩
    · refine .inr (.inr ⟨lookup, channel, stale, hlookup, hphase, rfl, rfl, fun load hload => ?_⟩)
      have hunfinished := Windowed.coalesced_unfinished inv hfound hload
      unfold Load.unfinished at hunfinished
      split at hunfinished
      case h_4 => exact absurd hunfinished (by simp)
      all_goals
        next htask => rw [htask]; simp [LoadTask.number]
    · exact .inl hold
  | @miss _ lookup stale hlookup hphase hfound =>
    rcases lookup_set_cases hlookup hlookup' with ⟨rfl, rfl⟩ | ⟨-, hold⟩
    · refine .inr (.inr ⟨lookup, _, stale, hlookup, hphase, rfl, rfl, fun load hload => ?_⟩)
      obtain rfl := Option.some.inj (List.getElem?_concat_length.symm.trans hload)
      exact Nat.zero_le _
    · exact .inl hold

end CacheSystem

-- ---------------------------------------------------------------------------
-- The cache with a clock
-- ---------------------------------------------------------------------------

/-- The cache with the times that its timers count from. -/
structure ClockedCache where
  system : CacheSystem
  /-- When the task of each load came to its stage. -/
  since  : List Nat

namespace ClockedCache

/-- No load has a time at the start. -/
def start (jitterSeed : Nat → UInt64) : ClockedCache := ⟨.start jitterSeed, []⟩

/-- A load task is at its stage for longer than it may. -/
def overdueLoad (config : CacheConfig) (slack now : Nat) (load : Load) (since : Nat) : Bool :=
  (load.task.limit config).any fun limit => decide (since + limit + slack < now)

/-- A call has waited too long for the lock, or for a value that is there. -/
def overdueLookup (slack now : Nat) (s : ClockedCache) (lookup : Lookup) : Bool :=
  match lookup.phase with
  | .begun => decide (lookup.started + slack < now)
  | .waiting channel _ =>
    ((s.system.loads[channel]?).bind CacheSystem.received).isSome &&
      (s.since[channel]?).any fun since => decide (since + slack < now)
  | _ => false

/-- Nothing is overdue at a moment. -/
def Punctual (config : CacheConfig) (slack now : Nat) (s : ClockedCache) : Prop :=
  (∀ p ∈ s.system.loads.zip s.since, overdueLoad config slack now p.1 p.2 = false) ∧
    ∀ lookup ∈ s.system.lookups, s.overdueLookup slack now lookup = false

instance (config : CacheConfig) (slack now : Nat) (s : ClockedCache) :
    Decidable (s.Punctual config slack now) :=
  inferInstanceAs (Decidable (_ ∧ _))

/-- When the tasks came to their stages, after a step at `now`. -/
def restamp (now : Nat) (loads loads' : List Load) (since : List Nat) : List Nat :=
  loads'.mapIdx fun p load' =>
    match loads[p]?, since[p]? with
    | some load, some time => if load'.task.number = load.task.number then time else now
    | _, _ => now

/-- Time passes as long as nothing is overdue then. -/
def step (config : CacheConfig) (slack : Nat) (event : CacheStep) (s : ClockedCache) :
    Option ClockedCache :=
  match event with
  | .tick duration =>
    if s.Punctual config slack (s.system.clock + duration) then
      (s.system.step config (.tick duration)).map fun system => { s with system := system }
    else none
  | event =>
    (s.system.step config event).map fun system =>
      ⟨system, restamp s.system.clock s.system.loads system.loads s.since⟩

variable {config : CacheConfig} {slack : Nat} {s s' : ClockedCache}

/-- An event is a tick to a time that nothing forbids, or takes no time. -/
theorem step_cases {event : CacheStep} (h : step config slack event s = some s') :
    (∃ duration, s.Punctual config slack (s.system.clock + duration) ∧
      s.system.step config (.tick duration) = some s'.system ∧
      s' = { s with system.clock := s.system.clock + duration }) ∨
    ∃ system, s.system.step config event = some system ∧ system.clock = s.system.clock ∧
      s' = ⟨system, restamp s.system.clock s.system.loads system.loads s.since⟩ := by
  unfold step at h
  split at h
  · next duration =>
    split_ifs at h with hpunctual
    obtain ⟨system, hsystem, rfl⟩ := Option.map_eq_some_iff.mp h
    cases CacheSystem.step_cases hsystem
    exact .inl ⟨duration, hpunctual, hsystem, rfl⟩
  · next hnot =>
    obtain ⟨system, hsystem, rfl⟩ := Option.map_eq_some_iff.mp h
    refine .inr ⟨system, hsystem, ?_, rfl⟩
    cases CacheSystem.step_cases hsystem with
    | tick => exact absurd rfl (hnot _)
    | _ => rfl

/-- A task that has not gone on keeps its time. -/
theorem restamp_same {now p time time₀ : Nat} {loads loads' : List Load} {since : List Nat}
    {load load' : Load} (h : (restamp now loads loads' since)[p]? = some time)
    (hload' : loads'[p]? = some load') (hload : loads[p]? = some load)
    (htime : since[p]? = some time₀) (hnumber : load'.task.number = load.task.number) :
    time = time₀ := by
  rw [restamp, List.getElem?_mapIdx, hload', Option.map_some] at h
  simp only [hload, htime, hnumber, if_true] at h
  exact (Option.some.inj h).symm

/-- A stamp is new, or that of a load that stays at its stage. -/
theorem restamp_cases {now p time : Nat} {loads loads' : List Load} {since : List Nat}
    {load' : Load} (hload' : loads'[p]? = some load')
    (h : (restamp now loads loads' since)[p]? = some time) :
    time = now ∨ ∃ load, loads[p]? = some load ∧ since[p]? = some time ∧
      load'.task.number = load.task.number := by
  rw [restamp, List.getElem?_mapIdx, hload', Option.map_some] at h
  injection h with h
  split at h
  · next load time' hload htime =>
    split_ifs at h with hsame
    · exact .inr ⟨load, hload, htime.trans (congrArg some h), hsame⟩
    · exact .inl h.symm
  · exact .inl h.symm

end ClockedCache

/-- The cache in runs where no timer and no wake comes later than `slack`. -/
def clockedMachine (config : CacheConfig) (jitterSeed : Nat → UInt64) (slack : Nat) :
    Machine ClockedCache CacheStep where
  init s := s = .start jitterSeed
  step   := ClockedCache.step config slack

-- ---------------------------------------------------------------------------
-- What the clock says
-- ---------------------------------------------------------------------------

/-- The stamps say when each load came to its stage, and nothing is overdue. -/
structure ClockedCache.Timely (config : CacheConfig) (slack : Nat) (s : ClockedCache) : Prop where
  length   : s.since.length = s.system.loads.length
  past     : ∀ (p time : Nat), s.since[p]? = some time → time ≤ s.system.clock
  running  : ∀ (p : Nat) load time, s.system.loads[p]? = some load → s.since[p]? = some time →
    load.task = .running → load.startedAt ≤ time
  punctual : s.Punctual config slack s.system.clock
  /-- The load behind a waiting call is as far as the limits say. -/
  waiting  : ∀ (l : Nat) lookup channel stale, s.system.lookups[l]? = some lookup →
    lookup.phase = .waiting channel stale → ∀ load time, s.system.loads[channel]? = some load →
      s.since[channel]? = some time →
      time ≤ lookup.started + slack + load.task.latest config slack

namespace ClockedCache.Timely

variable {config : CacheConfig} {jitterSeed : Nat → UInt64} {slack : Nat} {s s' : ClockedCache}

/-- No load is at a stage for longer than its limit. -/
theorem load (h : s.Timely config slack) {p time limit : Nat} {load : Load}
    (hload : s.system.loads[p]? = some load) (htime : s.since[p]? = some time)
    (hlimit : load.task.limit config = some limit) : s.system.clock ≤ time + limit + slack := by
  have hmem : (load, time) ∈ s.system.loads.zip s.since := by
    refine List.mem_of_getElem? (i := p) ?_
    rw [List.getElem?_zip_eq_some]
    exact ⟨hload, htime⟩
  have hpunctual := h.punctual.1 _ hmem
  unfold overdueLoad at hpunctual
  rw [hlimit, Option.any_some, decide_eq_false_iff_not] at hpunctual
  exact Nat.le_of_not_lt hpunctual

/-- No call waits for the lock for longer than `slack`. -/
theorem begun (h : s.Timely config slack) {l : Nat} {lookup : Lookup}
    (hlookup : s.system.lookups[l]? = some lookup) (hphase : lookup.phase = .begun) :
    s.system.clock ≤ lookup.started + slack := by
  have hpunctual := h.punctual.2 _ (List.mem_of_getElem? hlookup)
  unfold overdueLookup at hpunctual
  rw [hphase] at hpunctual
  exact Nat.le_of_not_lt (of_decide_eq_false hpunctual)

theorem start (config : CacheConfig) (jitterSeed : Nat → UInt64) (slack : Nat) :
    (ClockedCache.start jitterSeed).Timely config slack where
  length := rfl
  past p time h := absurd h (by simp [ClockedCache.start])
  running p load time h := absurd h (by simp [ClockedCache.start, CacheSystem.start])
  punctual := ⟨by simp [ClockedCache.start], by simp [ClockedCache.start, CacheSystem.start]⟩
  waiting l lookup channel stale h := absurd h (by simp [ClockedCache.start, CacheSystem.start])

/-- Time passes. -/
theorem tick (h : s.Timely config slack) {duration : Nat}
    (hpunctual : s.Punctual config slack (s.system.clock + duration)) :
    ClockedCache.Timely config slack { s with system.clock := s.system.clock + duration } where
  length := h.length
  past p time htime := Nat.le_add_right_of_le (h.past p time htime)
  running := h.running
  punctual := hpunctual
  waiting := h.waiting

/-- There is a time for every load. -/
theorem since (h : s.Timely config slack) {p : Nat} {load : Load}
    (hload : s.system.loads[p]? = some load) : ∃ time, s.since[p]? = some time :=
  ⟨_, List.getElem?_eq_getElem (h.length ▸ lt_length hload)⟩

/-- ... and a load for every call that waits. -/
theorem awaited (h : s.Timely config slack) (inv : CacheInv config jitterSeed s.system)
    {l channel : Nat} {lookup : Lookup} {stale : Option Answer}
    (hlookup : s.system.lookups[l]? = some lookup)
    (hphase : lookup.phase = .waiting channel stale) :
    ∃ load time, s.system.loads[channel]? = some load ∧ s.since[channel]? = some time ∧
      time ≤ lookup.started + slack + load.task.latest config slack := by
  have hok := inv.lookups l lookup hlookup
  unfold LookupOk at hok
  rw [hphase] at hok
  obtain ⟨⟨load, hload, -⟩, -⟩ := hok
  obtain ⟨time, htime⟩ := h.since hload
  exact ⟨load, time, hload, htime, h.waiting l lookup channel stale hlookup hphase load time hload
    htime⟩

/-- A value that has come is taken. -/
theorem received (h : s.Timely config slack) (inv : CacheInv config jitterSeed s.system)
    {l channel time : Nat} {lookup : Lookup} {stale : Option Answer} {load : Load}
    (hlookup : s.system.lookups[l]? = some lookup) (hphase : lookup.phase = .waiting channel stale)
    (hload : s.system.loads[channel]? = some load) (htime : s.since[channel]? = some time)
    (hnumber : load.task.number = 4) : s.system.clock ≤ time + slack := by
  have hthere := (Load.received_isSome_iff (inv.loads channel load hload).1).mpr hnumber
  have hpunctual := h.punctual.2 _ (List.mem_of_getElem? hlookup)
  unfold overdueLookup at hpunctual
  simp only [hphase, hload, htime, Option.bind_some, Option.any_some, hthere, Bool.true_and,
    decide_eq_false_iff_not] at hpunctual
  exact Nat.le_of_not_lt hpunctual

variable {event : CacheStep} {system : CacheSystem}

/-- No stamp is in the future. -/
theorem event_past (h : s.Timely config slack) {p time : Nat} {load' : Load}
    (hload' : system.loads[p]? = some load')
    (htime : (restamp s.system.clock s.system.loads system.loads s.since)[p]? = some time) :
    time ≤ s.system.clock := by
  rcases restamp_cases hload' htime with rfl | ⟨load, -, hold, -⟩
  · exact le_rfl
  · exact h.past p time hold

/-- A load begins to run when its stamp says. -/
theorem event_running (h : s.Timely config slack) (inv : CacheInv config jitterSeed s.system)
    (hsystem : s.system.step config event = some system) {p time : Nat} {load' : Load}
    (hload' : system.loads[p]? = some load')
    (htime : (restamp s.system.clock s.system.loads system.loads s.since)[p]? = some time)
    (hrunning : load'.task = .running) : load'.startedAt ≤ time := by
  rcases CacheSystem.step_loads inv hsystem hload' with hsame | ⟨load, hload, -, hmoved⟩ | ⟨-, hnew⟩
  · obtain ⟨time₀, htime₀⟩ := h.since hsame
    have hstarted := h.running p load' time₀ hsame htime₀ hrunning
    rcases restamp_cases hload' htime with rfl | ⟨load, -, hold, -⟩
    · exact hstarted.trans (h.past p time₀ htime₀)
    · exact Option.some.inj (htime₀.symm.trans hold) ▸ hstarted
  · obtain ⟨hspawned, hstarted⟩ := hmoved hrunning
    rcases restamp_cases hload' htime with rfl | ⟨other, hother, -, hnumber⟩
    · exact hstarted.le
    · obtain rfl := Option.some.inj (hload.symm.trans hother)
      rw [hrunning, hspawned] at hnumber
      exact absurd hnumber (by decide)
  · exact absurd (hrunning.symm.trans hnew) (by simp)

/-- A load that a call waits for is as far as the limits say, after the event. -/
theorem event_waiting (h : s.Timely config slack) (inv : CacheInv config jitterSeed s.system)
    (hsystem : s.system.step config event = some system) {l channel time : Nat}
    {lookup' : Lookup} {stale : Option Answer} {load' : Load}
    (hlookup' : system.lookups[l]? = some lookup')
    (hphase' : lookup'.phase = .waiting channel stale)
    (hload' : system.loads[channel]? = some load')
    (htime : (restamp s.system.clock s.system.loads system.loads s.since)[channel]? = some time) :
    time ≤ lookup'.started + slack + load'.task.latest config slack := by
  have hpending : lookup'.pending = true := by rw [Lookup.pending, hphase']
  rcases CacheSystem.step_lookups inv hsystem hlookup' hpending with
    hsame | ⟨hbegun, -⟩ | ⟨lookup, -, -, hlookup, hbegun, hstarted, -⟩
  · obtain ⟨load, time₀, hload, htime₀, hbefore⟩ := h.awaited inv hsame hphase'
    have hle : load.task.number ≤ load'.task.number := by
      rcases CacheSystem.step_loads inv hsystem hload' with hold | ⟨other, hother, hle, -⟩ | ⟨hp, -⟩
      · rw [Option.some.inj (hload.symm.trans hold)]
      · rwa [Option.some.inj (hload.symm.trans hother)]
      · exact absurd (lt_length hload) (by omega)
    rcases Nat.eq_or_lt_of_le hle with heq | hlt
    · obtain rfl := restamp_same htime hload' hload htime₀ heq.symm
      rwa [(LoadTask.eq_of_number heq.symm).2 slack]
    · obtain ⟨limit, hlimit, hroom⟩ : ∃ limit, load.task.limit config = some limit ∧ _ :=
        LoadTask.room hlt slack
      have hclock := h.load hload htime₀ hlimit
      have hpast := h.event_past hload' htime
      omega
  · exact absurd (hphase'.symm.trans hbegun) (by simp)
  · have hlocked := h.begun hlookup hbegun
    have hpast := h.event_past hload' htime
    omega

/-- A value that has just come is not overdue, nor is one that was not before. -/
theorem event_received (h : s.Timely config slack) (inv : CacheInv config jitterSeed s.system)
    (hsystem : s.system.step config event = some system) {l channel time : Nat}
    {lookup' : Lookup} {stale : Option Answer} {load' : Load}
    (hlookup' : system.lookups[l]? = some lookup')
    (hphase' : lookup'.phase = .waiting channel stale)
    (hload' : system.loads[channel]? = some load')
    (hreceived : (CacheSystem.received load').isSome = true)
    (htime : (restamp s.system.clock s.system.loads system.loads s.since)[channel]? = some time) :
    s.system.clock ≤ time + slack := by
  have hfour := (Load.received_isSome_iff ((inv.step hsystem).loads channel load' hload').1).mp
    hreceived
  have hpending : lookup'.pending = true := by rw [Lookup.pending, hphase']
  rcases restamp_cases hload' htime with rfl | ⟨load, hload, hold, hnumber⟩
  · exact Nat.le_add_right _ _
  · rcases CacheSystem.step_lookups inv hsystem hlookup' hpending with
      hsame | ⟨hbegun, -⟩ | ⟨lookup, channel', stale', -, -, -, hwaiting, hsilent⟩
    · exact h.received inv hsame hphase' hload hold (hnumber.symm.trans hfour)
    · exact absurd (hphase'.symm.trans hbegun) (by simp)
    · obtain ⟨rfl, -⟩ := LookupPhase.waiting.inj (hphase'.symm.trans hwaiting)
      have htwo := hsilent load' hload'
      omega

/-- An event that takes no time makes nothing overdue. -/
theorem event_punctual (h : s.Timely config slack) (inv : CacheInv config jitterSeed s.system)
    (hsystem : s.system.step config event = some system) :
    Punctual config slack s.system.clock
      ⟨system, restamp s.system.clock s.system.loads system.loads s.since⟩ := by
  refine ⟨?_, fun lookup' hmem => ?_⟩
  · rintro ⟨load', time⟩ hmem
    obtain ⟨p, hp⟩ := List.getElem?_of_mem hmem
    obtain ⟨hload', htime⟩ := List.getElem?_zip_eq_some.mp hp
    unfold overdueLoad
    cases hlimit : load'.task.limit config with
    | none => rfl
    | some limit =>
      rw [Option.any_some, decide_eq_false_iff_not]
      rcases restamp_cases hload' htime with rfl | ⟨load, hload, hold, hnumber⟩
      · show ¬ s.system.clock + limit + slack < s.system.clock
        omega
      · have hclock := h.load hload hold ((LoadTask.eq_of_number hnumber).1 ▸ hlimit)
        exact Nat.not_lt_of_le hclock
  · obtain ⟨l, hlookup'⟩ := List.getElem?_of_mem hmem
    have hlookup' : system.lookups[l]? = some lookup' := hlookup'
    unfold overdueLookup
    cases hphase' : lookup'.phase with
    | begun =>
      have hpending : lookup'.pending = true := by rw [Lookup.pending, hphase']
      refine decide_eq_false (Nat.not_lt_of_le ?_)
      rcases CacheSystem.step_lookups inv hsystem hlookup' hpending with
        hsame | ⟨-, hstarted⟩ | ⟨_, _, _, -, -, -, hwaiting, -⟩
      · exact h.begun hsame hphase'
      · exact hstarted ▸ Nat.le_add_right _ _
      · exact absurd (hphase'.symm.trans hwaiting) (by simp)
    | waiting channel stale =>
      by_contra hoverdue
      obtain ⟨hsome, hlate⟩ := Bool.and_eq_true_iff.mp (Bool.eq_true_of_not_eq_false hoverdue)
      obtain ⟨time, htime, hlt⟩ := (Option.any_eq_true _ _).mp hlate
      obtain ⟨load', hload', hreceived⟩ :
          ∃ load', system.loads[channel]? = some load' ∧
            (CacheSystem.received load').isSome = true := by
        obtain ⟨result, hresult⟩ := Option.isSome_iff_exists.mp hsome
        obtain ⟨load', hload', hreceived⟩ := Option.bind_eq_some_iff.mp hresult
        exact ⟨load', hload', Option.isSome_iff_exists.mpr ⟨result, hreceived⟩⟩
      have hle := h.event_received inv hsystem hlookup' hphase' hload' hreceived htime
      exact absurd (of_decide_eq_true hlt) (Nat.not_lt_of_le hle)
    | returned | cancelled => rfl

theorem step (h : s.Timely config slack) (inv : CacheInv config jitterSeed s.system)
    (hstep : ClockedCache.step config slack event s = some s') : s'.Timely config slack := by
  rcases ClockedCache.step_cases hstep with
    ⟨duration, hpunctual, -, rfl⟩ | ⟨system, hsystem, hclock, rfl⟩
  · exact h.tick hpunctual
  · have hpunctual := h.event_punctual inv hsystem
    refine ⟨List.length_mapIdx, fun p time htime => ?_, fun p load time hload htime hrunning =>
      h.event_running inv hsystem hload htime hrunning, hclock ▸ hpunctual,
      fun l lookup channel stale hlookup hphase load time hload htime =>
        h.event_waiting inv hsystem hlookup hphase hload htime⟩
    have hlt : p < system.loads.length := by
      have hlength := lt_length htime
      rwa [restamp, List.length_mapIdx] at hlength
    exact hclock ▸ h.event_past (List.getElem?_eq_getElem hlt) htime

end ClockedCache.Timely

/-- Without its stamps a run is a run of the cache. -/
theorem clocked_reachable {config : CacheConfig} {jitterSeed : Nat → UInt64} {slack : Nat}
    {s : ClockedCache} (h : (clockedMachine config jitterSeed slack).Reachable s) :
    (cacheMachine config jitterSeed).Reachable s.system := by
  refine h.component ClockedCache.system (fun hinit => by rw [hinit]; rfl) fun {e s s'} hstep => ?_
  rcases ClockedCache.step_cases hstep with ⟨duration, -, htick, -⟩ | ⟨system, hsystem, -, rfl⟩
  · exact .inr ⟨.tick duration, htick⟩
  · exact .inr ⟨e, hsystem⟩

/-- The stamps are right in every reachable state. -/
theorem clockedMachine_timely {config : CacheConfig} {jitterSeed : Nat → UInt64} {slack : Nat}
    {s : ClockedCache} (h : (clockedMachine config jitterSeed slack).Reachable s) :
    s.Timely config slack := by
  let Inv (u : ClockedCache) : Prop :=
    (clockedMachine config jitterSeed slack).Reachable u ∧ u.Timely config slack
  have hinit : ∀ {u}, (clockedMachine config jitterSeed slack).init u → Inv u := by
    rintro u rfl
    exact ⟨.init rfl, .start config jitterSeed slack⟩
  have hstep : ∀ {e u u'}, Inv u →
      (clockedMachine config jitterSeed slack).step e u = some u' → Inv u' := fun hu hmove =>
    ⟨hu.1.step hmove, hu.2.step (cacheMachine_inv (clocked_reachable hu.1)) hmove⟩
  exact (h.invariant hinit hstep).2

/-- A call that has not ended was begun not long ago. -/
theorem ClockedCache.Timely.pending {config : CacheConfig} {jitterSeed : Nat → UInt64}
    {slack : Nat} {s : ClockedCache} (h : s.Timely config slack)
    (inv : CacheInv config jitterSeed s.system) {l : Nat} {lookup : Lookup}
    (hlookup : s.system.lookups[l]? = some lookup) (hpending : lookup.pending = true) :
    s.system.clock ≤ lookup.started + config.loadTimeout + 6 * slack := by
  cases hphase : lookup.phase with
  | begun =>
    have hbegun := h.begun hlookup hphase
    omega
  | waiting channel stale =>
    obtain ⟨load, time, hload, htime, hwaiting⟩ := h.awaited inv hlookup hphase
    cases hlimit : load.task.limit config with
    | some limit =>
      have hclock := h.load hload htime hlimit
      have hroom := LoadTask.limit_room hlimit slack
      omega
    | none =>
      have hfour := LoadTask.limit_eq_none_iff.mp hlimit
      have hclock := h.received inv hlookup hphase hload htime hfour
      rw [LoadTask.latest_of_number hfour] at hwaiting
      omega
  | returned | cancelled => exact absurd hpending (by simp [Lookup.pending, hphase])

/-- **Every lookup ends on time**, whatever the store does or leaves undone: one
that was begun more than the load timeout and some slack ago has returned, or
was given up by its caller. -/
theorem lookups_end_on_time {config : CacheConfig} {jitterSeed : Nat → UInt64} {slack : Nat}
    {s : ClockedCache} (h : (clockedMachine config jitterSeed slack).Reachable s) {l : Nat}
    {lookup : Lookup} (hlookup : s.system.lookups[l]? = some lookup)
    (hlate : lookup.started + config.loadTimeout + 6 * slack < s.system.clock) :
    lookup.phase = .cancelled ∨ ∃ path result, lookup.phase = .returned path result := by
  have inv := cacheMachine_inv (clocked_reachable h)
  have hpending := (clockedMachine_timely h).pending inv hlookup
  cases hphase : lookup.phase with
  | cancelled => exact .inl rfl
  | returned path result => exact .inr ⟨path, result, rfl⟩
  | begun | waiting =>
    have hclock := hpending (by rw [Lookup.pending, hphase])
    omega

/-- The store never answers; a second call has joined the load. -/
theorem lookups_end_on_time_at :
    ∃ (c : RouteCandidates) (s : ClockedCache) (lookup : Lookup),
      (clockedMachine .default (fun _ => 0) nanosPerSec).run
        [.begin c, .locked 0, .task 0 .poll, .tick (9 * nanosPerSec), .begin c, .locked 1,
          .tick nanosPerSec, .task 0 .timeout, .finish 0, .task 0 .send, .wake 0, .wake 1,
          .tick (16 * nanosPerSec)] (.start fun _ => 0) = some s ∧
      s.system.lookups[1]? = some lookup ∧
      (lookup.phase = .cancelled ∨ ∃ path result, lookup.phase = .returned path result) := by
  let c : RouteCandidates := ⟨⟨[97], false⟩, none⟩
  obtain ⟨s, hrun, hends⟩ : ∃ s, (clockedMachine .default (fun _ => 0) nanosPerSec).run
      [.begin c, .locked 0, .task 0 .poll, .tick (9 * nanosPerSec), .begin c, .locked 1,
        .tick nanosPerSec, .task 0 .timeout, .finish 0, .task 0 .send, .wake 0, .wake 1,
        .tick (16 * nanosPerSec)] (.start fun _ => 0) = some s ∧
      (s.system.clock, (s.system.lookups[1]?).map Lookup.started) =
        (26 * nanosPerSec, some (9 * nanosPerSec)) :=
    Option.map_eq_some_iff.mp (by decide +kernel)
  obtain ⟨hclock, hstarted⟩ := Prod.mk.inj hends
  obtain ⟨lookup, hlookup, hstarted⟩ := Option.map_eq_some_iff.mp hstarted
  refine ⟨c, s, lookup, hrun, hlookup, lookups_end_on_time ⟨_, _, rfl, hrun⟩ hlookup ?_⟩
  rw [hclock, hstarted]
  decide

end SniRouter
