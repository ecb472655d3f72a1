import SniRouter.Cache.Deadlines
import SniRouter.Cache.Spawn

/-!
# SniRouter — lookups need nobody

No call waits for the store or for another caller: when its time is up there is
an event of the cache's own that brings it on, and there is an end to them. All
this as long as `tokio::spawn` keeps the futures it is passed: from one that it
drops under the lock the cache does not recover (`LockedSystem.Stuck`).

* `CacheSystem.left` — how much the calls and loads have left to do.
* `ClockedCache.progress` — time can pass, or a task whose time is up can go on.
* `lookups_go_on` — so any time can pass, and every call come to its end.
-/

namespace SniRouter

open Table

/-- The event needs neither the store nor a caller. -/
def CacheStep.own : CacheStep → Bool
  | .tick _ | .locked _ | .wake _ | .finish _ => true
  | .task _ .poll | .task _ .timeout | .task _ .send | .task _ .unwind => true
  | _ => false

/-- The stages a load has before it. -/
def Load.left (load : Load) : Nat := 4 - load.task.number

/-- What a call may still have to do or to start. -/
def Lookup.left (lookup : Lookup) : Nat :=
  match lookup.phase with
  -- it may start a load
  | .begun => 6
  | .waiting _ _ => 1
  | .returned _ _ | .cancelled => 0

namespace CacheSystem

/-- How much the calls and loads have left to do at most. -/
def left (s : CacheSystem) : Nat :=
  (s.loads.map Load.left).sum + (s.lookups.map Lookup.left).sum

variable {config : CacheConfig} {jitterSeed : Nat → UInt64} {s : CacheSystem}

/-- The cache has an event of its own that takes no time and leaves less to do. -/
def Moves (config : CacheConfig) (s : CacheSystem) : Prop :=
  ∃ event s', event.own = true ∧ (∀ duration, event ≠ .tick duration) ∧
    step config event s = some s' ∧ s'.left < s.left

/-- A load that goes on leaves less to do. -/
theorem left_setLoad {p : Nat} {load load' : Load} (hload : s.loads[p]? = some load)
    (hlt : load'.left < load.left) {s' : CacheSystem} (hloads : s'.loads = s.loads.set p load')
    (hlookups : s'.lookups = s.lookups) : s'.left < s.left := by
  have hsum := sum_map_set Load.left hload load'
  unfold left
  rw [hloads, hlookups]
  omega

/-- A call that goes on leaves less to do. -/
theorem left_setLookup {l : Nat} {lookup lookup' : Lookup} (hlookup : s.lookups[l]? = some lookup)
    (hlt : lookup'.left < lookup.left) {s' : CacheSystem} (hloads : s'.loads = s.loads)
    (hlookups : s'.lookups = s.lookups.set l lookup') : s'.left < s.left := by
  have hsum := sum_map_set Lookup.left hlookup lookup'
  unfold left
  rw [hloads, hlookups]
  omega

/-- A task that comes to a later stage is progress. -/
theorem moves_task {p : Nat} {load load' : Load} {event : TaskEvent}
    (hown : (CacheStep.task p event).own = true) (hload : s.loads[p]? = some load)
    (hadvance : load.advance config s.clock p event = some load')
    (hlt : load.task.number < load'.task.number) (hle : load'.task.number ≤ 4) :
    s.Moves config := by
  have hlower : load'.left < load.left := by
    unfold Load.left
    omega
  have hsome : (step config (.task p event) s).isSome = true := by
    simp only [step, hload, hadvance, Option.bind_some, Option.map_some, Option.isSome_some]
  obtain ⟨s', hstep⟩ := Option.isSome_iff_exists.mp hsome
  refine ⟨.task p event, s', hown, by simp, hstep, ?_⟩
  cases step_cases hstep with
  | task hload₁ hadvance₁ =>
    obtain rfl := Option.some.inj (hload.symm.trans hload₁)
    obtain rfl := Option.some.inj (hadvance.symm.trans hadvance₁)
    exact left_setLoad hload hlower rfl rfl

/-- A load task whose time is up goes on. -/
theorem moves_load (inv : CacheInv config jitterSeed s) {p limit : Nat} {load : Load}
    (hload : s.loads[p]? = some load) (hlimit : load.task.limit config = some limit)
    (hdue : load.task = .running → load.startedAt + config.loadTimeout ≤ s.clock) :
    s.Moves config := by
  have hok := (inv.loads p load hload).1
  unfold Load.Ok at hok
  cases htask : load.task with
  | spawned =>
    have hpoll : load.advance config s.clock p .poll =
        some { load with task := .running, startedAt := s.clock } := by
      simp only [Load.advance, htask]
    refine moves_task rfl hload hpoll ?_ (Nat.le_of_ble_eq_true rfl)
    rw [htask]
    exact Nat.zero_lt_one
  | running =>
    rw [htask] at hok
    have htimeout : load.advance config s.clock p .timeout =
        some (load.finish (.error loadTimedOut) false) := by
      simp only [Load.advance, htask, hdue htask, if_true]
    have hnumber : (load.finish (.error loadTimedOut) false).task.number = 2 := by
      rw [Load.finish, if_pos hok.1]
      rfl
    exact moves_task rfl hload htimeout (by rw [htask, hnumber]; decide) (by rw [hnumber]; decide)
  | finishing result dropping =>
    refine ⟨.finish p, s.finishSection config p load result dropping, rfl, by simp, ?_,
      left_setLoad hload ?_ rfl rfl⟩
    · simp only [step, hload, Option.bind_some, htask]
    · dsimp only [Load.left]
      rw [htask]
      split_ifs <;> exact Nat.lt_succ_self 1
  | finished result dropping =>
    have hsend : load.advance config s.clock p .send = some { load with
        value := some result
        sends := load.sends + 1
        task := if dropping then .ended else .completed } := by
      simp only [Load.advance, htask]
    refine moves_task rfl hload hsend ?_ ?_
    · cases dropping <;> simp [htask, LoadTask.number]
    · cases dropping <;> exact le_rfl
  | unwinding =>
    have hunwind :
        load.advance config s.clock p .unwind = some { load with task := .panicked } := by
      simp only [Load.advance, htask]
    refine moves_task rfl hload hunwind ?_ le_rfl
    rw [htask]
    exact Nat.lt_succ_self 3
  | completed | ended | panicked => exact absurd hlimit (by simp [htask, LoadTask.limit])

/-- A call takes the lock. -/
theorem moves_locked {l : Nat} {lookup : Lookup} (hlookup : s.lookups[l]? = some lookup)
    (hphase : lookup.phase = .begun) : s.Moves config := by
  have hsix : lookup.left = 6 := by rw [Lookup.left, hphase]
  refine ⟨.locked l, s.lock config l lookup, rfl, by simp, ?_, ?_⟩
  · simp only [step, hlookup, Option.bind_some, hphase]
  · unfold lock
    split
    · exact left_setLookup hlookup (hsix ▸ Nat.zero_lt_succ 5) rfl rfl
    · exact left_setLookup hlookup (hsix ▸ Nat.one_lt_succ_succ 4) rfl rfl
    · exact left_setLookup hlookup (hsix ▸ Nat.zero_lt_succ 5) rfl rfl
    · next stale hfound =>
      -- the new load has four steps to do
      have hsum := sum_map_set Lookup.left hlookup
        { lookup with phase := .waiting s.loads.length stale }
      have hone : ({ lookup with phase := .waiting s.loads.length stale } : Lookup).left = 1 := rfl
      show ((s.loads ++ [Load.spawn lookup.candidates s.cache.nextId]).map Load.left).sum +
        ((s.lookups.set l { lookup with phase := .waiting s.loads.length stale }).map
          Lookup.left).sum < s.left
      have hfour : (Load.spawn lookup.candidates s.cache.nextId).left = 4 := rfl
      rw [List.map_append, List.sum_append, List.map_singleton, List.sum_singleton, hfour]
      unfold left
      omega

/-- A call takes the value that has come. -/
theorem moves_wake {l channel : Nat} {lookup : Lookup} {stale : Option Answer}
    (hlookup : s.lookups[l]? = some lookup) (hphase : lookup.phase = .waiting channel stale)
    (hreceived : ((s.loads[channel]?).bind received).isSome = true) : s.Moves config := by
  obtain ⟨loaded, hloaded⟩ := Option.isSome_iff_exists.mp hreceived
  let phase : LookupPhase := .returned (.joined channel) (settle loaded stale).1
  refine ⟨.wake l, (s.setPhase l lookup phase).record (settle loaded stale).2, rfl, by simp, ?_,
    left_setLookup hlookup ?_ rfl rfl⟩
  · simp only [step, hlookup, Option.bind_some, hphase, hloaded, Option.map_some, phase]
  · rw [show lookup.left = 1 by rw [Lookup.left, hphase]]
    exact Nat.zero_lt_one

end CacheSystem

-- ---------------------------------------------------------------------------
-- Time goes on
-- ---------------------------------------------------------------------------

/-- Calls begin at the time of the clock. -/
theorem CacheSystem.step_started {config : CacheConfig} {s s' : CacheSystem} {event : CacheStep}
    (h : step config event s = some s') {bound : Nat}
    (hbegin : event.own = true ∨ s.clock ≤ bound)
    (hs : ∀ lookup ∈ s.lookups, lookup.started ≤ bound) :
    ∀ lookup ∈ s'.lookups, lookup.started ≤ bound := by
  have hset : ∀ {l : Nat} {lookup : Lookup} {phase : LookupPhase}, s.lookups[l]? = some lookup →
      ∀ lookup' ∈ s.lookups.set l { lookup with phase := phase }, lookup'.started ≤ bound := by
    intro l lookup phase hlookup lookup' hmem
    rcases List.mem_or_eq_of_mem_set hmem with hold | rfl
    · exact hs lookup' hold
    · exact hs lookup (List.mem_of_getElem? hlookup)
  cases step_cases h with
  | tick | task | finish | invalidate | clear => exact hs
  | begin =>
    intro lookup hmem
    rcases List.mem_append.mp hmem with hold | hnew
    · exact hs lookup hold
    · rw [List.mem_singleton.mp hnew]
      exact hbegin.resolve_left (by simp [CacheStep.own])
  | fresh hlookup | coalesced hlookup | saturated hlookup | miss hlookup | wake hlookup
  | cancel hlookup => exact hset hlookup

/-- No call began in the future. -/
theorem CacheSystem.started_le {config : CacheConfig} {jitterSeed : Nat → UInt64} {s : CacheSystem}
    (h : (cacheMachine config jitterSeed).Reachable s) :
    ∀ lookup ∈ s.lookups, lookup.started ≤ s.clock := by
  let Inv (u : CacheSystem) : Prop := ∀ lookup ∈ u.lookups, lookup.started ≤ u.clock
  have hinit : ∀ {u}, (cacheMachine config jitterSeed).init u → Inv u := by
    rintro u rfl lookup hmem
    exact absurd hmem (by simp [CacheSystem.start])
  have hstep : ∀ {e u u'}, Inv u → (cacheMachine config jitterSeed).step e u = some u' →
      Inv u' := by
    intro e u u' hu hmove
    have hmono : u.clock ≤ u'.clock := by
      cases CacheSystem.step_cases hmove with
      | tick => exact Nat.le_add_right _ _
      | _ => exact le_rfl
    exact CacheSystem.step_started hmove (.inr hmono) fun lookup hmem =>
      (hu lookup hmem).trans hmono
  exact h.invariant hinit hstep

namespace ClockedCache

variable {config : CacheConfig} {jitterSeed : Nat → UInt64} {slack : Nat} {s : ClockedCache}

/-- An event that takes no time happens in time. -/
theorem step_event {event : CacheStep} {system : CacheSystem}
    (hevent : ∀ duration, event ≠ .tick duration)
    (h : s.system.step config event = some system) :
    step config slack event s =
      some ⟨system, restamp s.system.clock s.system.loads system.loads s.since⟩ := by
  unfold step
  split
  · exact absurd rfl (hevent _)
  · rw [h, Option.map_some]

/-- Time passes, or a task or a call whose time is up goes on. -/
theorem progress (h : s.Timely config slack) (inv : CacheInv config jitterSeed s.system)
    (hclock : s.system.clock + 1 ≤ maxInstant) :
    step config slack (.tick 1) s = some { s with system.clock := s.system.clock + 1 } ∨
      s.system.Moves config := by
  by_cases hpunctual : s.Punctual config slack (s.system.clock + 1)
  · refine .inl ?_
    simp only [step, hpunctual, CacheSystem.step, hclock, if_true, Option.map_some]
  refine .inr ?_
  rcases not_and_or.mp hpunctual with hload | hlookup
  · obtain ⟨⟨load, time⟩, hpair⟩ := not_forall.mp hload
    obtain ⟨hmem, hoverdue⟩ := Classical.not_imp.mp hpair
    obtain ⟨p, hp⟩ := List.getElem?_of_mem hmem
    obtain ⟨hload, htime⟩ := List.getElem?_zip_eq_some.mp hp
    obtain ⟨limit, hlimit, hlate⟩ :=
      (Option.any_eq_true _ _).mp (Bool.eq_true_of_not_eq_false hoverdue)
    have hlt : time + limit + slack < s.system.clock + 1 := of_decide_eq_true hlate
    refine CacheSystem.moves_load inv hload hlimit fun hrunning => ?_
    have hstarted : load.startedAt ≤ time := h.running p load time hload htime hrunning
    have hlimit : load.task.limit config = some limit := hlimit
    rw [hrunning] at hlimit
    cases hlimit
    show load.startedAt + config.loadTimeout ≤ s.system.clock
    omega
  · obtain ⟨lookup, hlookup⟩ := not_forall.mp hlookup
    obtain ⟨hmem, hoverdue⟩ := Classical.not_imp.mp hlookup
    have hoverdue := Bool.eq_true_of_not_eq_false hoverdue
    obtain ⟨l, hlookup⟩ := List.getElem?_of_mem hmem
    unfold overdueLookup at hoverdue
    cases hphase : lookup.phase with
    | begun => exact CacheSystem.moves_locked hlookup hphase
    | waiting channel stale =>
      rw [hphase] at hoverdue
      exact CacheSystem.moves_wake hlookup hphase (Bool.and_eq_true_iff.mp hoverdue).1
    | returned | cancelled =>
      rw [hphase] at hoverdue
      exact absurd hoverdue (by simp)

end ClockedCache

/-- What the cache does on its own, and a `spawn` that keeps its future. -/
def LockedStep.own : LockedStep → Prop
  | .call event => event.own = true
  | .spawn behaviour => behaviour = .keeps

/-- What the clocked cache does on its own, the cache does with its futures
kept. -/
theorem clocked_kept {config : CacheConfig} {jitterSeed : Nat → UInt64} {slack : Nat}
    {s s' : ClockedCache}
    (h : (clockedMachine config jitterSeed slack).Reaches (fun event => event.own = true) s s') :
    (lockedMachine config jitterSeed).Reaches LockedStep.own ⟨s.system, none⟩
      ⟨s'.system, none⟩ := by
  refine Machine.Reaches.simulate (fun u : ClockedCache => (⟨u.system, none⟩ : LockedSystem)) ?_ h
  intro event u u' hown hstep
  rcases ClockedCache.step_cases hstep with ⟨duration, -, htick, -⟩ | ⟨system, hsystem, -, rfl⟩
  · have hcall : LockedStep.own (.call (.tick duration)) := rfl
    exact kept_step hcall rfl htick
  · exact kept_step hown rfl hsystem

/-- **Lookups need nobody**: from every state the cache alone, without an answer
of the store or another caller, lets any time pass that the clock has, as long as
`spawn` keeps its futures; and past the load timeout every call has come to its
end. -/
theorem lookups_go_on {config : CacheConfig} {jitterSeed : Nat → UInt64} {slack : Nat}
    {s : ClockedCache} (h : (clockedMachine config jitterSeed slack).Reachable s) {duration : Nat}
    (hclock : s.system.clock + duration ≤ maxInstant) :
    ∃ s', (clockedMachine config jitterSeed slack).Reaches (fun event => event.own = true) s s' ∧
      (lockedMachine config jitterSeed).Reaches LockedStep.own ⟨s.system, none⟩
        ⟨s'.system, none⟩ ∧
      s'.system.clock = s.system.clock + duration ∧
      (config.loadTimeout + 6 * slack < duration →
        ∀ lookup ∈ s'.system.lookups, lookup.pending = false) := by
  let machine := clockedMachine config jitterSeed slack
  let Inv (u : ClockedCache) : Prop :=
    machine.Reachable u ∧ ∀ lookup ∈ u.system.lookups, lookup.started ≤ s.system.clock
  have hstep : ∀ u, Inv u → u.system.clock < s.system.clock + duration →
      ∃ e u', e.own = true ∧ machine.step e u = some u' ∧ Inv u' ∧
        (u'.system.clock = u.system.clock + 1 ∨
          u'.system.clock = u.system.clock ∧ u'.system.left < u.system.left) := by
    rintro u ⟨hu, hstarted⟩ hlt
    have inv := cacheMachine_inv (clocked_reachable hu)
    rcases ClockedCache.progress (clockedMachine_timely hu) inv (by omega) with
      htick | ⟨event, system, hown, hevent, hsystem, hleft⟩
    · have hmove : machine.step (.tick 1) u = some _ := htick
      exact ⟨.tick 1, _, rfl, hmove, ⟨hu.step hmove, hstarted⟩, .inl rfl⟩
    · have hmove : machine.step event u = some _ := ClockedCache.step_event hevent hsystem
      refine ⟨event, _, hown, hmove,
        ⟨hu.step hmove, CacheSystem.step_started hsystem (.inl hown) hstarted⟩, .inr ⟨?_, hleft⟩⟩
      show system.clock = u.system.clock
      cases CacheSystem.step_cases hsystem with
      | tick => exact absurd rfl (hevent _)
      | _ => rfl
  obtain ⟨s', hreaches, ⟨hs', hstarted⟩, htime⟩ :=
    Machine.reaches_clock (fun u : ClockedCache => u.system.clock) (fun u => u.system.left) hstep
      ⟨h, CacheSystem.started_le (clocked_reachable h)⟩ (Nat.le_add_right _ _)
  refine ⟨s', hreaches, clocked_kept hreaches, htime, fun hlong lookup hmem => ?_⟩
  obtain ⟨l, hlookup⟩ := List.getElem?_of_mem hmem
  by_contra hpending
  have hclock := (clockedMachine_timely hs').pending (cacheMachine_inv (clocked_reachable hs'))
    hlookup (Bool.eq_true_of_not_eq_false hpending)
  have hbegan := hstarted lookup hmem
  have htime : s'.system.clock = s.system.clock + duration := htime
  omega

/-- Eleven seconds can pass over a store that says nothing. -/
theorem lookups_go_on_at :
    ∃ (c : RouteCandidates) (s s' : ClockedCache),
      (clockedMachine .default (fun _ => 0) 0).run [.begin c, .locked 0, .task 0 .poll]
        (.start fun _ => 0) = some s ∧
      (clockedMachine .default (fun _ => 0) 0).Reaches (fun event => event.own = true) s s' ∧
      (lockedMachine .default (fun _ => 0)).Reaches LockedStep.own ⟨s.system, none⟩
        ⟨s'.system, none⟩ ∧
      s'.system.clock = s.system.clock + 11 * nanosPerSec ∧
      (CacheConfig.default.loadTimeout + 6 * 0 < 11 * nanosPerSec →
        ∀ lookup ∈ s'.system.lookups, lookup.pending = false) := by
  let c : RouteCandidates := ⟨⟨[97], false⟩, none⟩
  obtain ⟨s, hrun, hclock⟩ : ∃ s, (clockedMachine .default (fun _ => 0) 0).run
      [.begin c, .locked 0, .task 0 .poll] (.start fun _ => 0) = some s ∧ s.system.clock = 0 :=
    Option.map_eq_some_iff.mp (by decide +kernel)
  obtain ⟨s', hs'⟩ := lookups_go_on ⟨_, _, rfl, hrun⟩
    (show s.system.clock + 11 * nanosPerSec ≤ maxInstant by rw [hclock]; decide)
  exact ⟨c, s, s', hrun, hs'⟩

end SniRouter
