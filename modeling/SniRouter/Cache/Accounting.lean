import SniRouter.Cache.Invariant

/-!
# SniRouter — single flight and load accounting

The counter of running loads, the in-flight slots and the channels agree with
the load tasks at every moment, whatever order lookups, cancellations, endings
of loads and invalidations come in. That every load publishes a result takes
more: `later` panics in the finish section of a load whose entry would expire
beyond the end of the clock, and nothing is sent then.

* `Counted` — counter and slots, in every reachable state.
* `Accounted` — and the channels.
* `Representable` — the instants of a stored answer are within the clock.
* `cache_accounting` — everything is accounted for exactly after the runs that
  keep to that.
-/

namespace SniRouter

open Table

-- ---------------------------------------------------------------------------
-- What is accounted for
-- ---------------------------------------------------------------------------

/-- Load `p` is for the candidates and has not run its locked finish section. -/
def UnfinishedFor (loads : List Load) (candidates : RouteCandidates) (id p : Nat) : Prop :=
  ∃ load, loads[p]? = some load ∧ load.candidates = candidates ∧ load.id = id ∧
    load.unfinished = true

/-- What the counter and the slots account for, in every reachable state. -/
structure Counted (config : CacheConfig) (s : CacheSystem) : Prop where
  /-- The counter counts the guards that have not run their finish section. -/
  running   : s.cache.runningLoads = s.loads.countP Load.unfinished
  bounded   : s.cache.runningLoads ≤ config.maxInflightLoads
  /-- The section that decrements the counter never finds it at zero. -/
  noUnderflow : ∀ (p : Nat) load result dropping, s.loads[p]? = some load →
    load.task = .finishing result dropping → 0 < s.cache.runningLoads
  /-- A slot belongs to exactly one load, and that load is unfinished. -/
  slots     : ∀ c slot, s.cache.inflight.lookup c = some slot →
    ∃! p, UnfinishedFor s.loads c slot.id p
  /-- At most one load owns the slot of given candidates. -/
  oneOwner  : ∀ (c : RouteCandidates) (p q : Nat) load load', s.loads[p]? = some load →
    s.loads[q]? = some load' → s.cache.ownsSlot c load.id = true →
    s.cache.ownsSlot c load'.id = true → p = q
  /-- A load gives back its count in its finish section, and only there. -/
  decrements : ∀ (p : Nat) load, s.loads[p]? = some load →
    load.decrements = if load.unfinished then 0 else 1
  /-- A cancelled caller leaves everything but its own lookup as it was. -/
  cancel    : ∀ l s', CacheSystem.step config (.cancel l) s = some s' →
    s'.cache = s.cache ∧ s'.loads = s.loads ∧ s'.clock = s.clock ∧ s'.metrics = s.metrics ∧
      ∀ l', l' ≠ l → s'.lookups[l']? = s.lookups[l']?

/-- The counts, and what loads owe to those that wait for them. -/
structure Accounted (config : CacheConfig) (s : CacheSystem) : Prop extends Counted config s where
  /-- Whoever waits on an empty channel waits for a result still to be sent. -/
  waiting   : ∀ (l : Nat) lookup channel stale, s.lookups[l]? = some lookup →
    lookup.phase = .waiting channel stale →
    ∃ load, s.loads[channel]? = some load ∧ load.candidates = lookup.candidates ∧
      (load.value = none → load.sends = 0 ∧ load.senderDropped = false)
  /-- A load has sent one result when `finish` has returned, and none before. -/
  sends     : ∀ (p : Nat) load, s.loads[p]? = some load →
    (load.sends = if load.senderDropped then 1 else 0) ∧
      (load.senderDropped = true → load.value.isSome)
  /-- Past its finish section a load has sent its result, or is about to. -/
  publishes : ∀ (p : Nat) load, s.loads[p]? = some load → load.unfinished = false →
    load.value.isSome ∨ ∃ result dropping, load.task = .finished result dropping

-- ---------------------------------------------------------------------------
-- When the section of a load panics
-- ---------------------------------------------------------------------------

/-- The clock can represent when an answer stored now expires and when its
stale window ends, taking 100 years for what is longer. -/
def EntryFits (jitterSeed : Nat → UInt64) (config : CacheConfig) (hits : Answer) (now id : Nat) :
    Prop :=
  now + min (entryTtl jitterSeed config hits id) century ≤ maxInstant ∧
    ∀ expires ∈ later now (entryTtl jitterSeed config hits id),
      expires + min (config.staleIfError.getD 0) century ≤ maxInstant

instance (jitterSeed : Nat → UInt64) (config : CacheConfig) (hits : Answer) (now id : Nat) :
    Decidable (EntryFits jitterSeed config hits now id) :=
  inferInstanceAs (Decidable (_ ∧ _))

/-- The entry of an answer exists exactly when its two instants do. -/
theorem entryOf_isSome_iff {jitterSeed : Nat → UInt64} {config : CacheConfig} {hits : Answer}
    {now id : Nat} : (entryOf jitterSeed config hits now id).isSome = true ↔
      EntryFits jitterSeed config hits now id := by
  unfold entryOf EntryFits
  rw [← later_isSome_iff]
  cases later now (entryTtl jitterSeed config hits id) with
  | none => simp
  | some expires =>
    rw [Option.bind_some, Option.isSome_map, later_isSome_iff]
    simp

/-- The answer that a task is to store. -/
def LoadTask.storing : LoadTask → Option Answer
  | .finishing (.ok hits) _ => some hits
  | _ => none

/-- The clock can represent the instants of an answer that is stored. -/
def Representable (config : CacheConfig) (event : CacheStep) (s : CacheSystem) : Prop :=
  match event with
  | .finish p => ∀ load ∈ s.loads[p]?, ∀ hits ∈ load.task.storing,
      s.cache.ownsSlot load.candidates load.id = true → config.maxEntries ≠ 0 →
      EntryFits s.cache.jitterSeed config hits s.clock s.cache.nextId
  | _ => True

instance (config : CacheConfig) (event : CacheStep) (s : CacheSystem) :
    Decidable (Representable config event s) :=
  match event with
  | .finish p => inferInstanceAs (Decidable (∀ load ∈ s.loads[p]?, ∀ hits ∈ load.task.storing,
      s.cache.ownsSlot load.candidates load.id = true → config.maxEntries ≠ 0 →
      EntryFits s.cache.jitterSeed config hits s.clock s.cache.nextId))
  | .tick _ | .begin _ | .locked _ | .wake _ | .cancel _ | .task _ _ | .invalidate _ | .clear =>
    .isTrue trivial

/-- A finish section can be carried out exactly when it does not panic. -/
theorem representable_iff {config : CacheConfig} {s : CacheSystem} {p : Nat} {load : Load}
    {result : LoadResult} {dropping : Bool} (hload : s.loads[p]? = some load)
    (htask : load.task = .finishing result dropping) : Representable config (.finish p) s ↔
      s.cache.finishPanics config s.clock load.candidates load.id result = false := by
  have hone : Representable config (.finish p) s ↔ ∀ hits ∈ load.task.storing,
      s.cache.ownsSlot load.candidates load.id = true → config.maxEntries ≠ 0 →
      EntryFits s.cache.jitterSeed config hits s.clock s.cache.nextId := by
    simp [Representable, hload]
  rw [hone, htask]
  cases result with
  | error => simp [LoadTask.storing, CacheState.finishPanics]
  | ok hits =>
    have hfits := @entryOf_isSome_iff s.cache.jitterSeed config hits s.clock s.cache.nextId
    simp only [LoadTask.storing, Option.mem_some_iff, forall_eq', CacheState.finishPanics,
      CacheState.insertPanics, ← hfits, Bool.and_eq_false_imp, bne_iff_ne]
    simp

/-- How many loads ended in a panic of their finish section. -/
def CacheSystem.lostLoads (s : CacheSystem) : Nat := s.loads.countP Load.lost

/-- A load that ends has its task's result, and is not lost. -/
theorem Load.finish_lost (load : Load) (result : LoadResult) (dropping : Bool) :
    (load.finish result dropping).lost = false := by
  unfold finish
  split_ifs <;> rfl

/-- Outside its locked section no load is lost, nor found again. -/
theorem Load.advance_lost {config : CacheConfig} {now p : Nat} {event : TaskEvent}
    {load load' : Load} (h : load.advance config now p event = some load') :
    load'.lost = load.lost := by
  unfold advance at h
  split at h
  case h_1 htask =>
    cases h
    rw [lost, lost, htask]
  case h_4 htask =>
    split_ifs at h
    cases h
    rw [Load.finish_lost, lost, htask]
  case h_9 result dropping htask =>
    cases h
    rw [lost, lost, htask]
    cases dropping <;> rfl
  case h_10 htask =>
    cases h
    rw [lost, lost, htask]
  case h_11 => exact absurd h (by simp)
  all_goals
    next htask =>
      cases h
      rw [Load.finish_lost, lost, htask]

/-- A load is lost in a finish section that stores what does not fit, and only
there. -/
theorem CacheSystem.step_lostLoads {config : CacheConfig} {event : CacheStep} {s s' : CacheSystem}
    (h : step config event s = some s') :
    s'.lostLoads = 0 ↔ s.lostLoads = 0 ∧ Representable config event s := by
  unfold lostLoads
  cases step_cases h with
  | tick | begin | fresh | coalesced | saturated | wake | cancel | invalidate | clear =>
    exact (and_iff_left trivial).symm
  | @miss l lookup =>
    refine Iff.trans ?_ (and_iff_left trivial).symm
    show (s.loads ++ [Load.spawn lookup.candidates s.cache.nextId]).countP Load.lost = 0 ↔ _
    rw [List.countP_append]
    rfl
  | @task p event load load' hload hadvance =>
    have hcount := countP_set Load.lost hload load'
    rw [Load.advance_lost hadvance] at hcount
    refine Iff.trans ?_ (and_iff_left trivial).symm
    show (s.loads.set p load').countP Load.lost = 0 ↔ _
    rw [Nat.add_right_cancel hcount]
  | @finish p load result dropping hload htask =>
    let panics := s.cache.finishPanics config s.clock load.candidates load.id result
    obtain ⟨load', hset, hlost⟩ : ∃ load', (s.finishSection config p load result dropping).loads =
        s.loads.set p load' ∧ load'.lost = panics := by
      refine ⟨_, rfl, ?_⟩
      show Load.lost
        { load with task := if panics then _ else _, storedAt := _, decrements := _ } = _
      cases panics <;> rfl
    have hcount := countP_set Load.lost hload load'
    have hnot : load.lost = false := by rw [Load.lost, htask]
    rw [representable_iff hload htask, hset]
    rw [hnot, hlost] at hcount
    cases hpanics : panics with
    | false =>
      rw [hpanics] at hcount
      rw [Nat.add_right_cancel hcount]
      exact (and_iff_left hpanics).symm
    | true =>
      rw [hpanics, if_pos rfl, if_neg (by simp)] at hcount
      refine ⟨fun hzero => ?_, fun h => absurd (hpanics.symm.trans h.2) (by simp)⟩
      omega

/-- The task of a load tells what it has counted and sent. -/
theorem Load.counts {p : Nat} {load : Load} (hok : load.Ok p) :
    (load.decrements = if load.unfinished then 0 else 1) ∧
      (load.value = none ∧ load.sends = 0 ∨ load.value.isSome ∧ load.sends = 1) := by
  unfold Load.Ok at hok
  unfold unfinished
  cases htask : load.task with
  | completed | ended =>
    rw [htask] at hok
    obtain ⟨-, hdec, hsends, result, hvalue, -⟩ := hok
    simp [hdec, hsends, hvalue]
  | _ =>
    rw [htask] at hok
    simp [hok]

section

variable {config : CacheConfig} {jitterSeed : Nat → UInt64} {s : CacheSystem}

/-- The load of a slot is the only unfinished one under its id. -/
theorem CacheInv.slot_unique (inv : CacheInv config jitterSeed s) {c : RouteCandidates}
    {slot : Inflight} (h : s.cache.inflight.lookup c = some slot) :
    ∃! p, UnfinishedFor s.loads c slot.id p := by
  obtain ⟨load, hload, hcandidates, hid, hunf⟩ := inv.slots c slot h
  refine ⟨slot.result, ⟨load, hload, hcandidates, hid, hunf⟩, ?_⟩
  intro q hq
  obtain ⟨load', hload', -, hid', -⟩ := hq
  exact inv.distinct q slot.result load' load hload' hload (hid'.trans hid.symm)

/-- Two loads do not own one slot. -/
theorem CacheInv.owner_unique (inv : CacheInv config jitterSeed s) {c : RouteCandidates}
    {p q : Nat} {load load' : Load} (hp : s.loads[p]? = some load) (hq : s.loads[q]? = some load')
    (howns : s.cache.ownsSlot c load.id = true) (howns' : s.cache.ownsSlot c load'.id = true) :
    p = q := by
  unfold CacheState.ownsSlot at howns howns'
  obtain ⟨slot, hslot, hid⟩ := (Option.any_eq_true _ _).mp howns
  obtain ⟨slot', hslot', hid'⟩ := (Option.any_eq_true _ _).mp howns'
  rw [hslot] at hslot'
  injection hslot' with hslot'
  subst hslot'
  exact inv.distinct p q load load' hp hq ((eq_of_beq hid).symm.trans (eq_of_beq hid'))

/-- Whether a load has published, or still will, is seen from its task. -/
theorem CacheInv.published (inv : CacheInv config jitterSeed s) {p : Nat} {load : Load}
    (hload : s.loads[p]? = some load) (hlost : load.lost = false) :
    (load.value.isSome = true ↔ load.senderDropped = true) ∧
      (load.unfinished = false →
        load.value.isSome = true ∨ ∃ result dropping, load.task = .finished result dropping) := by
  have hok := (inv.loads p load hload).1
  unfold Load.Ok at hok
  unfold Load.senderDropped Load.unfinished
  unfold Load.lost at hlost
  cases htask : load.task with
  | completed | ended =>
    rw [htask] at hok
    obtain ⟨-, -, -, result, hvalue, -⟩ := hok
    simp [hvalue]
  | unwinding | panicked => exact absurd hlost (by simp [htask])
  | finished result dropping =>
    rw [htask] at hok
    simp [hok.2.1]
  | _ =>
    rw [htask] at hok
    simp [hok.2.1]

/-- **Counter and slots**, whatever order lookups, cancellations, endings of
loads, invalidations and the clock come in, and whatever section panics. -/
theorem cache_counted (h : (cacheMachine config jitterSeed).Reachable s) : Counted config s := by
  have inv := cacheMachine_inv h
  refine ⟨inv.running, inv.bounded, ?_, fun c slot => inv.slot_unique,
    fun c p q load load' => inv.owner_unique, ?_, ?_⟩
  · intro p load result dropping hload htask
    rw [inv.running]
    exact countP_pos Load.unfinished hload (by rw [Load.unfinished, htask])
  · exact fun p load hload => (Load.counts (inv.loads p load hload).1).1
  · intro l s' hstep
    cases CacheSystem.step_cases hstep with
    | cancel hlookup hphase =>
      refine ⟨rfl, rfl, rfl, rfl, ?_⟩
      intro l' hne
      rw [CacheSystem.setPhase, lookup_set hlookup, if_neg hne]

/-- Everything is accounted for as long as no load is lost. -/
theorem accounted_iff (h : (cacheMachine config jitterSeed).Reachable s) :
    Accounted config s ↔ s.lostLoads = 0 := by
  have inv := cacheMachine_inv h
  rw [CacheSystem.lostLoads, List.countP_eq_zero]
  constructor
  · intro accounted load hmem hlost
    obtain ⟨p, hload⟩ := List.getElem?_of_mem hmem
    have hok := (inv.loads p load hload).1
    have hpublishes := accounted.publishes p load hload
    unfold Load.Ok at hok
    unfold Load.lost at hlost
    unfold Load.unfinished at hpublishes
    cases htask : load.task with
    | unwinding | panicked =>
      rw [htask] at hok
      simp [htask, hok.2.1] at hpublishes
    | _ => exact absurd hlost (by simp [htask])
  · intro hnone
    have hkept : ∀ {p : Nat} {load : Load}, s.loads[p]? = some load → load.lost = false :=
      fun hload => Bool.eq_false_of_not_eq_true (hnone _ (List.mem_of_getElem? hload))
    refine ⟨cache_counted h, ?_, ?_, ?_⟩
    · intro l lookup channel stale hlookup hphase
      have hwaiting := inv.lookups l lookup hlookup
      unfold LookupOk at hwaiting
      rw [hphase] at hwaiting
      obtain ⟨⟨load, hload, hcandidates⟩, -⟩ := hwaiting
      obtain ⟨hdropped, -⟩ := inv.published hload (hkept hload)
      obtain ⟨-, hsends⟩ := Load.counts (inv.loads channel load hload).1
      refine ⟨load, hload, hcandidates, fun hempty => ?_⟩
      rw [hempty] at hdropped hsends
      exact ⟨by simpa using hsends, by simpa using hdropped⟩
    · intro p load hload
      obtain ⟨hdropped, -⟩ := inv.published hload (hkept hload)
      obtain ⟨-, hsends⟩ := Load.counts (inv.loads p load hload).1
      refine ⟨?_, hdropped.mpr⟩
      rcases hsends with ⟨hvalue, hsends⟩ | ⟨hvalue, hsends⟩
      · rw [hsends, if_neg]
        rw [← hdropped, hvalue]
        simp
      · rw [hsends, if_pos (hdropped.mp hvalue)]
    · exact fun p load hload => (inv.published hload (hkept hload)).2

/-- **Single flight and load accounting.** After a run of lookups,
cancellations, endings of loads, invalidations and the clock, in any order, the
counter, the slots and the channels are accounted for if and only if the clock
could represent the instants of every answer that was stored. -/
theorem cache_accounting {es : List CacheStep}
    (hrun : (cacheMachine config jitterSeed).run es (.start jitterSeed) = some s) :
    Accounted config s ↔
      (cacheMachine config jitterSeed).Along (Representable config) es (.start jitterSeed) := by
  have hstep : ∀ {event : CacheStep} {s s' : CacheSystem}, True →
      (cacheMachine config jitterSeed).step event s = some s' →
      (s'.lostLoads = 0 ↔ s.lostLoads = 0 ∧ Representable config event s) :=
    fun _ hmove => CacheSystem.step_lostLoads hmove
  rw [accounted_iff ⟨_, es, rfl, hrun⟩,
    Machine.along_iff (fun _ _ => trivial) hstep trivial hrun]
  exact and_iff_right rfl

/-- An invalidated load and its successor both count, but only the latter has
the slot; a coalesced caller has been cancelled. -/
theorem cache_accounting_at :
    ∃ (c : RouteCandidates) (s : CacheSystem),
      (cacheMachine .default fun _ => 0).run
        [.begin c, .locked 0, .begin c, .locked 1, .invalidate c.exact, .begin c, .locked 2,
          .cancel 1, .task 0 .poll, .task 0 (.answer (.ok [])), .finish 0, .task 1 .poll,
          .task 1 (.answer (.ok [])), .finish 1] (.start fun _ => 0) = some s ∧
      s.cache.runningLoads = 0 ∧ s.cache.entries.size = 1 ∧ Accounted .default s := by
  let c : RouteCandidates := ⟨⟨[97], false⟩, none⟩
  let es : List CacheStep := [.begin c, .locked 0, .begin c, .locked 1, .invalidate c.exact,
    .begin c, .locked 2, .cancel 1, .task 0 .poll, .task 0 (.answer (.ok [])), .finish 0,
    .task 1 .poll, .task 1 (.answer (.ok [])), .finish 1]
  obtain ⟨s, hrun, hval⟩ : ∃ s, (cacheMachine .default fun _ => 0).run es (.start fun _ => 0) =
      some s ∧ (s.cache.runningLoads, s.cache.entries.size) = (0, 1) :=
    Option.map_eq_some_iff.mp (by decide +kernel)
  injection hval with hcount hsize
  exact ⟨c, s, hrun, hcount, hsize, (cache_accounting hrun).mpr (by decide +kernel)⟩

/-- Answers are kept to the end of the clock, and a second longer. -/
def endlessConfig : CacheConfig where
  ttl := maxInstant
  negativeTtl := maxInstant
  jitter := .finite 0
  maxEntries := 1
  staleIfError := some nanosPerSec
  loadTimeout := nanosPerSec
  maxInflightLoads := 1

/-- The first answer that is stored panics in `later`: its load publishes
nothing. -/
theorem unrepresentable_not_accounted :
    ¬ ∀ (config : CacheConfig) (jitterSeed : Nat → UInt64) (s : CacheSystem),
      (cacheMachine config jitterSeed).Reachable s → Accounted config s := by
  intro hclaim
  let c : RouteCandidates := ⟨⟨[97], false⟩, none⟩
  obtain ⟨s, hrun, hval⟩ : ∃ s, (cacheMachine endlessConfig fun _ => 0).run
      [.begin c, .locked 0, .task 0 .poll, .task 0 (.answer (.ok [])), .finish 0,
        .task 0 .unwind] (.start fun _ => 0) = some s ∧
      s.loads[0]?.map (fun load => (load.senderDropped, load.sends)) = some (true, 0) :=
    Option.map_eq_some_iff.mp (by decide +kernel)
  obtain ⟨load, hload, hval⟩ := Option.map_eq_some_iff.mp hval
  injection hval with hdropped hsends
  have hsent := ((hclaim endlessConfig _ s ⟨_, _, rfl, hrun⟩).sends 0 load hload).1
  rw [hdropped, hsends] at hsent
  exact absurd hsent (by simp)

end

end SniRouter
