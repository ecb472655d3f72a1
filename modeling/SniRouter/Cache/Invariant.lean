import SniRouter.Cache.System
import SniRouter.Lib.Table

/-!
# SniRouter — the invariant of the lookup cache

* `Load.Ok` — a load task, its guard and its channel agree.
* `CacheInv` — counter, slots, entries and lookups agree with the loads, tied
  together by the load ids.
* `CacheInv.step` / `cacheMachine_inv` — every event keeps it.
-/

namespace SniRouter

open Table

-- ---------------------------------------------------------------------------
-- Load tasks
-- ---------------------------------------------------------------------------

/-- A result is what the inner lookup answered to load `p`, or an error. -/
def Load.Produced (p : Nat) (load : Load) (result : LoadResult) : Prop :=
  ∀ hits, result = .ok hits → hits.load = p ∧ load.answered = some hits.hits

/-- Where a task is determines sender, channel and counts: the count is given
back in the locked section and the result sent after it, once each, unless the
section panics. -/
def Load.Ok (p : Nat) (load : Load) : Prop :=
  match load.task with
  | .spawned | .running =>
    load.sender = true ∧ load.value = none ∧ load.answered = none ∧ load.storedAt = none ∧
      load.decrements = 0 ∧ load.sends = 0
  | .finishing result _ =>
    load.sender = false ∧ load.value = none ∧ load.storedAt = none ∧ load.decrements = 0 ∧
      load.sends = 0 ∧ load.Produced p result
  | .finished result _ =>
    load.sender = false ∧ load.value = none ∧ load.decrements = 1 ∧ load.sends = 0 ∧
      load.Produced p result
  | .unwinding | .panicked =>
    load.sender = false ∧ load.value = none ∧ load.decrements = 1 ∧ load.sends = 0
  | .completed | .ended =>
    load.sender = false ∧ load.decrements = 1 ∧ load.sends = 1 ∧
      ∃ result, load.value = some result ∧ load.Produced p result

/-- What a load keeps from one event to the next. -/
structure Load.Extends (load load' : Load) : Prop where
  candidates : load'.candidates = load.candidates
  id         : load'.id = load.id
  answered   : ∀ hits, load.answered = some hits → load'.answered = some hits
  storedAt   : ∀ time, load.storedAt = some time → load'.storedAt = some time
  value      : ∀ result, load.value = some result → load'.value = some result
  received   : ∀ result, CacheSystem.received load = some result →
    CacheSystem.received load' = some result

theorem Load.Extends.refl (load : Load) : Load.Extends load load :=
  ⟨rfl, rfl, fun _ h => h, fun _ h => h, fun _ h => h, fun _ h => h⟩

/-- What a receiver gets is the value on the channel, or that the sender went
without one. -/
theorem Load.received_cases {load : Load} {loaded : LoadResult}
    (h : CacheSystem.received load = some loaded) :
    load.value = some loaded ∨ load.value = none ∧ loaded = .error loadAborted := by
  unfold CacheSystem.received at h
  split at h
  · next hvalue => exact .inl (hvalue.trans h)
  · next hvalue =>
    split_ifs at h
    injection h with h
    exact .inr ⟨hvalue, h.symm⟩

/-- Who waits receives the value in the channel. -/
theorem Load.received_of_value {load : Load} {result : LoadResult}
    (h : load.value = some result) : CacheSystem.received load = some result := by
  rw [CacheSystem.received, h]

/-- Nothing comes on the channel while the sender is there and has not sent. -/
theorem Load.received_none {load : Load} (hvalue : load.value = none)
    (hsender : load.senderDropped = false) : CacheSystem.received load = none := by
  rw [CacheSystem.received, hvalue]
  exact if_neg (by simp [hsender])

/-- A load that nothing has come from keeps what it has. -/
theorem Load.Extends.of_silent {load load' : Load} (hsilent : CacheSystem.received load = none)
    (hcandidates : load'.candidates = load.candidates) (hid : load'.id = load.id)
    (hanswered : ∀ hits, load.answered = some hits → load'.answered = some hits)
    (hstored : ∀ time, load.storedAt = some time → load'.storedAt = some time) :
    Load.Extends load load' := by
  refine ⟨hcandidates, hid, hanswered, hstored, fun result hvalue => ?_, fun result h => ?_⟩
  · exact absurd (hsilent.symm.trans (Load.received_of_value hvalue)) (by simp)
  · exact absurd (hsilent.symm.trans h) (by simp)

/-- An error needs no read of the store. -/
theorem Load.Produced.error (p : Nat) (load : Load) (error : LookupError) :
    load.Produced p (.error error) :=
  fun _ h => absurd h (by simp)

/-- Before its locked section a load has stored nothing, and nothing has come on
its channel. -/
theorem Load.Ok.silent {p : Nat} {load : Load} (hok : load.Ok p) (h : load.unfinished = true) :
    load.value = none ∧ load.storedAt = none ∧ CacheSystem.received load = none := by
  unfold Load.Ok at hok
  cases htask : load.task with
  | spawned | running =>
    rw [htask] at hok
    exact ⟨hok.2.1, hok.2.2.2.1, Load.received_none hok.2.1 (by rw [senderDropped, htask])⟩
  | finishing =>
    rw [htask] at hok
    exact ⟨hok.2.1, hok.2.2.1, Load.received_none hok.2.1 (by rw [senderDropped, htask])⟩
  | _ => exact absurd h (by simp [unfinished, htask])

/-- The first call of `finish`: the sender is taken and nothing else is done
yet. -/
theorem Load.finish_spec {p : Nat} {load : Load} {result : LoadResult}
    (hproduced : load.Produced p result) (dropping : Bool) (hsender : load.sender = true)
    (hvalue : load.value = none) (hstored : load.storedAt = none) (hdec : load.decrements = 0)
    (hsends : load.sends = 0) :
    (load.finish result dropping).Ok p ∧ (load.finish result dropping).unfinished = true := by
  unfold finish
  rw [if_pos hsender]
  exact ⟨⟨rfl, hvalue, hstored, hdec, hsends, hproduced⟩, rfl⟩

/-- `finish` keeps what the load has come to. -/
theorem Load.finish_fields (load : Load) (result : LoadResult) (dropping : Bool) :
    (load.finish result dropping).candidates = load.candidates ∧
      (load.finish result dropping).id = load.id ∧
      (load.finish result dropping).storedAt = load.storedAt ∧
      (load.finish result dropping).answered = load.answered ∧
      (load.finish result dropping).startedAt = load.startedAt := by
  unfold finish
  split_ifs
  all_goals exact ⟨rfl, rfl, rfl, rfl, rfl⟩

/-- A load without a result yet ends with an error. -/
theorem Load.fail_spec {p : Nat} {load : Load} (hok : load.Ok p)
    (htask : load.task = .spawned ∨ load.task = .running) (error : LookupError)
    (dropping : Bool) :
    (load.finish (.error error) dropping).Ok p ∧
      Load.Extends load (load.finish (.error error) dropping) ∧
      (load.finish (.error error) dropping).unfinished = load.unfinished := by
  have hguard : load.sender = true ∧ load.value = none ∧ load.answered = none ∧
      load.storedAt = none ∧ load.decrements = 0 ∧ load.sends = 0 := by
    unfold Load.Ok at hok
    rcases htask with htask | htask <;>
    · rw [htask] at hok
      exact hok
  have hunf : load.unfinished = true := by
    unfold unfinished
    rcases htask with htask | htask <;> rw [htask]
  obtain ⟨hsender, hvalue, -, hstored, hdec, hsends⟩ := hguard
  obtain ⟨hcandidates, hid, hstored', hanswered, -⟩ := load.finish_fields (.error error) dropping
  obtain ⟨hok', hunf'⟩ :=
    Load.finish_spec (.error p load error) dropping hsender hvalue hstored hdec hsends
  rw [hunf]
  exact ⟨hok', .of_silent (hok.silent hunf).2.2 hcandidates hid (fun _ h => hanswered.trans h)
    (fun _ h => hstored'.trans h), hunf'⟩

/-- One event of a load task keeps task, guard and channel in step, and never
touches the count. -/
theorem Load.advance_spec {config : CacheConfig} {now p : Nat} {event : TaskEvent}
    {load load' : Load} (hok : load.Ok p) (h : load.advance config now p event = some load') :
    load'.Ok p ∧ load.Extends load' ∧ load'.unfinished = load.unfinished := by
  unfold advance at h
  split at h
  · next htask =>
    injection h with h
    have hunf : load.unfinished = true := by rw [unfinished, htask]
    have hsilent := (hok.silent hunf).2.2
    unfold Load.Ok at hok
    rw [htask] at hok
    rw [← h]
    exact ⟨hok, .of_silent hsilent rfl rfl (fun _ h => h) (fun _ h => h), hunf.symm⟩
  · next hits htask =>
    injection h with h
    have hunf : load.unfinished = true := by rw [unfinished, htask]
    have hsilent := (hok.silent hunf).2.2
    unfold Load.Ok at hok
    rw [htask] at hok
    obtain ⟨hsender, hvalue, hanswered, hstored, hdec, hsends⟩ := hok
    have hproduced : Load.Produced p { load with answered := some hits } (.ok ⟨hits, p⟩) := by
      intro hits' heq
      injection heq with heq
      exact heq ▸ ⟨rfl, rfl⟩
    obtain ⟨hcandidates, hid, hstored', -, -⟩ :=
      Load.finish_fields { load with answered := some hits } (.ok ⟨hits, p⟩) false
    obtain ⟨hok', hunf'⟩ := Load.finish_spec hproduced false hsender hvalue hstored hdec hsends
    rw [← h, hunf]
    -- the answer of a running load was not there before
    refine ⟨hok', .of_silent hsilent hcandidates hid ?_ (fun _ h => hstored'.trans h), hunf'⟩
    exact fun hits' h' => absurd h' (by simp [hanswered])
  · next error htask =>
    injection h with h
    exact h ▸ Load.fail_spec hok (.inr htask) error false
  · next htask =>
    split_ifs at h
    injection h with h
    exact h ▸ Load.fail_spec hok (.inr htask) loadTimedOut false
  · next htask =>
    injection h with h
    exact h ▸ Load.fail_spec hok (.inr htask) loadAborted true
  · next htask =>
    injection h with h
    exact h ▸ Load.fail_spec hok (.inl htask) loadAborted true
  · next htask =>
    injection h with h
    exact h ▸ Load.fail_spec hok (.inr htask) loadAborted true
  · next htask =>
    -- `complete` has already taken the sender: the drop does nothing
    injection h with h
    unfold Load.Ok at hok
    rw [htask] at hok
    rw [finish, if_neg (by simp [hok.1])] at h
    have hsent : ∃ result, load.value = some result ∧ load.Produced p result := hok.2.2.2
    obtain ⟨result, hvalue, -⟩ := hsent
    rw [← h]
    refine ⟨hok, ⟨rfl, rfl, fun _ h => h, fun _ h => h, fun _ h => h, ?_⟩, ?_⟩
    · intro result' h'
      rw [Load.received_of_value hvalue] at h'
      exact h' ▸ Load.received_of_value hvalue
    · rw [unfinished, unfinished, htask]
      rfl
  · next result dropping htask =>
    injection h with h
    unfold Load.Ok at hok
    rw [htask] at hok
    obtain ⟨hsender, hvalue, hdec, hsends, hproduced⟩ := hok
    have hsilent := Load.received_none hvalue (by rw [senderDropped, htask])
    rw [← h]
    refine ⟨?_, .of_silent hsilent rfl rfl (fun _ h => h) (fun _ h => h), ?_⟩
    · cases dropping <;>
        exact ⟨hsender, hdec, congrArg (· + 1) hsends, result, rfl, hproduced⟩
    · rw [unfinished, unfinished, htask]
      cases dropping <;> rfl
  · next htask =>
    injection h with h
    unfold Load.Ok at hok
    rw [htask] at hok
    have hsilent := Load.received_none hok.2.1 (by rw [senderDropped, htask])
    rw [← h]
    refine ⟨hok, .of_silent hsilent rfl rfl (fun _ h => h) (fun _ h => h), ?_⟩
    rw [unfinished, unfinished, htask]
  · exact absurd h (by simp)

/-- What a load published is what it read. -/
theorem Load.produced_of_value {p : Nat} {load : Load} {result : LoadResult} (hok : load.Ok p)
    (h : load.value = some result) : load.Produced p result := by
  unfold Load.Ok at hok
  cases htask : load.task with
  | completed | ended =>
    rw [htask] at hok
    obtain ⟨-, -, -, result', hvalue, hproduced⟩ := hok
    rw [h] at hvalue
    injection hvalue with hvalue
    exact hvalue ▸ hproduced
  -- before `finish` has returned the channel is empty, as it is after a panic
  | _ =>
    rw [htask] at hok
    exact absurd h (by simp [hok.2.1])

-- ---------------------------------------------------------------------------
-- What answers and lookups may rely on
-- ---------------------------------------------------------------------------

section provenance

variable (config : CacheConfig) (jitterSeed : Nat → UInt64) (loads : List Load)

/-- A load for the candidates answered `hits`, and the answer was stored at
`time`. -/
def Stored (candidates : RouteCandidates) (hits : Answer) (time : Nat) : Prop :=
  ∃ load, loads[hits.load]? = some load ∧ load.candidates = candidates ∧
    load.answered = some hits.hits ∧ load.storedAt = some time

/-- The answer was stored for the candidates, and `now` is before its expiry. -/
def FreshFor (candidates : RouteCandidates) (now : Nat) (hits : Answer) : Prop :=
  ∃ time id expires, Stored loads candidates hits time ∧
    later time (entryTtl jitterSeed config hits id) = some expires ∧ now < expires

/-- The answer was stored for the candidates, and `now` is before the end of
its stale window. -/
def StaleFor (candidates : RouteCandidates) (now : Nat) (hits : Answer) : Prop :=
  ∃ time id window expires staleUntil, Stored loads candidates hits time ∧
    config.staleIfError = some window ∧
    later time (entryTtl jitterSeed config hits id) = some expires ∧
    later expires window = some staleUntil ∧ now < staleUntil

/-- The entry is what an answer for the candidates became when it was stored. -/
def EntryOk (candidates : RouteCandidates) (entry : Entry) : Prop :=
  ∃ time id, Stored loads candidates entry.hits time ∧
    entryOf jitterSeed config entry.hits time id = some entry

/-- What a lookup that returned `hits` may have got them from. -/
def Warranted (lookup : Lookup) (path : LookupPath) (hits : Answer) : Prop :=
  match path with
  | .fresh => FreshFor config jitterSeed loads lookup.candidates lookup.started hits
  | .shed => StaleFor config jitterSeed loads lookup.candidates lookup.started hits
  | .joined channel =>
    ∃ load, loads[channel]? = some load ∧ load.candidates = lookup.candidates ∧
      ((load.value = some (.ok hits) ∧ hits.load = channel ∧ load.answered = some hits.hits) ∨
        (∃ error, CacheSystem.received load = some (.error error)) ∧
          StaleFor config jitterSeed loads lookup.candidates lookup.started hits)

/-- What a lookup waits for is a load for its candidates, and what it returned
is warranted. -/
def LookupOk (lookup : Lookup) : Prop :=
  match lookup.phase with
  | .begun | .cancelled => True
  | .waiting channel stale =>
    (∃ load, loads[channel]? = some load ∧ load.candidates = lookup.candidates) ∧
      ∀ hits, stale = some hits →
        StaleFor config jitterSeed loads lookup.candidates lookup.started hits
  | .returned path result =>
    ∀ hits, result = .ok hits → Warranted config jitterSeed loads lookup path hits

end provenance

section evolution

variable {config : CacheConfig} {jitterSeed : Nat → UInt64} {loads loads' : List Load}
  {candidates : RouteCandidates} {now : Nat} {hits : Answer}

theorem Stored.mono {time : Nat} (hext : Evolves Load.Extends loads loads')
    (h : Stored loads candidates hits time) : Stored loads' candidates hits time := by
  obtain ⟨load, hload, hcandidates, hanswered, hstored⟩ := h
  obtain ⟨load', hload', hle⟩ := hext _ load hload
  exact ⟨load', hload', hle.candidates.trans hcandidates, hle.answered _ hanswered,
    hle.storedAt _ hstored⟩

theorem StaleFor.mono (hext : Evolves Load.Extends loads loads')
    (h : StaleFor config jitterSeed loads candidates now hits) :
    StaleFor config jitterSeed loads' candidates now hits := by
  obtain ⟨time, id, window, expires, staleUntil, hstored, hrest⟩ := h
  exact ⟨time, id, window, expires, staleUntil, hstored.mono hext, hrest⟩

theorem EntryOk.mono {entry : Entry} (hext : Evolves Load.Extends loads loads')
    (h : EntryOk config jitterSeed loads candidates entry) :
    EntryOk config jitterSeed loads' candidates entry := by
  obtain ⟨time, id, hstored, heq⟩ := h
  exact ⟨time, id, hstored.mono hext, heq⟩

theorem Warranted.mono {lookup : Lookup} {path : LookupPath}
    (hext : Evolves Load.Extends loads loads')
    (h : Warranted config jitterSeed loads lookup path hits) :
    Warranted config jitterSeed loads' lookup path hits := by
  cases path with
  | fresh =>
    obtain ⟨time, id, expires, hstored, hrest⟩ := h
    exact ⟨time, id, expires, hstored.mono hext, hrest⟩
  | shed => exact StaleFor.mono hext h
  | joined channel =>
    obtain ⟨load, hload, hcandidates, h⟩ := h
    obtain ⟨load', hload', hle⟩ := hext _ load hload
    refine ⟨load', hload', hle.candidates.trans hcandidates, ?_⟩
    rcases h with ⟨hvalue, hproducer, hanswered⟩ | ⟨⟨error, hvalue⟩, hstale⟩
    · exact .inl ⟨hle.value _ hvalue, hproducer, hle.answered _ hanswered⟩
    · exact .inr ⟨⟨error, hle.received _ hvalue⟩, hstale.mono hext⟩

theorem LookupOk.mono {lookup : Lookup} (hext : Evolves Load.Extends loads loads')
    (h : LookupOk config jitterSeed loads lookup) : LookupOk config jitterSeed loads' lookup := by
  obtain ⟨candidates, started, phase⟩ := lookup
  cases phase with
  | begun => exact trivial
  | waiting channel stale =>
    obtain ⟨⟨load, hload, hcandidates⟩, hstale⟩ := h
    obtain ⟨load', hload', hle⟩ := hext _ load hload
    exact ⟨⟨load', hload', hle.candidates.trans hcandidates⟩,
      fun hits heq => (hstale hits heq).mono hext⟩
  | returned path result => exact fun hits heq => (h hits heq).mono hext
  | cancelled => exact trivial

/-- Whatever way hits come, a load for the candidates answered them. -/
theorem Warranted.loaded {lookup : Lookup} {path : LookupPath}
    (h : Warranted config jitterSeed loads lookup path hits) :
    ∃ load, loads[hits.load]? = some load ∧ load.candidates = lookup.candidates ∧
      load.answered = some hits.hits := by
  cases path with
  | fresh =>
    obtain ⟨time, id, expires, ⟨load, hload, hcandidates, hanswered, -⟩, -⟩ := h
    exact ⟨load, hload, hcandidates, hanswered⟩
  | shed =>
    obtain ⟨time, id, window, _, _, ⟨load, hload, hcandidates, hanswered, -⟩, -⟩ := h
    exact ⟨load, hload, hcandidates, hanswered⟩
  | joined channel =>
    obtain ⟨load, hload, hcandidates, h⟩ := h
    rcases h with ⟨-, rfl, hanswered⟩ | ⟨-, time, id, window, _, _, hstored, -⟩
    · exact ⟨load, hload, hcandidates, hanswered⟩
    · obtain ⟨load', hload', hcandidates', hanswered, -⟩ := hstored
      exact ⟨load', hload', hcandidates', hanswered⟩

end evolution

-- ---------------------------------------------------------------------------
-- The invariant
-- ---------------------------------------------------------------------------

/-- An in-flight slot is that of an unfinished load for the candidates. -/
def OwnedBy (loads : List Load) (candidates : RouteCandidates) (slot : Inflight) : Prop :=
  ∃ load, loads[slot.result]? = some load ∧ load.candidates = candidates ∧
    load.id = slot.id ∧ load.unfinished = true

/-- What holds in every reachable state of the cache. -/
structure CacheInv (config : CacheConfig) (jitterSeed : Nat → UInt64) (s : CacheSystem) : Prop where
  clock    : s.clock ≤ maxInstant
  seed     : s.cache.jitterSeed = jitterSeed
  indexed  : s.cache.Indexed
  running  : s.cache.runningLoads = s.loads.countP Load.unfinished
  bounded  : s.cache.runningLoads ≤ config.maxInflightLoads
  loads    : ∀ (p : Nat) load, s.loads[p]? = some load → load.Ok p ∧ load.id < s.cache.nextId
  distinct : ∀ (p q : Nat) load load', s.loads[p]? = some load → s.loads[q]? = some load' →
    load.id = load'.id → p = q
  slots    : ∀ c slot, s.cache.inflight.lookup c = some slot → OwnedBy s.loads c slot
  entries  : ∀ c entry, s.cache.entries.lookup c = some entry →
    EntryOk config jitterSeed s.loads c entry
  lookups  : ∀ (l : Nat) lookup, s.lookups[l]? = some lookup →
    LookupOk config jitterSeed s.loads lookup

/-- Ids stay distinct when a load keeps its own. -/
theorem distinct_set {loads : List Load} {p : Nat} {load load' : Load}
    (hload : loads[p]? = some load) (hid : load'.id = load.id)
    (h : ∀ (p q : Nat) load load', loads[p]? = some load → loads[q]? = some load' →
      load.id = load'.id → p = q) :
    ∀ (q r : Nat) x y, (loads.set p load')[q]? = some x → (loads.set p load')[r]? = some y →
      x.id = y.id → q = r := by
  -- every load has the id of the one it replaces
  have hold : ∀ (q : Nat) x, (loads.set p load')[q]? = some x →
      ∃ y, loads[q]? = some y ∧ y.id = x.id := by
    intro q x hq
    rcases lookup_set_cases hload hq with ⟨rfl, rfl⟩ | ⟨-, hbefore⟩
    · exact ⟨load, hload, hid.symm⟩
    · exact ⟨x, hbefore, rfl⟩
  intro q r x y hq hr hxy
  obtain ⟨x', hx', hxid⟩ := hold q x hq
  obtain ⟨y', hy', hyid⟩ := hold r y hr
  exact h q r x' y' hx' hy' (hxid.trans (hxy.trans hyid.symm))

namespace CacheInv

variable {config : CacheConfig} {jitterSeed : Nat → UInt64} {s : CacheSystem}

theorem start (config : CacheConfig) (jitterSeed : Nat → UInt64) :
    CacheInv config jitterSeed (.start jitterSeed) where
  clock := Nat.zero_le _
  seed := rfl
  indexed := by
    intro key c
    simp [CacheSystem.start, CacheState.new, RouteIndex.get]
  running := rfl
  bounded := Nat.zero_le _
  loads _ _ h := absurd h (by simp [CacheSystem.start])
  distinct _ _ _ _ h := absurd h (by simp [CacheSystem.start])
  slots _ _ h := absurd h (by simp [CacheSystem.start, CacheState.new])
  entries _ _ h := absurd h (by simp [CacheSystem.start, CacheState.new])
  lookups _ _ h := absurd h (by simp [CacheSystem.start])

/-- The invariant says nothing about the metrics. -/
theorem record (inv : CacheInv config jitterSeed s) (events : List CacheEvent) :
    CacheInv config jitterSeed (s.record events) :=
  ⟨inv.clock, inv.seed, inv.indexed, inv.running, inv.bounded, inv.loads, inv.distinct,
    inv.slots, inv.entries, inv.lookups⟩

/-- Time passes. -/
theorem tick (inv : CacheInv config jitterSeed s) {duration : Nat}
    (h : s.clock + duration ≤ maxInstant) :
    CacheInv config jitterSeed { s with clock := s.clock + duration } :=
  ⟨h, inv.seed, inv.indexed, inv.running, inv.bounded, inv.loads, inv.distinct,
    inv.slots, inv.entries, inv.lookups⟩

/-- A call begins. -/
theorem begin (inv : CacheInv config jitterSeed s) (candidates : RouteCandidates) :
    CacheInv config jitterSeed
      { s with lookups := s.lookups ++ [⟨candidates, s.clock, .begun⟩] } := by
  refine ⟨inv.clock, inv.seed, inv.indexed, inv.running, inv.bounded, inv.loads, inv.distinct,
    inv.slots, inv.entries, ?_⟩
  intro l lookup hl
  rcases lookup_append_cases hl with ⟨-, rfl⟩ | hold
  · exact trivial
  · exact inv.lookups l lookup hold

/-- A lookup takes its next phase. -/
theorem setPhase (inv : CacheInv config jitterSeed s) {l : Nat} {lookup : Lookup}
    {phase : LookupPhase} (hlookup : s.lookups[l]? = some lookup)
    (hok : LookupOk config jitterSeed s.loads { lookup with phase := phase }) :
    CacheInv config jitterSeed (s.setPhase l lookup phase) := by
  refine ⟨inv.clock, inv.seed, inv.indexed, inv.running, inv.bounded, inv.loads, inv.distinct,
    inv.slots, inv.entries, ?_⟩
  intro l' lookup' hl'
  rcases lookup_set_cases hlookup hl' with ⟨-, rfl⟩ | ⟨-, hold⟩
  · exact hok
  · exact inv.lookups l' lookup' hold

/-- A cached entry was stored, with the instants that `later` gave it. -/
theorem entry_ok (inv : CacheInv config jitterSeed s) {c : RouteCandidates} {entry : Entry}
    (h : s.cache.entries.lookup c = some entry) :
    ∃ time id, Stored s.loads c entry.hits time ∧
      later time (entryTtl jitterSeed config entry.hits id) = some entry.expires ∧
      later entry.expires (config.staleIfError.getD 0) = some entry.staleUntil := by
  obtain ⟨time, id, hstored, hentry⟩ := inv.entries c entry h
  obtain ⟨hexpires, hstale, -, -⟩ := CacheState.entryOf_eq_some_iff.mp hentry
  exact ⟨time, id, hstored, hexpires, hstale⟩

-- ---------------------------------------------------------------------------
-- What a lookup finds
-- ---------------------------------------------------------------------------

/-- A stale copy comes from an entry whose stale window is open. -/
theorem stale (inv : CacheInv config jitterSeed s) {c : RouteCandidates} {now : Nat}
    {hits : Answer} (hexpired : (s.cache.entries.lookup c).filter
      (fun entry => decide (now < entry.expires)) = none)
    (h : ((s.cache.entries.lookup c).filter fun entry =>
      decide (now < entry.staleUntil)).map Entry.hits = some hits) :
    StaleFor config jitterSeed s.loads c now hits := by
  obtain ⟨entry, hentry, rfl⟩ := Option.map_eq_some_iff.mp h
  obtain ⟨hentry, hnow⟩ := Option.filter_eq_some_iff.mp hentry
  obtain ⟨time, id, hstored, hexpires, hstale⟩ := inv.entry_ok hentry
  rw [hentry] at hexpired
  have hold : entry.expires ≤ now := by simpa [Option.filter] using hexpired
  have hopen : now < entry.staleUntil := of_decide_eq_true hnow
  cases hwindow : config.staleIfError with
  | none =>
    -- without a window the entry is dead as soon as it expires
    rw [hwindow, Option.getD_none, later_zero (later_le hexpires)] at hstale
    injection hstale with hstale
    omega
  | some window =>
    rw [hwindow, Option.getD_some] at hstale
    exact ⟨time, id, window, _, _, hstored, hwindow, hexpires, hstale, hopen⟩

/-- All that `find` can find. -/
theorem find_cases (inv : CacheInv config jitterSeed s) (now : Nat) (c : RouteCandidates) :
    match s.cache.find config now c with
    | .fresh hits => FreshFor config jitterSeed s.loads c now hits
    | .coalesced channel stale =>
      (∃ load, s.loads[channel]? = some load ∧ load.candidates = c) ∧
        ∀ hits, stale = some hits → StaleFor config jitterSeed s.loads c now hits
    | .saturated stale => ∀ hits, stale = some hits → StaleFor config jitterSeed s.loads c now hits
    | .miss stale =>
      s.cache.inflight.lookup c = none ∧ s.cache.runningLoads < config.maxInflightLoads ∧
        ∀ hits, stale = some hits → StaleFor config jitterSeed s.loads c now hits := by
  unfold CacheState.find
  dsimp only
  cases hfresh : (s.cache.entries.lookup c).filter fun entry => decide (now < entry.expires) with
  | some entry =>
    obtain ⟨hentry, hnow⟩ := Option.filter_eq_some_iff.mp hfresh
    obtain ⟨time, id, hstored, hexpires, -⟩ := inv.entry_ok hentry
    exact ⟨time, id, _, hstored, hexpires, of_decide_eq_true hnow⟩
  | none =>
    dsimp only
    cases hslot : s.cache.inflight.lookup c with
    | some slot =>
      obtain ⟨load, hload, hcandidates, -, -⟩ := inv.slots c slot hslot
      exact ⟨⟨load, hload, hcandidates⟩, fun hits h => inv.stale hfresh h⟩
    | none =>
      dsimp only
      split_ifs with hfull
      · exact fun hits h => inv.stale hfresh h
      · exact ⟨rfl, Nat.lt_of_not_le hfull, fun hits h => inv.stale hfresh h⟩

-- ---------------------------------------------------------------------------
-- Starting a load
-- ---------------------------------------------------------------------------

/-- The section of a miss: a slot, an id and a task of its own. -/
theorem startLoad (inv : CacheInv config jitterSeed s) {c : RouteCandidates}
    (hroom : s.cache.runningLoads < config.maxInflightLoads) :
    CacheInv config jitterSeed { s with
      cache := (s.cache.startLoad c s.loads.length).2
      loads := s.loads ++ [Load.spawn c s.cache.nextId] } := by
  have hext : Evolves Load.Extends s.loads (s.loads ++ [Load.spawn c s.cache.nextId]) :=
    .append Load.Extends.refl _ _
  refine ⟨inv.clock, inv.seed, inv.indexed, ?_, hroom, ?_, ?_, ?_, ?_, ?_⟩
  · show s.cache.runningLoads + 1 = _
    rw [inv.running, List.countP_append]
    rfl
  · intro p load hp
    rcases lookup_append_cases hp with ⟨-, rfl⟩ | hold
    · exact ⟨⟨rfl, rfl, rfl, rfl, rfl, rfl⟩, Nat.lt_succ_self _⟩
    · obtain ⟨hok, hid⟩ := inv.loads p load hold
      exact ⟨hok, Nat.lt_succ_of_lt hid⟩
  · -- the new id is above all others
    have hnew : ∀ (p : Nat) load, s.loads[p]? = some load → load.id ≠ s.cache.nextId :=
      fun p load hp => Nat.ne_of_lt (inv.loads p load hp).2
    intro p q load load' hp hq hid
    rw [lookup_append] at hp hq
    split_ifs at hp hq with hpl hql hql
    · rw [hpl, hql]
    · injection hp with hp
      exact absurd (hid ▸ hp ▸ rfl) (hnew q load' hq)
    · injection hq with hq
      exact absurd (hid.trans (hq ▸ rfl)) (hnew p load hp)
    · exact inv.distinct p q load load' hp hq hid
  · intro c' slot hslot
    rw [CacheState.startLoad, Map.lookup_insert] at hslot
    split_ifs at hslot with hc
    · injection hslot with hslot
      rw [← hslot, hc]
      exact ⟨_, List.getElem?_concat_length, rfl, rfl, rfl⟩
    · obtain ⟨load, hload, hrest⟩ := inv.slots c' slot hslot
      exact ⟨load, (List.getElem?_append_left (lt_length hload)).trans hload, hrest⟩
  · exact fun c entry h => (inv.entries c entry h).mono hext
  · exact fun l lookup h => (inv.lookups l lookup h).mono hext

-- ---------------------------------------------------------------------------
-- Load tasks
-- ---------------------------------------------------------------------------

/-- A load moves on outside the lock. -/
theorem task (inv : CacheInv config jitterSeed s) {p : Nat} {event : TaskEvent} {load load' : Load}
    (hload : s.loads[p]? = some load) (h : load.advance config s.clock p event = some load') :
    CacheInv config jitterSeed { s with loads := s.loads.set p load' } := by
  obtain ⟨hok, hlt⟩ := inv.loads p load hload
  obtain ⟨hok', hle, hunf⟩ := Load.advance_spec hok h
  have hext : Evolves Load.Extends s.loads (s.loads.set p load') :=
    .set Load.Extends.refl hload hle
  refine ⟨inv.clock, inv.seed, inv.indexed, ?_, inv.bounded, ?_, ?_, ?_, ?_, ?_⟩
  · have hcount := countP_set Load.unfinished hload load'
    rw [hunf] at hcount
    exact inv.running.trans (Nat.add_right_cancel hcount).symm
  · intro q load'' hq
    rcases lookup_set_cases hload hq with ⟨rfl, rfl⟩ | ⟨-, hold⟩
    · exact ⟨hok', hle.id ▸ hlt⟩
    · exact inv.loads q load'' hold
  · exact distinct_set hload hle.id inv.distinct
  · intro c slot hslot
    obtain ⟨owner, howner, hcandidates, hid, hunfinished⟩ := inv.slots c slot hslot
    by_cases hp : slot.result = p
    · rw [hp, hload] at howner
      injection howner with howner
      subst howner
      refine ⟨load', ?_, hle.candidates.trans hcandidates, hle.id.trans hid, hunf.trans hunfinished⟩
      rw [lookup_set hload, if_pos hp]
    · refine ⟨owner, ?_, hcandidates, hid, hunfinished⟩
      rw [lookup_set hload, if_neg hp, howner]
  · exact fun c entry h => (inv.entries c entry h).mono hext
  · exact fun l lookup h => (inv.lookups l lookup h).mono hext

/-- A load owns the slot of its candidates exactly if the slot is its own. -/
theorem ownsSlot_iff (inv : CacheInv config jitterSeed s) {p : Nat} {load : Load}
    (hload : s.loads[p]? = some load) :
    s.cache.ownsSlot load.candidates load.id = true ↔
      ∃ c slot, s.cache.inflight.lookup c = some slot ∧ slot.result = p := by
  unfold CacheState.ownsSlot
  rw [Option.any_eq_true]
  constructor
  · intro h
    obtain ⟨slot, hslot, hid⟩ := h
    obtain ⟨owner, howner, -, hid', -⟩ := inv.slots _ slot hslot
    exact ⟨_, slot, hslot, inv.distinct _ _ owner load howner hload (hid'.trans (eq_of_beq hid))⟩
  · intro h
    obtain ⟨c, slot, hslot, hp⟩ := h
    obtain ⟨owner, howner, hcandidates, hid, -⟩ := inv.slots c slot hslot
    rw [hp, hload] at howner
    injection howner with howner
    subst howner
    rw [← hcandidates] at hslot
    exact ⟨slot, hslot, beq_iff_eq.mpr hid.symm⟩

/-- After its locked section no slot is left to a load. -/
theorem slots_release (inv : CacheInv config jitterSeed s) {p : Nat} {load : Load}
    (hload : s.loads[p]? = some load) {c : RouteCandidates} {slot : Inflight}
    (h : (s.cache.release load.candidates load.id).inflight.lookup c = some slot) :
    s.cache.inflight.lookup c = some slot ∧ slot.result ≠ p := by
  rw [CacheState.lookup_release] at h
  split_ifs at h with howned
  refine ⟨h, ?_⟩
  intro hp
  obtain ⟨owner, howner, hcandidates, -, -⟩ := inv.slots c slot h
  rw [hp, hload] at howner
  injection howner with howner
  subst howner
  exact howned ⟨(inv.ownsSlot_iff hload).mpr ⟨c, slot, h, hp⟩, hcandidates.symm⟩

/-- The load after its locked section, which may have panicked. -/
theorem finished_ok {p : Nat} {load load' : Load} {result : LoadResult} {dropping panics : Bool}
    {storedAt : Option Nat} (hok : load.Ok p) (htask : load.task = .finishing result dropping)
    (h : load' = { load with
      task := if panics then .unwinding else .finished result dropping
      storedAt := storedAt
      decrements := load.decrements + 1 }) :
    load'.Ok p ∧ Load.Extends load load' ∧ load.unfinished = true ∧ load'.unfinished = false ∧
      load.Produced p result := by
  have hunf : load.unfinished = true := by rw [Load.unfinished, htask]
  have hsilent := (hok.silent hunf).2.2
  unfold Load.Ok at hok
  rw [htask] at hok
  obtain ⟨hsender, hvalue, hstored, hdec, hsends, hproduced⟩ := hok
  have hdec' : load.decrements + 1 = 1 := congrArg (· + 1) hdec
  rw [h]
  refine ⟨?_, .of_silent hsilent rfl rfl (fun _ h => h) ?_, hunf, ?_, hproduced⟩
  · cases panics with
    | false => exact ⟨hsender, hvalue, hdec', hsends, hproduced⟩
    | true => exact ⟨hsender, hvalue, hdec', hsends⟩
  · exact fun time h' => absurd h' (by simp [hstored])
  · cases panics with
    | false => rfl
    | true => rfl

/-- The locked section of `finish`. -/
theorem finishSection (inv : CacheInv config jitterSeed s) {p : Nat} {load : Load}
    {result : LoadResult} {dropping : Bool} (hload : s.loads[p]? = some load)
    (htask : load.task = .finishing result dropping) :
    CacheInv config jitterSeed (s.finishSection config p load result dropping) := by
  obtain ⟨hok, hlt⟩ := inv.loads p load hload
  obtain ⟨load', hload'⟩ : ∃ load', load' = { load with
      task := if s.cache.finishPanics config s.clock load.candidates load.id result then .unwinding
        else .finished result dropping
      storedAt := if !s.cache.finishPanics config s.clock load.candidates load.id result &&
        s.cache.ownsSlot load.candidates load.id && result.isOk &&
        config.maxEntries != 0 then some s.clock else load.storedAt
      decrements := load.decrements + 1 } := ⟨_, rfl⟩
  obtain ⟨hok', hle, hunf, hunf', hproduced⟩ :=
    finished_ok hok htask hload'
  have hset : (s.finishSection config p load result dropping).loads = s.loads.set p load' := by
    rw [hload']
    rfl
  have hext : Evolves Load.Extends s.loads (s.finishSection config p load result dropping).loads :=
    hset ▸ .set Load.Extends.refl hload hle
  obtain ⟨hinflight, hrunning, hnext, hseed, hindexed⟩ :=
    s.cache.finishLoad_inflight config s.clock load.candidates load.id result
  have hcount := countP_set Load.unfinished hload load'
  rw [hunf, hunf', if_pos rfl, if_neg (by simp)] at hcount
  have hnum := inv.running
  have hmax := inv.bounded
  refine ⟨inv.clock, hseed.trans inv.seed, hindexed inv.indexed, ?_, ?_, ?_, ?_, ?_, ?_, ?_⟩
  · rw [hset]
    show (s.cache.finishLoad config s.clock load.candidates load.id result).runningLoads = _
    omega
  · show (s.cache.finishLoad config s.clock load.candidates load.id result).runningLoads ≤ _
    omega
  · intro q load'' hq
    rw [hset] at hq
    rcases lookup_set_cases hload hq with ⟨rfl, rfl⟩ | ⟨-, hold⟩
    · exact ⟨hok', hle.id ▸ Nat.lt_of_lt_of_le hlt hnext⟩
    · obtain ⟨hok'', hlt'⟩ := inv.loads q load'' hold
      exact ⟨hok'', Nat.lt_of_lt_of_le hlt' hnext⟩
  · rw [hset]
    exact distinct_set hload hle.id inv.distinct
  · intro c slot hslot
    rw [hset]
    rw [show (s.finishSection config p load result dropping).cache.inflight = _ from hinflight]
      at hslot
    obtain ⟨hslot, hne⟩ := inv.slots_release hload hslot
    obtain ⟨owner, howner, hrest⟩ := inv.slots c slot hslot
    refine ⟨owner, ?_, hrest⟩
    rw [lookup_set hload, if_neg hne, howner]
  · intro c entry hentry
    rcases CacheState.lookup_finishLoad hentry with hentry | ⟨hc, howns, hmax, hits, rfl, hstored⟩
    · exact (inv.entries c entry hentry).mono hext
    · -- the answer goes in with the time of this very section
      obtain ⟨hp, hanswered⟩ := hproduced hits rfl
      obtain ⟨-, -, hhits, -⟩ := CacheState.entryOf_eq_some_iff.mp hstored
      refine ⟨s.clock, s.cache.nextId, ⟨load', ?_, ?_, ?_, ?_⟩, ?_⟩
      · rw [hset, hhits, hp, lookup_set hload, if_pos rfl]
      · exact hle.candidates.trans hc.symm
      · rw [hhits]
        exact hle.answered _ hanswered
      · rw [hload']
        refine if_pos ?_
        simp [CacheState.finishPanics_of_entry hstored, howns, hmax, Except.isOk, Except.toBool]
      · rw [hhits, ← inv.seed]
        exact hstored
  · exact fun l lookup h => (inv.lookups l lookup h).mono hext

-- ---------------------------------------------------------------------------
-- Invalidation
-- ---------------------------------------------------------------------------

/-- Dropping entries and slots keeps the invariant. -/
theorem drop (inv : CacheInv config jitterSeed s) {cache : CacheState}
    (hindexed : cache.Indexed) (hnext : cache.nextId = s.cache.nextId)
    (hrunning : cache.runningLoads = s.cache.runningLoads)
    (hseed : cache.jitterSeed = s.cache.jitterSeed)
    (hentries : ∀ c entry, cache.entries.lookup c = some entry →
      s.cache.entries.lookup c = some entry)
    (hslots : ∀ c slot, cache.inflight.lookup c = some slot →
      s.cache.inflight.lookup c = some slot) :
    CacheInv config jitterSeed { s with cache := cache } where
  clock := inv.clock
  seed := hseed.trans inv.seed
  indexed := hindexed
  running := hrunning.trans inv.running
  bounded := Nat.le_trans (Nat.le_of_eq hrunning) inv.bounded
  loads p load h := ⟨(inv.loads p load h).1, hnext ▸ (inv.loads p load h).2⟩
  distinct := inv.distinct
  slots c slot h := inv.slots c slot (hslots c slot h)
  entries c entry h := inv.entries c entry (hentries c entry h)
  lookups := inv.lookups

/-- A key is invalidated. -/
theorem invalidate (inv : CacheInv config jitterSeed s) (key : RouteKey) :
    CacheInv config jitterSeed { s with cache := s.cache.invalidate key } := by
  obtain ⟨hnext, hrunning, hseed⟩ := CacheState.invalidate_rest s.cache key
  refine inv.drop (CacheState.invalidate_indexed inv.indexed) hnext hrunning hseed ?_ ?_
  · intro c entry h
    rw [(CacheState.lookup_invalidate inv.indexed c).1] at h
    split_ifs at h
    exact h
  · intro c slot h
    rw [(CacheState.lookup_invalidate inv.indexed c).2] at h
    split_ifs at h
    exact h

/-- The cache is cleared. -/
theorem clear (inv : CacheInv config jitterSeed s) :
    CacheInv config jitterSeed { s with cache := s.cache.clear } := by
  refine inv.drop (CacheState.clear_indexed s.cache) rfl rfl rfl ?_ ?_
  · exact fun c entry h => absurd h (by simp [CacheState.clear])
  · exact fun c slot h => absurd h (by simp [CacheState.clear])

-- ---------------------------------------------------------------------------
-- Runs
-- ---------------------------------------------------------------------------

/-- What an answer on the channel says the load got from the inner lookup. -/
theorem produced_of_received (inv : CacheInv config jitterSeed s) {p : Nat} {load : Load}
    {hits : Answer} (hload : s.loads[p]? = some load)
    (h : CacheSystem.received load = some (.ok hits)) :
    load.value = some (.ok hits) ∧ hits.load = p ∧ load.answered = some hits.hits := by
  rcases Load.received_cases h with hvalue | ⟨-, herror⟩
  · exact ⟨hvalue, Load.produced_of_value (inv.loads p load hload).1 hvalue hits rfl⟩
  · exact absurd herror (by simp)

/-- A waiting lookup returns what came on its channel, or its stale copy. -/
theorem wake (inv : CacheInv config jitterSeed s) {l channel : Nat} {lookup : Lookup}
    {stale : Option Answer} {load : Load} {loaded : LoadResult}
    (hlookup : s.lookups[l]? = some lookup) (hphase : lookup.phase = .waiting channel stale)
    (hload : s.loads[channel]? = some load) (h : CacheSystem.received load = some loaded) :
    LookupOk config jitterSeed s.loads
      { lookup with phase := .returned (.joined channel) (settle loaded stale).1 } := by
  have hwaiting := inv.lookups l lookup hlookup
  unfold LookupOk at hwaiting
  rw [hphase] at hwaiting
  obtain ⟨⟨load', hload', hcandidates⟩, hstale⟩ := hwaiting
  rw [hload] at hload'
  injection hload' with hload'
  subst hload'
  intro hits hsettle
  refine ⟨load, hload, hcandidates, ?_⟩
  cases loaded with
  | ok hits' =>
    injection hsettle with hsettle
    subst hsettle
    exact .inl (inv.produced_of_received hload h)
  | error error =>
    cases stale with
    | none => exact absurd hsettle (by simp [settle])
    | some hits' =>
      injection hsettle with hsettle
      exact .inr ⟨⟨error, h⟩, hstale hits (congrArg some hsettle)⟩

/-- What a lookup returned is warranted by what the loads have done. -/
theorem warranted (inv : CacheInv config jitterSeed s) {l : Nat} {lookup : Lookup}
    {path : LookupPath} {hits : Answer} (hlookup : s.lookups[l]? = some lookup)
    (hphase : lookup.phase = .returned path (.ok hits)) :
    Warranted config jitterSeed s.loads lookup path hits := by
  have hok := inv.lookups l lookup hlookup
  unfold LookupOk at hok
  rw [hphase] at hok
  exact hok hits rfl

/-- Every event keeps the invariant. -/
theorem step (inv : CacheInv config jitterSeed s) {event : CacheStep} {s' : CacheSystem}
    (h : CacheSystem.step config event s = some s') : CacheInv config jitterSeed s' := by
  cases CacheSystem.step_cases h with
  | tick hclock => exact inv.tick hclock
  | begin => exact inv.begin _
  | @fresh l lookup hits hlookup hphase hfound events =>
    have hcases := inv.find_cases lookup.started lookup.candidates
    rw [hfound] at hcases
    refine (inv.setPhase hlookup ?_).record events
    intro hits' heq
    injection heq with heq
    exact heq ▸ hcases
  | @coalesced l lookup channel stale hlookup hphase hfound events =>
    have hcases := inv.find_cases lookup.started lookup.candidates
    rw [hfound] at hcases
    have hok : LookupOk config jitterSeed s.loads
        { lookup with phase := .waiting channel stale } := hcases
    exact (inv.setPhase hlookup hok).record events
  | @saturated l lookup stale hlookup hphase hfound events =>
    have hcases := inv.find_cases lookup.started lookup.candidates
    rw [hfound] at hcases
    refine (inv.setPhase hlookup ?_).record events
    intro hits heq
    cases stale with
    | none => exact absurd heq (by simp [shed])
    | some stale =>
      injection heq with heq
      exact hcases hits (congrArg some heq)
  | @miss l lookup stale hlookup hphase hfound events =>
    have hcases := inv.find_cases lookup.started lookup.candidates
    rw [hfound] at hcases
    obtain ⟨-, hroom, hstale⟩ := hcases
    have hext : Evolves Load.Extends s.loads
        (s.loads ++ [Load.spawn lookup.candidates s.cache.nextId]) :=
      .append Load.Extends.refl _ _
    have hok : LookupOk config jitterSeed (s.loads ++ [Load.spawn lookup.candidates s.cache.nextId])
        { lookup with phase := .waiting s.loads.length stale } :=
      ⟨⟨_, List.getElem?_concat_length, rfl⟩, fun hits heq => (hstale hits heq).mono hext⟩
    exact ((inv.startLoad hroom).setPhase hlookup hok).record events
  | wake hlookup hphase hload hreceived events =>
    exact (inv.setPhase hlookup (inv.wake hlookup hphase hload hreceived)).record events
  | cancel hlookup hphase => exact inv.setPhase hlookup trivial
  | task hload hadvance events => exact (inv.task hload hadvance).record events
  | finish hload htask => exact inv.finishSection hload htask
  | invalidate => exact inv.invalidate _
  | clear => exact inv.clear

end CacheInv

/-- Every state the cache can be in satisfies the invariant. -/
theorem cacheMachine_inv {config : CacheConfig} {jitterSeed : Nat → UInt64} {s : CacheSystem}
    (h : (cacheMachine config jitterSeed).Reachable s) : CacheInv config jitterSeed s :=
  h.invariant (fun hinit => hinit ▸ .start config jitterSeed) fun inv hstep => inv.step hstep

end SniRouter
