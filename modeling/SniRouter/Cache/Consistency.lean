import SniRouter.Cache.Provenance

/-!
# SniRouter — the consistency window

The cache promises that a changed route becomes visible within `ttl`, a new one
within `negative_ttl`. An entry expires that long after its answer was *stored*,
though, and the store was read before that: an answer read before the store
changed and stored after it outlives the window by the time in between. Loads
that end early enough keep the promise.

* `ReadsStore` — inner lookups answer from a store that changes over time.
* `EndsInTime` — a load that got the old answer ends before it can outlive the
  window.
* `Windowed` — the invariant: what got the old answer is out of reach of every
  lookup after the window.
* `consistency_window` — runs whose loads end in time keep the promise.
* `window_exceeded` — others need not.
-/

namespace SniRouter

open Table

-- ---------------------------------------------------------------------------
-- The store
-- ---------------------------------------------------------------------------

/-- An inner lookup answers from what the store holds at some instant between
its start and its completion. -/
def ReadsStore (store : Nat → RouteCandidates → RouteHits) (event : CacheStep) (s : CacheSystem) :
    Prop :=
  match event with
  | .task p (.answer (.ok hits)) => ∀ load ∈ s.loads[p]?, ∃ read ≤ s.clock,
      load.startedAt ≤ read ∧ hits = store read load.candidates
  | _ => True

instance (store : Nat → RouteCandidates → RouteHits) (event : CacheStep) (s : CacheSystem) :
    Decidable (ReadsStore store event s) :=
  match event with
  | .task p (.answer (.ok hits)) => inferInstanceAs (Decidable (∀ load ∈ s.loads[p]?,
      ∃ read ≤ s.clock, load.startedAt ≤ read ∧ hits = store read load.candidates))
  | .task _ (.answer (.error _)) | .task _ .poll | .task _ .timeout | .task _ .panic
  | .task _ .drop | .task _ .send | .task _ .unwind | .tick _ | .begin _ | .locked _ | .wake _
  | .cancel _ | .finish _ | .invalidate _ | .clear => .isTrue trivial

/-- The documented window of an answer that is out of date. -/
def window (config : CacheConfig) (old : RouteHits) : Nat :=
  if old.isEmpty then config.negativeTtl else config.ttl

/-- How long an answer is kept when there is no jitter: a TTL goes through a
double and back. -/
def keptFor (config : CacheConfig) (hits : RouteHits) : Nat :=
  if hits.isEmpty then config.negativeTtl
  else (tryFromSecsF64 (asSecsF64 config.ttl)).getD config.ttl

/-- The lookup waits for the load, or got its answer from it. -/
def LookupPhase.Awaits (phase : LookupPhase) (channel : Nat) : Prop :=
  match phase with
  | .waiting channel' _ => channel' = channel
  | .returned (.joined channel') _ => channel' = channel
  | _ => False

instance (phase : LookupPhase) (channel : Nat) : Decidable (phase.Awaits channel) :=
  match phase with
  | .waiting channel' _ => inferInstanceAs (Decidable (channel' = channel))
  | .returned (.joined channel') _ => inferInstanceAs (Decidable (channel' = channel))
  | .begun | .cancelled | .returned .fresh _ | .returned .shed _ => .isFalse id

/-- A load that got the old answer of the candidates, and began before the
store changed at `change`, ends early enough: if it stores the answer, the entry
expires within the window, and no lookup that began after the window waits for
it. -/
def EndsInTime (config : CacheConfig) (c : RouteCandidates) (old : RouteHits) (change : Nat)
    (event : CacheStep) (s : CacheSystem) : Prop :=
  match event with
  | .finish p => ∀ load ∈ s.loads[p]?, load.candidates = c → load.answered = some old →
      load.startedAt < change →
      (s.cache.ownsSlot load.candidates load.id = true → config.maxEntries ≠ 0 →
        s.clock + keptFor config old ≤ change + window config old) ∧
        ∀ lookup ∈ s.lookups, lookup.phase.Awaits p →
          lookup.started < change + window config old
  | _ => True

instance (config : CacheConfig) (c : RouteCandidates) (old : RouteHits) (change : Nat)
    (event : CacheStep) (s : CacheSystem) : Decidable (EndsInTime config c old change event s) :=
  match event with
  | .finish p => inferInstanceAs (Decidable (∀ load ∈ s.loads[p]?, load.candidates = c →
      load.answered = some old → load.startedAt < change →
      (s.cache.ownsSlot load.candidates load.id = true → config.maxEntries ≠ 0 →
        s.clock + keptFor config old ≤ change + window config old) ∧
        ∀ lookup ∈ s.lookups, lookup.phase.Awaits p →
          lookup.started < change + window config old))
  | .tick _ | .begin _ | .locked _ | .wake _ | .cancel _ | .task _ _ | .invalidate _ | .clear =>
    .isTrue trivial

-- ---------------------------------------------------------------------------
-- Without jitter
-- ---------------------------------------------------------------------------

/-- Without jitter every answer is kept equally long. -/
theorem entryTtl_plain {config : CacheConfig} (hjitter : config.jitter = .finite 0)
    (jitterSeed : Nat → UInt64) (hits : Answer) (id : Nat) :
    entryTtl jitterSeed config hits id = keptFor config hits.hits := by
  unfold entryTtl keptFor
  split_ifs with hempty
  · rfl
  · have hclamp : config.jitter.clampUnit = some 0 := by
      rw [hjitter]
      decide +kernel
    unfold jittered
    rw [hclamp]
    dsimp only
    rw [Binary64.zero_mul, Binary64.add_zero, Binary64.mul_one]

-- ---------------------------------------------------------------------------
-- What a load task remembers
-- ---------------------------------------------------------------------------

/-- Outside its section a load task stores nothing. It comes to an answer only
while the inner lookup is under way, and to a starting time before that. -/
theorem Load.advance_ghosts {config : CacheConfig} {now p : Nat} {event : TaskEvent}
    {load load' : Load} (hok : load.Ok p) (h : load.advance config now p event = some load') :
    load'.storedAt = load.storedAt ∧
      ((load'.answered = load.answered ∧
          (load.answered = none ∨ load'.startedAt = load.startedAt)) ∨
        ∃ hits, event = .answer (.ok hits) ∧ load'.answered = some hits ∧
          load'.startedAt = load.startedAt ∧ load.unfinished = true) := by
  unfold advance at h
  split at h
  · next htask =>
    -- polled for the first time
    injection h with h
    unfold Load.Ok at hok
    rw [htask] at hok
    rw [← h]
    exact ⟨rfl, .inl ⟨rfl, .inl hok.2.2.1⟩⟩
  · next hits htask =>
    injection h with h
    obtain ⟨-, -, hstored, hanswered, hstarted⟩ :=
      Load.finish_fields { load with answered := some hits } (.ok ⟨hits, p⟩) false
    have hunfinished : load.unfinished = true := by
      unfold unfinished
      rw [htask]
    rw [← h]
    exact ⟨hstored, .inr ⟨hits, rfl, hanswered, hstarted, hunfinished⟩⟩
  · next error htask =>
    injection h with h
    obtain ⟨-, -, hstored, hanswered, hstarted⟩ := load.finish_fields (.error error) false
    rw [← h]
    exact ⟨hstored, .inl ⟨hanswered, .inr hstarted⟩⟩
  · next htask =>
    split_ifs at h
    injection h with h
    obtain ⟨-, -, hstored, hanswered, hstarted⟩ := load.finish_fields (.error loadTimedOut) false
    rw [← h]
    exact ⟨hstored, .inl ⟨hanswered, .inr hstarted⟩⟩
  -- the guard is dropped, by a panic, with the task or after `complete`
  iterate 4
    · next htask =>
      injection h with h
      obtain ⟨-, -, hstored, hanswered, hstarted⟩ := load.finish_fields (.error loadAborted) true
      rw [← h]
      exact ⟨hstored, .inl ⟨hanswered, .inr hstarted⟩⟩
  -- a result goes out, or the stack unwinds
  iterate 2
    · next htask =>
      injection h with h
      rw [← h]
      exact ⟨rfl, .inl ⟨rfl, .inr rfl⟩⟩
  · exact absurd h (by simp)

-- ---------------------------------------------------------------------------
-- The invariant
-- ---------------------------------------------------------------------------

/-- What got the old answer began before the change, expires within the window,
and is no load that a lookup after the window waited for to its end. -/
structure Windowed (config : CacheConfig) (c : RouteCandidates) (old : RouteHits) (change : Nat)
    (s : CacheSystem) : Prop where
  early  : ∀ (p : Nat) load, s.loads[p]? = some load → load.candidates = c →
    load.answered = some old → load.startedAt < change
  kept   : ∀ (p : Nat) load time, s.loads[p]? = some load → load.candidates = c →
    load.answered = some old → load.storedAt = some time →
    time + keptFor config old ≤ change + window config old
  joined : ∀ (l : Nat) lookup channel load, s.lookups[l]? = some lookup →
    change + window config old ≤ lookup.started → lookup.phase.Awaits channel →
    s.loads[channel]? = some load → load.candidates = c → load.answered = some old →
    load.unfinished = true

namespace Windowed

variable {config : CacheConfig} {jitterSeed : Nat → UInt64} {c : RouteCandidates}
  {old : RouteHits} {change : Nat} {s s' : CacheSystem}

theorem start (config : CacheConfig) (jitterSeed : Nat → UInt64) (c : RouteCandidates)
    (old : RouteHits) (change : Nat) : Windowed config c old change (.start jitterSeed) where
  early p load hload := absurd hload (by simp [CacheSystem.start])
  kept p load time hload := absurd hload (by simp [CacheSystem.start])
  joined l lookup channel load hlookup := absurd hlookup (by simp [CacheSystem.start])

/-- Metrics are no part of it. -/
theorem record (h : Windowed config c old change s) (events : List CacheEvent) :
    Windowed config c old change (s.record events) :=
  ⟨h.early, h.kept, h.joined⟩

/-- A call changes its phase without going beyond the window. -/
theorem setPhase (h : Windowed config c old change s) {l : Nat} {lookup : Lookup}
    (hlookup : s.lookups[l]? = some lookup) {phase : LookupPhase}
    (hphase : change + window config old ≤ lookup.started → ∀ channel load,
      phase.Awaits channel → s.loads[channel]? = some load → load.candidates = c →
      load.answered = some old → load.unfinished = true) :
    Windowed config c old change (s.setPhase l lookup phase) := by
  refine ⟨h.early, h.kept, ?_⟩
  intro l' lookup' channel load hlookup' hlate hawaits hload
  rcases lookup_set_cases hlookup hlookup' with ⟨-, rfl⟩ | ⟨-, hold⟩
  · exact hphase hlate channel load hawaits hload
  · exact h.joined l' lookup' channel load hold hlate hawaits hload

/-- A slot is that of a load that has not ended. -/
theorem coalesced_unfinished (inv : CacheInv config jitterSeed s) {now channel : Nat}
    {c : RouteCandidates} {stale : Option Answer}
    (h : s.cache.find config now c = .coalesced channel stale) {load : Load}
    (hload : s.loads[channel]? = some load) : load.unfinished = true := by
  unfold CacheState.find at h
  dsimp only at h
  split at h
  · exact absurd h (by simp)
  · split at h
    · next slot hslot =>
      injection h with hchannel
      obtain ⟨owner, howner, -, -, hunfinished⟩ := inv.slots c slot hslot
      rw [hchannel, hload] at howner
      injection howner with howner
      exact howner ▸ hunfinished
    · split_ifs at h

/-- A new load has no answer. -/
theorem spawn (h : Windowed config c old change s) (cache : CacheState)
    (candidates : RouteCandidates) (id : Nat) :
    Windowed config c old change
      { s with cache := cache, loads := s.loads ++ [Load.spawn candidates id] } := by
  have hnew : ∀ {p : Nat} {load : Load}, (s.loads ++ [Load.spawn candidates id])[p]? = some load →
      s.loads[p]? = some load ∨ load.answered = none := by
    intro p load hload
    rcases lookup_append_cases hload with ⟨-, rfl⟩ | hold
    · exact .inr rfl
    · exact .inl hold
  refine ⟨?_, ?_, ?_⟩
  · intro p load hload hcandidates hanswered
    rcases hnew hload with hold | hnone
    · exact h.early p load hold hcandidates hanswered
    · exact absurd (hnone.symm.trans hanswered) (by simp)
  · intro p load time hload hcandidates hanswered hstored
    rcases hnew hload with hold | hnone
    · exact h.kept p load time hold hcandidates hanswered hstored
    · exact absurd (hnone.symm.trans hanswered) (by simp)
  · intro l lookup channel load hlookup hlate hawaits hload hcandidates hanswered
    rcases hnew hload with hold | hnone
    · exact h.joined l lookup channel load hlookup hlate hawaits hold hcandidates hanswered
    · exact absurd (hnone.symm.trans hanswered) (by simp)

/-- A load is replaced by what became of it. -/
theorem setLoad (h : Windowed config c old change s) {p : Nat} {load load' : Load}
    (hload : s.loads[p]? = some load) (cache : CacheState)
    (hearly : load'.candidates = c → load'.answered = some old → load'.startedAt < change)
    (hkept : load'.candidates = c → load'.answered = some old → ∀ time,
      load'.storedAt = some time → time + keptFor config old ≤ change + window config old)
    (hjoined : load'.candidates = c → load'.answered = some old → ∀ (l : Nat) lookup,
      s.lookups[l]? = some lookup → change + window config old ≤ lookup.started →
      lookup.phase.Awaits p → load'.unfinished = true) :
    Windowed config c old change { s with cache := cache, loads := s.loads.set p load' } := by
  refine ⟨?_, ?_, ?_⟩
  · intro q load'' hq hcandidates hanswered
    rcases lookup_set_cases hload hq with ⟨-, rfl⟩ | ⟨-, hold⟩
    · exact hearly hcandidates hanswered
    · exact h.early q load'' hold hcandidates hanswered
  · intro q load'' time hq hcandidates hanswered htime
    rcases lookup_set_cases hload hq with ⟨-, rfl⟩ | ⟨-, hold⟩
    · exact hkept hcandidates hanswered time htime
    · exact h.kept q load'' time hold hcandidates hanswered htime
  · intro l lookup channel load'' hlookup hlate hawaits hq hcandidates hanswered
    rcases lookup_set_cases hload hq with ⟨hchannel, rfl⟩ | ⟨-, hold⟩
    · exact hjoined hcandidates hanswered l lookup hlookup hlate (hchannel ▸ hawaits)
    · exact h.joined l lookup channel load'' hlookup hlate hawaits hold hcandidates hanswered

/-- What a load task does outside its section. -/
theorem task (h : Windowed config c old change s) (inv : CacheInv config jitterSeed s)
    {store : Nat → RouteCandidates → RouteHits}
    (hstore : ∀ time, change ≤ time → store time c ≠ old) {p : Nat} {event : TaskEvent}
    (hreads : ReadsStore store (.task p event) s) {load load' : Load}
    (hload : s.loads[p]? = some load)
    (hadvance : load.advance config s.clock p event = some load') :
    Windowed config c old change { s with loads := s.loads.set p load' } := by
  obtain ⟨hok, -⟩ := inv.loads p load hload
  obtain ⟨-, hext, hunfinished⟩ := Load.advance_spec hok hadvance
  obtain ⟨hstored, hghosts⟩ := Load.advance_ghosts hok hadvance
  refine h.setLoad hload s.cache ?_ ?_ ?_
  · intro hcandidates hanswered
    have hcand : load.candidates = c := hext.candidates.symm.trans hcandidates
    rcases hghosts with ⟨hsame, hstarted⟩ | ⟨hits, rfl, hnew, hstarted, -⟩
    · have hold : load.answered = some old := hsame.symm.trans hanswered
      rcases hstarted with hnone | hstarted
      · exact absurd (hnone.symm.trans hold) (by simp)
      · rw [hstarted]
        exact h.early p load hload hcand hold
    · -- the store held the old answer at some instant since the load began
      obtain ⟨read, -, hread, hhits⟩ := hreads load hload
      have hold : hits = old := Option.some.inj (hnew.symm.trans hanswered)
      have hbefore : read < change := by
        by_contra hafter
        refine hstore read (Nat.not_lt.mp hafter) ?_
        rw [← hcand, ← hhits, hold]
      omega
  · intro hcandidates hanswered time htime
    rw [hstored] at htime
    rcases hghosts with ⟨hsame, -⟩ | ⟨-, -, -, -, hrunning⟩
    · exact h.kept p load time hload (hext.candidates.symm.trans hcandidates)
        (hsame.symm.trans hanswered) htime
    · exact absurd ((hok.silent hrunning).2.1.symm.trans htime) (by simp)
  · intro hcandidates hanswered l lookup hlookup hlate hawaits
    rw [hunfinished]
    rcases hghosts with ⟨hsame, -⟩ | ⟨-, -, -, -, hrunning⟩
    · exact h.joined l lookup p load hlookup hlate hawaits hload
        (hext.candidates.symm.trans hcandidates) (hsame.symm.trans hanswered)
    · exact hrunning

/-- The section of a load that ends in time. -/
theorem finishSection (h : Windowed config c old change s) {p : Nat} {load : Load}
    (hends : EndsInTime config c old change (.finish p) s) (hload : s.loads[p]? = some load)
    (result : LoadResult) (dropping : Bool) :
    Windowed config c old change (s.finishSection config p load result dropping) := by
  have hends : load.candidates = c → load.answered = some old → load.startedAt < change →
      (s.cache.ownsSlot load.candidates load.id = true → config.maxEntries ≠ 0 →
        s.clock + keptFor config old ≤ change + window config old) ∧
        ∀ lookup ∈ s.lookups, lookup.phase.Awaits p →
          lookup.started < change + window config old := hends load hload
  refine h.setLoad hload _ (h.early p load hload) ?_ ?_
  · intro hcandidates hanswered time htime
    dsimp only at hcandidates hanswered htime
    split_ifs at htime with hstores
    · -- the answer is stored now
      injection htime with htime
      simp only [Bool.and_eq_true, bne_iff_ne] at hstores
      rw [← htime]
      exact (hends hcandidates hanswered (h.early p load hload hcandidates hanswered)).1
        hstores.1.1.2 hstores.2
    · exact h.kept p load time hload hcandidates hanswered htime
  · -- no lookup after the window waits for this load
    intro hcandidates hanswered l lookup hlookup hlate hawaits
    have hsoon := (hends hcandidates hanswered (h.early p load hload hcandidates hanswered)).2
      lookup (List.mem_of_getElem? hlookup) hawaits
    omega

theorem step (h : Windowed config c old change s) (inv : CacheInv config jitterSeed s)
    {store : Nat → RouteCandidates → RouteHits}
    (hstore : ∀ time, change ≤ time → store time c ≠ old) {event : CacheStep}
    (hreads : ReadsStore store event s) (hends : EndsInTime config c old change event s)
    (hstep : CacheSystem.step config event s = some s') :
    Windowed config c old change s' := by
  have hnobody : ∀ phase : LookupPhase, (∀ channel, ¬ phase.Awaits channel) →
      ∀ {l : Nat} {lookup : Lookup}, s.lookups[l]? = some lookup →
      Windowed config c old change (s.setPhase l lookup phase) :=
    fun _ hphase _ _ hlookup => h.setPhase hlookup fun _ channel _ hawaits =>
      absurd hawaits (hphase channel)
  cases CacheSystem.step_cases hstep with
  | tick => exact ⟨h.early, h.kept, h.joined⟩
  | @begin candidates =>
    refine ⟨h.early, h.kept, ?_⟩
    intro l lookup channel load hlookup hlate hawaits hload
    rcases lookup_append_cases hlookup with ⟨-, rfl⟩ | hold
    · exact absurd hawaits (by simp [LookupPhase.Awaits])
    · exact h.joined l lookup channel load hold hlate hawaits hload
  | fresh hlookup hphase hfound events =>
    refine (hnobody _ ?_ hlookup).record events
    exact fun _ hawaits => hawaits
  | saturated hlookup hphase hfound events =>
    refine (hnobody _ ?_ hlookup).record events
    exact fun _ hawaits => hawaits
  | cancel hlookup hphase =>
    refine hnobody _ ?_ hlookup
    exact fun _ hawaits => hawaits
  | coalesced hlookup hphase hfound events =>
    refine Windowed.record (h.setPhase hlookup fun _ channel load hawaits hload _ _ => ?_) events
    exact coalesced_unfinished inv (hawaits ▸ hfound) hload
  | @miss l lookup stale hlookup hphase hfound events =>
    refine Windowed.record ((h.spawn _ lookup.candidates s.cache.nextId).setPhase hlookup
      fun _ channel load hawaits hload _ _ => ?_) events
    have hnew : (s.loads ++ [Load.spawn lookup.candidates s.cache.nextId])[s.loads.length]? =
        some load := hawaits ▸ hload
    rw [List.getElem?_concat_length] at hnew
    injection hnew with hnew
    rw [← hnew]
    rfl
  | wake hlookup hphase hload hreceived events =>
    refine Windowed.record (h.setPhase hlookup fun hlate channel load hawaits => ?_) events
    refine h.joined _ _ channel load hlookup hlate ?_
    rw [hphase]
    exact hawaits
  | task hload hadvance events => exact (h.task inv hstore hreads hload hadvance).record events
  | finish hload htask => exact h.finishSection hends hload _ _
  | invalidate => exact ⟨h.early, h.kept, h.joined⟩
  | clear => exact ⟨h.early, h.kept, h.joined⟩

end Windowed

section

variable {config : CacheConfig} {jitterSeed : Nat → UInt64} {c : RouteCandidates}
  {old : RouteHits} {change : Nat} {s : CacheSystem}

/-- A run whose loads end in time leaves both invariants in place. -/
theorem windowed_run {store : Nat → RouteCandidates → RouteHits}
    (hstore : ∀ time, change ≤ time → store time c ≠ old) {es : List CacheStep}
    (hreads : (cacheMachine config jitterSeed).Along (ReadsStore store) es (.start jitterSeed))
    (hends : (cacheMachine config jitterSeed).Along (EndsInTime config c old change) es
      (.start jitterSeed))
    (hrun : (cacheMachine config jitterSeed).run es (.start jitterSeed) = some s) :
    Windowed config c old change s := by
  have hstep : ∀ {event : CacheStep} {s s' : CacheSystem},
      CacheInv config jitterSeed s ∧ Windowed config c old change s →
      ReadsStore store event s ∧ EndsInTime config c old change event s →
      (cacheMachine config jitterSeed).step event s = some s' →
      CacheInv config jitterSeed s' ∧ Windowed config c old change s' :=
    fun hinv hevent hstep =>
      ⟨hinv.1.step hstep, hinv.2.step hinv.1 hstore hevent.1 hevent.2 hstep⟩
  exact (Machine.run_invariant_along hstep (hreads.and hends)
    ⟨.start config jitterSeed, .start config jitterSeed c old change⟩ hrun).2

/-- **The consistency window.** Without jitter and stale answers, and with loads
that end in time, no lookup that starts when the window after a change of the
store is over returns the old answer. -/
theorem consistency_window {store : Nat → RouteCandidates → RouteHits} {es : List CacheStep}
    (hjitter : config.jitter = .finite 0) (hstale : config.staleIfError = none)
    (hstore : ∀ time, change ≤ time → store time c ≠ old)
    (hreads : (cacheMachine config jitterSeed).Along (ReadsStore store) es (.start jitterSeed))
    (hends : (cacheMachine config jitterSeed).Along (EndsInTime config c old change) es
      (.start jitterSeed))
    (hrun : (cacheMachine config jitterSeed).run es (.start jitterSeed) = some s) :
    ∀ (l : Nat) lookup path hits, s.lookups[l]? = some lookup → lookup.candidates = c →
      change + window config old ≤ lookup.started →
      lookup.phase = .returned path (.ok hits) → hits.hits ≠ old := by
  intro l lookup path hits hlookup hcandidates hlate hphase hold
  have hwindowed := windowed_run hstore hreads hends hrun
  have inv : CacheInv config jitterSeed s := cacheMachine_inv ⟨_, es, rfl, hrun⟩
  have hnostale : ¬ StaleFor config jitterSeed s.loads lookup.candidates lookup.started hits := by
    rintro ⟨-, -, stale, -, -, -, hsome, -⟩
    exact absurd (hstale.symm.trans hsome) (by simp)
  have hwarranted := inv.warranted hlookup hphase
  cases path with
  | shed => exact hnostale hwarranted
  | fresh =>
    obtain ⟨time, id, expires, ⟨load, hload, hcand, hanswered, hstored⟩, hexpires, hfresh⟩ :=
      hwarranted
    have hkept := hwindowed.kept _ load time hload (hcand.trans hcandidates) (hold ▸ hanswered)
      hstored
    rw [entryTtl_plain hjitter, hold] at hexpires
    have hsum := later_le_add hexpires
    omega
  | joined channel =>
    obtain ⟨load, hload, hcand, h⟩ := hwarranted
    rcases h with ⟨hvalue, -, hanswered⟩ | ⟨-, hbad⟩
    · have hunfinished := hwindowed.joined l lookup channel load hlookup hlate
        (by rw [hphase]; rfl) hload (hcand.trans hcandidates) (hold ▸ hanswered)
      have hok := (inv.loads channel load hload).1
      exact absurd ((hok.silent hunfinished).1.symm.trans hvalue) (by simp)
    · exact hnostale hbad

end

/-- A cache that keeps routes for two nanoseconds. -/
def briefConfig : CacheConfig where
  ttl := 2
  negativeTtl := 2
  jitter := .finite 0
  maxEntries := 1
  staleIfError := none
  loadTimeout := 10
  maxInflightLoads := 1

/-- A route that is removed at the first nanosecond. -/
def removedRoute (c : RouteCandidates) : RouteHits :=
  [(c.exact, ⟨.dns [98], .https⟩)]

/-- A store in which the route is gone from the first nanosecond. -/
def storeOf (c : RouteCandidates) (time : Nat) (_ : RouteCandidates) : RouteHits :=
  if time < 1 then removedRoute c else []

/-- The load ends before the change, and the lookup after the window gets the
new answer. -/
theorem consistency_window_at :
    ∃ (c : RouteCandidates) (s : CacheSystem) (lookup : Lookup) (hits : Answer),
      (cacheMachine briefConfig fun _ => 0).run
        [.begin c, .locked 0, .task 0 .poll, .task 0 (.answer (.ok (removedRoute c))), .finish 0,
          .task 0 .send, .wake 0, .tick 3, .begin c, .locked 1, .task 1 .poll,
          .task 1 (.answer (.ok [])), .finish 1, .task 1 .send, .wake 1]
        (.start fun _ => 0) = some s ∧
      s.lookups[1]? = some lookup ∧ lookup.phase = .returned (.joined 1) (.ok hits) ∧
      hits.hits ≠ removedRoute c := by
  let c : RouteCandidates := ⟨⟨[97], false⟩, none⟩
  let es : List CacheStep := [.begin c, .locked 0, .task 0 .poll,
    .task 0 (.answer (.ok (removedRoute c))), .finish 0, .task 0 .send, .wake 0, .tick 3, .begin c,
    .locked 1, .task 1 .poll, .task 1 (.answer (.ok [])), .finish 1, .task 1 .send, .wake 1]
  obtain ⟨s, hrun, hval⟩ : ∃ s, (cacheMachine briefConfig fun _ => 0).run es (.start fun _ => 0) =
      some s ∧ s.lookups[1]?.map (fun l => (l.candidates, l.started, l.phase)) =
        some (c, 3, .returned (.joined 1) (.ok ⟨[], 1⟩)) :=
    Option.map_eq_some_iff.mp (by decide +kernel)
  obtain ⟨lookup, hlookup, hval⟩ := Option.map_eq_some_iff.mp hval
  injection hval with hcandidates hval
  injection hval with hstarted hphase
  have hstore : ∀ time, 1 ≤ time → storeOf c time c ≠ removedRoute c := by
    intro time htime
    unfold storeOf
    rw [if_neg (by omega)]
    decide
  have hreads : (cacheMachine briefConfig fun _ => 0).Along (ReadsStore (storeOf c)) es
      (.start fun _ => 0) := by decide +kernel
  have hends : (cacheMachine briefConfig fun _ => 0).Along
      (EndsInTime briefConfig c (removedRoute c) 1) es (.start fun _ => 0) := by decide +kernel
  have hlate : 1 + window briefConfig (removedRoute c) ≤ lookup.started := by
    rw [hstarted]
    decide
  exact ⟨c, s, lookup, _, hrun, hlookup, hphase, consistency_window (by rfl) (by rfl) hstore hreads
    hends hrun 1 lookup _ _ hlookup hcandidates hlate hphase⟩

/-- The answer is read before the change and stored after it: it is served when
the window is over. -/
theorem window_exceeded :
    ∃ (config : CacheConfig) (jitterSeed : Nat → UInt64)
      (store : Nat → RouteCandidates → RouteHits) (c : RouteCandidates) (old : RouteHits)
      (change : Nat) (es : List CacheStep) (s : CacheSystem) (lookup : Lookup) (hits : Answer),
      config.jitter = .finite 0 ∧ config.staleIfError = none ∧
      (∀ time, change ≤ time → store time c = []) ∧ old ≠ [] ∧
      (cacheMachine config jitterSeed).Along (ReadsStore store) es (.start jitterSeed) ∧
      (cacheMachine config jitterSeed).run es (.start jitterSeed) = some s ∧
      s.lookups[1]? = some lookup ∧ lookup.candidates = c ∧
      change + window config old ≤ lookup.started ∧
      lookup.phase = .returned .fresh (.ok hits) ∧ hits.hits = old := by
  let c : RouteCandidates := ⟨⟨[97], false⟩, none⟩
  let es : List CacheStep := [.begin c, .locked 0, .task 0 .poll, .tick 2,
    .task 0 (.answer (.ok (removedRoute c))), .finish 0, .task 0 .send, .wake 0, .tick 1, .begin c,
    .locked 1]
  obtain ⟨s, hrun, hval⟩ : ∃ s, (cacheMachine briefConfig fun _ => 0).run es (.start fun _ => 0) =
      some s ∧ s.lookups[1]?.map (fun l => (l.candidates, l.started, l.phase)) =
        some (c, 3, .returned .fresh (.ok ⟨removedRoute c, 0⟩)) :=
    Option.map_eq_some_iff.mp (by decide +kernel)
  obtain ⟨lookup, hlookup, hval⟩ := Option.map_eq_some_iff.mp hval
  injection hval with hcandidates hval
  injection hval with hstarted hphase
  have hstore : ∀ time, 1 ≤ time → storeOf c time c = [] := by
    intro time htime
    exact if_neg (by omega)
  have hreads : (cacheMachine briefConfig fun _ => 0).Along (ReadsStore (storeOf c)) es
      (.start fun _ => 0) := by decide +kernel
  have hlate : 1 + window briefConfig (removedRoute c) ≤ lookup.started := by
    rw [hstarted]
    decide
  exact ⟨briefConfig, fun _ => 0, storeOf c, c, removedRoute c, 1, es, s, lookup, _, rfl, rfl,
    hstore, by decide, hreads, hrun, hlookup, hcandidates, hlate, hphase, rfl⟩

end SniRouter
