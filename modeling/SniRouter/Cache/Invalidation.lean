import SniRouter.Cache.Invariant

/-!
# SniRouter — invalidation

Once `invalidate` or `clear` has returned, what the store answered before is
gone for every lookup to come. An old answer could leak back as a cached entry,
through a slot that is joined, or by a load that finishes late; the invariant
bars all three.

* `CacheStep.covers` — the candidates an invalidation is about.
* `Forgotten` — nothing a later lookup can reach stems from an older load.
* `Forgotten.step` — every event keeps it.
* `invalidation_safe` — so it holds in every run after the call.
-/

namespace SniRouter

open Table

/-- The candidates that an `invalidate` or a `clear` forgets. -/
def CacheStep.covers : CacheStep → RouteCandidates → Bool
  | .invalidate key, c => c.contains key
  | .clear, _ => true
  | _, _ => false

/-- An event of the task of load `p`. -/
def CacheStep.ofLoad (p : Nat) : CacheStep → Prop
  | .task q _ | .finish q => q = p
  | _ => False

/-- A lookup that has nothing from the first `m` loads. -/
def LookupPhase.Recent (m : Nat) : LookupPhase → Prop
  | .begun | .cancelled => True
  | .waiting channel stale => m ≤ channel ∧ ∀ hits, stale = some hits → m ≤ hits.load
  | .returned _ result => ∀ hits, result = .ok hits → m ≤ hits.load

/-- For covered candidates, neither an entry nor a slot nor one of the lookups
from the `n`-th on has anything from the first `m` loads. -/
structure Forgotten (covered : RouteCandidates → Bool) (m n : Nat) (s : CacheSystem) : Prop where
  loads   : m ≤ s.loads.length
  begun   : n ≤ s.lookups.length
  entries : ∀ c entry, covered c = true → s.cache.entries.lookup c = some entry →
    m ≤ entry.hits.load
  slots   : ∀ c slot, covered c = true → s.cache.inflight.lookup c = some slot → m ≤ slot.result
  lookups : ∀ (l : Nat) lookup, n ≤ l → s.lookups[l]? = some lookup →
    covered lookup.candidates = true → lookup.phase.Recent m

section

variable {config : CacheConfig} {jitterSeed : Nat → UInt64} {s s' : CacheSystem}
  {covered : RouteCandidates → Bool} {m n : Nat}

-- ---------------------------------------------------------------------------
-- The call
-- ---------------------------------------------------------------------------

/-- The call leaves nothing behind. -/
theorem CacheInv.forgotten (inv : CacheInv config jitterSeed s) {event : CacheStep}
    (h : CacheSystem.step config event s = some s') {c : RouteCandidates}
    (hc : event.covers c = true) :
    Forgotten event.covers s'.loads.length s'.lookups.length s' ∧
      s'.cache.entries.lookup c = none := by
  cases CacheSystem.step_cases h with
  | @invalidate key =>
    have hlookup : ∀ c, (CacheStep.invalidate key).covers c = true →
        (s.cache.invalidate key).entries.lookup c = none ∧
          (s.cache.invalidate key).inflight.lookup c = none := by
      intro c hc
      obtain ⟨hentries, hinflight⟩ := CacheState.lookup_invalidate inv.indexed c
      exact ⟨hentries.trans (if_pos hc), hinflight.trans (if_pos hc)⟩
    refine ⟨⟨Nat.le_refl _, Nat.le_refl _, ?_, ?_, ?_⟩, (hlookup c hc).1⟩
    · intro c entry hc hentry
      rw [(hlookup c hc).1] at hentry
      exact absurd hentry (by simp)
    · intro c slot hc hslot
      rw [(hlookup c hc).2] at hslot
      exact absurd hslot (by simp)
    · intro l lookup hl hlookup'
      exact absurd (lt_length hlookup') (Nat.not_lt.mpr hl)
  | clear =>
    refine ⟨⟨Nat.le_refl _, Nat.le_refl _, ?_, ?_, ?_⟩, rfl⟩
    · exact fun c entry _ hentry => absurd hentry (by simp [CacheState.clear])
    · exact fun c slot _ hslot => absurd hslot (by simp [CacheState.clear])
    · intro l lookup hl hlookup'
      exact absurd (lt_length hlookup') (Nat.not_lt.mpr hl)
  | _ => exact absurd hc (by simp [CacheStep.covers])

-- ---------------------------------------------------------------------------
-- Afterwards
-- ---------------------------------------------------------------------------

/-- A lookup takes a phase with nothing old in it. -/
theorem Forgotten.setPhase (hf : Forgotten covered m n s) {l : Nat} {lookup : Lookup}
    {phase : LookupPhase} (hlookup : s.lookups[l]? = some lookup)
    (hrecent : n ≤ l → covered lookup.candidates = true → phase.Recent m)
    (events : List CacheEvent) :
    Forgotten covered m n ((s.setPhase l lookup phase).record events) := by
  refine ⟨hf.loads, ?_, hf.entries, hf.slots, ?_⟩
  · show n ≤ (s.lookups.set l _).length
    rw [List.length_set]
    exact hf.begun
  · intro l' lookup' hl hlookup' hc
    rcases lookup_set_cases hlookup hlookup' with ⟨rfl, rfl⟩ | ⟨-, hold⟩
    · exact hrecent hl hc
    · exact hf.lookups l' lookup' hl hold hc

/-- What a lookup finds under the lock is not old. -/
theorem Forgotten.find_recent (hf : Forgotten covered m n s) (config : CacheConfig) (now : Nat)
    {c : RouteCandidates} (hc : covered c = true) :
    match s.cache.find config now c with
    | .fresh hits => m ≤ hits.load
    | .coalesced channel stale => m ≤ channel ∧ ∀ hits, stale = some hits → m ≤ hits.load
    | .saturated stale => ∀ hits, stale = some hits → m ≤ hits.load
    | .miss stale => ∀ hits, stale = some hits → m ≤ hits.load := by
  have hstale : ∀ hits, ((s.cache.entries.lookup c).filter fun entry =>
      decide (now < entry.staleUntil)).map Entry.hits = some hits → m ≤ hits.load := by
    intro hits h
    obtain ⟨entry, hentry, rfl⟩ := Option.map_eq_some_iff.mp h
    exact hf.entries c entry hc (Option.filter_eq_some_iff.mp hentry).1
  unfold CacheState.find
  dsimp only
  cases hfresh : (s.cache.entries.lookup c).filter fun entry => decide (now < entry.expires) with
  | some entry => exact hf.entries c entry hc (Option.filter_eq_some_iff.mp hfresh).1
  | none =>
    dsimp only
    cases hslot : s.cache.inflight.lookup c with
    | some slot => exact ⟨hf.slots c slot hc hslot, hstale⟩
    | none =>
      dsimp only
      split_ifs
      · exact hstale
      · exact hstale

/-- An old load owns no slot of covered candidates any more. -/
theorem Forgotten.not_owner (hf : Forgotten covered m n s) (inv : CacheInv config jitterSeed s)
    {p : Nat} {load : Load} (hload : s.loads[p]? = some load)
    (hc : covered load.candidates = true) (hold : p < m) :
    s.cache.ownsSlot load.candidates load.id = false := by
  by_contra h
  obtain ⟨slot, hslot, hid⟩ := (Option.any_eq_true _ _).mp (Bool.eq_true_of_not_eq_false h)
  obtain ⟨owner, howner, -, hid', -⟩ := inv.slots _ slot hslot
  have hp := inv.distinct _ _ owner load howner hload (hid'.trans (eq_of_beq hid))
  have hle := hf.slots _ slot hc hslot
  omega

/-- The finish section of an old load writes no entry of covered candidates;
that of a newer load stores its own answer. -/
theorem Forgotten.finishSection (hf : Forgotten covered m n s) (inv : CacheInv config jitterSeed s)
    {p : Nat} {load : Load} {result : LoadResult} {dropping : Bool}
    (hload : s.loads[p]? = some load) (htask : load.task = .finishing result dropping)
    {c : RouteCandidates} {entry : Entry} (hc : covered c = true)
    (h : (s.finishSection config p load result dropping).cache.entries.lookup c = some entry) :
    s.cache.entries.lookup c = some entry ∨ m ≤ p ∧ entry.hits.load = p := by
  rcases CacheState.lookup_finishLoad h with h | ⟨hcand, howns, -, hits, hres, hentry⟩
  · exact .inl h
  · have hok := (inv.loads p load hload).1
    unfold Load.Ok at hok
    rw [htask] at hok
    have hload' : entry.hits.load = p := by
      obtain ⟨-, -, hhits, -⟩ := CacheState.entryOf_eq_some_iff.mp hentry
      rw [hhits]
      exact (hok.2.2.2.2.2 hits hres).1
    refine .inr ⟨?_, hload'⟩
    by_contra hold
    rw [hf.not_owner inv hload (hcand ▸ hc) (Nat.lt_of_not_le hold)] at howns
    exact absurd howns (by simp)

/-- A load that starts is a new one. -/
theorem Forgotten.startLoad (hf : Forgotten covered m n s) (candidates : RouteCandidates) :
    Forgotten covered m n { s with
      cache := (s.cache.startLoad candidates s.loads.length).2
      loads := s.loads ++ [Load.spawn candidates s.cache.nextId] } := by
  refine ⟨?_, hf.begun, hf.entries, ?_, hf.lookups⟩
  · rw [List.length_append]
    exact Nat.le_add_right_of_le hf.loads
  · -- the slot is that of the load just started
    intro c slot hc hslot
    rw [CacheState.startLoad, Map.lookup_insert] at hslot
    split_ifs at hslot
    · injection hslot with hslot
      exact hslot ▸ hf.loads
    · exact hf.slots c slot hc hslot

/-- What a waiting lookup returns is not old, whether its load answers or its
stale entry does. -/
theorem Forgotten.settle_recent (hf : Forgotten covered m n s) (inv : CacheInv config jitterSeed s)
    {l channel : Nat} {lookup : Lookup} {stale : Option Answer} {load : Load} {loaded : LoadResult}
    {hits : Answer} (hlookup : s.lookups[l]? = some lookup)
    (hphase : lookup.phase = .waiting channel stale) (hload : s.loads[channel]? = some load)
    (hreceived : CacheSystem.received load = some loaded) (hl : n ≤ l)
    (hc : covered lookup.candidates = true) (heq : (settle loaded stale).1 = .ok hits) :
    m ≤ hits.load := by
  have hrecent := hf.lookups l lookup hl hlookup hc
  rw [hphase] at hrecent
  cases loaded with
  | ok hits' =>
    injection heq with heq
    obtain ⟨-, hp, -⟩ := inv.produced_of_received hload hreceived
    rw [← heq, hp]
    exact hrecent.1
  | error error =>
    cases stale with
    | none => exact absurd heq (by simp [settle])
    | some stale =>
      injection heq with heq
      exact hrecent.2 hits (congrArg some heq)

/-- The finish section of a load brings nothing old back. -/
theorem Forgotten.finish (hf : Forgotten covered m n s) (inv : CacheInv config jitterSeed s)
    {p : Nat} {load : Load} {result : LoadResult} {dropping : Bool}
    (hload : s.loads[p]? = some load) (htask : load.task = .finishing result dropping) :
    Forgotten covered m n (s.finishSection config p load result dropping) := by
  refine ⟨?_, hf.begun, ?_, ?_, hf.lookups⟩
  · show m ≤ (s.loads.set p _).length
    rw [List.length_set]
    exact hf.loads
  · intro c entry hc hentry
    rcases hf.finishSection inv hload htask hc hentry with hentry | ⟨hnew, hp⟩
    · exact hf.entries c entry hc hentry
    · exact hp ▸ hnew
  · intro c slot hc hslot
    obtain ⟨hinflight, -⟩ :=
      s.cache.finishLoad_inflight config s.clock load.candidates load.id result
    rw [CacheSystem.finishSection, hinflight] at hslot
    exact hf.slots c slot hc (inv.slots_release hload hslot).1

/-- Every event keeps old answers out. -/
theorem Forgotten.step (hf : Forgotten covered m n s) (inv : CacheInv config jitterSeed s)
    {event : CacheStep} (h : CacheSystem.step config event s = some s') :
    Forgotten covered m n s' := by
  cases CacheSystem.step_cases h with
  | tick => exact ⟨hf.loads, hf.begun, hf.entries, hf.slots, hf.lookups⟩
  | begin =>
    refine ⟨hf.loads, ?_, hf.entries, hf.slots, ?_⟩
    · rw [List.length_append]
      exact Nat.le_add_right_of_le hf.begun
    · intro l lookup hl hlookup hc
      rcases lookup_append_cases hlookup with ⟨-, rfl⟩ | hold
      · exact trivial
      · exact hf.lookups l lookup hl hold hc
  | @fresh l lookup hits hlookup hphase hfound events =>
    refine hf.setPhase hlookup ?_ events
    intro _ hc hits' heq
    injection heq with heq
    have hrecent := hf.find_recent config lookup.started hc
    rw [hfound] at hrecent
    exact heq ▸ hrecent
  | @coalesced l lookup channel stale hlookup hphase hfound events =>
    refine hf.setPhase hlookup ?_ events
    intro _ hc
    have hrecent := hf.find_recent config lookup.started hc
    rw [hfound] at hrecent
    exact hrecent
  | @saturated l lookup stale hlookup hphase hfound events =>
    refine hf.setPhase hlookup ?_ events
    intro _ hc hits heq
    have hrecent := hf.find_recent config lookup.started hc
    rw [hfound] at hrecent
    cases stale with
    | none => exact absurd heq (by simp [shed])
    | some stale =>
      injection heq with heq
      exact hrecent hits (congrArg some heq)
  | @miss l lookup stale hlookup hphase hfound events =>
    refine (hf.startLoad lookup.candidates).setPhase hlookup ?_ events
    intro _ hc
    have hrecent := hf.find_recent config lookup.started hc
    rw [hfound] at hrecent
    exact ⟨hf.loads, hrecent⟩
  | @wake l lookup channel stale load loaded hlookup hphase hload hreceived events =>
    refine hf.setPhase hlookup ?_ events
    intro hl hc hits heq
    exact hf.settle_recent inv hlookup hphase hload hreceived hl hc heq
  | cancel hlookup hphase =>
    have hrecent : LookupPhase.Recent m .cancelled := trivial
    have hset := hf.setPhase hlookup (fun _ _ => hrecent) []
    exact ⟨hset.loads, hset.begun, hset.entries, hset.slots, hset.lookups⟩
  | @task p event load load' hload hadvance events =>
    refine ⟨?_, hf.begun, hf.entries, hf.slots, hf.lookups⟩
    show m ≤ (s.loads.set p load').length
    rw [List.length_set]
    exact hf.loads
  | finish hload htask => exact hf.finish inv hload htask
  | @invalidate key =>
    refine ⟨hf.loads, hf.begun, ?_, ?_, hf.lookups⟩
    · intro c entry hc hentry
      rw [(CacheState.lookup_invalidate inv.indexed c).1] at hentry
      split_ifs at hentry
      exact hf.entries c entry hc hentry
    · intro c slot hc hslot
      rw [(CacheState.lookup_invalidate inv.indexed c).2] at hslot
      split_ifs at hslot
      exact hf.slots c slot hc hslot
  | clear =>
    refine ⟨hf.loads, hf.begun, ?_, ?_, hf.lookups⟩
    · exact fun c entry _ hentry => absurd hentry (by simp [CacheState.clear])
    · exact fun c slot _ hslot => absurd hslot (by simp [CacheState.clear])

/-- A run after the call leaves invariant and forgetting in place. -/
theorem forgotten_run {s₀ s₁ : CacheSystem} {event : CacheStep} {es : List CacheStep}
    (hreach : (cacheMachine config jitterSeed).Reachable s₀)
    (hcall : CacheSystem.step config event s₀ = some s₁)
    {c : RouteCandidates} (hc : event.covers c = true)
    (hrun : (cacheMachine config jitterSeed).run es s₁ = some s) :
    CacheInv config jitterSeed s ∧ Forgotten event.covers s₁.loads.length s₁.lookups.length s := by
  have inv := cacheMachine_inv hreach
  have hstep : ∀ {event' : CacheStep} {s s' : CacheSystem},
      CacheInv config jitterSeed s ∧
        Forgotten event.covers s₁.loads.length s₁.lookups.length s →
      (cacheMachine config jitterSeed).step event' s = some s' →
      CacheInv config jitterSeed s' ∧
        Forgotten event.covers s₁.loads.length s₁.lookups.length s' :=
    fun hinv hstep => ⟨hinv.1.step hstep, hinv.2.step hinv.1 hstep⟩
  exact Machine.run_invariant hstep ⟨inv.step hcall, (inv.forgotten hcall hc).1⟩ hrun

/-- **Invalidation safety.** After an `invalidate` of one of their keys, or a
`clear`, no lookup of the candidates that begins later returns hits of a load
started before the call, by whatever path. No entry of theirs holds such hits,
and nothing that such a load still does writes one: it leaves at most the entry
that was there. -/
theorem invalidation_safe {s₀ s₁ : CacheSystem} {event : CacheStep} {es : List CacheStep}
    (hreach : (cacheMachine config jitterSeed).Reachable s₀)
    (hcall : CacheSystem.step config event s₀ = some s₁)
    {c : RouteCandidates} (hc : event.covers c = true)
    (hrun : (cacheMachine config jitterSeed).run es s₁ = some s) :
    (∀ (l : Nat) lookup path hits, s₁.lookups.length ≤ l → s.lookups[l]? = some lookup →
      lookup.candidates = c → lookup.phase = .returned path (.ok hits) →
      s₁.loads.length ≤ hits.load ∧ ∃ load, s.loads[hits.load]? = some load ∧
        load.candidates = c ∧ load.answered = some hits.hits) ∧
    (∀ entry, s.cache.entries.lookup c = some entry → s₁.loads.length ≤ entry.hits.load) ∧
    ∀ p event' s', p < s₁.loads.length → event'.ofLoad p →
      CacheSystem.step config event' s = some s' →
      ∀ entry, s'.cache.entries.lookup c = some entry → s.cache.entries.lookup c = some entry := by
  obtain ⟨inv, hf⟩ := forgotten_run hreach hcall hc hrun
  refine ⟨?_, fun entry => hf.entries c entry hc, ?_⟩
  · intro l lookup path hits hl hlookup hcand hphase
    have hrecent := hf.lookups l lookup hl hlookup (hcand ▸ hc)
    rw [hphase] at hrecent
    exact ⟨hrecent hits rfl, hcand ▸ (inv.warranted hlookup hphase).loaded⟩
  · intro p event' s' hold hload hstep entry hentry
    cases CacheSystem.step_cases hstep with
    | task => exact hentry
    | finish hload' htask =>
      cases hload
      rcases hf.finishSection inv hload' htask hc hentry with hentry | ⟨hnew, -⟩
      · exact hentry
      · omega
    | _ => exact absurd hload (by simp [CacheStep.ofLoad])

/-- A load is under way when its key is invalidated, and ends after a second
one has been started: the later lookup gets the answer of the second. -/
theorem invalidation_safe_at :
    ∃ (c : RouteCandidates) (s₀ s₁ s : CacheSystem) (lookup : Lookup) (hits : Answer),
      (cacheMachine .default fun _ => 0).run
        [.begin c, .locked 0, .task 0 .poll, .task 0 (.answer (.ok []))] (.start fun _ => 0) =
          some s₀ ∧
      CacheSystem.step .default (.invalidate c.exact) s₀ = some s₁ ∧
      (cacheMachine .default fun _ => 0).run
        [.begin c, .locked 1, .finish 0, .task 0 .send, .task 1 .poll, .task 1 (.answer (.ok [])),
          .finish 1, .task 1 .send, .wake 1] s₁ = some s ∧
      s.lookups[1]? = some lookup ∧ lookup.phase = .returned (.joined 1) (.ok hits) ∧
      s₁.loads.length ≤ hits.load := by
  let c : RouteCandidates := ⟨⟨[97], false⟩, none⟩
  let before : List CacheStep := [.begin c, .locked 0, .task 0 .poll, .task 0 (.answer (.ok []))]
  let after : List CacheStep := [.begin c, .locked 1, .finish 0, .task 0 .send, .task 1 .poll,
    .task 1 (.answer (.ok [])), .finish 1, .task 1 .send, .wake 1]
  let m := cacheMachine .default fun _ => 0
  obtain ⟨s₁, hcall, hlen⟩ : ∃ s₁, m.run (before ++ [.invalidate c.exact])
      (.start fun _ => 0) = some s₁ ∧ s₁.lookups.length = 1 :=
    Option.map_eq_some_iff.mp (by decide +kernel)
  obtain ⟨s, hrun, hlookups⟩ : ∃ s, m.run ((before ++ [.invalidate c.exact]) ++ after)
      (.start fun _ => 0) = some s ∧
      s.lookups[1]?.map (fun l => (l.candidates, l.phase)) =
        some (c, .returned (.joined 1) (.ok ⟨[], 1⟩)) :=
    Option.map_eq_some_iff.mp (by decide +kernel)
  obtain ⟨s₁', hcall', hafter⟩ := m.run_append.mp hrun
  rw [hcall] at hcall'
  injection hcall' with hcall'
  subst hcall'
  obtain ⟨s₀, hbefore, hcall⟩ := m.run_append.mp hcall
  obtain ⟨s₂, hstep, hnil⟩ := m.run_cons.mp hcall
  injection hnil with hnil
  subst hnil
  obtain ⟨lookup, hlookup, hval⟩ := Option.map_eq_some_iff.mp hlookups
  injection hval with hcand hphase
  have hstep : CacheSystem.step .default (.invalidate c.exact) s₀ = some s₂ := hstep
  have hsafe := invalidation_safe ⟨_, before, rfl, hbefore⟩ hstep
    (show (CacheStep.invalidate c.exact).covers c = true by decide) hafter
  exact ⟨c, s₀, s₂, s, lookup, ⟨[], 1⟩, hbefore, hstep, hafter, hlookup, hphase,
    (hsafe.1 1 lookup (.joined 1) ⟨[], 1⟩ (Nat.le_of_eq hlen) hlookup hcand hphase).1⟩

end

end SniRouter
