import SniRouter.Resolver.Answers

/-!
# SniRouter — the stale window of the resolver

A good answer may be used for its TTL, and for `STALE_IF_ERROR` after it while
re-resolving fails. A failure keeps the answer fresh for `NEGATIVE_TTL` more,
though, whatever is left of that window: one in its last second carries the
answer past the end. Failures before that keep the bound.

* `FailsInTime` — a failure that keeps an answer leaves room for the negative
  TTL.
* `Bounded` — the invariant: no answer is fresh after its stale window.
* `stale_window` — runs whose failures come in time keep the bound.
* `stale_window_exceeded` — others need not.
-/

namespace SniRouter

-- ---------------------------------------------------------------------------
-- Arithmetic of the window
-- ---------------------------------------------------------------------------

/-- The end of a stale window is never late, even where the clock runs out. -/
theorem StaleEnd.le {config : ResolverConfig} {time last : Nat} (h : StaleEnd config time last) :
    last ≤ time + config.ttl + Resolver.staleIfError := by
  obtain ⟨freshUntil, hfresh, hstale⟩ := h
  have hfresh := later_le_add hfresh
  have hstale := later_le_add hstale
  omega

/-- What may be used is used before the end of the window. -/
theorem Usable.lt {config : ResolverConfig} {time now : Nat} (h : Usable config time now) :
    now < time + config.ttl + Resolver.staleIfError := by
  rcases h with rfl | ⟨last, hend, hlt⟩
  · have hpos : 0 < Resolver.staleIfError := by decide
    omega
  · exact hlt.trans_le hend.le

-- ---------------------------------------------------------------------------
-- Failures in time
-- ---------------------------------------------------------------------------

/-- A lookup without addresses, recorded while an answer is within its stale
window, is recorded `NEGATIVE_TTL` before the end of it at the latest. -/
def FailsInTime (event : ResolverStep) (s : ResolverSystem) : Prop :=
  match event with
  | .record p => ∀ lookup ∈ s.lookups[p]?, ∀ result ∈ lookup.ready, Resolver.Failed result →
      ∀ entry ∈ s.state.cache.lookup lookup.key, entry.addrs.isSome →
        s.clock < entry.staleUntil → s.clock + Resolver.negativeTtl ≤ entry.staleUntil
  | _ => True

instance (event : ResolverStep) (s : ResolverSystem) : Decidable (FailsInTime event s) :=
  match event with
  | .record p => inferInstanceAs (Decidable (∀ lookup ∈ s.lookups[p]?, ∀ result ∈ lookup.ready,
      Resolver.Failed result → ∀ entry ∈ s.state.cache.lookup lookup.key, entry.addrs.isSome →
        s.clock < entry.staleUntil → s.clock + Resolver.negativeTtl ≤ entry.staleUntil))
  | .tick _ | .begin _ | .locked _ | .wake _ | .cancel _ | .lookup _ _ => .isTrue trivial

-- ---------------------------------------------------------------------------
-- The invariant
-- ---------------------------------------------------------------------------

/-- The addresses of the turn were found less than `ttl + STALE_IF_ERROR`
before its call began. -/
def Turn.InWindow (config : ResolverConfig) (lookups : List DnsLookup) (turn : Turn) : Prop :=
  ∃ time, FoundAt lookups turn.key turn.answer time ∧
    turn.started < time + config.ttl + Resolver.staleIfError

/-- No entry and no turn goes beyond the window. -/
structure Bounded (config : ResolverConfig) (s : ResolverSystem) : Prop where
  entries : ∀ key entry, s.state.cache.lookup key = some entry → entry.addrs.isSome →
    entry.freshUntil ≤ entry.staleUntil
  turns   : ∀ turn ∈ s.turns, turn.InWindow config s.lookups

namespace Bounded

variable {config : ResolverConfig} {s s' : ResolverSystem}

theorem start (config : ResolverConfig) : Bounded config (Resolver.start config) where
  entries key entry h := absurd h (by simp [Resolver.start])
  turns turn h := absurd h (by simp [Resolver.start])

/-- A failure in time is over before the answer it keeps. -/
theorem entries_step (h : Bounded config s) {event : ResolverStep} (hintime : FailsInTime event s)
    (hstep : Resolver.step config event s = some s') :
    ∀ key entry, s'.state.cache.lookup key = some entry → entry.addrs.isSome →
      entry.freshUntil ≤ entry.staleUntil := by
  cases Resolver.step_cases hstep with
  | tick | begin | join | spawn | cancel | lookup => exact h.entries
  | @fresh c call outcome =>
    rw [(Resolver.answer_frame s c call outcome).1]
    exact h.entries
  | @wake c call channel lookup outcome =>
    rw [(Resolver.answer_frame s c call outcome).1]
    exact h.entries
  | @record p lookup result hlookup hready =>
    intro key entry hentry haddrs
    obtain ⟨after, hcache, hcases⟩ :=
      Resolver.store_cases config s.clock s.state.cache lookup.key p result
    have hentry : ((Resolver.store config s.clock s.state.cache lookup.key p result).2).lookup key =
        some entry := hentry
    rw [hcache] at hentry
    split_ifs at hentry with hkey
    · generalize (Resolver.store config s.clock s.state.cache lookup.key p result).1 = outcome
        at hcases
      cases hcases with
      | found hresult hne hfresh hstale =>
        obtain rfl := Option.some.inj hentry
        exact le_later hstale
      | @kept old addrs freshUntil hfailed hold holdaddrs hnow hfresh =>
        obtain rfl := Option.some.inj hentry
        have hroom := hintime lookup hlookup result hready hfailed old hold
          (by rw [holdaddrs]; rfl) hnow
        exact (later_le_add hfresh).trans hroom
      | failed =>
        obtain rfl := Option.some.inj hentry
        exact absurd haddrs (by simp)
      | panicked hold => exact h.entries lookup.key entry (hold entry hentry haddrs) haddrs
    · exact h.entries key entry (Resolver.lookup_of_prune hentry) haddrs

/-- Whether from the cache or from its channel, a call gets addresses whose
window it began in. -/
theorem source_inWindow (h : Bounded config s) (inv : AnswerInv config s) {c : Nat}
    {call : ResolveCall} {answer : Addresses} (hcall : s.calls[c]? = some call)
    (hsource : Resolver.Source s call answer) :
    ∃ time, FoundAt s.lookups call.key answer time ∧
      call.started < time + config.ttl + Resolver.staleIfError := by
  have hbegun := inv.begun c call hcall
  cases hsource with
  | cache hfresh =>
    obtain ⟨entry, time, hentry, haddrs, hnow, hfound, hstale⟩ := inv.fresh_found hfresh
    have hle := h.entries call.key entry hentry (by rw [haddrs]; rfl)
    have hend := hstale.le
    exact ⟨time, hfound, by omega⟩
  | channel hphase hlookup hreceived =>
    obtain ⟨time, recorded, hfound, hstarted, hrecorded⟩ :=
      inv.received_found hcall hphase hlookup hreceived
    exact ⟨time, hfound, hstarted.trans_lt hrecorded.lt⟩

theorem step (h : Bounded config s) (inv : AnswerInv config s) {event : ResolverStep}
    (hintime : FailsInTime event s) (hstep : Resolver.step config event s = some s') :
    Bounded config s' := by
  refine ⟨h.entries_step hintime hstep, ?_⟩
  have hext := inv.lookups_extend hstep
  have hold : ∀ turn ∈ s.turns, turn.InWindow config s'.lookups := by
    intro turn hmem
    obtain ⟨time, hfound, hlt⟩ := h.turns turn hmem
    exact ⟨time, hfound.mono hext, hlt⟩
  rcases Resolver.turn_cases hstep with ⟨hturns, -⟩ | hturn
  · rw [hturns]
    exact hold
  · obtain ⟨c, call, answer, hcall, hsource, -, -, hturns⟩ := hturn
    rw [hturns]
    intro turn hmem
    rcases List.mem_append.mp hmem with hmem | hnew
    · exact hold turn hmem
    · rw [List.mem_singleton.mp hnew]
      obtain ⟨time, hfound, hlt⟩ := h.source_inWindow inv hcall hsource
      exact ⟨time, hfound.mono hext, hlt⟩

end Bounded

/-- What a whole run preserves when failures come in time. -/
theorem bounded_run {config : ResolverConfig} {es : List ResolverStep} {s : ResolverSystem}
    (hintime : (resolverMachine config).Along FailsInTime es (Resolver.start config))
    (hrun : (resolverMachine config).run es (Resolver.start config) = some s) :
    Bounded config s := by
  have hstep : ∀ {event : ResolverStep} {s s' : ResolverSystem},
      AnswerInv config s ∧ Bounded config s → FailsInTime event s →
      (resolverMachine config).step event s = some s' →
      AnswerInv config s' ∧ Bounded config s' :=
    fun hinv hevent hstep => ⟨hinv.1.step hstep, hinv.2.step hinv.1 hevent hstep⟩
  exact (Machine.run_invariant_along hstep hintime ⟨.start config, .start config⟩ hrun).2

-- ---------------------------------------------------------------------------
-- The bound
-- ---------------------------------------------------------------------------

/-- **The stale window.** In a run whose failures come in time, whatever
addresses a call returns were found by a lookup of its key, less than
`ttl + STALE_IF_ERROR` before the call began. -/
theorem stale_window {config : ResolverConfig} {es : List ResolverStep} {s : ResolverSystem}
    (hintime : (resolverMachine config).Along FailsInTime es (Resolver.start config))
    (hrun : (resolverMachine config).run es (Resolver.start config) = some s) :
    ∀ (c : Nat) call result, s.calls[c]? = some call → call.phase = .returned (.ok result) →
      ∃ answer time rotation, FoundAt s.lookups call.key answer time ∧
        result = Resolver.rotated rotation answer.addrs ∧
        call.started < time + config.ttl + Resolver.staleIfError := by
  intro c call result hcall hphase
  have inv : AnswerInv config s := answer_inv ⟨_, es, rfl, hrun⟩
  obtain ⟨turn, hmem, hkey, hstarted, hresult⟩ := inv.returned c call result hcall hphase
  obtain ⟨time, hfound, hlt⟩ := (bounded_run hintime hrun).turns turn hmem
  have hrotated := (inv.turns turn hmem).2
  exact ⟨turn.answer, time, turn.rotation, hkey ▸ hfound, hresult.symm.trans hrotated,
    hstarted ▸ hlt⟩

-- ---------------------------------------------------------------------------
-- Runs
-- ---------------------------------------------------------------------------

/-- A resolver that looks a name up again for every call. -/
def uncached : ResolverConfig := .new 0 1

/-- The key of the sample run. -/
def svc : ResolverKey := ⟨Text.ascii "svc", 443⟩
/-- Its one address. -/
def svcAddr : SocketAddr := ⟨.v4 ⟨[10, 0, 0, 1]⟩, .https⟩
/-- What the failing lookup reports. -/
def resolverDown : IoError := ⟨.other, Text.ascii "resolver down"⟩

/-- Resolves a name, fails to when `wait` milliseconds have passed, and calls
once more `again` milliseconds after that. -/
def failingRun (wait again : Nat) : List ResolverStep :=
  [.begin svc, .locked 0, .lookup 0 .permit, .lookup 0 (.callEnds (.returned (.ok [svcAddr]))),
    .record 0, .lookup 0 .publish, .wake 0, .tick (wait * 1000000),
    .begin svc, .locked 1, .lookup 1 .permit,
    .lookup 1 (.callEnds (.returned (.error resolverDown))), .record 1,
    .tick (again * 1000000), .begin svc, .locked 2]

/-- A failure two seconds before the end of the window. -/
theorem stale_window_at :
    ∃ (s : ResolverSystem) (call : ResolveCall) (answer : Addresses) (time : Nat),
      (resolverMachine uncached).run (failingRun 58000 500) (Resolver.start uncached) = some s ∧
      s.calls[2]? = some call ∧ FoundAt s.lookups call.key answer time ∧
      call.started < time + uncached.ttl + Resolver.staleIfError := by
  obtain ⟨s, hrun, hval⟩ : ∃ s, (resolverMachine uncached).run (failingRun 58000 500)
      (Resolver.start uncached) = some s ∧
      s.calls[2]?.map ResolveCall.phase = some (.returned (.ok [svcAddr])) :=
    Option.map_eq_some_iff.mp (by decide +kernel)
  obtain ⟨call, hcall, hphase⟩ := Option.map_eq_some_iff.mp hval
  have hintime : (resolverMachine uncached).Along FailsInTime (failingRun 58000 500)
      (Resolver.start uncached) := by decide +kernel
  obtain ⟨answer, time, rotation, hfound, -, hlt⟩ :=
    stale_window hintime hrun 2 call [svcAddr] hcall hphase
  exact ⟨s, call, answer, time, hrun, hcall, hfound, hlt⟩

/-- A failure half a second before the end of the window carries the answer
past it. -/
theorem stale_window_exceeded :
    ∃ (config : ResolverConfig) (es : List ResolverStep) (s : ResolverSystem)
      (call : ResolveCall) (result : List SocketAddr),
      (resolverMachine config).run es (Resolver.start config) = some s ∧
      s.calls[2]? = some call ∧ call.phase = .returned (.ok result) ∧
      ∀ answer time, FoundAt s.lookups call.key answer time →
        time + config.ttl + Resolver.staleIfError ≤ call.started := by
  have hends : ((resolverMachine uncached).run (failingRun 59500 700)
      (Resolver.start uncached)).any (fun s =>
        decide ((s.calls[2]?.map fun call => (call.started, call.phase)) =
          some (60200 * 1000000, .returned (.ok [svcAddr]))) &&
        decide (s.lookups.map DnsLookup.stored =
          [some (.ok [svcAddr], 0), some (.error resolverDown, 59500 * 1000000)])) = true := by
    decide +kernel
  obtain ⟨s, hrun, hval⟩ := (Option.any_eq_true _ _).mp hends
  obtain ⟨hcalls, hlookups⟩ := Bool.and_eq_true_iff.mp hval
  have hcalls := of_decide_eq_true hcalls
  have hlookups := of_decide_eq_true hlookups
  obtain ⟨call, hcall, hval⟩ := Option.map_eq_some_iff.mp hcalls
  injection hval with hstarted hphase
  refine ⟨uncached, _, s, call, _, hrun, hcall, hphase, ?_⟩
  intro answer time hfound
  obtain ⟨-, lookup, hlookup, -, hstored⟩ := hfound
  -- the one lookup that found addresses did so at the start
  have hmem : some (.ok answer.addrs, time) ∈ s.lookups.map DnsLookup.stored :=
    hstored ▸ List.mem_map_of_mem (List.mem_of_getElem? hlookup)
  rw [hlookups, List.mem_cons, List.mem_singleton] at hmem
  have htime : time = 0 := by
    rcases hmem with hmem | hmem
    · injection hmem with hmem
      exact congrArg Prod.snd hmem
    · injection hmem with hmem
      injection hmem with hmem _
      exact absurd hmem (by simp)
  rw [htime, hstarted]
  decide

end SniRouter
