import SniRouter.Lib.Table
import SniRouter.Resolver.System

/-!
# SniRouter — lookups in flight

A call registers the slot of its lookup, and the lookup's task removes it in
its locked section, two awaits later. Slots and tasks that have not come to
that section belong together one to one; a task that ends before it leaves its
slot behind for good.

* `FlightInv` — slots, tasks and channels agree.
* `Stranded` — a slot whose task has died.
* `slot_cleared_iff` — an ended lookup has left its slot if and only if it came
  to its locked section.
-/

namespace SniRouter

open Table

-- ---------------------------------------------------------------------------
-- The invariant
-- ---------------------------------------------------------------------------

/-- Slots and the lookups that fly under them, one to one. -/
structure FlightInv (s : ResolverSystem) : Prop where
  slots  : ∀ key p, s.state.inflight.lookup key = some p →
    ∃ lookup, s.lookups[p]? = some lookup ∧ lookup.key = key ∧ lookup.unrecorded = true
  flying : ∀ (p : Nat) lookup, s.lookups[p]? = some lookup → lookup.unrecorded = true →
    s.state.inflight.lookup lookup.key = some p
  silent : ∀ (p : Nat) lookup, s.lookups[p]? = some lookup → lookup.task ≠ .done →
    lookup.value = none

namespace FlightInv

variable {config : ResolverConfig} {s s' : ResolverSystem}

theorem start (config : ResolverConfig) : FlightInv (Resolver.start config) where
  slots key p h := absurd h (by simp [Resolver.start])
  flying p lookup h := absurd h (by simp [Resolver.start])
  silent p lookup h := absurd h (by simp [Resolver.start])

/-- Calls and answers leave slots and tasks alone. -/
theorem frame (inv : FlightInv s) (hstate : s'.state.inflight = s.state.inflight)
    (hlookups : s'.lookups = s.lookups) : FlightInv s' := by
  refine ⟨?_, ?_, ?_⟩
  · rw [hstate, hlookups]
    exact inv.slots
  · rw [hstate, hlookups]
    exact inv.flying
  · rw [hlookups]
    exact inv.silent

end FlightInv

theorem Resolver.answer_frame (s : ResolverSystem) (c : Nat) (call : ResolveCall)
    (outcome : Outcome) :
    (answer s c call outcome).state = s.state ∧ (answer s c call outcome).lookups = s.lookups ∧
      (answer s c call outcome).clock = s.clock ∧
      (answer s c call outcome).permits = s.permits := by
  unfold answer
  cases outcome with
  | error error => exact ⟨rfl, rfl, rfl, rfl⟩
  | ok addrs => exact ⟨rfl, rfl, rfl, rfl⟩

/-- Outside its section a lookup keeps its key and what was recorded, and comes
neither into the section nor past it. One that has ended stays as it is. -/
theorem DnsLookup.advance_spec {event : DnsEvent} {permits permits' : Nat}
    {lookup lookup' : DnsLookup} (h : lookup.advance event permits = some (permits', lookup')) :
    lookup'.key = lookup.key ∧ lookup'.stored = lookup.stored ∧
      lookup'.unrecorded = lookup.unrecorded ∧
      (lookup'.value = lookup.value ∨ lookup'.task = .done) ∧
      (lookup.ended = true → lookup'.task = lookup.task) := by
  unfold advance at h
  -- all but what the blocking call does need the task in one state
  split at h
  case h_4 | h_5 | h_6 =>
    obtain ⟨_, -, h⟩ := Option.map_eq_some_iff.mp h
    injection h with _ h
    subst h
    exact ⟨rfl, rfl, rfl, .inl rfl, fun _ => rfl⟩
  case h_9 outcome htask =>
    injection h with h
    injection h with _ h
    subst h
    refine ⟨rfl, rfl, ?_, .inr rfl, ?_⟩
    · unfold unrecorded
      rw [htask]
    · unfold ended
      rw [htask]
      exact fun hended => absurd hended (by simp)
  case h_11 => exact absurd h (by simp)
  all_goals
    next htask =>
      try split_ifs at h
      injection h with h
      injection h with _ h
      subst h
      refine ⟨rfl, rfl, ?_, .inl rfl, ?_⟩
      · unfold unrecorded
        rw [htask]
      · unfold ended
        rw [htask]
        exact fun hended => absurd hended (by simp)

/-- A task that has not ended is not done. -/
theorem DnsLookup.not_done_of_ended {lookup : DnsLookup} (h : lookup.ended = false) :
    lookup.task ≠ .done := by
  intro hdone
  unfold ended at h
  rw [hdone] at h
  exact absurd h (by simp)

/-- A queued lookup has recorded nothing. -/
theorem DnsLookup.unrecorded_of_queued {lookup : DnsLookup} (h : lookup.task = .queued) :
    lookup.unrecorded = true := by
  unfold unrecorded
  rw [h]

/-- A result that is ready is still to be recorded. -/
theorem DnsLookup.ready_unrecorded {lookup : DnsLookup} {result : DnsResult}
    (h : lookup.ready = some result) : lookup.unrecorded = true ∧ lookup.ended = false := by
  unfold ready at h
  split at h
  · next htask _ =>
    unfold unrecorded ended
    rw [htask]
    exact ⟨rfl, rfl⟩
  · next htask =>
    unfold unrecorded ended
    rw [htask]
    exact ⟨rfl, rfl⟩
  · exact absurd h (by simp)

namespace DnsLookup

section

variable (lookup : DnsLookup) (now : Nat) (result : DnsResult) (outcome : Option Outcome)

/-- Recording keeps the key. -/
@[simp] theorem recorded_key : (lookup.recorded now result outcome).key = lookup.key := by
  cases outcome <;> rfl

/-- Recording keeps the call to the system. -/
@[simp] theorem recorded_call : (lookup.recorded now result outcome).call = lookup.call := by
  cases outcome <;> rfl

/-- Recording publishes nothing yet. -/
@[simp] theorem recorded_value : (lookup.recorded now result outcome).value = lookup.value := by
  cases outcome <;> rfl

/-- Past its locked section a lookup is not registered any more. -/
@[simp] theorem recorded_unrecorded :
    (lookup.recorded now result outcome).unrecorded = false := by
  cases outcome <;> rfl

/-- The outcome is still to be sent, or the sender to be dropped. -/
@[simp] theorem recorded_ended : (lookup.recorded now result outcome).ended = false := by
  cases outcome <;> rfl

/-- What is on record of a lookup was before, or is the result of now. -/
theorem recorded_stored_cases {lookup : DnsLookup} {now : Nat} {result : DnsResult}
    {outcome : Option Outcome} {x : DnsResult × Nat}
    (h : (lookup.recorded now result outcome).stored = some x) :
    lookup.stored = some x ∨ x = (result, now) := by
  cases outcome with
  | some outcome => exact .inr (Option.some.inj h).symm
  | none => exact .inl h

end

end DnsLookup

namespace FlightInv

variable {config : ResolverConfig} {s s' : ResolverSystem}

/-- A call that finds no slot registers that of a new lookup. -/
theorem spawn (inv : FlightInv s) {key : ResolverKey}
    (hslot : s.state.inflight.lookup key = none) :
    FlightInv { s with
      state := { s.state with inflight := s.state.inflight.insert key s.lookups.length }
      lookups := s.lookups ++ [.spawn key] } := by
  refine ⟨?_, ?_, ?_⟩
  · intro key' p hp
    rw [Map.lookup_insert] at hp
    by_cases hkey : key' = key
    · rw [if_pos hkey] at hp
      injection hp with hp
      subst hp hkey
      exact ⟨_, List.getElem?_concat_length, rfl, rfl⟩
    · rw [if_neg hkey] at hp
      obtain ⟨lookup, hlookup, hrest⟩ := inv.slots key' p hp
      exact ⟨lookup, (List.getElem?_append_left (lt_length hlookup)).trans hlookup, hrest⟩
  · intro p lookup hlookup hunrecorded
    rw [Map.lookup_insert]
    rcases lookup_append_cases hlookup with ⟨hp, rfl⟩ | hlookup
    · exact (if_pos rfl).trans (congrArg some hp.symm)
    · have hold := inv.flying p lookup hlookup hunrecorded
      by_cases hkey : lookup.key = key
      · rw [hkey, hslot] at hold
        exact absurd hold (by simp)
      · exact (if_neg hkey).trans hold
  · intro p lookup hlookup htask
    rcases lookup_append_cases hlookup with ⟨-, rfl⟩ | hold
    · rfl
    · exact inv.silent p lookup hold htask

/-- What a lookup does outside its section. -/
theorem advance (inv : FlightInv s) {p permits : Nat} {event : DnsEvent}
    {lookup lookup' : DnsLookup} (hlookup : s.lookups[p]? = some lookup)
    (h : lookup.advance event s.permits = some (permits, lookup')) :
    FlightInv { s with permits := permits, lookups := s.lookups.set p lookup' } := by
  obtain ⟨hkey, -, hunrecorded, hvalue, hended⟩ := DnsLookup.advance_spec h
  refine ⟨?_, ?_, ?_⟩
  · intro key q hq
    obtain ⟨other, hother, hrest⟩ := inv.slots key q hq
    by_cases hp : q = p
    · have hsame : other = lookup := Option.some.inj (hother.symm.trans (hp ▸ hlookup))
      rw [hsame] at hrest
      refine ⟨lookup', ?_, hkey.trans hrest.1, hunrecorded.trans hrest.2⟩
      rw [lookup_set hlookup, if_pos hp]
    · refine ⟨other, ?_, hrest⟩
      rw [lookup_set hlookup, if_neg hp]
      exact hother
  · intro q other hother hun
    rcases lookup_set_cases hlookup hother with ⟨hp, rfl⟩ | ⟨-, hold⟩
    · rw [hkey, hp]
      exact inv.flying p lookup hlookup (hunrecorded.symm.trans hun)
    · exact inv.flying q other hold hun
  · intro q other hother htask
    rcases lookup_set_cases hlookup hother with ⟨-, rfl⟩ | ⟨-, hold⟩
    · -- a task that is not done was not done before
      have hbefore : lookup.task ≠ .done := by
        intro hdone
        refine htask ((hended ?_).trans hdone)
        unfold DnsLookup.ended
        rw [hdone]
      rcases hvalue with hsame | hdone
      · exact hsame.trans (inv.silent p lookup hlookup hbefore)
      · exact absurd hdone htask
    · exact inv.silent q other hold htask

/-- The section of a lookup removes its own slot. -/
theorem record (inv : FlightInv s) {p : Nat} {lookup : DnsLookup} {result : DnsResult}
    (hlookup : s.lookups[p]? = some lookup) (hready : lookup.ready = some result) :
    FlightInv (Resolver.recordSection config s p lookup result) := by
  obtain ⟨hunrecorded, hended⟩ := DnsLookup.ready_unrecorded hready
  have hown := inv.flying p lookup hlookup hunrecorded
  have hothers : ∀ key, (AList.erase lookup.key s.state.inflight).lookup key =
      if key = lookup.key then none else s.state.inflight.lookup key :=
    Map.lookup_erase s.state.inflight lookup.key
  refine ⟨?_, ?_, ?_⟩
  · intro key q hq
    have hq : (AList.erase lookup.key s.state.inflight).lookup key = some q := hq
    rw [hothers] at hq
    split_ifs at hq with hkey
    obtain ⟨other, hother, hrest⟩ := inv.slots key q hq
    have hp : q ≠ p := by
      rintro rfl
      have hsame : other = lookup := Option.some.inj (hother.symm.trans hlookup)
      exact hkey (hsame ▸ hrest.1).symm
    exact ⟨other, (List.getElem?_set_ne hp.symm).trans hother, hrest⟩
  · intro q other hother hun
    show (AList.erase lookup.key s.state.inflight).lookup other.key = some q
    rcases lookup_set_cases hlookup hother with ⟨-, rfl⟩ | ⟨hp, hold⟩
    · exact absurd hun (by simp)
    · have hslot := inv.flying q other hold hun
      rw [hothers, if_neg ?_]
      · exact hslot
      · -- two registered lookups of one key would share its slot
        intro hkey
        rw [hkey, hown] at hslot
        injection hslot with hslot
        exact hp hslot.symm
  · intro q other hother htask
    rcases lookup_set_cases hlookup hother with ⟨-, rfl⟩ | ⟨-, hold⟩
    · rw [DnsLookup.recorded_value]
      exact inv.silent p lookup hlookup (DnsLookup.not_done_of_ended hended)
    · exact inv.silent q other hold htask

theorem step (inv : FlightInv s) {event : ResolverStep}
    (h : Resolver.step config event s = some s') : FlightInv s' := by
  cases Resolver.step_cases h with
  | tick => exact inv.frame rfl rfl
  | begin => exact inv.frame rfl rfl
  | cancel => exact inv.frame rfl rfl
  | join => exact inv.frame rfl rfl
  | @fresh c call outcome =>
    obtain ⟨hstate, hlookups, -⟩ := Resolver.answer_frame s c call outcome
    exact inv.frame (congrArg _ hstate) hlookups
  | @wake c call channel lookup outcome =>
    obtain ⟨hstate, hlookups, -⟩ := Resolver.answer_frame s c call outcome
    exact inv.frame (congrArg _ hstate) hlookups
  | spawn hcall hphase hfresh hslot => exact (inv.spawn hslot).frame rfl rfl
  | lookup hlookup hadvance => exact inv.advance hlookup hadvance
  | record hlookup hready => exact inv.record hlookup hready

end FlightInv

theorem flight_inv {config : ResolverConfig} {s : ResolverSystem}
    (h : (resolverMachine config).Reachable s) : FlightInv s :=
  h.invariant (fun hinit => hinit ▸ .start config) fun inv hstep => inv.step hstep

-- ---------------------------------------------------------------------------
-- Stranded slots
-- ---------------------------------------------------------------------------

/-- The slot of the key is that of lookup `p`, whose task has died. -/
structure Stranded (key : ResolverKey) (p : Nat) (s : ResolverSystem) : Prop where
  slot : s.state.inflight.lookup key = some p
  died : ∃ lookup, s.lookups[p]? = some lookup ∧ lookup.key = key ∧ lookup.task = .died

namespace Stranded

variable {config : ResolverConfig} {key : ResolverKey} {p : Nat} {s s' : ResolverSystem}

theorem frame (h : Stranded key p s) (hstate : s'.state.inflight = s.state.inflight)
    (hlookups : s'.lookups = s.lookups) : Stranded key p s' :=
  ⟨hstate ▸ h.slot, hlookups ▸ h.died⟩

/-- No event takes the slot of a dead task away. -/
theorem step (h : Stranded key p s) (inv : FlightInv s) {event : ResolverStep}
    (hstep : Resolver.step config event s = some s') : Stranded key p s' := by
  obtain ⟨hslot, lookup, hlookup, hkey, hdied⟩ := h
  have h : Stranded key p s := ⟨hslot, lookup, hlookup, hkey, hdied⟩
  cases Resolver.step_cases hstep with
  | tick => exact h.frame rfl rfl
  | begin => exact h.frame rfl rfl
  | cancel => exact h.frame rfl rfl
  | join => exact h.frame rfl rfl
  | @fresh c call outcome =>
    obtain ⟨hstate, hlookups, -⟩ := Resolver.answer_frame s c call outcome
    exact h.frame (congrArg _ hstate) hlookups
  | @wake c call channel lookup outcome =>
    obtain ⟨hstate, hlookups, -⟩ := Resolver.answer_frame s c call outcome
    exact h.frame (congrArg _ hstate) hlookups
  | @spawn c call _ _ _ hnone =>
    -- a call of this key would have found the slot
    have hne : key ≠ call.key := by
      rintro rfl
      rw [hslot] at hnone
      exact absurd hnone (by simp)
    refine ⟨?_, lookup, ?_, hkey, hdied⟩
    · show (AList.insert call.key s.lookups.length s.state.inflight).lookup key = some p
      rw [Map.lookup_insert, if_neg hne]
      exact hslot
    · exact (List.getElem?_append_left (lt_length hlookup)).trans hlookup
  | @lookup q event other permits other' hother hadvance =>
    refine ⟨hslot, ?_⟩
    obtain ⟨hkey', -, -, -, hended⟩ := DnsLookup.advance_spec hadvance
    by_cases hq : p = q
    · subst hq
      have hsame : other = lookup := Option.some.inj (hother.symm.trans hlookup)
      subst hsame
      have hdied' : other'.task = .died := by
        refine (hended ?_).trans hdied
        unfold DnsLookup.ended
        rw [hdied]
      exact ⟨other', List.getElem?_set_self (lt_length hother), hkey'.trans hkey, hdied'⟩
    · exact ⟨lookup, (List.getElem?_set_ne (Ne.symm hq)).trans hlookup, hkey, hdied⟩
  | @record q other result hother hready =>
    -- a lookup in its section owns the slot it removes
    obtain ⟨hunrecorded, hended⟩ := DnsLookup.ready_unrecorded hready
    have hq : q ≠ p := by
      rintro rfl
      have hsame : other = lookup := Option.some.inj (hother.symm.trans hlookup)
      unfold DnsLookup.ended at hended
      rw [hsame, hdied] at hended
      exact absurd hended (by simp)
    have hne : key ≠ other.key := by
      rintro rfl
      have hown := inv.flying q other hother hunrecorded
      rw [hslot] at hown
      injection hown with hown
      exact hq hown.symm
    refine ⟨?_, lookup, ?_, hkey, hdied⟩
    · show (AList.erase other.key s.state.inflight).lookup key = some p
      rw [Map.lookup_erase, if_neg hne]
      exact hslot
    · exact (List.getElem?_set_ne hq).trans hlookup

/-- A stranded slot stays stranded in any run. -/
theorem run (h : Stranded key p s) (inv : FlightInv s) {es : List ResolverStep}
    (hrun : (resolverMachine config).run es s = some s') :
    FlightInv s' ∧ Stranded key p s' := by
  have hstep : ∀ {event : ResolverStep} {s s' : ResolverSystem},
      FlightInv s ∧ Stranded key p s → (resolverMachine config).step event s = some s' →
      FlightInv s' ∧ Stranded key p s' :=
    fun hs hstep => ⟨hs.1.step hstep, hs.2.step hs.1 hstep⟩
  exact Machine.run_invariant hstep ⟨inv, h⟩ hrun

/-- A call that the cache does not answer fails on the dead channel. -/
theorem call_fails (h : Stranded key p s) (inv : FlightInv s) {c : Nat} {call : ResolveCall}
    (hcall : s.calls[c]? = some call) (hkey : call.key = key) (hphase : call.phase = .begun)
    (hfresh : Resolver.fresh s.state.cache s.clock call.key = none) :
    ∃ s', (resolverMachine config).run [.locked c, .wake c] s = some s' ∧
      s'.calls[c]?.map ResolveCall.phase = some (.returned (.error closed)) := by
  obtain ⟨hslot, lookup, hlookup, -, hdied⟩ := h
  have hslot : s.state.inflight.lookup call.key = some p := hkey.symm ▸ hslot
  let waiting : ResolveCall := { call with phase := .waiting p }
  let s₁ := Resolver.setPhase s c call (.waiting p)
  have hlocked : Resolver.step config (.locked c) s = some s₁ := by
    unfold Resolver.step
    dsimp only
    rw [hcall, Option.bind_some, hphase]
    unfold Resolver.lock
    rw [hfresh]
    dsimp only
    rw [hslot]
  have hwaiting : s₁.calls[c]? = some waiting := List.getElem?_set_self (lt_length hcall)
  have hreceived : lookup.received = some (.error closed) := by
    have hsilent := inv.silent p lookup hlookup (by rw [hdied]; simp)
    unfold DnsLookup.received DnsLookup.ended
    rw [hsilent, hdied]
    rfl
  have hwake : Resolver.step config (.wake c) s₁ =
      some (Resolver.setPhase s₁ c waiting (.returned (.error closed))) := by
    unfold Resolver.step
    dsimp only
    rw [hwaiting, Option.bind_some]
    show Option.map _ ((s.lookups[p]?).bind DnsLookup.received) = _
    rw [hlookup, Option.bind_some, hreceived]
    rfl
  refine ⟨_, (Machine.run_cons _).mpr ⟨s₁, hlocked, (Machine.run_cons _).mpr ⟨_, hwake, rfl⟩⟩, ?_⟩
  show Option.map _ ((s₁.calls.set c _)[c]?) = _
  rw [List.getElem?_set_self (lt_length hwaiting)]
  rfl

end Stranded

section

variable {config : ResolverConfig} {s : ResolverSystem}

/-- The slot of a dead task is stranded. -/
theorem FlightInv.stranded (inv : FlightInv s) {p : Nat} {lookup : DnsLookup}
    (hlookup : s.lookups[p]? = some lookup) (hdied : lookup.task = .died) :
    Stranded lookup.key p s := by
  have hunrecorded : lookup.unrecorded = true := by
    unfold DnsLookup.unrecorded
    rw [hdied]
  exact ⟨inv.flying p lookup hlookup hunrecorded, lookup, hlookup, rfl, hdied⟩

/-- **An ended lookup has left its slot if and only if it came to its locked
section**, which may have panicked after it removed the slot. If it died before,
no run ever removes the slot, and every call of its key that the cache does not
answer fails. Where no lookup of the key has died, a slot is that of a lookup
under way. -/
theorem slot_cleared_iff (hr : (resolverMachine config).Reachable s) {p : Nat}
    {lookup : DnsLookup} (hlookup : s.lookups[p]? = some lookup)
    (hended : lookup.ended = true) :
    (s.state.inflight.lookup lookup.key ≠ some p ↔
      lookup.task = .done ∨ lookup.task = .panicked) ∧
    (lookup.task = .died → ∀ es s', (resolverMachine config).run es s = some s' →
      s'.state.inflight.lookup lookup.key = some p ∧
      ∀ (c : Nat) call, s'.calls[c]? = some call → call.key = lookup.key →
        call.phase = .begun → Resolver.fresh s'.state.cache s'.clock call.key = none →
        ∃ s'', (resolverMachine config).run [.locked c, .wake c] s' = some s'' ∧
          s''.calls[c]?.map ResolveCall.phase = some (.returned (.error closed))) ∧
    ((∀ (q : Nat) other, s.lookups[q]? = some other → other.key = lookup.key →
        other.task ≠ .died) →
      ∀ q, s.state.inflight.lookup lookup.key = some q →
        ∃ other, s.lookups[q]? = some other ∧ other.ended = false) := by
  have inv := flight_inv hr
  refine ⟨⟨?_, ?_⟩, ?_, ?_⟩
  · intro hcleared
    unfold DnsLookup.ended at hended
    split at hended
    · next hdone => exact .inl hdone
    · next hdied => exact absurd (inv.stranded hlookup hdied).slot hcleared
    · next hpanicked => exact .inr hpanicked
    · exact absurd hended (by simp)
  · intro hcame hslot
    obtain ⟨other, hother, -, hunrecorded⟩ := inv.slots _ p hslot
    have hsame : other = lookup := Option.some.inj (hother.symm.trans hlookup)
    unfold DnsLookup.unrecorded at hunrecorded
    rcases hcame with hdone | hpanicked
    · rw [hsame, hdone] at hunrecorded
      exact absurd hunrecorded (by simp)
    · rw [hsame, hpanicked] at hunrecorded
      exact absurd hunrecorded (by simp)
  · intro hdied es s' hrun
    obtain ⟨inv', hstranded⟩ := (inv.stranded hlookup hdied).run inv hrun
    exact ⟨hstranded.slot, fun c call hcall hkey hphase hfresh =>
      hstranded.call_fails inv' hcall hkey hphase hfresh⟩
  · intro halive q hslot
    obtain ⟨other, hother, hkey, hunrecorded⟩ := inv.slots _ q hslot
    refine ⟨other, hother, ?_⟩
    have hnotdied := halive q other hother hkey
    unfold DnsLookup.unrecorded at hunrecorded
    unfold DnsLookup.ended
    split
    · next hdone =>
      rw [hdone] at hunrecorded
      exact absurd hunrecorded (by simp)
    · next hdied => exact absurd hdied hnotdied
    · next hpanicked =>
      rw [hpanicked] at hunrecorded
      exact absurd hunrecorded (by simp)
    · rfl

/-- A lookup that runs to its end, and its slot. -/
theorem slot_cleared_iff_at :
    ∃ (key : ResolverKey) (s : ResolverSystem),
      (resolverMachine (.new 0 1)).run
        [.begin key, .locked 0, .lookup 0 .permit, .lookup 0 (.callEnds (.panicked [])),
          .record 0, .lookup 0 .publish] (Resolver.start (.new 0 1)) = some s ∧
      s.state.inflight.lookup key ≠ some 0 := by
  let key : ResolverKey := ⟨[97], 443⟩
  obtain ⟨s, hrun, hval⟩ : ∃ s, (resolverMachine (.new 0 1)).run
      [.begin key, .locked 0, .lookup 0 .permit, .lookup 0 (.callEnds (.panicked [])),
        .record 0, .lookup 0 .publish] (Resolver.start (.new 0 1)) = some s ∧
      s.lookups[0]?.map (fun l => (l.key, l.task)) = some (key, .done) :=
    Option.map_eq_some_iff.mp (by decide +kernel)
  obtain ⟨lookup, hlookup, hval⟩ := Option.map_eq_some_iff.mp hval
  injection hval with hkey htask
  have hended : lookup.ended = true := by
    unfold DnsLookup.ended
    rw [htask]
  have hcleared := (slot_cleared_iff ⟨_, _, rfl, hrun⟩ hlookup hended).1.mpr (.inl htask)
  exact ⟨key, s, hrun, hkey ▸ hcleared⟩

/-- The operating system refuses the thread of the first lookup: its slot is
never removed. -/
theorem slot_stranded :
    ∃ (config : ResolverConfig) (s : ResolverSystem) (p : Nat) (lookup : DnsLookup),
      (resolverMachine config).Reachable s ∧ s.lookups[p]? = some lookup ∧
      lookup.ended = true ∧ s.state.inflight.lookup lookup.key = some p := by
  let key : ResolverKey := ⟨[97], 443⟩
  obtain ⟨s, hrun, hval⟩ : ∃ s, (resolverMachine (.new 0 1)).run
      [.begin key, .locked 0, .lookup 0 .noThread] (Resolver.start (.new 0 1)) = some s ∧
      s.lookups[0]?.map DnsLookup.task = some .died :=
    Option.map_eq_some_iff.mp (by decide +kernel)
  obtain ⟨lookup, hlookup, hdied⟩ := Option.map_eq_some_iff.mp hval
  have hr : (resolverMachine (.new 0 1)).Reachable s := ⟨_, _, rfl, hrun⟩
  refine ⟨_, s, 0, lookup, hr, hlookup, ?_, ((flight_inv hr).stranded hlookup hdied).slot⟩
  unfold DnsLookup.ended
  rw [hdied]

end

end SniRouter
