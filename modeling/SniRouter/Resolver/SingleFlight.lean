import SniRouter.Lib.Permits
import SniRouter.Resolver.Answers

/-!
# SniRouter — one lookup per name, and a cap on them all

Registration, the permit, the blocking call, the cache write and the channel
belong to three tasks, and callers come and go in between. What ties them
together:

* `OrderInv` — of two lookups of a key, the first was recorded before the
  second was registered, so the cached answer is that of the last lookup that
  found one.
* `PermitInv` — the permits that are free and those that blocking calls hold add
  up to the limit.
* `Joined` — a call on a channel stays there, gives up, or gets what the
  channel's lookup came to.
* `single_flight` — all of it in every reachable state.
-/

namespace SniRouter

open Table

-- ---------------------------------------------------------------------------
-- Lookups of one key
-- ---------------------------------------------------------------------------

/-- The locked section panicked: nothing was recorded. -/
def DnsLookup.lost (lookup : DnsLookup) : Bool :=
  match lookup.task with
  | .unwinding | .panicked => true
  | _ => false

/-- Outside its section no lookup is lost, and none that was comes back. -/
theorem DnsLookup.advance_lost {event : DnsEvent} {permits permits' : Nat}
    {lookup lookup' : DnsLookup} (h : lookup.advance event permits = some (permits', lookup')) :
    lookup'.lost = lookup.lost := by
  unfold advance at h
  split at h
  case h_4 | h_5 | h_6 =>
    obtain ⟨_, -, h⟩ := Option.map_eq_some_iff.mp h
    injection h with _ h
    subst h
    rfl
  case h_11 => exact absurd h (by simp)
  all_goals
    next htask =>
      try split_ifs at h
      injection h with h
      injection h with _ h
      subst h
      unfold lost
      rw [htask]

/-- A recorded lookup that was not lost has stored its result. -/
theorem DnsLookup.recorded_stored {lookup : DnsLookup} {now : Nat} {result : DnsResult}
    {outcome : Option Outcome} (h : (lookup.recorded now result outcome).lost = false) :
    (lookup.recorded now result outcome).stored.isSome := by
  cases outcome with
  | some outcome => rfl
  | none => exact absurd h (by simp [recorded, lost])

/-- Lookups of one key are recorded in the order they began. -/
structure OrderInv (s : ResolverSystem) : Prop where
  recorded : ∀ (p : Nat) lookup, s.lookups[p]? = some lookup → lookup.unrecorded = false →
    lookup.lost = false → lookup.stored.isSome
  ordered  : ∀ (p q : Nat) lookup other, p < q → s.lookups[p]? = some lookup →
    s.lookups[q]? = some other → lookup.key = other.key → lookup.unrecorded = false
  past     : ∀ (p : Nat) lookup result time, s.lookups[p]? = some lookup →
    lookup.stored = some (result, time) → time ≤ s.clock
  times    : ∀ (p q : Nat) lookup other result result' time time', p < q →
    s.lookups[p]? = some lookup → s.lookups[q]? = some other → lookup.key = other.key →
    lookup.stored = some (result, time) → other.stored = some (result', time') → time ≤ time'
  newest   : ∀ key entry answer, s.state.cache.lookup key = some entry →
    entry.addrs = some answer → ∀ (q : Nat) other addrs time, s.lookups[q]? = some other →
      other.key = key → other.stored = some (.ok addrs, time) → addrs ≠ [] → q ≤ answer.lookup

namespace OrderInv

variable {config : ResolverConfig} {s s' : ResolverSystem}

theorem start (config : ResolverConfig) : OrderInv (Resolver.start config) where
  recorded p lookup h := absurd h (by simp [Resolver.start])
  ordered p q lookup other _ h := absurd h (by simp [Resolver.start])
  past p lookup result time h := absurd h (by simp [Resolver.start])
  times p q lookup other result result' time time' _ h := absurd h (by simp [Resolver.start])
  newest key entry answer h := absurd h (by simp [Resolver.start])

/-- Calls and answers leave lookups and cache alone. -/
theorem frame (inv : OrderInv s) (hclock : s.clock ≤ s'.clock)
    (hcache : s'.state.cache = s.state.cache) (hlookups : s'.lookups = s.lookups) :
    OrderInv s' := by
  refine ⟨?_, ?_, ?_, ?_, ?_⟩
  · rw [hlookups]
    exact inv.recorded
  · rw [hlookups]
    exact inv.ordered
  · rw [hlookups]
    exact fun p lookup result time hlookup hstored =>
      (inv.past p lookup result time hlookup hstored).trans hclock
  · rw [hlookups]
    exact inv.times
  · rw [hlookups, hcache]
    exact inv.newest

/-- A new lookup finds every older one of its key recorded: a slot would have
been found otherwise. -/
theorem spawn (inv : OrderInv s) (flight : FlightInv s) {key : ResolverKey}
    (hslot : s.state.inflight.lookup key = none) :
    OrderInv { s with
      state := { s.state with inflight := s.state.inflight.insert key s.lookups.length }
      lookups := s.lookups ++ [.spawn key] } := by
  have hnew : ∀ {x : DnsResult × Nat}, (DnsLookup.spawn key).stored = some x → False :=
    fun h => absurd h (by simp [DnsLookup.spawn])
  refine ⟨?_, ?_, ?_, ?_, ?_⟩
  · intro p lookup hlookup hrecorded hlost
    rcases lookup_append_cases hlookup with ⟨-, rfl⟩ | hold
    · exact absurd hrecorded (by simp [DnsLookup.spawn, DnsLookup.unrecorded])
    · exact inv.recorded p lookup hold hrecorded hlost
  · intro p q lookup other hlt hlookup hother hkey
    rcases lookup_append_cases hlookup with ⟨hp, -⟩ | hlookup
    · have := lt_length hother
      rw [List.length_append, List.length_singleton] at this
      omega
    · rcases lookup_append_cases hother with ⟨-, rfl⟩ | hother
      · cases hun : lookup.unrecorded with
        | false => rfl
        | true =>
          have := flight.flying p lookup hlookup hun
          rw [hkey, show (DnsLookup.spawn key).key = key from rfl, hslot] at this
          exact absurd this (by simp)
      · exact inv.ordered p q lookup other hlt hlookup hother hkey
  · intro p lookup result time hlookup hstored
    rcases lookup_append_cases hlookup with ⟨-, rfl⟩ | hold
    · exact (hnew hstored).elim
    · exact inv.past p lookup result time hold hstored
  · intro p q lookup other result result' time time' hlt hlookup hother hkey hstored hstored'
    rcases lookup_append_cases hlookup with ⟨-, rfl⟩ | hlookup
    · exact (hnew hstored).elim
    · rcases lookup_append_cases hother with ⟨-, rfl⟩ | hother
      · exact (hnew hstored').elim
      · exact inv.times p q lookup other result result' time time' hlt hlookup hother hkey hstored
          hstored'
  · intro key' entry answer hentry haddrs q other addrs time hother hkey hstored hne
    rcases lookup_append_cases hother with ⟨-, rfl⟩ | hother
    · exact (hnew hstored).elim
    · exact inv.newest key' entry answer hentry haddrs q other addrs time hother hkey hstored hne

/-- A lookup is replaced by one with the same key and record. -/
theorem replace (inv : OrderInv s) {p : Nat} {lookup lookup' : DnsLookup}
    (hlookup : s.lookups[p]? = some lookup) (hkey : lookup'.key = lookup.key)
    (hstored : lookup'.stored = lookup.stored)
    (hunrecorded : lookup'.unrecorded = lookup.unrecorded)
    (hlost : lookup'.lost = lookup.lost) (permits : Nat) :
    OrderInv { s with permits := permits, lookups := s.lookups.set p lookup' } := by
  -- every lookup of the new table stands for one of the old
  have hback : ∀ {q : Nat} {other : DnsLookup}, (s.lookups.set p lookup')[q]? = some other →
      ∃ old, s.lookups[q]? = some old ∧ other.key = old.key ∧ other.stored = old.stored ∧
        other.unrecorded = old.unrecorded ∧ other.lost = old.lost := by
    intro q other hother
    rcases lookup_set_cases hlookup hother with ⟨rfl, rfl⟩ | ⟨-, hold⟩
    · exact ⟨lookup, hlookup, hkey, hstored, hunrecorded, hlost⟩
    · exact ⟨other, hold, rfl, rfl, rfl, rfl⟩
  refine ⟨?_, ?_, ?_, ?_, ?_⟩
  · intro q other hother hrecorded hkept
    obtain ⟨old, hold, -, hs, hu, hl⟩ := hback hother
    exact hs ▸ inv.recorded q old hold (hu ▸ hrecorded) (hl ▸ hkept)
  · intro q r a b hlt ha hb hab
    obtain ⟨a', ha', hka, -, hua, -⟩ := hback ha
    obtain ⟨b', hb', hkb, -, -⟩ := hback hb
    exact hua.trans (inv.ordered q r a' b' hlt ha' hb' (hka.symm.trans (hab.trans hkb)))
  · intro q other result time hother hs
    obtain ⟨old, hold, -, hs', -⟩ := hback hother
    exact inv.past q old result time hold (hs'.symm.trans hs)
  · intro q r a b result result' time time' hlt ha hb hab hsa hsb
    obtain ⟨a', ha', hka, hsa', -⟩ := hback ha
    obtain ⟨b', hb', hkb, hsb', -⟩ := hback hb
    exact inv.times q r a' b' result result' time time' hlt ha' hb'
      (hka.symm.trans (hab.trans hkb)) (hsa'.symm.trans hsa) (hsb'.symm.trans hsb)
  · intro key entry answer hentry haddrs q other addrs time hother hk hs hne
    obtain ⟨old, hold, hk', hs', -⟩ := hback hother
    exact inv.newest key entry answer hentry haddrs q old addrs time hold (hk'.symm.trans hk)
      (hs'.symm.trans hs) hne

/-- A lookup that is still to be recorded is the last of its key. -/
theorem last_of_unrecorded (inv : OrderInv s) {p q : Nat} {lookup other : DnsLookup}
    (hlookup : s.lookups[p]? = some lookup) (hunrecorded : lookup.unrecorded = true)
    (hother : s.lookups[q]? = some other) (hkey : other.key = lookup.key) : q ≤ p := by
  by_contra hlt
  have hrecorded := inv.ordered p q lookup other (by omega) hlookup hother hkey.symm
  exact absurd (hrecorded.symm.trans hunrecorded) (by simp)

/-- Under its own key, the section of a lookup leaves the addresses it found, or
those that an older lookup did. -/
theorem newest_of_store (inv : OrderInv s) {p : Nat} {lookup : DnsLookup} {result : DnsResult}
    (hlookup : s.lookups[p]? = some lookup) (hunrecorded : lookup.unrecorded = true)
    (hnone : lookup.stored = none) {outcome : Option Outcome} {after : Option DnsEntry}
    {entry : DnsEntry} {answer : Addresses}
    (hcases : Resolver.StoreCases config s.clock s.state.cache lookup.key p result outcome after)
    (hentry : after = some entry) (haddrs : entry.addrs = some answer) {q : Nat}
    {other : DnsLookup} {addrs : List SocketAddr} {time : Nat}
    (hother : (s.lookups.set p (lookup.recorded s.clock result outcome))[q]? = some other)
    (hkey : other.key = lookup.key) (hstored : other.stored = some (.ok addrs, time))
    (hne : addrs ≠ []) : q ≤ answer.lookup := by
  cases hcases with
  | found =>
    obtain rfl := Option.some.inj hentry
    obtain rfl := Option.some.inj haddrs
    rcases lookup_set_cases hlookup hother with ⟨hq, -⟩ | ⟨-, hold⟩
    · exact hq.le
    · exact inv.last_of_unrecorded hlookup hunrecorded hold hkey
  | @kept old oldAddrs freshUntil hfailed hold holdaddrs hnow =>
    obtain rfl := Option.some.inj hentry
    rcases lookup_set_cases hlookup hother with ⟨-, rfl⟩ | ⟨-, hother'⟩
    · -- a failure found no addresses
      injection hstored with hstored
      injection hstored with hresult _
      rw [hresult] at hfailed
      exact absurd hfailed hne
    · exact inv.newest lookup.key old answer hold haddrs q other addrs time hother' hkey hstored hne
  | failed =>
    obtain rfl := Option.some.inj hentry
    exact absurd haddrs (by simp)
  | panicked hold =>
    have hbefore := hold entry hentry (by rw [haddrs]; rfl)
    rcases lookup_set_cases hlookup hother with ⟨-, rfl⟩ | ⟨-, hother'⟩
    · exact absurd (hnone.symm.trans hstored) (by simp)
    · exact inv.newest lookup.key entry answer hbefore haddrs q other addrs time hother' hkey
        hstored hne

/-- The section of a lookup. It is the last of its key, and every other one of
the key was recorded before. -/
theorem record (inv : OrderInv s) {p : Nat} {lookup : DnsLookup} {result : DnsResult}
    (hlookup : s.lookups[p]? = some lookup) (hready : lookup.ready = some result)
    (hnone : lookup.stored = none) :
    OrderInv (Resolver.recordSection config s p lookup result) := by
  have hunrecorded := (DnsLookup.ready_unrecorded hready).1
  obtain ⟨after, hcache, hcases⟩ :=
    Resolver.store_cases config s.clock s.state.cache lookup.key p result
  -- what is on record was before, or is the result of now
  have hstoredcases : ∀ {q : Nat} {other : DnsLookup} {x : DnsResult × Nat},
      (Resolver.recordSection config s p lookup result).lookups[q]? = some other →
      other.stored = some x →
      q = p ∧ x = (result, s.clock) ∨ q ≠ p ∧ s.lookups[q]? = some other := by
    intro q other x hother hstored
    rcases lookup_set_cases hlookup hother with ⟨hq, rfl⟩ | ⟨hq, hold⟩
    · rcases DnsLookup.recorded_stored_cases hstored with hbefore | hnow
      · exact absurd (hnone.symm.trans hbefore) (by simp)
      · exact .inl ⟨hq, hnow⟩
    · exact .inr ⟨hq, hold⟩
  have hkeys : ∀ {q : Nat} {other : DnsLookup},
      (Resolver.recordSection config s p lookup result).lookups[q]? = some other →
      ∃ old, s.lookups[q]? = some old ∧ other.key = old.key := by
    intro q other hother
    rcases lookup_set_cases hlookup hother with ⟨hq, rfl⟩ | ⟨-, hold⟩
    · exact ⟨lookup, hq ▸ hlookup, DnsLookup.recorded_key ..⟩
    · exact ⟨other, hold, rfl⟩
  refine ⟨?_, ?_, ?_, ?_, ?_⟩
  · intro q other hother hrecorded hkept
    rcases lookup_set_cases hlookup hother with ⟨-, rfl⟩ | ⟨-, hold⟩
    · exact DnsLookup.recorded_stored hkept
    · exact inv.recorded q other hold hrecorded hkept
  · intro q r a b hlt ha hb hab
    rcases lookup_set_cases hlookup ha with ⟨-, rfl⟩ | ⟨-, ha'⟩
    · exact DnsLookup.recorded_unrecorded ..
    · obtain ⟨b', hb', hkb⟩ := hkeys hb
      exact inv.ordered q r a b' hlt ha' hb' (hab.trans hkb)
  · intro q other result' time hother hstored
    rcases hstoredcases hother hstored with ⟨-, hnow⟩ | ⟨-, hold⟩
    · injection hnow with _ htime
      exact htime.le
    · exact inv.past q other result' time hold hstored
  · intro q r a b resultA resultB timeA timeB hlt ha hb hab hsa hsb
    rcases hstoredcases ha hsa with ⟨hq, -⟩ | ⟨-, ha'⟩
    · -- no lookup of the key is younger than the one in its section
      obtain ⟨a', ha', hka⟩ := hkeys ha
      obtain ⟨b', hb', hkb⟩ := hkeys hb
      obtain rfl := Option.some.inj ((hq ▸ ha').symm.trans hlookup)
      have := inv.last_of_unrecorded hlookup hunrecorded hb' (hkb.symm.trans (hab.symm.trans hka))
      omega
    · rcases hstoredcases hb hsb with ⟨-, hnow⟩ | ⟨-, hb'⟩
      · injection hnow with _ htime
        exact htime ▸ inv.past q a resultA timeA ha' hsa
      · exact inv.times q r a b resultA resultB timeA timeB hlt ha' hb' hab hsa hsb
  · intro key entry answer hentry haddrs q other addrs time hother hkey hstored hne
    have hentry : ((Resolver.store config s.clock s.state.cache lookup.key p result).2).lookup key =
        some entry := hentry
    rw [hcache] at hentry
    by_cases hk : key = lookup.key
    · rw [if_pos hk] at hentry
      exact inv.newest_of_store hlookup hunrecorded hnone hcases hentry haddrs hother
        (hkey.trans hk) hstored hne
    · rw [if_neg hk] at hentry
      rcases lookup_set_cases hlookup hother with ⟨-, rfl⟩ | ⟨-, hother'⟩
      · exact absurd (hkey.symm.trans (DnsLookup.recorded_key ..)) hk
      · exact inv.newest key entry answer (Resolver.lookup_of_prune hentry) haddrs q other addrs
          time hother' hkey hstored hne

theorem step (inv : OrderInv s) (answers : AnswerInv config s) {event : ResolverStep}
    (h : Resolver.step config event s = some s') : OrderInv s' := by
  cases Resolver.step_cases h with
  | tick => exact inv.frame (Nat.le_add_right ..) rfl rfl
  | begin => exact inv.frame (Nat.le_refl _) rfl rfl
  | cancel => exact inv.frame (Nat.le_refl _) rfl rfl
  | join => exact inv.frame (Nat.le_refl _) rfl rfl
  | @fresh c call outcome =>
    obtain ⟨hstate, hlookups, hclock, -⟩ := Resolver.answer_frame s c call outcome
    exact inv.frame hclock.ge (congrArg ResolverState.cache hstate) hlookups
  | @wake c call channel lookup outcome =>
    obtain ⟨hstate, hlookups, hclock, -⟩ := Resolver.answer_frame s c call outcome
    exact inv.frame hclock.ge (congrArg ResolverState.cache hstate) hlookups
  | spawn hcall hphase hfresh hslot =>
    exact (inv.spawn answers.flight hslot).frame (Nat.le_refl _) rfl rfl
  | lookup hlookup hadvance =>
    obtain ⟨hkey, hstored, hunrecorded, -, -⟩ := DnsLookup.advance_spec hadvance
    exact inv.replace hlookup hkey hstored hunrecorded (DnsLookup.advance_lost hadvance) _
  | @record p lookup result hlookup hready =>
    have hunrecorded := (DnsLookup.ready_unrecorded hready).1
    exact inv.record hlookup hready (answers.unstored p lookup hlookup hunrecorded)

end OrderInv

-- ---------------------------------------------------------------------------
-- Permits
-- ---------------------------------------------------------------------------

/-- The blocking call has the permit. -/
def BlockingCall.holdsPermit : BlockingCall → Bool
  | .queued | .running => true
  | .idle | .returned _ => false

/-- The blocking call runs. -/
def DnsLookup.running (lookup : DnsLookup) : Bool :=
  match lookup.call with
  | .running => true
  | _ => false

/-- The blocking call of the lookup has a permit. -/
def DnsLookup.holdsPermit (lookup : DnsLookup) : Bool := lookup.call.holdsPermit

/-- A lookup that runs holds a permit. -/
theorem DnsLookup.holdsPermit_of_running {lookup : DnsLookup} (h : lookup.running = true) :
    lookup.holdsPermit = true := by
  unfold running at h
  split at h
  · next hcall =>
    unfold holdsPermit
    rw [hcall]
    rfl
  · exact absurd h (by simp)

/-- The permits are the free ones and those that lookups hold. -/
structure PermitInv (config : ResolverConfig) (s : ResolverSystem) : Prop where
  idle  : ∀ (p : Nat) lookup, s.lookups[p]? = some lookup → lookup.task = .queued →
    lookup.call = .idle
  total : s.permits + s.lookups.countP DnsLookup.holdsPermit = max config.maxConcurrent 1

/-- A call that has been handed over gives its permit back when it ends. -/
theorem BlockingCall.advance_permits {event : DnsEvent} {permits permits' : Nat}
    {call call' : BlockingCall} (h : call.advance event permits = some (permits', call')) :
    (permits' + if call'.holdsPermit then 1 else 0) =
      (permits + if call.holdsPermit then 1 else 0) ∧ call ≠ .idle := by
  unfold advance at h
  split at h
  case h_4 => exact absurd h (by simp)
  all_goals
    injection h with h
    injection h with hpermits hcall
    subst hpermits hcall
    exact ⟨rfl, by simp⟩

/-- A permit goes to a blocking call that is handed over and comes back from one
that ends; nothing else takes or gives one. -/
theorem DnsLookup.advance_permits {event : DnsEvent} {permits permits' : Nat}
    {lookup lookup' : DnsLookup} (h : lookup.advance event permits = some (permits', lookup'))
    (hidle : lookup.task = .queued → lookup.call = .idle) :
    (permits' + if lookup'.holdsPermit then 1 else 0) =
        (permits + if lookup.holdsPermit then 1 else 0) ∧
      (lookup'.task = .queued → lookup'.call = .idle) := by
  unfold advance at h
  split at h
  case h_1 | h_2 =>
    next htask =>
    have hcall := hidle htask
    split_ifs at h with hfree
    injection h with h
    injection h with hpermits hlookup
    subst hpermits hlookup
    refine ⟨?_, fun htask => absurd htask (by simp)⟩
    simp only [holdsPermit, BlockingCall.holdsPermit, hcall, if_true, Bool.false_eq_true, if_false]
    omega
  case h_4 | h_5 | h_6 =>
    obtain ⟨⟨permits'', call⟩, hcall, h⟩ := Option.map_eq_some_iff.mp h
    injection h with hpermits hlookup
    subst hpermits hlookup
    obtain ⟨hbalance, hhanded⟩ := BlockingCall.advance_permits hcall
    exact ⟨hbalance, fun htask => absurd (hidle htask) hhanded⟩
  case h_11 => exact absurd h (by simp)
  all_goals
    next htask =>
      injection h with h
      injection h with hpermits hlookup
      subst hpermits hlookup
      exact ⟨rfl, fun htask => absurd htask (by simp)⟩

namespace PermitInv

variable {config : ResolverConfig} {s s' : ResolverSystem}

theorem start (config : ResolverConfig) : PermitInv config (Resolver.start config) where
  idle p lookup h := absurd h (by simp [Resolver.start])
  total := rfl

theorem frame (inv : PermitInv config s) (hpermits : s'.permits = s.permits)
    (hlookups : s'.lookups = s.lookups) : PermitInv config s' :=
  ⟨hlookups ▸ inv.idle, by rw [hpermits, hlookups]; exact inv.total⟩

theorem step (inv : PermitInv config s) {event : ResolverStep}
    (h : Resolver.step config event s = some s') : PermitInv config s' := by
  cases Resolver.step_cases h with
  | tick => exact inv.frame rfl rfl
  | begin => exact inv.frame rfl rfl
  | cancel => exact inv.frame rfl rfl
  | join => exact inv.frame rfl rfl
  | @fresh c call outcome =>
    obtain ⟨-, hlookups, -, hpermits⟩ := Resolver.answer_frame s c call outcome
    exact inv.frame hpermits hlookups
  | @wake c call channel lookup outcome =>
    obtain ⟨-, hlookups, -, hpermits⟩ := Resolver.answer_frame s c call outcome
    exact inv.frame hpermits hlookups
  | @spawn c call =>
    refine ⟨fun p lookup hlookup htask => ?_, ?_⟩
    · rcases lookup_append_cases hlookup with ⟨-, rfl⟩ | hold
      · rfl
      · exact inv.idle p lookup hold htask
    · exact Permits.Conserved.append inv.total rfl
  | @lookup p event lookup permits lookup' hlookup hadvance =>
    obtain ⟨hbalance, hidle⟩ := DnsLookup.advance_permits hadvance (inv.idle p lookup hlookup)
    refine ⟨fun q other hother htask => ?_, ?_⟩
    · rcases lookup_set_cases hlookup hother with ⟨-, rfl⟩ | ⟨-, hold⟩
      · exact hidle htask
      · exact inv.idle q other hold htask
    · exact Permits.Conserved.set inv.total hlookup hbalance
  | @record p lookup result hlookup hready =>
    refine ⟨fun q other hother htask => ?_, ?_⟩
    · rcases lookup_set_cases hlookup hother with ⟨-, rfl⟩ | ⟨-, hold⟩
      · have hun : DnsLookup.unrecorded _ = true := DnsLookup.unrecorded_of_queued htask
        exact absurd hun (by simp)
      · exact inv.idle q other hold htask
    · refine Permits.Conserved.set inv.total hlookup ?_
      unfold DnsLookup.holdsPermit
      rw [DnsLookup.recorded_call]
      rfl

end PermitInv

-- ---------------------------------------------------------------------------
-- Callers
-- ---------------------------------------------------------------------------

/-- What `resolve` returns for an outcome: the error, or the addresses from
where the rotation is. -/
def Gets (outcome : Outcome) (result : DnsResult) : Prop :=
  match outcome with
  | .error error => result = .error error
  | .ok answer => ∃ rotation, result = .ok (Resolver.rotated rotation answer.addrs)

/-- A call that is answered returns what the outcome says. -/
theorem Resolver.answer_calls (s : ResolverSystem) (c : Nat) (call : ResolveCall)
    (outcome : Outcome) :
    ∃ result, Gets outcome result ∧
      (answer s c call outcome).calls = s.calls.set c { call with phase := .returned result } := by
  cases outcome with
  | error error => exact ⟨.error error, rfl, rfl⟩
  | ok answer => exact ⟨.ok (rotated s.rotation answer.addrs), ⟨_, rfl⟩, rfl⟩

/-- What a lookup keeps for those who wait on its channel. -/
structure DnsLookup.Keeps (lookup lookup' : DnsLookup) : Prop where
  key      : lookup'.key = lookup.key
  received : ∀ outcome, lookup.received = some outcome → lookup'.received = some outcome

theorem DnsLookup.Keeps.refl (lookup : DnsLookup) : lookup.Keeps lookup := ⟨rfl, fun _ h => h⟩

/-- There is something to receive only once the task has ended. -/
theorem FlightInv.ended_of_received {s : ResolverSystem} (inv : FlightInv s) {p : Nat}
    {lookup : DnsLookup} (hlookup : s.lookups[p]? = some lookup) {outcome : Outcome}
    (h : lookup.received = some outcome) : lookup.ended = true := by
  by_contra hended
  have htask : lookup.task ≠ .done := by
    intro hdone
    unfold DnsLookup.ended at hended
    rw [hdone] at hended
    exact hended rfl
  unfold DnsLookup.received at h
  rw [inv.silent p lookup hlookup htask] at h
  simp [hended] at h

/-- After its end only the blocking call of a lookup goes on. -/
theorem DnsLookup.advance_ended {event : DnsEvent} {permits permits' : Nat}
    {lookup lookup' : DnsLookup} (h : lookup.advance event permits = some (permits', lookup'))
    (hended : lookup.ended = true) :
    lookup'.task = lookup.task ∧ lookup'.value = lookup.value := by
  unfold advance at h
  split at h
  case h_4 | h_5 | h_6 =>
    obtain ⟨_, -, h⟩ := Option.map_eq_some_iff.mp h
    injection h with _ h
    subst h
    exact ⟨rfl, rfl⟩
  case h_11 => exact absurd h (by simp)
  all_goals
    next htask =>
      unfold ended at hended
      rw [htask] at hended
      exact absurd hended (by simp)

/-- An event keeps the keys and the values of the lookups. -/
theorem FlightInv.lookups_keep {config : ResolverConfig} {s s' : ResolverSystem}
    (inv : FlightInv s) {event : ResolverStep} (h : Resolver.step config event s = some s') :
    Evolves DnsLookup.Keeps s.lookups s'.lookups := by
  cases Resolver.step_cases h with
  | tick | begin | join | cancel => exact .refl DnsLookup.Keeps.refl _
  | @fresh c call outcome =>
    rw [(Resolver.answer_frame s c call outcome).2.1]
    exact .refl DnsLookup.Keeps.refl _
  | @wake c call channel lookup outcome =>
    rw [(Resolver.answer_frame s c call outcome).2.1]
    exact .refl DnsLookup.Keeps.refl _
  | spawn => exact .append DnsLookup.Keeps.refl _ _
  | @lookup p event lookup permits lookup' hlookup hadvance =>
    refine .set DnsLookup.Keeps.refl hlookup ⟨(DnsLookup.advance_spec hadvance).1, ?_⟩
    intro outcome houtcome
    obtain ⟨htask, hvalue⟩ :=
      DnsLookup.advance_ended hadvance (inv.ended_of_received hlookup houtcome)
    unfold DnsLookup.received DnsLookup.ended
    rw [htask, hvalue]
    exact houtcome
  | @record p lookup result hlookup hready =>
    refine .set DnsLookup.Keeps.refl hlookup
      ⟨DnsLookup.recorded_key .., fun outcome houtcome => ?_⟩
    have hended := inv.ended_of_received hlookup houtcome
    exact absurd ((DnsLookup.ready_unrecorded hready).2.symm.trans hended) (by simp)

/-- All that one event can do to a call. -/
inductive CallCases (s s' : ResolverSystem) (c : Nat) (call : ResolveCall) : Prop where
  | same (h : s'.calls[c]? = some call)
  | locked (hphase : call.phase = .begun)
  | cancelled {channel} (hphase : call.phase = .waiting channel)
      (h : s'.calls[c]? = some { call with phase := .cancelled })
  | woken {channel lookup outcome result} (hphase : call.phase = .waiting channel)
      (hlookup : s.lookups[channel]? = some lookup) (hreceived : lookup.received = some outcome)
      (hgets : Gets outcome result)
      (h : s'.calls[c]? = some { call with phase := .returned result })

/-- What an event can do to a call. -/
theorem Resolver.call_cases {config : ResolverConfig} {s s' : ResolverSystem}
    {event : ResolverStep} (h : step config event s = some s') {c : Nat} {call : ResolveCall}
    (hcall : s.calls[c]? = some call) : CallCases s s' c call := by
  cases step_cases h with
  | tick => exact .same hcall
  | begin => exact .same ((List.getElem?_append_left (lt_length hcall)).trans hcall)
  | lookup => exact .same hcall
  | record => exact .same hcall
  | @fresh c' call' outcome hcall' hphase =>
    by_cases hc : c = c'
    · subst hc
      exact .locked (Option.some.inj (hcall.symm.trans hcall') ▸ hphase)
    · obtain ⟨result, -, hcalls⟩ := answer_calls s c' call' outcome
      refine .same ?_
      rw [hcalls]
      exact (List.getElem?_set_ne (Ne.symm hc)).trans hcall
  | @join c' call' channel hcall' hphase =>
    by_cases hc : c = c'
    · subst hc
      exact .locked (Option.some.inj (hcall.symm.trans hcall') ▸ hphase)
    · exact .same ((List.getElem?_set_ne (Ne.symm hc)).trans hcall)
  | @spawn c' call' hcall' hphase =>
    by_cases hc : c = c'
    · subst hc
      exact .locked (Option.some.inj (hcall.symm.trans hcall') ▸ hphase)
    · exact .same ((List.getElem?_set_ne (Ne.symm hc)).trans hcall)
  | @wake c' call' channel lookup outcome hcall' hphase hlookup hreceived =>
    obtain ⟨result, hgets, hcalls⟩ := answer_calls s c' call' outcome
    by_cases hc : c = c'
    · subst hc
      obtain rfl := Option.some.inj (hcall.symm.trans hcall')
      refine .woken hphase hlookup hreceived hgets ?_
      rw [hcalls]
      exact List.getElem?_set_self (lt_length hcall)
    · refine .same ?_
      rw [hcalls]
      exact (List.getElem?_set_ne (Ne.symm hc)).trans hcall
  | @cancel c' call' channel hcall' hphase =>
    by_cases hc : c = c'
    · subst hc
      obtain rfl := Option.some.inj (hcall.symm.trans hcall')
      exact .cancelled hphase (List.getElem?_set_self (lt_length hcall))
    · exact .same ((List.getElem?_set_ne (Ne.symm hc)).trans hcall)

/-- A lookup that ran to its end has sent its outcome. -/
def Published (s : ResolverSystem) : Prop :=
  ∀ (p : Nat) lookup, s.lookups[p]? = some lookup → lookup.task = .done → lookup.value.isSome

/-- A lookup is done when its value is there. -/
theorem DnsLookup.advance_done {event : DnsEvent} {permits permits' : Nat}
    {lookup lookup' : DnsLookup} (h : lookup.advance event permits = some (permits', lookup'))
    (hdone : lookup'.task = .done) :
    lookup'.value.isSome ∨ lookup.task = .done ∧ lookup'.value = lookup.value := by
  unfold advance at h
  split at h
  case h_4 | h_5 | h_6 =>
    obtain ⟨_, -, h⟩ := Option.map_eq_some_iff.mp h
    injection h with _ h
    subst h
    exact .inr ⟨hdone, rfl⟩
  case h_9 outcome htask =>
    injection h with h
    injection h with _ h
    subst h
    exact .inl rfl
  case h_11 => exact absurd h (by simp)
  all_goals
    try split_ifs at h
    injection h with h
    injection h with _ h
    subst h
    exact absurd hdone (by simp)

theorem Published.step {config : ResolverConfig} {s s' : ResolverSystem} (inv : Published s)
    {event : ResolverStep} (h : Resolver.step config event s = some s') : Published s' := by
  cases Resolver.step_cases h with
  | tick | begin | join | cancel => exact inv
  | @fresh c call outcome =>
    unfold Published
    rw [(Resolver.answer_frame s c call outcome).2.1]
    exact inv
  | @wake c call channel lookup outcome =>
    unfold Published
    rw [(Resolver.answer_frame s c call outcome).2.1]
    exact inv
  | spawn =>
    intro p lookup hlookup hdone
    rcases lookup_append_cases hlookup with ⟨-, rfl⟩ | hold
    · exact absurd hdone (by simp [DnsLookup.spawn])
    · exact inv p lookup hold hdone
  | @lookup p event lookup permits lookup' hlookup hadvance =>
    intro q other hother hdone
    rcases lookup_set_cases hlookup hother with ⟨-, rfl⟩ | ⟨-, hold⟩
    · rcases DnsLookup.advance_done hadvance hdone with hvalue | ⟨hbefore, hsame⟩
      · exact hvalue
      · exact hsame ▸ inv p lookup hlookup hbefore
    · exact inv q other hold hdone
  | @record p lookup result hlookup hready =>
    intro q other hother hdone
    rcases lookup_set_cases hlookup hother with ⟨-, rfl⟩ | ⟨-, hold⟩
    · exact absurd hdone (DnsLookup.not_done_of_ended (DnsLookup.recorded_ended ..))
    · exact inv q other hold hdone

/-- What a channel yields was sent on it, unless the task died or its section
panicked. -/
theorem Published.received_cases {s : ResolverSystem} (inv : Published s) {p : Nat}
    {lookup : DnsLookup} (hlookup : s.lookups[p]? = some lookup) {outcome : Outcome}
    (hreceived : lookup.received = some outcome) :
    lookup.task = .died ∨ lookup.task = .panicked ∨ lookup.value = some outcome := by
  unfold DnsLookup.received at hreceived
  split at hreceived
  · next value hvalue => exact .inr (.inr (hvalue.trans hreceived))
  · next hvalue =>
    -- an ended task without a value has not sent any
    split_ifs at hreceived with hended
    unfold DnsLookup.ended at hended
    split at hended
    · next hdone =>
      have hsome := inv p lookup hlookup hdone
      rw [hvalue] at hsome
      exact absurd hsome (by simp)
    · next hdied => exact .inl hdied
    · next hpanicked => exact .inr (.inl hpanicked)
    · exact absurd hended (by simp)

/-- A call can take what its channel yields. -/
theorem Resolver.step_wake {s : ResolverSystem} {c p : Nat} {call : ResolveCall}
    {lookup : DnsLookup} {outcome : Outcome} (config : ResolverConfig)
    (hcall : s.calls[c]? = some call) (hwait : call.phase = .waiting p)
    (hlookup : s.lookups[p]? = some lookup) (hreceived : lookup.received = some outcome) :
    step config (.wake c) s = some (answer s c call outcome) := by
  unfold step
  dsimp only
  rw [hcall, Option.bind_some, hwait]
  dsimp only
  rw [hlookup, Option.bind_some, hreceived]
  rfl

/-- A lookup that is ready enters its section. -/
theorem Resolver.step_record {s : ResolverSystem} {p : Nat} {lookup : DnsLookup}
    {result : DnsResult} (config : ResolverConfig) (hlookup : s.lookups[p]? = some lookup)
    (hready : lookup.ready = some result) :
    step config (.record p) s = some (recordSection config s p lookup result) := by
  unfold step
  dsimp only
  rw [hlookup, Option.bind_some, hready]
  rfl

/-- Addresses that were found are cached, unless the clock cannot represent how
long. -/
theorem Resolver.store_found {addrs : List SocketAddr} (hne : addrs ≠ [])
    {config : ResolverConfig} {now p freshUntil staleUntil : Nat}
    (hfresh : later now config.ttl = some freshUntil)
    (hstale : later freshUntil staleIfError = some staleUntil) (cache : DnsCache)
    (key : ResolverKey) :
    (store config now cache key p (.ok addrs)).1 = some (.ok ⟨addrs, p⟩) ∧
      (store config now cache key p (.ok addrs)).2.lookup key =
        some ⟨some ⟨addrs, p⟩, freshUntil, staleUntil⟩ := by
  obtain ⟨addr, rest, rfl⟩ := List.exists_cons_of_ne_nil hne
  have hgood : goodEntry config now ⟨addr :: rest, p⟩ =
      some ⟨some ⟨addr :: rest, p⟩, freshUntil, staleUntil⟩ :=
    goodEntry_eq_some_iff.mpr ⟨_, _, hfresh, hstale, rfl⟩
  unfold store
  dsimp only
  rw [hgood]
  refine ⟨rfl, ?_⟩
  dsimp only
  rw [Map.lookup_insert, if_pos rfl]

/-- Where a call that joined a slot can be. -/
def JoinedPhase (p : Nat) (lookup : DnsLookup) (phase : ResolvePhase) : Prop :=
  phase = .waiting p ∨ phase = .cancelled ∨
    ∃ outcome result, lookup.received = some outcome ∧ phase = .returned result ∧
      Gets outcome result

/-- Call `c` joined the slot of lookup `p`. -/
structure Joined (c p : Nat) (key : ResolverKey) (s : ResolverSystem) : Prop where
  joined : ∃ call lookup, s.calls[c]? = some call ∧ s.lookups[p]? = some lookup ∧
    lookup.key = key ∧ JoinedPhase p lookup call.phase

/-- A joined call stays joined until it returns. -/
theorem Joined.step {config : ResolverConfig} {c p : Nat} {key : ResolverKey}
    {s s' : ResolverSystem} (h : Joined c p key s) (inv : FlightInv s) {event : ResolverStep}
    (hstep : Resolver.step config event s = some s') : Joined c p key s' := by
  obtain ⟨call, lookup, hcall, hlookup, hkey, hphase⟩ := h
  obtain ⟨lookup', hlookup', hkeeps⟩ := inv.lookups_keep hstep p lookup hlookup
  have hkey' : lookup'.key = key := hkeeps.key.trans hkey
  cases Resolver.call_cases hstep hcall with
  | same hcall' =>
    refine ⟨call, lookup', hcall', hlookup', hkey', ?_⟩
    rcases hphase with hwait | hgone | ⟨outcome, result, hreceived, hreturned, hgets⟩
    · exact .inl hwait
    · exact .inr (.inl hgone)
    · exact .inr (.inr ⟨outcome, result, hkeeps.received outcome hreceived, hreturned, hgets⟩)
  | locked hbegun =>
    rcases hphase with hwait | hgone | ⟨outcome, result, -, hreturned, -⟩
    · exact absurd (hbegun.symm.trans hwait) (by simp)
    · exact absurd (hbegun.symm.trans hgone) (by simp)
    · exact absurd (hbegun.symm.trans hreturned) (by simp)
  | cancelled _ hcall' => exact ⟨_, lookup', hcall', hlookup', hkey', .inr (.inl rfl)⟩
  | @woken channel woken outcome result hwaiting hwoken hreceived hgets hcall' =>
    refine ⟨_, lookup', hcall', hlookup', hkey', .inr (.inr ⟨outcome, result, ?_, rfl, hgets⟩)⟩
    -- it was woken by the channel it waited on
    rcases hphase with hwait | hgone | ⟨_, _, -, hreturned, -⟩
    · obtain rfl : channel = p := by
        have := hwaiting.symm.trans hwait
        injection this
      obtain rfl : woken = lookup := Option.some.inj (hwoken.symm.trans hlookup)
      exact hkeeps.received outcome hreceived
    · exact absurd (hwaiting.symm.trans hgone) (by simp)
    · exact absurd (hwaiting.symm.trans hreturned) (by simp)

/-- A joined call stays joined in any run until it returns. -/
theorem Joined.run {config : ResolverConfig} {c p : Nat} {key : ResolverKey}
    {s s' : ResolverSystem} (h : Joined c p key s) (inv : FlightInv s) {es : List ResolverStep}
    (hrun : (resolverMachine config).run es s = some s') : Joined c p key s' := by
  have hstep : ∀ {event : ResolverStep} {s s' : ResolverSystem},
      FlightInv s ∧ Joined c p key s → (resolverMachine config).step event s = some s' →
      FlightInv s' ∧ Joined c p key s' :=
    fun hs hstep => ⟨hs.1.step hstep, hs.2.step hs.1 hstep⟩
  exact (Machine.run_invariant hstep ⟨inv, h⟩ hrun).2

-- ---------------------------------------------------------------------------
-- The resolver
-- ---------------------------------------------------------------------------

/-- Everything that holds in every reachable state. -/
structure FlightsInv (config : ResolverConfig) (s : ResolverSystem) : Prop where
  answers   : AnswerInv config s
  order     : OrderInv s
  permits   : PermitInv config s
  published : Published s

theorem flights_inv {config : ResolverConfig} {s : ResolverSystem}
    (h : (resolverMachine config).Reachable s) : FlightsInv config s := by
  have hinit : FlightsInv config (Resolver.start config) :=
    ⟨.start config, .start config, .start config,
      fun p lookup h => absurd h (by simp [Resolver.start])⟩
  exact h.invariant (fun hs => hs ▸ hinit) fun inv hstep =>
    ⟨inv.answers.step hstep, inv.order.step inv.answers hstep, inv.permits.step hstep,
      inv.published.step hstep⟩

/-- What single-flight resolution and its cap promise of a state. -/
structure SingleFlight (config : ResolverConfig) (s : ResolverSystem) : Prop where
  /-- A key has one lookup between registration and the recording of its
  result. -/
  single : ∀ (p q : Nat) lookup other, s.lookups[p]? = some lookup → s.lookups[q]? = some other →
    lookup.key = other.key → lookup.unrecorded = true → other.unrecorded = true → p = q
  /-- Of two lookups of a key, the result of the first was recorded first, unless
  its section panicked. -/
  ordered : ∀ (p q : Nat) lookup other, p < q → s.lookups[p]? = some lookup →
    s.lookups[q]? = some other → lookup.key = other.key → lookup.unrecorded = false ∧
    (lookup.lost = false → ∃ result time, lookup.stored = some (result, time) ∧
      ∀ result' time', other.stored = some (result', time') → time ≤ time')
  /-- The cached answer is that of the last lookup of the key that found one. -/
  newest : ∀ key entry answer, s.state.cache.lookup key = some entry →
    entry.addrs = some answer → ∀ (q : Nat) other addrs time, s.lookups[q]? = some other →
      other.key = key → other.stored = some (.ok addrs, time) → addrs ≠ [] → q ≤ answer.lookup
  /-- Blocking calls that run, whether or not anybody waits for them. -/
  capped : s.lookups.countP DnsLookup.running ≤ max 1 config.maxConcurrent
  /-- A call that waits for a lookup returns nothing but that lookup's outcome,
  unless its task died or panicked, and can return it once the task is done. -/
  callers : ∀ (c : Nat) call p, s.calls[c]? = some call → call.phase = .waiting p →
    ∀ es s', (resolverMachine config).run es s = some s' →
      ∃ call' lookup, s'.calls[c]? = some call' ∧ s'.lookups[p]? = some lookup ∧
        lookup.key = call.key ∧
        (call'.phase = .waiting p ∨ call'.phase = .cancelled ∨
          ∃ result, call'.phase = .returned result ∧
            (lookup.task = .died ∨ lookup.task = .panicked ∨
              ∃ outcome, lookup.value = some outcome ∧ Gets outcome result)) ∧
        (lookup.task = .done → call'.phase = .waiting p →
          ∃ outcome result s'', lookup.value = some outcome ∧ Gets outcome result ∧
            Resolver.step config (.wake c) s' = some s'' ∧
            s''.calls[c]? = some { call' with phase := .returned result })
  /-- A lookup that comes to its locked section records its result, and
  addresses are cached, whatever has become of the calls. Only where the clock
  cannot represent how long does it panic. -/
  cached : ∀ (p : Nat) lookup result, s.lookups[p]? = some lookup → lookup.ready = some result →
    ∃ s', Resolver.step config (.record p) s = some s' ∧
      s'.lookups[p]? = some (lookup.recorded s.clock result
        (Resolver.store config s.clock s.state.cache lookup.key p result).1) ∧
      ∀ addrs freshUntil staleUntil, result = .ok addrs → addrs ≠ [] →
        later s.clock config.ttl = some freshUntil →
        later freshUntil Resolver.staleIfError = some staleUntil →
        (Resolver.store config s.clock s.state.cache lookup.key p result).1 =
            some (.ok ⟨addrs, p⟩) ∧
          s'.state.cache.lookup lookup.key = some ⟨some ⟨addrs, p⟩, freshUntil, staleUntil⟩

/-- **Single flight.** In every reachable state of the resolver, whatever the
names, the interleaving of calls and lookups and the callers that gave up. -/
theorem single_flight {config : ResolverConfig} {s : ResolverSystem}
    (hr : (resolverMachine config).Reachable s) : SingleFlight config s := by
  have inv := flights_inv hr
  refine ⟨?_, ?_, inv.order.newest, ?_, ?_, ?_⟩
  · intro p q lookup other hlookup hother hkey hun hun'
    have hslot := inv.answers.flight.flying p lookup hlookup hun
    have hslot' := inv.answers.flight.flying q other hother hun'
    rw [hkey, hslot'] at hslot
    exact (Option.some.inj hslot).symm
  · intro p q lookup other hlt hlookup hother hkey
    have hrecorded := inv.order.ordered p q lookup other hlt hlookup hother hkey
    refine ⟨hrecorded, fun hkept => ?_⟩
    obtain ⟨⟨result, time⟩, hstored⟩ :=
      Option.isSome_iff_exists.mp (inv.order.recorded p lookup hlookup hrecorded hkept)
    exact ⟨result, time, hstored, fun result' time' hstored' =>
      inv.order.times p q lookup other result result' time time' hlt hlookup hother hkey hstored
        hstored'⟩
  · have hholders : s.lookups.countP DnsLookup.running ≤
        s.lookups.countP DnsLookup.holdsPermit :=
      List.countP_mono_left fun lookup _ h => DnsLookup.holdsPermit_of_running h
    have := inv.permits.total
    omega
  · intro c call p hcall hphase es s' hrun
    obtain ⟨channel, hchannel, hkey, -⟩ := (answer_inv hr).waiting c call p hcall hphase
    have hjoined : Joined c p call.key s := ⟨call, channel, hcall, hchannel, hkey, .inl hphase⟩
    obtain ⟨call', lookup, hcall', hlookup, hkey', hphase'⟩ := hjoined.run inv.answers.flight hrun
    have inv' := flights_inv (hr.run hrun)
    refine ⟨call', lookup, hcall', hlookup, hkey', ?_, fun hdone hwait => ?_⟩
    · rcases hphase' with hwait | hgone | ⟨outcome, result, hreceived, hreturned, hgets⟩
      · exact .inl hwait
      · exact .inr (.inl hgone)
      · refine .inr (.inr ⟨result, hreturned, ?_⟩)
        rcases inv'.published.received_cases hlookup hreceived with hdied | hpanicked | hvalue
        · exact .inl hdied
        · exact .inr (.inl hpanicked)
        · exact .inr (.inr ⟨outcome, hvalue, hgets⟩)
    · obtain ⟨outcome, hvalue⟩ :=
        Option.isSome_iff_exists.mp (inv'.published p lookup hlookup hdone)
      have hreceived : lookup.received = some outcome := by
        unfold DnsLookup.received
        rw [hvalue]
      obtain ⟨result, hgets, hcalls⟩ := Resolver.answer_calls s' c call' outcome
      refine ⟨outcome, result, Resolver.answer s' c call' outcome, hvalue, hgets,
        Resolver.step_wake config hcall' hwait hlookup hreceived, ?_⟩
      rw [hcalls]
      exact List.getElem?_set_self (lt_length hcall')
  · intro p lookup result hlookup hready
    refine ⟨Resolver.recordSection config s p lookup result,
      Resolver.step_record config hlookup hready, List.getElem?_set_self (lt_length hlookup), ?_⟩
    intro addrs freshUntil staleUntil hresult hne hfresh hstale
    subst hresult
    exact Resolver.store_found hne hfresh hstale s.state.cache lookup.key

/-- With one permit: the lookup of a second name has registered, and the caller
of the first one has given up. -/
theorem single_flight_at :
    ∃ s : ResolverSystem,
      (resolverMachine (.new 0 0)).run
        [.begin ⟨[97], 443⟩, .locked 0, .lookup 0 .permit, .begin ⟨[98], 443⟩, .locked 1,
          .cancel 0] (Resolver.start (.new 0 0)) = some s ∧
      s.lookups.length = 2 ∧ SingleFlight (.new 0 0) s := by
  obtain ⟨s, hrun, hlen⟩ : ∃ s, (resolverMachine (.new 0 0)).run
      [.begin ⟨[97], 443⟩, .locked 0, .lookup 0 .permit, .begin ⟨[98], 443⟩, .locked 1,
        .cancel 0] (Resolver.start (.new 0 0)) = some s ∧ s.lookups.length = 2 :=
    Option.map_eq_some_iff.mp (by decide +kernel)
  exact ⟨s, hrun, hlen, single_flight ⟨_, _, rfl, hrun⟩⟩

end SniRouter
