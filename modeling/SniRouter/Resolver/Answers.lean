import SniRouter.Resolver.Flight

/-!
# SniRouter — where resolved addresses come from

* `store_cases` — what recording a result does to the cache.
* `FoundAt` — a lookup of the key found the addresses at some time.
* `AnswerInv` — cached, published and returned addresses were all found by a
  lookup of their key, and a cached answer knows the end of its stale window.
-/

namespace SniRouter

open Table

namespace Resolver

-- ---------------------------------------------------------------------------
-- Recording a result
-- ---------------------------------------------------------------------------

/-- A result without addresses. -/
def Failed (result : DnsResult) : Prop :=
  match result with
  | .ok addrs => addrs = []
  | .error _ => True

instance (result : DnsResult) : Decidable (Failed result) :=
  match result with
  | .ok addrs => inferInstanceAs (Decidable (addrs = []))
  | .error _ => .isTrue trivial

/-- Pruning drops entries, and only those that are neither fresh nor stale. -/
theorem lookup_prune (config : ResolverConfig) (now : Nat) (cache : DnsCache) (key : ResolverKey) :
    (prune config now cache).lookup key = cache.lookup key ∨
      (prune config now cache).lookup key = none ∧
        ∀ entry, cache.lookup key = some entry → max entry.staleUntil entry.freshUntil ≤ now := by
  unfold prune
  split_ifs
  · rw [Map.lookup_retain]
    cases hentry : cache.lookup key with
    | none => exact .inl rfl
    | some entry =>
      by_cases hlive : now < max entry.staleUntil entry.freshUntil
      · left
        rw [Option.filter_some, if_pos (decide_eq_true hlive)]
      · right
        rw [Option.filter_some, if_neg (by simpa using hlive)]
        refine ⟨rfl, fun entry' h => ?_⟩
        injection h with h
        rw [← h]
        exact Nat.not_lt.mp hlive
  · exact .inl rfl

/-- What is left after pruning was there before. -/
theorem lookup_of_prune {config : ResolverConfig} {now : Nat} {cache : DnsCache}
    {key : ResolverKey} {entry : DnsEntry} (h : (prune config now cache).lookup key = some entry) :
    cache.lookup key = some entry := by
  rcases lookup_prune config now cache key with hsame | ⟨hnone, -⟩
  · exact hsame.symm.trans h
  · exact absurd (hnone.symm.trans h) (by simp)

/-- All that recording a result can do: the outcome, and what the key has in the
cache afterwards. -/
inductive StoreCases (config : ResolverConfig) (now : Nat) (cache : DnsCache) (key : ResolverKey)
    (p : Nat) (result : DnsResult) : Option Outcome → Option DnsEntry → Prop where
  | found {addrs freshUntil staleUntil} (hresult : result = .ok addrs) (hne : addrs ≠ [])
      (hfresh : later now config.ttl = some freshUntil)
      (hstale : later freshUntil staleIfError = some staleUntil) :
      StoreCases config now cache key p result (some (.ok ⟨addrs, p⟩))
        (some ⟨some ⟨addrs, p⟩, freshUntil, staleUntil⟩)
  | kept {entry addrs freshUntil} (hfailed : Failed result)
      (hentry : cache.lookup key = some entry) (haddrs : entry.addrs = some addrs)
      (hnow : now < entry.staleUntil) (hfresh : later now negativeTtl = some freshUntil) :
      StoreCases config now cache key p result (some (.ok addrs))
        (some { entry with freshUntil := freshUntil })
  | failed {error freshUntil staleUntil} (hfailed : Failed result)
      (hfresh : later now negativeTtl = some freshUntil) :
      StoreCases config now cache key p result (some (.error error))
        (some ⟨none, freshUntil, staleUntil⟩)
  /-- `later` panicked: what addresses there are, are those of before. -/
  | panicked {entry}
      (hold : ∀ old ∈ entry, old.addrs.isSome → cache.lookup key = some old) :
      StoreCases config now cache key p result none entry

/-- What a cache with an entry in the place of another holds. -/
def PutEntry (cache cache' : DnsCache) (key : ResolverKey) (entry : Option DnsEntry) : Prop :=
  ∀ key', cache'.lookup key' = if key' = key then entry else cache.lookup key'

/-- An insertion puts one entry. -/
theorem putEntry_insert (cache : DnsCache) (key : ResolverKey) (entry : DnsEntry) :
    PutEntry cache (cache.insert key entry) key (some entry) :=
  fun key' => Map.lookup_insert cache key key' entry

/-- Within its stale window, the last good answer is used after a failure. -/
theorem storeFailure_kept {now freshUntil : Nat} {cache : DnsCache} {key : ResolverKey}
    {entry : DnsEntry} {addrs : Addresses} (hfresh : later now negativeTtl = some freshUntil)
    (hentry : cache.lookup key = some entry) (haddrs : entry.addrs = some addrs)
    (hnow : now < entry.staleUntil) (error : IoError) :
    storeFailure now cache key error =
      (some (.ok addrs), cache.insert key { entry with freshUntil := freshUntil }) := by
  unfold storeFailure
  rw [hfresh, hentry]
  simp only [Option.getD_some, haddrs, Option.filter_some, hnow, decide_true, if_true]

/-- Where there is none, or its window is over, the failure is the outcome. -/
theorem storeFailure_failed {now freshUntil : Nat} {cache : DnsCache} {key : ResolverKey}
    (hfresh : later now negativeTtl = some freshUntil)
    (hover : ∀ entry ∈ cache.lookup key, entry.addrs.isSome → entry.staleUntil ≤ now)
    (error : IoError) :
    ∃ staleUntil, storeFailure now cache key error =
      (some (.error error), cache.insert key ⟨none, freshUntil, staleUntil⟩) := by
  unfold storeFailure
  rw [hfresh]
  cases hentry : cache.lookup key with
  | none => exact ⟨now, rfl⟩
  | some entry =>
    refine ⟨entry.staleUntil, ?_⟩
    cases haddrs : entry.addrs with
    | none => simp only [Option.getD_some, haddrs, Option.filter_none]
    | some addrs =>
      have hnot : ¬now < entry.staleUntil :=
        Nat.not_lt.mpr (hover entry hentry (by rw [haddrs]; rfl))
      simp only [Option.getD_some, haddrs, Option.filter_some, hnot, decide_false,
        Bool.false_eq_true, if_false]

/-- The entry is made before the panic. -/
theorem storeFailure_panicked {now : Nat} (hfresh : later now negativeTtl = none)
    (cache : DnsCache) (key : ResolverKey) (error : IoError) :
    storeFailure now cache key error =
      (none, cache.insert key ((cache.lookup key).getD ⟨none, now, now⟩)) := by
  unfold storeFailure
  rw [hfresh]

/-- A failure leaves the key with what `StoreCases` says of failures. -/
theorem storeFailure_cases {config : ResolverConfig} {now : Nat} {cache cache' : DnsCache}
    {key : ResolverKey} {p : Nat} {result : DnsResult} (hfailed : Failed result)
    (hcache : ∀ entry, cache'.lookup key = some entry → cache.lookup key = some entry)
    (error : IoError) :
    ∃ entry, PutEntry cache' (storeFailure now cache' key error).2 key entry ∧
      StoreCases config now cache key p result (storeFailure now cache' key error).1 entry := by
  cases hfresh : later now negativeTtl with
  | none =>
    rw [storeFailure_panicked hfresh]
    refine ⟨_, putEntry_insert _ _ _, .panicked fun old hold haddrs => ?_⟩
    obtain rfl := Option.some.inj hold
    cases hlookup : cache'.lookup key with
    | none =>
      rw [hlookup] at haddrs
      exact absurd haddrs (by simp)
    | some entry => exact hcache entry hlookup
  | some freshUntil =>
    by_cases hkept : ∃ entry addrs, cache'.lookup key = some entry ∧ entry.addrs = some addrs ∧
        now < entry.staleUntil
    · obtain ⟨entry, addrs, hentry, haddrs, hnow⟩ := hkept
      rw [storeFailure_kept hfresh hentry haddrs hnow]
      exact ⟨_, putEntry_insert _ _ _, .kept hfailed (hcache entry hentry) haddrs hnow hfresh⟩
    · have hover : ∀ entry ∈ cache'.lookup key, entry.addrs.isSome → entry.staleUntil ≤ now := by
        intro entry hentry haddrs
        by_contra hnow
        obtain ⟨addrs, haddrs⟩ := Option.isSome_iff_exists.mp haddrs
        exact hkept ⟨entry, addrs, hentry, haddrs, Nat.not_le.mp hnow⟩
      obtain ⟨staleUntil, hstore⟩ := storeFailure_failed hfresh hover error
      rw [hstore]
      exact ⟨_, putEntry_insert _ _ _, .failed hfailed hfresh⟩

/-- What the entry of a good answer consists of. -/
theorem goodEntry_eq_some_iff {config : ResolverConfig} {now : Nat} {addrs : Addresses}
    {entry : DnsEntry} : goodEntry config now addrs = some entry ↔
      ∃ freshUntil staleUntil, later now config.ttl = some freshUntil ∧
        later freshUntil staleIfError = some staleUntil ∧
        entry = ⟨some addrs, freshUntil, staleUntil⟩ := by
  unfold goodEntry
  rw [Option.bind_eq_some_iff]
  refine exists_congr fun freshUntil => ?_
  rw [Option.map_eq_some_iff]
  constructor
  · rintro ⟨hfresh, staleUntil, hstale, rfl⟩
    exact ⟨staleUntil, hfresh, hstale, rfl⟩
  · rintro ⟨staleUntil, hfresh, hstale, rfl⟩
    exact ⟨hfresh, staleUntil, hstale, rfl⟩

/-- What storing any result can do, case by case. -/
theorem store_cases (config : ResolverConfig) (now : Nat) (cache : DnsCache) (key : ResolverKey)
    (p : Nat) (result : DnsResult) :
    ∃ entry,
      PutEntry (prune config now cache) (store config now cache key p result).2 key entry ∧
      StoreCases config now cache key p result (store config now cache key p result).1 entry := by
  unfold store
  dsimp only
  split
  · next addr addrs =>
    cases hgood : goodEntry config now ⟨addr :: addrs, p⟩ with
    | none =>
      refine ⟨(prune config now cache).lookup key, fun key' => ?_, .panicked ?_⟩
      · split_ifs with hkey
        · rw [hkey]
        · rfl
      · exact fun old hold _ => lookup_of_prune hold
    | some entry =>
      obtain ⟨freshUntil, staleUntil, hfresh, hstale, rfl⟩ := goodEntry_eq_some_iff.mp hgood
      exact ⟨_, putEntry_insert _ _ _, .found rfl (by simp) hfresh hstale⟩
  · next hother =>
    refine storeFailure_cases ?_ (fun entry h => lookup_of_prune h) _
    unfold Failed
    split
    · next addrs =>
      cases addrs with
      | nil => rfl
      | cons addr addrs => exact absurd rfl (hother addr addrs)
    · trivial

end Resolver

-- ---------------------------------------------------------------------------
-- Where answers come from
-- ---------------------------------------------------------------------------

/-- A lookup of the key found the addresses; its result was recorded at
`time`. -/
def FoundAt (lookups : List DnsLookup) (key : ResolverKey) (answer : Addresses) (time : Nat) :
    Prop :=
  answer.addrs ≠ [] ∧ ∃ lookup, lookups[answer.lookup]? = some lookup ∧ lookup.key = key ∧
    lookup.stored = some (.ok answer.addrs, time)

/-- What a lookup keeps from one event to the next. -/
structure DnsLookup.Extends (lookup lookup' : DnsLookup) : Prop where
  key    : lookup'.key = lookup.key
  stored : ∀ x, lookup.stored = some x → lookup'.stored = some x

theorem DnsLookup.Extends.refl (lookup : DnsLookup) : lookup.Extends lookup := ⟨rfl, fun _ h => h⟩

/-- Nothing was recorded of a lookup that comes to its section. -/
theorem DnsLookup.recorded_extends {lookup : DnsLookup} (hnone : lookup.stored = none) (now : Nat)
    (result : DnsResult) (outcome : Option Outcome) :
    lookup.Extends (lookup.recorded now result outcome) :=
  ⟨recorded_key .., fun _ hx => absurd (hnone.symm.trans hx) (by simp)⟩

theorem FoundAt.mono {lookups lookups' : List DnsLookup} {key : ResolverKey} {answer : Addresses}
    {time : Nat} (hext : Evolves DnsLookup.Extends lookups lookups')
    (h : FoundAt lookups key answer time) : FoundAt lookups' key answer time := by
  obtain ⟨hne, lookup, hlookup, hkey, hstored⟩ := h
  obtain ⟨lookup', hlookup', hle⟩ := hext _ lookup hlookup
  exact ⟨hne, lookup', hlookup', hle.key.trans hkey, hle.stored _ hstored⟩

/-- The outcome of a lookup that has been recorded. -/
def DnsLookup.outcome (lookup : DnsLookup) : Option Outcome :=
  match lookup.task with
  | .publishing outcome => some outcome
  | _ => lookup.value

/-- Up to `last` an answer recorded at `time` may be used. -/
def StaleEnd (config : ResolverConfig) (time last : Nat) : Prop :=
  ∃ freshUntil, later time config.ttl = some freshUntil ∧
    later freshUntil Resolver.staleIfError = some last

/-- An answer recorded at `time` was given out at `now`: at once, or within its
stale window. -/
def Usable (config : ResolverConfig) (time now : Nat) : Prop :=
  now = time ∨ ∃ last, StaleEnd config time last ∧ now < last

/-- Outside its section a lookup neither records anything nor changes its
outcome. -/
theorem DnsLookup.advance_outcome {event : DnsEvent} {permits permits' : Nat}
    {lookup lookup' : DnsLookup} (h : lookup.advance event permits = some (permits', lookup')) :
    lookup'.outcome = lookup.outcome := by
  unfold advance at h
  split at h
  case h_4 | h_5 | h_6 =>
    obtain ⟨_, -, h⟩ := Option.map_eq_some_iff.mp h
    injection h with _ h
    subst h
    rfl
  case h_11 => exact absurd h (by simp)
  all_goals
    next htask =>
      try split_ifs at h
      injection h with h
      injection h with _ h
      subst h
      unfold outcome
      rw [htask]

/-- What holds in every reachable state of the resolver. -/
structure AnswerInv (config : ResolverConfig) (s : ResolverSystem) : Prop where
  flight   : FlightInv s
  clock    : s.clock ≤ maxInstant
  unstored : ∀ (p : Nat) lookup, s.lookups[p]? = some lookup → lookup.unrecorded = true →
    lookup.stored = none
  entries  : ∀ key entry answer, s.state.cache.lookup key = some entry →
    entry.addrs = some answer →
    ∃ time, FoundAt s.lookups key answer time ∧ StaleEnd config time entry.staleUntil
  outcomes : ∀ (p : Nat) lookup answer, s.lookups[p]? = some lookup →
    lookup.outcome = some (.ok answer) →
    ∃ time, FoundAt s.lookups lookup.key answer time ∧ ∃ result recorded,
      lookup.stored = some (result, recorded) ∧ Usable config time recorded
  begun    : ∀ (c : Nat) call, s.calls[c]? = some call → call.started ≤ s.clock
  waiting  : ∀ (c : Nat) call channel, s.calls[c]? = some call → call.phase = .waiting channel →
    ∃ lookup, s.lookups[channel]? = some lookup ∧ lookup.key = call.key ∧
      ∀ result recorded, lookup.stored = some (result, recorded) → call.started ≤ recorded
  turns    : ∀ turn ∈ s.turns, (∃ time, FoundAt s.lookups turn.key turn.answer time) ∧
    turn.result = Resolver.rotated turn.rotation turn.answer.addrs
  returned : ∀ (c : Nat) call result, s.calls[c]? = some call →
    call.phase = .returned (.ok result) →
    ∃ turn ∈ s.turns, turn.key = call.key ∧ turn.started = call.started ∧ turn.result = result

namespace AnswerInv

variable {config : ResolverConfig} {s s' : ResolverSystem}

theorem start (config : ResolverConfig) : AnswerInv config (Resolver.start config) where
  flight := .start config
  clock := Nat.zero_le _
  unstored p lookup h := absurd h (by simp [Resolver.start])
  entries key entry answer h := absurd h (by simp [Resolver.start])
  outcomes p lookup answer h := absurd h (by simp [Resolver.start])
  begun c call h := absurd h (by simp [Resolver.start])
  waiting c call channel h := absurd h (by simp [Resolver.start])
  turns turn h := absurd h (by simp [Resolver.start])
  returned c call result h := absurd h (by simp [Resolver.start])

/-- A call comes to another phase. -/
theorem setPhase (inv : AnswerInv config s) {c : Nat} {call : ResolveCall}
    (hcall : s.calls[c]? = some call) {phase : ResolvePhase}
    (hwaiting : ∀ channel, phase = .waiting channel →
      ∃ lookup, s.lookups[channel]? = some lookup ∧ lookup.key = call.key ∧
        ∀ result recorded, lookup.stored = some (result, recorded) → call.started ≤ recorded)
    (hreturned : ∀ result, phase = .returned (.ok result) →
      ∃ turn ∈ s.turns, turn.key = call.key ∧ turn.started = call.started ∧
        turn.result = result) :
    AnswerInv config (Resolver.setPhase s c call phase) := by
  have hset : ∀ {c' : Nat} {call' : ResolveCall},
      (Resolver.setPhase s c call phase).calls[c']? = some call' →
      call' = { call with phase := phase } ∨ s.calls[c']? = some call' := by
    intro c' call' h
    rcases lookup_set_cases hcall h with ⟨-, hnew⟩ | ⟨-, hold⟩
    · exact .inl hnew
    · exact .inr hold
  refine ⟨inv.flight.frame rfl rfl, inv.clock, inv.unstored, inv.entries, inv.outcomes, ?_, ?_,
    inv.turns, ?_⟩
  · intro c' call' h
    rcases hset h with rfl | hold
    · exact inv.begun c call hcall
    · exact inv.begun c' call' hold
  · intro c' call' channel h hphase
    rcases hset h with rfl | hold
    · exact hwaiting channel hphase
    · exact inv.waiting c' call' channel hold hphase
  · intro c' call' result h hphase
    rcases hset h with rfl | hold
    · exact hreturned result hphase
    · exact inv.returned c' call' result hold hphase

/-- One more call has its turn. -/
theorem pushTurn (inv : AnswerInv config s) {turn : Turn}
    (hfound : ∃ time, FoundAt s.lookups turn.key turn.answer time)
    (hrotated : turn.result = Resolver.rotated turn.rotation turn.answer.addrs)
    (rotation : UInt64) :
    AnswerInv config { s with rotation := rotation, turns := s.turns ++ [turn] } := by
  refine ⟨inv.flight.frame rfl rfl, inv.clock, inv.unstored, inv.entries, inv.outcomes, inv.begun,
    inv.waiting, ?_, ?_⟩
  · intro turn' hmem
    rcases List.mem_append.mp hmem with hold | hnew
    · exact inv.turns turn' hold
    · rw [List.mem_singleton.mp hnew]
      exact ⟨hfound, hrotated⟩
  · intro c call result hcall hphase
    obtain ⟨turn', hmem, hrest⟩ := inv.returned c call result hcall hphase
    exact ⟨turn', List.mem_append_left _ hmem, hrest⟩

/-- A call gets its outcome. -/
theorem answer (inv : AnswerInv config s) {c : Nat} {call : ResolveCall}
    (hcall : s.calls[c]? = some call) {outcome : Outcome}
    (hfound : ∀ answer, outcome = .ok answer →
      ∃ time, FoundAt s.lookups call.key answer time) :
    AnswerInv config (Resolver.answer s c call outcome) := by
  unfold Resolver.answer
  cases outcome with
  | error error =>
    exact inv.setPhase hcall (fun _ h => absurd h (by simp)) (fun _ h => absurd h (by simp))
  | ok answer =>
    let turn : Turn := ⟨call.key, call.started, s.rotation, answer,
      Resolver.rotated s.rotation answer.addrs⟩
    have hfound : ∃ time, FoundAt s.lookups turn.key turn.answer time := hfound answer rfl
    have hturn := inv.pushTurn hfound rfl (s.rotation + 1)
    refine hturn.setPhase hcall (fun _ h => absurd h (by simp)) ?_
    intro result hresult
    injection hresult with hresult
    injection hresult with hresult
    exact ⟨_, List.mem_append_right _ List.mem_cons_self, rfl, rfl, hresult⟩

/-- Turns stay accounted for as the lookups go on. -/
theorem turns_mono (inv : AnswerInv config s) {lookups : List DnsLookup}
    (hext : Evolves DnsLookup.Extends s.lookups lookups) :
    ∀ turn ∈ s.turns, (∃ time, FoundAt lookups turn.key turn.answer time) ∧
      turn.result = Resolver.rotated turn.rotation turn.answer.addrs := by
  intro turn hmem
  obtain ⟨⟨time, hfound⟩, hrotated⟩ := inv.turns turn hmem
  exact ⟨⟨time, hfound.mono hext⟩, hrotated⟩

/-- A call that finds nothing starts a lookup. -/
theorem spawn (inv : AnswerInv config s) {key : ResolverKey}
    (hslot : s.state.inflight.lookup key = none) :
    AnswerInv config { s with
      state := { s.state with inflight := s.state.inflight.insert key s.lookups.length }
      lookups := s.lookups ++ [.spawn key] } := by
  have hext : Evolves DnsLookup.Extends s.lookups (s.lookups ++ [.spawn key]) :=
    .append DnsLookup.Extends.refl _ _
  refine ⟨inv.flight.spawn hslot, inv.clock, ?_, ?_, ?_, inv.begun, ?_,
    inv.turns_mono hext, inv.returned⟩
  · intro p lookup h hunrecorded
    rcases lookup_append_cases h with ⟨-, rfl⟩ | hold
    · rfl
    · exact inv.unstored p lookup hold hunrecorded
  · intro key' entry answer hentry haddrs
    obtain ⟨time, hfound, hstale⟩ := inv.entries key' entry answer hentry haddrs
    exact ⟨time, hfound.mono hext, hstale⟩
  · intro p lookup answer h houtcome
    rcases lookup_append_cases h with ⟨-, rfl⟩ | hold
    · exact absurd houtcome (by simp [DnsLookup.outcome, DnsLookup.spawn])
    · obtain ⟨time, hfound, hrest⟩ := inv.outcomes p lookup answer hold houtcome
      exact ⟨time, hfound.mono hext, hrest⟩
  · intro c call channel hcall hphase
    obtain ⟨lookup, hlookup, hrest⟩ := inv.waiting c call channel hcall hphase
    exact ⟨lookup, (List.getElem?_append_left (lt_length hlookup)).trans hlookup, hrest⟩

/-- What a lookup does outside its section. -/
theorem advance (inv : AnswerInv config s) {p permits : Nat} {event : DnsEvent}
    {lookup lookup' : DnsLookup} (hlookup : s.lookups[p]? = some lookup)
    (h : lookup.advance event s.permits = some (permits, lookup')) :
    AnswerInv config { s with permits := permits, lookups := s.lookups.set p lookup' } := by
  obtain ⟨hkey, hstored, hunrecorded, -, -⟩ := DnsLookup.advance_spec h
  have hsame := DnsLookup.advance_outcome h
  have hext : Evolves DnsLookup.Extends s.lookups (s.lookups.set p lookup') :=
    .set DnsLookup.Extends.refl hlookup ⟨hkey, fun x hx => hstored.trans hx⟩
  refine ⟨inv.flight.advance hlookup h, inv.clock, ?_, ?_, ?_, inv.begun, ?_,
    inv.turns_mono hext, inv.returned⟩
  · intro q other hother hun
    rcases lookup_set_cases hlookup hother with ⟨-, rfl⟩ | ⟨-, hold⟩
    · exact hstored.trans (inv.unstored p lookup hlookup (hunrecorded.symm.trans hun))
    · exact inv.unstored q other hold hun
  · intro key entry answer hentry haddrs
    obtain ⟨time, hfound, hstale⟩ := inv.entries key entry answer hentry haddrs
    exact ⟨time, hfound.mono hext, hstale⟩
  · intro q other answer hother houtcome
    rcases lookup_set_cases hlookup hother with ⟨-, rfl⟩ | ⟨-, hold⟩
    · obtain ⟨time, hfound, hrest⟩ :=
        inv.outcomes p lookup answer hlookup (hsame.symm.trans houtcome)
      rw [hkey, hstored]
      exact ⟨time, hfound.mono hext, hrest⟩
    · obtain ⟨time, hfound, hrest⟩ := inv.outcomes q other answer hold houtcome
      exact ⟨time, hfound.mono hext, hrest⟩
  · intro c call channel hcall hphase
    obtain ⟨other, hother, hcallkey, hlate⟩ := inv.waiting c call channel hcall hphase
    by_cases hp : channel = p
    · have heq : other = lookup := Option.some.inj (hother.symm.trans (hp ▸ hlookup))
      subst heq
      refine ⟨lookup', ?_, hkey.trans hcallkey, hstored.symm ▸ hlate⟩
      rw [lookup_set hlookup, if_pos hp]
    · refine ⟨other, ?_, hcallkey, hlate⟩
      rw [lookup_set hlookup, if_neg hp]
      exact hother

/-- What recording a result leaves in the cache and hands out: what was just
found, or what a failure keeps. -/
theorem stored_found (inv : AnswerInv config s) {lookups : List DnsLookup}
    (hext : Evolves DnsLookup.Extends s.lookups lookups) {key : ResolverKey} {p : Nat}
    {result : DnsResult} {outcome : Option Outcome} {entry : Option DnsEntry}
    (hnow : ∀ addrs, outcome.isSome → result = .ok addrs → addrs ≠ [] →
      FoundAt lookups key ⟨addrs, p⟩ s.clock)
    (hcases : Resolver.StoreCases config s.clock s.state.cache key p result outcome entry) :
    (∀ entry' answer, entry = some entry' → entry'.addrs = some answer →
      ∃ time, FoundAt lookups key answer time ∧ StaleEnd config time entry'.staleUntil) ∧
    (∀ answer, outcome = some (.ok answer) →
      ∃ time, FoundAt lookups key answer time ∧ Usable config time s.clock) := by
  cases hcases with
  | @found addrs freshUntil staleUntil hresult hne hfresh hstale =>
    have hfound := hnow addrs rfl hresult hne
    refine ⟨fun entry' answer hentry haddrs => ?_, fun answer houtcome => ?_⟩
    · obtain rfl := Option.some.inj hentry
      obtain rfl := Option.some.inj haddrs
      exact ⟨s.clock, hfound, freshUntil, hfresh, hstale⟩
    · injection houtcome with houtcome
      injection houtcome with houtcome
      exact ⟨s.clock, houtcome ▸ hfound, .inl rfl⟩
  | @kept old addrs freshUntil hfailed hold holdaddrs hwithin =>
    obtain ⟨time, hfound, hstale⟩ := inv.entries key old addrs hold holdaddrs
    refine ⟨fun entry' answer hentry haddrs => ?_, fun answer houtcome => ?_⟩
    · obtain rfl := Option.some.inj hentry
      have hsame : addrs = answer := Option.some.inj (holdaddrs.symm.trans haddrs)
      exact ⟨time, hsame ▸ hfound.mono hext, hstale⟩
    · injection houtcome with houtcome
      injection houtcome with houtcome
      exact ⟨time, houtcome ▸ hfound.mono hext, .inr ⟨_, hstale, hwithin⟩⟩
  | failed hfailed =>
    refine ⟨fun entry' answer hentry haddrs => ?_, fun answer houtcome => ?_⟩
    · obtain rfl := Option.some.inj hentry
      exact absurd haddrs (by simp)
    · exact absurd houtcome (by simp)
  | panicked hold =>
    refine ⟨fun entry' answer hentry haddrs => ?_, fun answer houtcome => ?_⟩
    · have hkept := hold entry' hentry (by rw [haddrs]; rfl)
      obtain ⟨time, hfound, hstale⟩ := inv.entries key entry' answer hkept haddrs
      exact ⟨time, hfound.mono hext, hstale⟩
    · exact absurd houtcome (by simp)

/-- The section of a lookup. -/
theorem record (inv : AnswerInv config s) {p : Nat} {lookup : DnsLookup} {result : DnsResult}
    (hlookup : s.lookups[p]? = some lookup) (hready : lookup.ready = some result) :
    AnswerInv config (Resolver.recordSection config s p lookup result) := by
  obtain ⟨hunrecorded, hended⟩ := DnsLookup.ready_unrecorded hready
  have hnone := inv.unstored p lookup hlookup hunrecorded
  have hsilent := inv.flight.silent p lookup hlookup (DnsLookup.not_done_of_ended hended)
  obtain ⟨entry, hcache, hcases⟩ :=
    Resolver.store_cases config s.clock s.state.cache lookup.key p result
  generalize hafter : (Resolver.store config s.clock s.state.cache lookup.key p result).1 = outcome
    at hcases
  let recorded := lookup.recorded s.clock result outcome
  have hlookups : (Resolver.recordSection config s p lookup result).lookups =
      s.lookups.set p recorded := by
    show s.lookups.set p (lookup.recorded s.clock result
      (Resolver.store config s.clock s.state.cache lookup.key p result).1) = _
    rw [hafter]
  have hext : Evolves DnsLookup.Extends s.lookups (s.lookups.set p recorded) :=
    .set DnsLookup.Extends.refl hlookup (DnsLookup.recorded_extends hnone s.clock result outcome)
  have hnow : ∀ addrs, outcome.isSome → result = .ok addrs → addrs ≠ [] →
      FoundAt (s.lookups.set p recorded) lookup.key ⟨addrs, p⟩ s.clock := by
    intro addrs hsome hresult hne
    obtain ⟨value, rfl⟩ := Option.isSome_iff_exists.mp hsome
    exact ⟨hne, recorded, List.getElem?_set_self (lt_length hlookup), rfl,
      congrArg (fun r => some (r, s.clock)) hresult⟩
  obtain ⟨hentries, houtcomes⟩ := inv.stored_found hext hnow hcases
  refine ⟨inv.flight.record hlookup hready, inv.clock, ?_, ?_, ?_, inv.begun, ?_,
    inv.turns_mono (hlookups ▸ hext), inv.returned⟩
  · intro q other hother hun
    rw [hlookups] at hother
    rcases lookup_set_cases hlookup hother with ⟨-, rfl⟩ | ⟨-, hold⟩
    · exact absurd hun (by simp [recorded])
    · exact inv.unstored q other hold hun
  · intro key entry' answer hentry haddrs
    have hentry : ((Resolver.store config s.clock s.state.cache lookup.key p result).2).lookup key =
        some entry' := hentry
    rw [hlookups]
    rw [hcache] at hentry
    split_ifs at hentry with hkey
    · rw [hkey]
      exact hentries entry' answer hentry haddrs
    · -- other entries lose nothing but to pruning
      obtain ⟨time, hfound, hstale⟩ :=
        inv.entries key entry' answer (Resolver.lookup_of_prune hentry) haddrs
      exact ⟨time, hfound.mono hext, hstale⟩
  · intro q other answer hother houtcome
    rw [hlookups] at hother ⊢
    rcases lookup_set_cases hlookup hother with ⟨-, rfl⟩ | ⟨-, hold⟩
    · obtain ⟨value, rfl⟩ : ∃ value, outcome = some value := by
        cases outcome with
        | some value => exact ⟨value, rfl⟩
        | none => exact absurd (hsilent.symm.trans houtcome) (by simp)
      obtain ⟨time, hfound, husable⟩ := houtcomes answer houtcome
      exact ⟨time, hfound, result, s.clock, rfl, husable⟩
    · obtain ⟨time, hfound, hrest⟩ := inv.outcomes q other answer hold houtcome
      exact ⟨time, hfound.mono hext, hrest⟩
  · intro c call channel hcall hphase
    obtain ⟨other, hother, hcallkey, hlate⟩ := inv.waiting c call channel hcall hphase
    rw [hlookups]
    by_cases hp : channel = p
    · have heq : other = lookup := Option.some.inj (hother.symm.trans (hp ▸ hlookup))
      subst heq
      refine ⟨recorded, ?_, (DnsLookup.recorded_key ..).trans hcallkey, ?_⟩
      · rw [lookup_set hlookup, if_pos hp]
      -- it waits since before this very moment
      intro result' time htime
      rcases DnsLookup.recorded_stored_cases htime with hbefore | hnow
      · exact absurd (hnone.symm.trans hbefore) (by simp)
      · injection hnow with _ hnow
        rw [hnow]
        exact inv.begun c call hcall
    · exact ⟨other, (List.getElem?_set_ne (Ne.symm hp)).trans hother, hcallkey, hlate⟩

/-- What a call gets from the cache. -/
theorem fresh_found (inv : AnswerInv config s) {key : ResolverKey} {answer : Addresses}
    (h : Resolver.fresh s.state.cache s.clock key = some (.ok answer)) :
    ∃ entry time, s.state.cache.lookup key = some entry ∧ entry.addrs = some answer ∧
      s.clock < entry.freshUntil ∧ FoundAt s.lookups key answer time ∧
      StaleEnd config time entry.staleUntil := by
  obtain ⟨entry, hentry, h⟩ := Option.bind_eq_some_iff.mp h
  split_ifs at h with hnow
  cases haddrs : entry.addrs with
  | none =>
    rw [haddrs] at h
    exact absurd h (by simp)
  | some answer' =>
    rw [haddrs] at h
    injection h with h
    injection h with h
    subst h
    obtain ⟨time, hfound, hstale⟩ := inv.entries key entry answer' hentry haddrs
    exact ⟨entry, time, hentry, haddrs, hnow, hfound, hstale⟩

/-- What a waiting call gets from its channel. -/
theorem received_found (inv : AnswerInv config s) {c channel : Nat} {call : ResolveCall}
    {lookup : DnsLookup} {answer : Addresses} (hcall : s.calls[c]? = some call)
    (hphase : call.phase = .waiting channel) (hlookup : s.lookups[channel]? = some lookup)
    (hreceived : lookup.received = some (.ok answer)) :
    ∃ time recorded, FoundAt s.lookups call.key answer time ∧ call.started ≤ recorded ∧
      Usable config time recorded := by
  obtain ⟨lookup', hlookup', hkey, hlate⟩ := inv.waiting c call channel hcall hphase
  have hsame : lookup' = lookup := Option.some.inj (hlookup'.symm.trans hlookup)
  subst hsame
  have hvalue : lookup'.value = some (.ok answer) := by
    unfold DnsLookup.received at hreceived
    split at hreceived
    · next hvalue => exact hvalue.trans hreceived
    · split_ifs at hreceived
      exact absurd hreceived (by simp)
  have houtcome : lookup'.outcome = some (.ok answer) := by
    unfold DnsLookup.outcome
    split
    · next outcome htask =>
      have hsilent := inv.flight.silent channel lookup' hlookup (by rw [htask]; simp)
      exact absurd (hsilent.symm.trans hvalue) (by simp)
    · exact hvalue
  obtain ⟨time, hfound, result, recorded, hstored, hrecorded⟩ :=
    inv.outcomes channel lookup' answer hlookup houtcome
  exact ⟨time, recorded, hkey ▸ hfound, hlate result recorded hstored, hrecorded⟩

theorem step (inv : AnswerInv config s) {event : ResolverStep}
    (h : Resolver.step config event s = some s') : AnswerInv config s' := by
  cases Resolver.step_cases h with
  | tick hclock =>
    refine ⟨inv.flight.frame rfl rfl, hclock, inv.unstored, inv.entries, inv.outcomes, ?_,
      inv.waiting, inv.turns, inv.returned⟩
    exact fun c call hcall => (inv.begun c call hcall).trans (Nat.le_add_right _ _)
  | @begin key =>
    have hold : ∀ {c : Nat} {call : ResolveCall},
        (s.calls ++ [⟨key, s.clock, .begun⟩])[c]? = some call →
        call = ⟨key, s.clock, .begun⟩ ∨ s.calls[c]? = some call := by
      intro c call h
      rcases lookup_append_cases h with ⟨-, hnew⟩ | hold
      · exact .inl hnew
      · exact .inr hold
    refine ⟨inv.flight.frame rfl rfl, inv.clock, inv.unstored, inv.entries, inv.outcomes, ?_, ?_,
      inv.turns, ?_⟩
    · intro c call h
      rcases hold h with rfl | h
      · exact Nat.le_refl _
      · exact inv.begun c call h
    · intro c call channel h hphase
      rcases hold h with rfl | h
      · exact absurd hphase (by simp)
      · exact inv.waiting c call channel h hphase
    · intro c call result h hphase
      rcases hold h with rfl | h
      · exact absurd hphase (by simp)
      · exact inv.returned c call result h hphase
  | fresh hcall hphase hfresh =>
    refine inv.answer hcall fun answer houtcome => ?_
    obtain ⟨-, time, -, -, -, hfound, -⟩ := inv.fresh_found (houtcome ▸ hfresh)
    exact ⟨time, hfound⟩
  | @join c call channel hcall hphase hfresh hslot =>
    refine inv.setPhase hcall ?_ (fun _ h => absurd h (by simp))
    intro channel' hchannel
    injection hchannel with hchannel
    obtain ⟨lookup, hlookup, hkey, hunrecorded⟩ := inv.flight.slots _ _ hslot
    refine ⟨lookup, hchannel ▸ hlookup, hkey, fun result recorded hstored => ?_⟩
    have hnone := inv.unstored channel lookup hlookup hunrecorded
    exact absurd (hnone.symm.trans hstored) (by simp)
  | @spawn c call hcall hphase hfresh hslot =>
    refine (inv.spawn hslot).setPhase hcall ?_ (fun _ h => absurd h (by simp))
    intro channel hchannel
    injection hchannel with hchannel
    refine ⟨.spawn call.key, hchannel ▸ List.getElem?_concat_length, rfl, ?_⟩
    exact fun result recorded hstored => absurd hstored (by simp [DnsLookup.spawn])
  | wake hcall hphase hlookup hreceived =>
    refine inv.answer hcall fun answer houtcome => ?_
    obtain ⟨time, -, hfound, -⟩ :=
      inv.received_found hcall hphase hlookup (houtcome ▸ hreceived)
    exact ⟨time, hfound⟩
  | cancel hcall hphase =>
    exact inv.setPhase hcall (fun _ h => absurd h (by simp)) (fun _ h => absurd h (by simp))
  | lookup hlookup hadvance => exact inv.advance hlookup hadvance
  | record hlookup hready => exact inv.record hlookup hready

/-- No event takes a result back. -/
theorem lookups_extend (inv : AnswerInv config s) {event : ResolverStep}
    (h : Resolver.step config event s = some s') :
    Evolves DnsLookup.Extends s.lookups s'.lookups := by
  cases Resolver.step_cases h with
  | tick | begin | join | cancel => exact .refl DnsLookup.Extends.refl _
  | @fresh c call outcome =>
    rw [(Resolver.answer_frame s c call outcome).2.1]
    exact .refl DnsLookup.Extends.refl _
  | @wake c call channel lookup outcome =>
    rw [(Resolver.answer_frame s c call outcome).2.1]
    exact .refl DnsLookup.Extends.refl _
  | spawn => exact .append DnsLookup.Extends.refl _ _
  | lookup hlookup hadvance =>
    obtain ⟨hkey, hstored, -⟩ := DnsLookup.advance_spec hadvance
    exact .set DnsLookup.Extends.refl hlookup ⟨hkey, fun x hx => hstored.trans hx⟩
  | @record p lookup result hlookup hready =>
    have hnone := inv.unstored p lookup hlookup (DnsLookup.ready_unrecorded hready).1
    exact .set DnsLookup.Extends.refl hlookup (DnsLookup.recorded_extends hnone _ _ _)

end AnswerInv

/-- Where a call can get addresses from. -/
inductive Resolver.Source (s : ResolverSystem) (call : ResolveCall) (answer : Addresses) :
    Prop where
  | cache (hfresh : Resolver.fresh s.state.cache s.clock call.key = some (.ok answer))
  | channel {channel lookup} (hphase : call.phase = .waiting channel)
      (hlookup : s.lookups[channel]? = some lookup)
      (hreceived : lookup.received = some (.ok answer))

/-- A call gets addresses, and its turn. -/
def Resolver.TakesTurn (s s' : ResolverSystem) : Prop :=
  ∃ (c : Nat) (call : ResolveCall) (answer : Addresses), s.calls[c]? = some call ∧
    Resolver.Source s call answer ∧ s'.lookups = s.lookups ∧ s'.rotation = s.rotation + 1 ∧
    s'.turns = s.turns ++ [⟨call.key, call.started, s.rotation, answer,
      Resolver.rotated s.rotation answer.addrs⟩]

/-- A call that is answered takes a turn or fails. -/
theorem Resolver.answer_turn {s : ResolverSystem} {c : Nat} {call : ResolveCall}
    {outcome : Outcome} (hcall : s.calls[c]? = some call)
    (hsource : ∀ answer, outcome = .ok answer → Source s call answer) :
    ((answer s c call outcome).turns = s.turns ∧
        (answer s c call outcome).rotation = s.rotation) ∨
      TakesTurn s (answer s c call outcome) := by
  cases outcome with
  | error error => exact .inl ⟨rfl, rfl⟩
  | ok answer => exact .inr ⟨c, call, answer, hcall, hsource answer rfl, rfl, rfl, rfl⟩

/-- One event is one turn at most. -/
theorem Resolver.turn_cases {config : ResolverConfig} {s s' : ResolverSystem}
    {event : ResolverStep} (h : step config event s = some s') :
    (s'.turns = s.turns ∧ s'.rotation = s.rotation) ∨ TakesTurn s s' := by
  cases step_cases h with
  | tick | begin | join | spawn | cancel | lookup | record => exact .inl ⟨rfl, rfl⟩
  | fresh hcall hphase hfresh =>
    exact answer_turn hcall fun answer houtcome => .cache (houtcome ▸ hfresh)
  | wake hcall hphase hlookup hreceived =>
    exact answer_turn hcall fun answer houtcome => .channel hphase hlookup (houtcome ▸ hreceived)

theorem answer_inv {config : ResolverConfig} {s : ResolverSystem}
    (h : (resolverMachine config).Reachable s) : AnswerInv config s :=
  h.invariant (fun hinit => hinit ▸ .start config) fun inv hstep => inv.step hstep

end SniRouter
