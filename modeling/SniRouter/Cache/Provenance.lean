import SniRouter.Cache.Invariant

/-!
# SniRouter — provenance and age of answers

Every answer of the cache was given by the inner lookup for the same
candidates, and is handed out before its expiry, before the end of its stale
window where that applies, or straight from the load that was waited for.

The TTL of a route is scaled in double precision, so it stays between the ends
of the jitter range as `f64` computes them. That is not quite between the exact
ends.

* `jittered_range` — the jittered TTL of a route.
* `Provenance` — where an answer comes from and how old it may be.
* `cache_provenance` — every answer of every run is accounted for, and failed
  loads only remove dead entries.
* `exact_range_exceeded` — the exact jitter range is not kept.
-/

namespace SniRouter

open Table

-- ---------------------------------------------------------------------------
-- Jitter
-- ---------------------------------------------------------------------------

/-- The ends of the jitter range as `f64` computes them, or the plain TTL where
the result is no duration. -/
def F64Range (config : CacheConfig) (ttl : Nat) : Prop :=
  match config.jitter.clampUnit with
  | none => ttl = config.ttl
  | some jitter =>
    (nanosOfSecs (asSecsF64 config.ttl * (1 - jitter)) ≤ ttl ∧
      ttl ≤ nanosOfSecs (asSecsF64 config.ttl * (1 + jitter))) ∨
    (2 ^ 64 ≤ (asSecsF64 config.ttl * (1 + jitter)).val ∧ ttl = config.ttl)

/-- The exact ends of the jitter range, or the plain TTL. -/
def ExactRange (config : CacheConfig) (ttl : Nat) : Prop :=
  ttl = config.ttl ∨ ∃ jitter, config.jitter.clampUnit = some jitter ∧
    config.ttl * (1 - jitter.val) ≤ ttl ∧ ttl ≤ config.ttl * (1 + jitter.val)

/-- The draw from the keyed hash is between zero and one. -/
theorem unit_bounds (hash : UInt64) :
    0 ≤ (Binary64.ofNat (hash >>> 11).toNat / Binary64.ofNat (2 ^ 53)).val ∧
      (Binary64.ofNat (hash >>> 11).toNat / Binary64.ofNat (2 ^ 53)).val ≤ 1 := by
  have htop : (hash >>> 11).toNat ≤ 2 ^ 53 := by
    have hlt := hash.toNat_lt
    rw [UInt64.toNat_shiftRight, show (11 : UInt64).toNat % 64 = 11 from rfl,
      Nat.shiftRight_eq_div_pow]
    omega
  have hle : (Binary64.ofNat (hash >>> 11).toNat).val ≤ (Binary64.ofNat (2 ^ 53)).val :=
    Binary64.round_mono (Nat.cast_le.mpr htop)
  have hdraw := Binary64.ofNat_nonneg (hash >>> 11).toNat
  refine ⟨Binary64.round_nonneg (div_nonneg hdraw (Binary64.ofNat_nonneg _)), ?_⟩
  calc (Binary64.ofNat (hash >>> 11).toNat / Binary64.ofNat (2 ^ 53)).val
      ≤ Binary64.round 1 := Binary64.round_mono (div_le_one_of_le₀ hle (le_trans hdraw hle))
    _ = 1 := Binary64.one_val

/-- Twice the draw less one is between minus one and one. -/
theorem spread_bounds {unit : Binary64} (h : 0 ≤ unit.val ∧ unit.val ≤ 1) :
    -1 ≤ (2 * unit - 1).val ∧ (2 * unit - 1).val ≤ 1 := by
  have htwo : (2 : Binary64).val = 2 := Binary64.ofNat_val (m := 2) (by norm_num)
  have hone : Binary64.round 1 = 1 := Binary64.one_val
  have hdouble : 0 ≤ (2 * unit).val ∧ (2 * unit).val ≤ 2 := by
    rw [Binary64.mul_val, htwo]
    refine ⟨Binary64.round_nonneg (by linarith), ?_⟩
    calc Binary64.round (2 * unit.val) ≤ Binary64.round 2 := Binary64.round_mono (by linarith)
      _ = 2 := htwo
  rw [Binary64.sub_val, Binary64.one_val]
  refine ⟨?_, ?_⟩
  · calc (-1 : ℚ) = Binary64.round (-1) := by rw [Binary64.round_neg, hone]
      _ ≤ Binary64.round ((2 * unit).val - 1) := Binary64.round_mono (by linarith)
  · calc Binary64.round ((2 * unit).val - 1) ≤ Binary64.round 1 :=
        Binary64.round_mono (by linarith)
      _ = 1 := hone

/-- The factor a TTL is scaled by lies between the ends of the range. -/
theorem factor_bounds {jitter spread : Binary64} (hj : 0 ≤ jitter.val ∧ jitter.val ≤ 1)
    (hs : -1 ≤ spread.val ∧ spread.val ≤ 1) :
    1 - jitter ≤ 1 + jitter * spread ∧ 1 + jitter * spread ≤ 1 + jitter ∧
      0 ≤ (1 - jitter).val := by
  obtain ⟨hlower, hupper⟩ := Binary64.abs_mul_le hj.1 hs
  refine ⟨?_, Binary64.add_le_add_left (Binary64.le_iff.mpr hupper) 1, ?_⟩
  · rw [Binary64.le_iff, Binary64.add_val, Binary64.sub_val]
    exact Binary64.round_mono (by linarith)
  · rw [Binary64.sub_val, Binary64.one_val]
    exact Binary64.round_nonneg (by linarith)

/-- A jittered TTL is within the range of its factor in `f64`. -/
theorem jittered_range (jitterSeed : Nat → UInt64) (config : CacheConfig) (id : Nat) :
    F64Range config (jittered jitterSeed config.ttl config.jitter id) := by
  unfold F64Range jittered
  cases hjitter : config.jitter.clampUnit with
  | none => rfl
  | some jitter =>
    dsimp only
    obtain ⟨hlower, hupper, hnonneg⟩ := factor_bounds (F64.clampUnit_bounds hjitter)
      (spread_bounds (unit_bounds (jitterSeed id)))
    generalize (1 : Binary64) + jitter * ((2 : Binary64) *
      (Binary64.ofNat (jitterSeed id >>> 11).toNat / Binary64.ofNat (2 ^ 53)) - 1) = factor
      at hlower hupper ⊢
    have hsecs := asSecsF64_nonneg config.ttl
    have hlow := Binary64.mul_le_mul_left hlower hsecs
    have hup := Binary64.mul_le_mul_left hupper hsecs
    have hproduct : 0 ≤ (asSecsF64 config.ttl * factor).val :=
      Binary64.round_nonneg (mul_nonneg hsecs (le_trans hnonneg (Binary64.le_iff.mp hlower)))
    unfold tryFromSecsF64
    split_ifs with hfits
    · -- no 64 bits of seconds: the plain TTL
      rcases hfits with hneg | hbig
      · exact absurd hproduct (not_le.mpr hneg)
      · exact .inr ⟨le_trans hbig (Binary64.le_iff.mp hup), rfl⟩
    · have hnanos : 0 ≤ nanosOfSecs (asSecsF64 config.ttl * factor) := by
        calc (0 : ℤ) = Binary64.roundEven ((0 : ℤ) : ℚ) := (Binary64.roundEven_intCast 0).symm
          _ ≤ nanosOfSecs (asSecsF64 config.ttl * factor) := Binary64.roundEven_mono
            (by exact_mod_cast mul_nonneg hproduct (Nat.cast_nonneg nanosPerSec))
      left
      rw [Option.getD_some, Int.toNat_of_nonneg hnanos]
      exact ⟨nanosOfSecs_mono hlow, nanosOfSecs_mono hup⟩

-- ---------------------------------------------------------------------------
-- Where an answer comes from
-- ---------------------------------------------------------------------------

section

variable (range : CacheConfig → Nat → Prop) (config : CacheConfig) (loads : List Load)

/-- The answer was stored for the candidates at some time, and expires after
`negative_ttl` if it is "no route", after a TTL of the range otherwise. -/
def ExpiresAt (candidates : RouteCandidates) (hits : Answer) (expires : Nat) : Prop :=
  ∃ time ttl, Stored loads candidates hits time ∧ later time ttl = some expires ∧
    if hits.hits.isEmpty then ttl = config.negativeTtl else range config ttl

/-- The lookup was shed, or the load it waited for failed: an error came on its
channel, or nothing and the sender is gone. -/
def LoadFailed (lookup : Lookup) (path : LookupPath) : Prop :=
  path = .shed ∨ ∃ channel load error, path = .joined channel ∧
    loads[channel]? = some load ∧ load.candidates = lookup.candidates ∧
    CacheSystem.received load = some (.error error)

/-- Where the answer of a lookup comes from: the inner lookup answered it for
the same candidates, and it is the result of the load the lookup waited for, or
fresh, or stale and covers a load that failed. -/
structure Provenance (lookup : Lookup) (path : LookupPath) (hits : Answer) : Prop where
  loaded : ∃ load, loads[hits.load]? = some load ∧ load.candidates = lookup.candidates ∧
    load.answered = some hits.hits
  age    :
    (path = .joined hits.load ∧ ∃ load, loads[hits.load]? = some load ∧
      load.value = some (.ok hits)) ∨
    (∃ expires, ExpiresAt range config loads lookup.candidates hits expires ∧
      lookup.started < expires) ∨
    (∃ window expires staleUntil, config.staleIfError = some window ∧
      LoadFailed loads lookup path ∧
      ExpiresAt range config loads lookup.candidates hits expires ∧
      later expires window = some staleUntil ∧ lookup.started < staleUntil)

end

section

variable {config : CacheConfig} {jitterSeed : Nat → UInt64} {s : CacheSystem}

/-- A stored answer expires within the range. -/
theorem Stored.expiresAt {loads : List Load} {candidates : RouteCandidates} {hits : Answer}
    {time : Nat} (h : Stored loads candidates hits time) {id expires : Nat}
    (hexpires : later time (entryTtl jitterSeed config hits id) = some expires) :
    ExpiresAt F64Range config loads candidates hits expires := by
  refine ⟨time, entryTtl jitterSeed config hits id, h, hexpires, ?_⟩
  unfold entryTtl
  split_ifs
  · rfl
  · exact jittered_range jitterSeed config id

/-- What warrants an answer is its provenance. -/
theorem Warranted.provenance {loads : List Load} {lookup : Lookup} {path : LookupPath}
    {hits : Answer} (h : Warranted config jitterSeed loads lookup path hits) :
    Provenance F64Range config loads lookup path hits := by
  refine ⟨h.loaded, ?_⟩
  cases path with
  | fresh =>
    obtain ⟨time, id, expires, hstored, hexpires, hnow⟩ := h
    exact .inr (.inl ⟨expires, hstored.expiresAt hexpires, hnow⟩)
  | shed =>
    obtain ⟨time, id, window, expires, staleUntil, hstored, hwindow, hexpires, hstale⟩ := h
    exact .inr (.inr ⟨window, expires, staleUntil, hwindow, .inl rfl, hstored.expiresAt hexpires,
      hstale⟩)
  | joined channel =>
    obtain ⟨load, hload, hcandidates, h⟩ := h
    rcases h with ⟨hvalue, rfl, -⟩ | ⟨⟨error, hreceived⟩, time, id, window, expires, staleUntil,
      hstored, hwindow, hexpires, hstale⟩
    · exact .inl ⟨rfl, load, hload, hvalue⟩
    · exact .inr (.inr ⟨window, expires, staleUntil, hwindow, .inr ⟨channel, load, error, rfl,
        hload, hcandidates, hreceived⟩, hstored.expiresAt hexpires, hstale⟩)

/-- **Provenance and age of every answer.** Whatever a lookup returns was
answered by the inner lookup for the same candidates and is within its window.
A load that failed, timed out or was aborted leaves every entry as it is, or
removes one past its stale window. -/
theorem cache_provenance (h : (cacheMachine config jitterSeed).Reachable s) :
    (∀ (l : Nat) lookup path hits, s.lookups[l]? = some lookup →
      lookup.phase = .returned path (.ok hits) →
      Provenance F64Range config s.loads lookup path hits) ∧
    ∀ (p : Nat) load error dropping s', s.loads[p]? = some load →
      load.task = .finishing (.error error) dropping →
      CacheSystem.step config (.finish p) s = some s' →
      ∀ c, s'.cache.entries.lookup c = s.cache.entries.lookup c ∨
        c = load.candidates ∧ s'.cache.entries.lookup c = none ∧
          ∃ entry, s.cache.entries.lookup c = some entry ∧ entry.staleUntil ≤ s.clock := by
  have inv := cacheMachine_inv h
  refine ⟨fun l lookup path hits hlookup hphase => (inv.warranted hlookup hphase).provenance, ?_⟩
  intro p load error dropping s' hload htask hstep c
  cases CacheSystem.step_cases hstep with
  | @finish p load' result dropping' hload' htask' =>
    rw [hload] at hload'
    injection hload' with hload'
    subst hload'
    rw [htask] at htask'
    injection htask' with hresult
    subst hresult
    exact CacheState.lookup_finishLoad_error s.cache config s.clock load.candidates load.id error c

/-- A route is loaded, and a later lookup gets it from the cache. -/
theorem cache_provenance_at :
    ∃ (c : RouteCandidates) (hits : Answer) (s : CacheSystem) (lookup : Lookup),
      (cacheMachine .default fun _ => 0).run
        [.begin c, .locked 0, .task 0 .poll, .task 0 (.answer (.ok hits.hits)), .finish 0,
          .task 0 .send, .wake 0, .tick nanosPerSec, .begin c, .locked 1]
        (.start fun _ => 0) = some s ∧
      s.lookups[1]? = some lookup ∧ lookup.phase = .returned .fresh (.ok hits) ∧
      Provenance F64Range .default s.loads lookup .fresh hits := by
  let c : RouteCandidates := ⟨⟨[97], false⟩, none⟩
  let hits : Answer := ⟨[(c.exact, ⟨.dns [98], ⟨443, by decide⟩⟩)], 0⟩
  obtain ⟨s, hrun, hphase⟩ : ∃ s, (cacheMachine .default fun _ => 0).run
      [.begin c, .locked 0, .task 0 .poll, .task 0 (.answer (.ok hits.hits)), .finish 0,
        .task 0 .send, .wake 0, .tick nanosPerSec, .begin c, .locked 1]
      (.start fun _ => 0) = some s ∧
      s.lookups[1]?.map Lookup.phase = some (.returned .fresh (.ok hits)) :=
    Option.map_eq_some_iff.mp (by decide +kernel)
  obtain ⟨lookup, hlookup, hphase⟩ := Option.map_eq_some_iff.mp hphase
  exact ⟨c, hits, s, lookup, hrun, hlookup, hphase,
    (cache_provenance ⟨_, _, rfl, hrun⟩).1 1 lookup .fresh hits hlookup hphase⟩

end

-- ---------------------------------------------------------------------------
-- Rounding
-- ---------------------------------------------------------------------------

/-- Without jitter, but with a TTL that has no exact double. -/
def unevenConfig : CacheConfig where
  ttl := 10 ^ 17 + 8
  negativeTtl := 0
  jitter := .finite 0
  maxEntries := 1
  staleIfError := none
  loadTimeout := 1
  maxInflightLoads := 1

/-- The exact jitter range is not kept: with a TTL of `10^17 + 8` ns and no
jitter, an answer is still served `10^17 + 10` ns after it was stored. -/
theorem exact_range_exceeded :
    ¬ ∀ (config : CacheConfig) (jitterSeed : Nat → UInt64) (s : CacheSystem),
      (cacheMachine config jitterSeed).Reachable s →
      ∀ (l : Nat) lookup path hits, s.lookups[l]? = some lookup →
        lookup.phase = .returned path (.ok hits) →
        Provenance ExactRange config s.loads lookup path hits := by
  intro hclaim
  let c : RouteCandidates := ⟨⟨[97], false⟩, none⟩
  let hits : Answer := ⟨[(c.exact, ⟨.dns [98], ⟨443, by decide⟩⟩)], 0⟩
  obtain ⟨s, hrun, hval⟩ : ∃ s, (cacheMachine unevenConfig fun _ => 0).run
      [.begin c, .locked 0, .task 0 .poll, .task 0 (.answer (.ok hits.hits)), .finish 0,
        .task 0 .send, .wake 0, .tick (10 ^ 17 + 10), .begin c, .locked 1]
      (.start fun _ => 0) = some s ∧
      (s.lookups[1]?.map fun l => (l.started, l.phase), s.loads[0]?.map Load.storedAt) =
        (some (10 ^ 17 + 10, .returned .fresh (.ok hits)), some (some 0)) :=
    Option.map_eq_some_iff.mp (by decide +kernel)
  injection hval with hlookup hload
  obtain ⟨lookup, hlookup, hval⟩ := Option.map_eq_some_iff.mp hlookup
  injection hval with hstarted hphase
  obtain ⟨load, hload, hstored⟩ := Option.map_eq_some_iff.mp hload
  have hprov := hclaim unevenConfig _ s ⟨_, _, rfl, hrun⟩ 1 lookup .fresh hits hlookup hphase
  rcases hprov.age with ⟨hjoined, -⟩ | ⟨expires, hexpires, hnow⟩ | ⟨window, -, -, hwindow, -⟩
  · exact absurd hjoined (by simp)
  · obtain ⟨time, ttl, ⟨load', hload', -, -, hstored'⟩, hexpires, hrange⟩ := hexpires
    have htime : time = 0 := by
      have hsame : load = load' := Option.some.inj (hload.symm.trans hload')
      exact (Option.some.inj (hstored.symm.trans (hsame ▸ hstored'))).symm
    have httl : ttl = 10 ^ 17 + 8 := by
      rw [show hits.hits.isEmpty = false from rfl] at hrange
      rcases hrange with hplain | ⟨jitter, hjitter, hlower, hupper⟩
      · exact hplain
      · -- without jitter both ends of the range are the TTL
        have hclamp : unevenConfig.jitter.clampUnit = some 0 := by decide +kernel
        have hzero : jitter.val = 0 :=
          (congrArg Binary64.val (Option.some.inj (hjitter.symm.trans hclamp))).trans
            Binary64.zero_val
        rw [hzero, add_zero, mul_one] at hupper
        rw [hzero, sub_zero, mul_one] at hlower
        exact Nat.le_antisymm (Nat.cast_le.mp hupper) (Nat.cast_le.mp hlower)
    have hsum := later_le_add hexpires
    rw [htime, httl] at hsum
    rw [hstarted] at hnow
    omega
  · exact absurd hwindow (by simp [unevenConfig])

end SniRouter
