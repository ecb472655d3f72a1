import SniRouter.Lookup.Routes
import SniRouter.Platform.Time

/-!
# SniRouter — the state of the lookup cache

What `CachedLookup` keeps under its lock and the critical sections on it, one
function each. Hash maps and sets are `Map`s and duplicate-free lists; the
keyed hash behind the jitter is any function of the id. An insertion may panic
in `later`, with the lock held: what it leaves behind stays, since a poisoned
lock is taken like any other.

* `CacheState` — entries, reverse index, eviction order, in-flight slots.
* `CacheState.find` / `startLoad` — the section a lookup runs.
* `CacheState.finishLoad` — the section a load runs when it ends.
* `CacheState.invalidate` / `clear` — the sections of the two calls.
-/

namespace SniRouter

/-- Hits and the load that produced them. The load is a ghost: nothing in the
cache depends on it. -/
structure Answer where
  hits : RouteHits
  load : Nat
deriving DecidableEq

/-- What a load gives: an answer or an error. -/
abbrev LoadResult := Except LookupError Answer

/-- Events from `CachedLookup`. -/
inductive CacheEvent where
  | hit
  | negativeHit
  | miss
  | coalesced
  | staleServed
  | loadError
  | shed
deriving DecidableEq, Repr

/-- Cache tuning; durations in nanoseconds. -/
structure CacheConfig where
  ttl              : Nat
  negativeTtl      : Nat
  jitter           : F64
  maxEntries       : Nat
  staleIfError     : Option Nat
  loadTimeout      : Nat
  maxInflightLoads : Nat

/-- The configuration a `CachedLookup` gets by default. -/
def CacheConfig.default : CacheConfig where
  ttl := 30 * nanosPerSec
  negativeTtl := 5 * nanosPerSec
  jitter := .finite (.ofRat (1 / 10))
  maxEntries := 100000
  staleIfError := none
  loadTimeout := 10 * nanosPerSec
  maxInflightLoads := 1024

/-- A cached answer, with the instants it expires at. -/
structure Entry where
  hits       : Answer
  expires    : Nat
  staleUntil : Nat
  id         : Nat
deriving DecidableEq

/-- An in-flight slot: the channel its load answers on, and the load's id. -/
structure Inflight where
  result : Nat
  id     : Nat
deriving DecidableEq

/-- The entries under each key. -/
abbrev RouteIndex := Map RouteKey (List RouteCandidates)

/-- The state under the lock. -/
structure CacheState where
  entries      : Map RouteCandidates Entry
  /-- Every cached entry, indexed by each key in its candidate set. -/
  index        : RouteIndex
  /-- Insertion order for eviction. May hold superseded records. -/
  order        : List (RouteCandidates × Nat)
  inflight     : Map RouteCandidates Inflight
  nextId       : Nat
  runningLoads : Nat
  lastPurge    : Option Nat
  jitterSeed   : Nat → UInt64

-- ---------------------------------------------------------------------------
-- Expiry
-- ---------------------------------------------------------------------------

/-- The TTL scaled by a factor in `1 ± jitter` drawn from the id by the keyed
hash. -/
def jittered (jitterSeed : Nat → UInt64) (ttl : Nat) (jitter : F64) (id : Nat) : Nat :=
  match jitter.clampUnit with
  -- a NaN makes the product one, which is no duration
  | none => ttl
  | some jitter =>
    let unit := Binary64.ofNat (jitterSeed id >>> 11).toNat / Binary64.ofNat (2 ^ 53)
    (tryFromSecsF64 (asSecsF64 ttl * (1 + jitter * (2 * unit - 1)))).getD ttl

/-- How long an answer is served: "no route" for `negative_ttl`, a route for a
jittered `ttl`. -/
def entryTtl (jitterSeed : Nat → UInt64) (config : CacheConfig) (hits : Answer) (id : Nat) : Nat :=
  if hits.hits.isEmpty then config.negativeTtl else jittered jitterSeed config.ttl config.jitter id

/-- The entry an answer stored at `now` becomes, unless `later` panics. -/
def entryOf (jitterSeed : Nat → UInt64) (config : CacheConfig) (hits : Answer) (now id : Nat) :
    Option Entry :=
  (later now (entryTtl jitterSeed config hits id)).bind fun expires =>
    (later expires (config.staleIfError.getD 0)).map fun staleUntil =>
      ⟨hits, expires, staleUntil, id⟩

-- ---------------------------------------------------------------------------
-- The reverse index
-- ---------------------------------------------------------------------------

/-- The candidate sets indexed under a key. -/
def RouteIndex.get (index : RouteIndex) (key : RouteKey) : List RouteCandidates :=
  (index.lookup key).getD []

/-- `index.entry(key).or_default().insert(candidates)`. -/
def RouteIndex.add (index : RouteIndex) (key : RouteKey) (candidates : RouteCandidates) :
    RouteIndex :=
  AList.insert key ((RouteIndex.get index key).insert candidates) index

/-- Removes the candidates from a key's set, and the set when it is empty. -/
def RouteIndex.remove (index : RouteIndex) (key : RouteKey) (candidates : RouteCandidates) :
    RouteIndex :=
  match index.lookup key with
  | none => index
  | some indexed =>
    let indexed := indexed.filter (· ≠ candidates)
    if indexed.isEmpty then AList.erase key index else AList.insert key indexed index

namespace CacheState

/-- The state of a new cache. -/
def new (jitterSeed : Nat → UInt64) : CacheState :=
  ⟨∅, ∅, [], ∅, 0, 0, none, jitterSeed⟩

/-- Ids are given out in order. -/
def takeId (state : CacheState) : Nat × CacheState :=
  (state.nextId, { state with nextId := state.nextId + 1 })

/-- Removes an entry and its index records. -/
def removeEntry (state : CacheState) (candidates : RouteCandidates) : CacheState :=
  if (state.entries.lookup candidates).isNone then state
  else { state with
    entries := state.entries.erase candidates
    index := candidates.keys.foldl (fun index key => index.remove key candidates) state.index }

/-- The eviction loop of `make_room`, on the records still in `order`. -/
def evict (maxEntries : Nat) : CacheState → List (RouteCandidates × Nat) → CacheState
  | state, [] => { state with order := [] }
  | state, (key, id) :: order =>
    if state.entries.size ≥ maxEntries then
      if (state.entries.lookup key).any (·.id == id) then
        evict maxEntries (state.removeEntry key) order
      else evict maxEntries state order
    else { state with order := (key, id) :: order }

/-- Frees a slot: purge dead entries, at most once per `negative_ttl`, then
evict oldest-first. -/
def makeRoom (state : CacheState) (now : Nat) (config : CacheConfig) : CacheState :=
  if state.entries.size < config.maxEntries then state
  else
    let purgeDue := state.lastPurge.all fun last => decide (now - last ≥ config.negativeTtl)
    let state :=
      if purgeDue then
        let dead := (state.entries.entries.filter fun e => decide (now ≥ e.2.staleUntil)).map (·.1)
        { dead.foldl removeEntry state with lastPurge := some now }
      else state
    evict config.maxEntries state state.order

/-- Candidates that are not cached yet get room and their index records. -/
def register (state : CacheState) (candidates : RouteCandidates) (now : Nat)
    (config : CacheConfig) : CacheState :=
  if (state.entries.lookup candidates).isSome then state
  else
    let state := state.makeRoom now config
    { state with
      index := candidates.keys.foldl (fun index key => index.add key candidates) state.index }

/-- Drops superseded order records once they are too many. -/
def compactOrder (state : CacheState) (config : CacheConfig) : CacheState :=
  if state.order.length > min (config.maxEntries * 2) (2 ^ 64 - 1) then
    { state with
      order := state.order.filter fun r => (state.entries.lookup r.1).any (·.id == r.2) }
  else state

/-- An insertion; `insertPanics` tells whether it returns. -/
def insert (state : CacheState) (candidates : RouteCandidates) (hits : Answer)
    (config : CacheConfig) (now : Nat) : CacheState :=
  if config.maxEntries = 0 then state
  else
    let (id, state) := state.takeId
    match entryOf state.jitterSeed config hits now id with
    -- `later` panicked: the id is taken, and nothing else done
    | none => state
    | some entry =>
      let state := state.register candidates now config
      let state := { state with
        entries := state.entries.insert candidates entry
        order := state.order ++ [(candidates, id)] }
      state.compactOrder config

/-- The insertion panics: the clock cannot represent an instant of the entry. -/
def insertPanics (state : CacheState) (hits : Answer) (config : CacheConfig) (now : Nat) : Bool :=
  config.maxEntries != 0 && (entryOf state.jitterSeed config hits now state.nextId).isNone

/-- What a lookup finds under the lock. -/
inductive Found where
  | fresh (hits : Answer)
  | coalesced (result : Nat) (stale : Option Answer)
  | saturated (stale : Option Answer)
  | miss (stale : Option Answer)

/-- The section of `cached_lookup`, up to what it does about a miss. -/
def find (state : CacheState) (config : CacheConfig) (now : Nat) (candidates : RouteCandidates) :
    Found :=
  let entry := state.entries.lookup candidates
  match entry.filter fun entry => decide (now < entry.expires) with
  | some entry => .fresh entry.hits
  | none =>
    let stale := (entry.filter fun entry => decide (now < entry.staleUntil)).map Entry.hits
    match state.inflight.lookup candidates with
    | some inflight => .coalesced inflight.result stale
    | none =>
      if state.runningLoads ≥ config.maxInflightLoads then .saturated stale else .miss stale

/-- Registers an in-flight load that answers on `channel`; returns its id. -/
def startLoad (state : CacheState) (candidates : RouteCandidates) (channel : Nat) :
    Nat × CacheState :=
  let (id, state) := state.takeId
  (id, { state with
    runningLoads := state.runningLoads + 1
    inflight := state.inflight.insert candidates ⟨channel, id⟩ })

/-- The in-flight slot of the candidates is that of load `id`. -/
def ownsSlot (state : CacheState) (candidates : RouteCandidates) (id : Nat) : Bool :=
  (state.inflight.lookup candidates).any (·.id == id)

/-- A load gives back its count, and its slot if it still owns it. -/
def release (state : CacheState) (candidates : RouteCandidates) (id : Nat) : CacheState :=
  { state with
    runningLoads := state.runningLoads - 1
    inflight :=
      if state.ownsSlot candidates id then state.inflight.erase candidates else state.inflight }

/-- The section of `LoadGuard::finish`, as far as it gets: `finishPanics` tells
whether an insertion ends it. -/
def finishLoad (state : CacheState) (config : CacheConfig) (now : Nat)
    (candidates : RouteCandidates) (id : Nat) (result : LoadResult) : CacheState :=
  let ownsSlot := state.ownsSlot candidates id
  let state := state.release candidates id
  match result with
  | .ok hits => if ownsSlot then state.insert candidates hits config now else state
  | .error _ =>
    -- an entry past its stale window goes with the failed load
    if (state.entries.lookup candidates).any fun entry => decide (now ≥ entry.staleUntil) then
      state.removeEntry candidates
    else state

/-- The section panics: the answer it is to store cannot be inserted. -/
def finishPanics (state : CacheState) (config : CacheConfig) (now : Nat)
    (candidates : RouteCandidates) (id : Nat) (result : LoadResult) : Bool :=
  match result with
  | .ok hits => state.ownsSlot candidates id && state.insertPanics hits config now
  | .error _ => false

/-- `invalidate`: the entries under the key, and the in-flight slots that contain it. -/
def invalidate (state : CacheState) (key : RouteKey) : CacheState :=
  let indexed := state.index.get key
  let state := indexed.foldl removeEntry { state with index := state.index.erase key }
  { state with inflight := state.inflight.retain fun candidates _ => !candidates.contains key }

/-- `clear`. -/
def clear (state : CacheState) : CacheState :=
  { state with entries := ∅, index := ∅, order := [], inflight := ∅ }

end CacheState

end SniRouter
