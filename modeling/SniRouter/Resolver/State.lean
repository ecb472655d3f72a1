import SniRouter.Delivery.Copy
import SniRouter.Lib.Map
import SniRouter.Platform.Time

/-!
# SniRouter — the state of the DNS resolver

What `Resolver` keeps under its lock, and the functions on it. A lookup is
known by its number, which also stands for the channel it answers on.

* `DnsEntry` / `ResolverState` — the cached answers and the in-flight slots.
* `fresh` — what the cache answers without a lookup.
* `store` — how the result of a lookup is recorded.
* `rotated` — the order in which a call gets the addresses.
-/

namespace SniRouter

open Text

/-- `io::ErrorKind`, as far as it is told apart. -/
inductive ErrorKind where
  | notFound
  | other
  /-- Whatever else the system's resolver reports. -/
  | os (code : Nat)
deriving DecidableEq

/-- `io::Error`: its kind and its message. -/
structure IoError where
  kind    : ErrorKind
  message : Str
deriving DecidableEq

/-- A host name and a port, as they are asked for. -/
structure ResolverKey where
  name : Str
  port : UInt16
deriving DecidableEq

/-- The addresses of a good answer, and the lookup that found them. The lookup
is a ghost: nothing in the resolver depends on it. -/
structure Addresses where
  addrs  : List SocketAddr
  lookup : Nat
deriving DecidableEq

/-- What the lookup function returned. -/
abbrev DnsResult := Except IoError (List SocketAddr)

/-- A lookup's result as shared with every waiter. -/
abbrev Outcome := Except IoError Addresses

/-- Durations in nanoseconds. -/
structure ResolverConfig where
  ttl            : Nat
  maxConcurrent  : Nat
  pruneThreshold : Nat

namespace Resolver

/-- How long a failed resolution is remembered before retrying. -/
def negativeTtl : Nat := 1 * nanosPerSec

/-- How long past its TTL a previously good answer may be used when
re-resolving fails. -/
def staleIfError : Nat := 60 * nanosPerSec

end Resolver

/-- What `Resolver::new` makes of the router's settings. -/
def ResolverConfig.new (ttl maxConcurrent : Nat) : ResolverConfig :=
  ⟨ttl, maxConcurrent, 4096⟩

/-- What is cached of a name. -/
structure DnsEntry where
  /-- The last good answer, if any. -/
  addrs      : Option Addresses
  /-- Until when this entry is used without re-resolving. -/
  freshUntil : Nat
  /-- Until when `addrs` may be used if re-resolving fails. -/
  staleUntil : Nat
deriving DecidableEq

/-- The cache of the resolver. -/
abbrev DnsCache := Map ResolverKey DnsEntry

/-- The state under the lock. -/
structure ResolverState where
  cache    : DnsCache
  inflight : Map ResolverKey Nat

namespace Resolver

-- ---------------------------------------------------------------------------
-- Reading the cache
-- ---------------------------------------------------------------------------

/-- The error that stands for a recent failure. -/
def recentlyFailed (key : ResolverKey) : IoError :=
  ⟨.notFound, ascii "recent resolution of " ++ key.name ++ ascii " failed"⟩

/-- The cached outcome for the key if it's still fresh. -/
def fresh (cache : DnsCache) (now : Nat) (key : ResolverKey) : Option Outcome :=
  (cache.lookup key).bind fun entry =>
    if now < entry.freshUntil then
      match entry.addrs with
      | some addrs => some (.ok addrs)
      | none => some (.error (recentlyFailed key))
    else none

/-- The addresses from where the rotation is, wrapping around. -/
def rotated (rotation : UInt64) (addrs : List SocketAddr) : List SocketAddr :=
  let start := rotation.toNat % max addrs.length 1
  addrs.drop start ++ addrs.take start

-- ---------------------------------------------------------------------------
-- Recording a result
-- ---------------------------------------------------------------------------

/-- Drops expired entries once there are too many. -/
def prune (config : ResolverConfig) (now : Nat) (cache : DnsCache) : DnsCache :=
  if cache.size ≥ config.pruneThreshold then
    cache.retain fun _ entry => decide (now < max entry.staleUntil entry.freshUntil)
  else cache

/-- The error callers get for a result without addresses. -/
def failure (key : ResolverKey) (result : DnsResult) : IoError :=
  match result with
  | .error error => ⟨error.kind, ascii "resolving " ++ key.name ++ ascii ": " ++ error.message⟩
  | .ok _ => ⟨.notFound, key.name ++ ascii " resolved to no addresses"⟩

/-- A lookup without addresses: the last good answer is used within its stale
window, and dropped after it. The key has its entry before `later` panics. -/
def storeFailure (now : Nat) (cache : DnsCache) (key : ResolverKey) (error : IoError) :
    Option Outcome × DnsCache :=
  let entry := (cache.lookup key).getD ⟨none, now, now⟩
  match later now negativeTtl with
  | none => (none, cache.insert key entry)
  | some freshUntil =>
    let entry := { entry with freshUntil := freshUntil }
    match entry.addrs.filter fun _ => decide (now < entry.staleUntil) with
    | some addrs => (some (.ok addrs), cache.insert key entry)
    | none => (some (.error error), cache.insert key { entry with addrs := none })

/-- The entry of a good answer, unless `later` panics. -/
def goodEntry (config : ResolverConfig) (now : Nat) (addrs : Addresses) : Option DnsEntry :=
  (later now config.ttl).bind fun freshUntil =>
    (later freshUntil staleIfError).map fun staleUntil => ⟨some addrs, freshUntil, staleUntil⟩

/-- Records the result of lookup `p` and returns what the caller should use. No
outcome means that `later` panicked; the cache is what that leaves. -/
def store (config : ResolverConfig) (now : Nat) (cache : DnsCache) (key : ResolverKey) (p : Nat)
    (result : DnsResult) : Option Outcome × DnsCache :=
  let cache := prune config now cache
  match result with
  | .ok (addr :: addrs) =>
    let addrs : Addresses := ⟨addr :: addrs, p⟩
    match goodEntry config now addrs with
    | none => (none, cache)
    | some entry => (some (.ok addrs), cache.insert key entry)
  | failed => storeFailure now cache key (failure key failed)

end Resolver

end SniRouter
