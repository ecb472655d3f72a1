import SniRouter.Lib.Map
import SniRouter.Lookup.Types

/-!
# SniRouter — candidates, hits and the in-memory table

A lookup is asked for the candidate keys of a hostname and answers with the
rows it holds under them.
-/

namespace SniRouter

/-- The keys a hostname can match: its exact key, then its wildcard. -/
structure RouteCandidates where
  exact    : RouteKey
  wildcard : Option RouteKey
deriving DecidableEq, Repr

/-- `RouteCandidates::for_hostname`. -/
def RouteCandidates.forHostname (host : Hostname) : RouteCandidates :=
  ⟨RouteKey.exact host, RouteKey.wildcardFor host⟩

/-- Keys in precedence order (exact first). -/
def RouteCandidates.keys (candidates : RouteCandidates) : List RouteKey :=
  candidates.exact :: candidates.wildcard.toList

/-- `RouteCandidates::contains`. -/
def RouteCandidates.contains (candidates : RouteCandidates) (key : RouteKey) : Bool :=
  candidates.keys.any (· == key)

/-- What a lookup found: stored keys with their backends. -/
abbrev RouteHits := List (RouteKey × Backend)

/-- The backend stored under exactly `key`, if present. -/
def RouteHits.get (hits : RouteHits) (key : RouteKey) : Option Backend :=
  (hits.find? fun hit => hit.1 == key).map Prod.snd

/-- A failed lookup and its cause. -/
structure LookupError where
  source : String
deriving DecidableEq, Repr

/-- `InMemoryLookup`. -/
structure InMemoryLookup where
  routes : Map RouteKey Backend

namespace InMemoryLookup

/-- `InMemoryLookup::new`. -/
def new : InMemoryLookup := ⟨∅⟩

/-- Adds or replaces the route for `key`, returning the previous backend. -/
def insert (table : InMemoryLookup) (key : RouteKey) (backend : Backend) :
    InMemoryLookup × Option Backend :=
  (⟨table.routes.insert key backend⟩, table.routes.lookup key)

/-- The backend of a key. -/
def get (table : InMemoryLookup) (key : RouteKey) : Option Backend :=
  table.routes.lookup key

/-- The hits for the candidates, in the order of their keys. -/
def hits (table : InMemoryLookup) (candidates : RouteCandidates) : RouteHits :=
  candidates.keys.filterMap fun key => (table.get key).map fun backend => (key, backend)

end InMemoryLookup

/-- `contains` looks among the keys. -/
theorem RouteCandidates.contains_iff {candidates : RouteCandidates} {key : RouteKey} :
    candidates.contains key = true ↔ key ∈ candidates.keys := by
  simp [RouteCandidates.contains]

/-- The exact key is flagged exact and the wildcard key wildcard. -/
theorem RouteCandidates.mem_keys_forHostname {host : Hostname} {key : RouteKey} :
    key ∈ (RouteCandidates.forHostname host).keys ↔
      key = RouteKey.exact host ∨ RouteKey.wildcardFor host = some key := by
  simp [RouteCandidates.forHostname, RouteCandidates.keys, eq_comm]

/-- A table answers only with candidate keys. -/
theorem InMemoryLookup.mem_hits {table : InMemoryLookup} {candidates : RouteCandidates}
    {hit : RouteKey × Backend} :
    hit ∈ table.hits candidates ↔ hit.1 ∈ candidates.keys ∧ table.get hit.1 = some hit.2 := by
  unfold InMemoryLookup.hits
  rw [List.mem_filterMap]
  refine ⟨fun h => ?_, fun h => ?_⟩
  · obtain ⟨key, hkey, hget⟩ := h
    obtain ⟨backend, hb, rfl⟩ := Option.map_eq_some_iff.mp hget
    exact ⟨hkey, hb⟩
  · exact ⟨hit.1, h.1, by rw [h.2]; rfl⟩

end SniRouter
