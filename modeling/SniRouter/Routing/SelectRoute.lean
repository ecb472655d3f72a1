import SniRouter.Lookup.Routes

/-!
# SniRouter — route selection

Precedence between the keys a lookup answered with: the exact key wins over
the wildcard, and hits for keys that were not asked for are ignored.
-/

namespace SniRouter

/-- The key that matched and the backend stored under it. -/
structure RouteMatch where
  key     : RouteKey
  backend : Backend
deriving DecidableEq

/-- Why a hostname has no route. -/
inductive RouteError where
  | notFound
  | lookup (error : LookupError)
  | timeout
deriving DecidableEq, Repr

/-- The match, and how many hits were for other keys. -/
structure Selection where
  matched     : Option RouteMatch
  ignoredHits : Nat
deriving DecidableEq

/-- `candidate_keys`. -/
def candidateKeys (host : Hostname) : RouteCandidates :=
  RouteCandidates.forHostname host

/-- `select_route`. -/
def selectRoute (candidates : RouteCandidates) (hits : RouteHits) : Selection where
  matched := candidates.keys.findSome? fun key =>
    (RouteHits.get hits key).map fun backend => ⟨key, backend⟩
  ignoredHits := (hits.filter fun hit => !candidates.contains hit.1).length

/-- How the awaited lookup ended: with an answer within the timeout, or not. -/
inductive LookupEnd where
  | answered (result : Except LookupError RouteHits)
  | elapsed

/-- `resolve_route`. -/
def resolveRoute (lookup : RouteCandidates → LookupEnd) (host : Hostname) :
    Except RouteError RouteMatch :=
  let candidates := candidateKeys host
  match lookup candidates with
  | .answered (.ok hits) =>
    match (selectRoute candidates hits).matched with
    | some route => .ok route
    | none => .error .notFound
  | .answered (.error error) => .error (.lookup error)
  | .elapsed => .error .timeout

/-- The in-memory table answers at the first poll, before any timeout. -/
def InMemoryLookup.lookup (table : InMemoryLookup) (candidates : RouteCandidates) : LookupEnd :=
  .answered (.ok (table.hits candidates))

-- ---------------------------------------------------------------------------
-- Selection from a table's own answer
-- ---------------------------------------------------------------------------

/-- Among the hits of a table, a key asked for has its backend. -/
theorem RouteHits.get_filterMap {keys : List RouteKey} {get : RouteKey → Option Backend}
    {key : RouteKey} :
    RouteHits.get (keys.filterMap fun k => (get k).map fun b => (k, b)) key =
      if key ∈ keys then get key else none := by
  induction keys with
  | nil => rfl
  | cons k keys ih =>
    unfold RouteHits.get at ih ⊢
    by_cases hk : key = k
    · subst hk
      cases hget : get key with
      | none =>
        rw [List.filterMap_cons_none (by rw [hget]; rfl), ih, hget]
        simp
      | some b => simp [hget]
    · have hk' : (k == key) = false := by simpa using Ne.symm hk
      cases hget : get k with
      | none =>
        rw [List.filterMap_cons_none (by rw [hget]; rfl), ih]
        simp [hk]
      | some b =>
        simp only [hget, Option.map_some, List.filterMap_cons, List.find?_cons, hk', ih]
        simp [hk]

/-- On a table's own answer, selection reads the table at the exact key and
then at the wildcard key. -/
theorem selectRoute_hits (table : InMemoryLookup) (candidates : RouteCandidates) :
    selectRoute candidates (table.hits candidates) =
      ⟨candidates.keys.findSome? fun key => (table.get key).map fun b => ⟨key, b⟩, 0⟩ := by
  unfold selectRoute
  congr 1
  · have hget : ∀ key ∈ candidates.keys,
        RouteHits.get (table.hits candidates) key = table.get key := by
      intro key hkey
      rw [InMemoryLookup.hits, RouteHits.get_filterMap, if_pos hkey]
    generalize table.hits candidates = hits at hget
    generalize candidates.keys = keys at hget
    induction keys with
    | nil => rfl
    | cons key keys ih =>
      rw [List.findSome?_cons, List.findSome?_cons, hget key (List.mem_cons_self ..),
        ih fun k hk => hget k (List.mem_cons_of_mem _ hk)]
  · rw [List.length_eq_zero_iff, List.filter_eq_nil_iff]
    intro hit hhit
    have := (InMemoryLookup.mem_hits.mp hhit).1
    simpa [RouteCandidates.contains_iff] using this

/-- The answer is the exact row if there is one, else the wildcard row. -/
theorem resolveRoute_eq_ok_iff {table : InMemoryLookup} {host : Hostname} {route : RouteMatch} :
    resolveRoute table.lookup host = .ok route ↔
      table.get route.key = some route.backend ∧
        (route.key = RouteKey.exact host ∨
          table.get (RouteKey.exact host) = none ∧
            RouteKey.wildcardFor host = some route.key) := by
  obtain ⟨key, backend⟩ := route
  simp only [resolveRoute, InMemoryLookup.lookup, candidateKeys, selectRoute_hits,
    RouteCandidates.keys, RouteCandidates.forHostname, List.findSome?_cons]
  cases hexact : table.get (RouteKey.exact host) with
  | some b =>
    simp only [Option.map_some, Except.ok.injEq, RouteMatch.mk.injEq, reduceCtorEq,
      false_and, or_false]
    refine ⟨fun h => ?_, fun h => ?_⟩
    · obtain ⟨rfl, rfl⟩ := h
      exact ⟨hexact, rfl⟩
    · obtain ⟨hget, rfl⟩ := h
      rw [hexact] at hget
      exact ⟨rfl, Option.some.inj hget⟩
  | none =>
    simp only [Option.map_none, true_and]
    cases hwild : RouteKey.wildcardFor host with
    | none =>
      simp only [Option.toList_none, List.findSome?_nil, reduceCtorEq, or_false, false_iff]
      intro h
      obtain ⟨hget, rfl⟩ := h
      rw [hexact] at hget
      exact absurd hget (by simp)
    | some w =>
      simp only [Option.toList_some, List.findSome?_cons, List.findSome?_nil, Option.some.injEq]
      cases hget : table.get w with
      | none =>
        simp only [Option.map_none, reduceCtorEq, false_iff]
        intro h
        obtain ⟨hkey, rfl | rfl⟩ := h
        · rw [hexact] at hkey
          exact absurd hkey (by simp)
        · rw [hget] at hkey
          exact absurd hkey (by simp)
      | some b =>
        simp only [Option.map_some, Except.ok.injEq, RouteMatch.mk.injEq]
        refine ⟨fun h => ?_, fun h => ?_⟩
        · obtain ⟨rfl, rfl⟩ := h
          exact ⟨hget, Or.inr rfl⟩
        · obtain ⟨hkey, rfl | rfl⟩ := h
          · rw [hexact] at hkey
            exact absurd hkey (by simp)
          · rw [hget] at hkey
            exact ⟨rfl, Option.some.inj hkey⟩

/-- A table never fails: what is not answered is not found. -/
theorem resolveRoute_error {table : InMemoryLookup} {host : Hostname} {error : RouteError}
    (h : resolveRoute table.lookup host = .error error) : error = .notFound := by
  unfold resolveRoute InMemoryLookup.lookup at h
  dsimp only at h
  split at h
  · exact absurd h (by simp)
  · injection h with h
    exact h.symm

/-- Resolution depends on the table only through what it stores. -/
theorem resolveRoute_congr {table table' : InMemoryLookup} {host : Hostname}
    (h : ∀ key, table.get key = table'.get key) :
    resolveRoute table.lookup host = resolveRoute table'.lookup host := by
  simp only [resolveRoute, InMemoryLookup.lookup, selectRoute_hits, h]

end SniRouter
