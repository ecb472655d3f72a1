import SniRouter.Routing.SelectRoute

/-!
# SniRouter — the route table of the config file

`buildRouteTable` turns the `[[routes]]` rows into a table and rejects the
file at the first bad or repeated row. The rows it accepts are exactly those
that all parse and whose lowercase hostnames are pairwise distinct, and the
table then stores exactly the rows.
-/

namespace SniRouter

open Text

/-- One `[[routes]]` entry as written in the file. -/
structure RawRoute where
  hostname : Str
  backend  : Str
deriving DecidableEq

/-- The route errors of a config file. -/
inductive ConfigError where
  | invalidRouteHostname (index : Nat) (hostname : Str) (error : NameError)
  | invalidRouteBackend (index : Nat) (backend : Str) (error : NameError)
  | duplicateRoute (hostname : Str)
deriving DecidableEq, Repr

/-- The loop of `build_route_table` from row `index` on. -/
def buildRouteTableFrom (index : Nat) (table : InMemoryLookup) :
    List RawRoute → Except ConfigError InMemoryLookup
  | [] => .ok table
  | route :: routes =>
    match RouteKey.parse route.hostname with
    | .error error => .error (.invalidRouteHostname index route.hostname error)
    | .ok key =>
      match Backend.parse route.backend with
      | .error error => .error (.invalidRouteBackend index route.backend error)
      | .ok backend =>
        let (table, previous) := table.insert key backend
        if previous.isSome then .error (.duplicateRoute key.text)
        else buildRouteTableFrom (index + 1) table routes

/-- `build_route_table`. -/
def buildRouteTable (routes : List RawRoute) : Except ConfigError InMemoryLookup :=
  buildRouteTableFrom 0 InMemoryLookup.new routes

/-- A row parses to a key and a backend. -/
def RawRoute.Parses (route : RawRoute) (key : RouteKey) (backend : Backend) : Prop :=
  RouteKey.parse route.hostname = .ok key ∧ Backend.parse route.backend = .ok backend

/-- A row up to the ASCII case of its hostname. -/
def RawRoute.normalized (route : RawRoute) : RawRoute :=
  { route with hostname := toAsciiLowercase route.hostname }

-- ---------------------------------------------------------------------------
-- What the table stores
-- ---------------------------------------------------------------------------

/-- The key is what the lowercased hostname says. -/
theorem RawRoute.Parses.key_eq {route : RawRoute} {key : RouteKey} {backend : Backend}
    (h : route.Parses key backend) :
    key = ⟨toAsciiLowercase route.hostname,
      (stripPrefix wildcardPrefix (toAsciiLowercase route.hostname)).isSome⟩ :=
  RouteKey.parse_eq h.1

/-- Parsing a row ignores the case of its hostname. -/
theorem RawRoute.parses_normalized {route : RawRoute} {key : RouteKey} {backend : Backend} :
    route.normalized.Parses key backend ↔ route.Parses key backend := by
  unfold RawRoute.Parses RawRoute.normalized
  rw [RouteKey.parse_toAsciiLowercase]

/-- Rows with equal keys have equal lowercase hostnames. -/
theorem RawRoute.Parses.hostname_eq {route route' : RawRoute} {key : RouteKey}
    {backend backend' : Backend} (h : route.Parses key backend) (h' : route'.Parses key backend') :
    toAsciiLowercase route.hostname = toAsciiLowercase route'.hostname := by
  have heq := h.key_eq.symm.trans h'.key_eq
  exact congrArg RouteKey.text heq

/-- The loop succeeds exactly when every remaining row parses to a key that is
neither in the table yet nor repeated, and it then adds exactly those rows. -/
theorem buildRouteTableFrom_ok {index : Nat} {table table' : InMemoryLookup}
    {routes : List RawRoute} (h : buildRouteTableFrom index table routes = .ok table') :
    (∀ route ∈ routes, ∃ key backend, route.Parses key backend ∧ table.get key = none) ∧
      (routes.map fun route => toAsciiLowercase route.hostname).Nodup ∧
      ∀ key backend, table'.get key = some backend ↔
        table.get key = some backend ∨ ∃ route ∈ routes, route.Parses key backend := by
  induction routes generalizing index table with
  | nil =>
    injection h with h
    subst h
    simp
  | cons route routes ih =>
    rw [buildRouteTableFrom] at h
    split at h
    · exact absurd h (by simp)
    · next key hkey =>
      split at h
      · exact absurd h (by simp)
      · next backend hbackend =>
        simp only [InMemoryLookup.insert, Option.isSome_iff_ne_none] at h
        split at h
        · exact absurd h (by simp)
        · next hfresh =>
          have hparses : route.Parses key backend := ⟨hkey, hbackend⟩
          have hnone : table.get key = none := not_not.mp hfresh
          obtain ⟨hrows, hnodup, hget⟩ := ih h
          have hlookup : ∀ k, InMemoryLookup.get ⟨table.routes.insert key backend⟩ k =
              if k = key then some backend else table.get k :=
            fun k => Map.lookup_insert table.routes key k backend
          refine ⟨?_, ?_, ?_⟩
          · intro r hr
            rcases List.mem_cons.mp hr with rfl | hr
            · exact ⟨key, backend, hparses, hnone⟩
            · obtain ⟨k, b, hp, hk⟩ := hrows r hr
              rw [hlookup] at hk
              split_ifs at hk
              exact ⟨k, b, hp, hk⟩
          · rw [List.map_cons, List.nodup_cons]
            refine ⟨?_, hnodup⟩
            intro hmem
            obtain ⟨r, hr, heq⟩ := List.mem_map.mp hmem
            obtain ⟨k, b, hp, hk⟩ := hrows r hr
            have hkk : k = key := by
              rw [hp.key_eq, hparses.key_eq, heq]
            rw [hlookup, if_pos hkk] at hk
            exact absurd hk (by simp)
          · intro k b
            rw [hget, hlookup]
            by_cases hkk : k = key
            · subst hkk
              rw [if_pos rfl, hnone]
              simp only [Option.some.injEq, reduceCtorEq, List.exists_mem_cons_iff, false_or]
              refine ⟨fun hb => ?_, fun hb => ?_⟩
              · rcases hb with rfl | hb
                · exact Or.inl hparses
                · exact Or.inr hb
              · rcases hb with hb | hb
                · left
                  have := hbackend.symm.trans hb.2
                  injection this
                · exact Or.inr hb
            · rw [if_neg hkk]
              simp only [List.exists_mem_cons_iff]
              have hno : ¬ route.Parses k b := by
                intro hp
                have := hkey.symm.trans hp.1
                injection this with this
                exact hkk this.symm
              simp [hno]

/-- Rows that parse to keys of their own are built. -/
theorem buildRouteTableFrom_complete {index : Nat} {table : InMemoryLookup}
    {routes : List RawRoute}
    (hrows : ∀ route ∈ routes, ∃ key backend, route.Parses key backend ∧ table.get key = none)
    (hnodup : (routes.map fun route => toAsciiLowercase route.hostname).Nodup) :
    ∃ table', buildRouteTableFrom index table routes = .ok table' := by
  induction routes generalizing index table with
  | nil => exact ⟨table, rfl⟩
  | cons route routes ih =>
    obtain ⟨key, backend, hparses, hnone⟩ := hrows route (List.mem_cons_self ..)
    rw [List.map_cons, List.nodup_cons] at hnodup
    have hfresh : table.routes.lookup key = none := hnone
    rw [buildRouteTableFrom, hparses.1]
    simp only [hparses.2, InMemoryLookup.insert, hfresh, Option.isSome_none, Bool.false_eq_true,
      if_false]
    apply ih _ hnodup.2
    intro r hr
    obtain ⟨k, b, hp, hk⟩ := hrows r (List.mem_cons_of_mem _ hr)
    refine ⟨k, b, hp, ?_⟩
    have hkk : k ≠ key := by
      intro heq
      subst heq
      exact hnodup.1 (List.mem_map.mpr ⟨r, hr, hp.hostname_eq hparses⟩)
    exact (AList.lookup_insert_ne hkk).trans hk

/-- The rows `buildRouteTable` accepts. -/
structure AcceptedRows (routes : List RawRoute) : Prop where
  parses : ∀ route ∈ routes, ∃ key backend, route.Parses key backend
  nodup  : (routes.map fun route => toAsciiLowercase route.hostname).Nodup

/-- A new table is empty. -/
theorem get_new (key : RouteKey) : InMemoryLookup.new.get key = none := rfl

/-- Built rows are acceptable. -/
theorem buildRouteTable_ok {routes : List RawRoute} {table : InMemoryLookup}
    (h : buildRouteTable routes = .ok table) : AcceptedRows routes := by
  obtain ⟨hrows, hnodup, -⟩ := buildRouteTableFrom_ok h
  refine ⟨fun route hr => ?_, hnodup⟩
  obtain ⟨key, backend, hp, -⟩ := hrows route hr
  exact ⟨key, backend, hp⟩

/-- Acceptable rows are built. -/
theorem AcceptedRows.build {routes : List RawRoute} (h : AcceptedRows routes) :
    ∃ table, buildRouteTable routes = .ok table := by
  apply buildRouteTableFrom_complete _ h.nodup
  intro route hr
  obtain ⟨key, backend, hp⟩ := h.parses route hr
  exact ⟨key, backend, hp, get_new key⟩

/-- The table stores exactly the rows of the file. -/
theorem buildRouteTable_get {routes : List RawRoute} {table : InMemoryLookup}
    (h : buildRouteTable routes = .ok table) {key : RouteKey} {backend : Backend} :
    table.get key = some backend ↔ ∃ route ∈ routes, route.Parses key backend := by
  rw [(buildRouteTableFrom_ok h).2.2 key backend, get_new]
  simp

/-- Acceptance and the stored rows survive reordering and changes of case. -/
theorem buildRouteTable_congr {routes routes' : List RawRoute} {table : InMemoryLookup}
    (h : buildRouteTable routes = .ok table)
    (hperm : (routes.map RawRoute.normalized).Perm (routes'.map RawRoute.normalized)) :
    ∃ table', buildRouteTable routes' = .ok table' ∧ ∀ key, table'.get key = table.get key := by
  have hmem : ∀ key backend, (∃ route ∈ routes', route.Parses key backend) ↔
      ∃ route ∈ routes, route.Parses key backend := by
    intro key backend
    have hnorm : ∀ rs : List RawRoute, (∃ route ∈ rs, route.Parses key backend) ↔
        ∃ route ∈ rs.map RawRoute.normalized, route.Parses key backend := by
      intro rs
      simp [RawRoute.parses_normalized]
    rw [hnorm routes', hnorm routes]
    exact ⟨fun ⟨r, hr, hp⟩ => ⟨r, hperm.mem_iff.mpr hr, hp⟩,
      fun ⟨r, hr, hp⟩ => ⟨r, hperm.mem_iff.mp hr, hp⟩⟩
  have hacc : AcceptedRows routes' := by
    have hok := buildRouteTable_ok h
    refine ⟨?_, ?_⟩
    · intro route hr
      have hr' := hperm.mem_iff.mpr (List.mem_map_of_mem hr)
      obtain ⟨r, hr, heq⟩ := List.mem_map.mp hr'
      obtain ⟨key, backend, hp⟩ := hok.parses r hr
      refine ⟨key, backend, ?_⟩
      rw [← RawRoute.parses_normalized, ← heq, RawRoute.parses_normalized]
      exact hp
    · have hn := hok.nodup
      have hmap := hperm.map RawRoute.hostname
      rw [List.map_map, List.map_map] at hmap
      exact hmap.nodup hn
  obtain ⟨table', h'⟩ := hacc.build
  refine ⟨table', h', fun key => ?_⟩
  apply Option.ext
  intro backend
  rw [buildRouteTable_get h', buildRouteTable_get h, hmem]

end SniRouter
