import SniRouter.App.RouteTable

/-!
# SniRouter — the documented matching rule

What the route table means, said over the rows of the file and the name of the
client: the row that spells the name wins; otherwise the row `*.P` where the
name is one label, a dot and `P`; otherwise the name is not found.
`resolveRoute_matches_rule` shows that the keys built for rows
(`RouteKey.parse`) and the keys built for names (`RouteKey.exact`,
`RouteKey.wildcardFor`) meet exactly by this rule.
-/

namespace SniRouter

open Text

/-- The row spells the name, up to case. -/
def ExactRow (name : Str) (route : RawRoute) : Prop :=
  toAsciiLowercase route.hostname = toAsciiLowercase name

instance (name : Str) (route : RawRoute) : Decidable (ExactRow name route) :=
  inferInstanceAs (Decidable (_ = _))

/-- The row is `*.P` and the name is one label, a dot and `P`, up to case. -/
def WildcardRow (name : Str) (route : RawRoute) : Prop :=
  ∃ label parent, dot ∉ label ∧ toAsciiLowercase name = label ++ dot :: parent ∧
    toAsciiLowercase route.hostname = wildcardPrefix ++ parent

section Rule

variable {routes : List RawRoute} {table : InMemoryLookup} {name : Str} {host : Hostname}

/-- A row that spells the name is stored under the name's exact key. -/
theorem ExactRow.key_eq {route : RawRoute} {key : RouteKey} {backend : Backend}
    (hname : Hostname.parse name = .ok host) (hrow : ExactRow name route)
    (hp : route.Parses key backend) : key = RouteKey.exact host := by
  have htext : toAsciiLowercase route.hostname = host.text :=
    hrow.trans (Hostname.parse_eq_ok_iff.mp hname).symm
  rw [hp.key_eq, htext, host.stripPrefix_wildcard]
  rfl

/-- A wildcard row that covers the name is stored under the name's wildcard
key. The parent has two labels because the row was accepted. -/
theorem WildcardRow.key_eq {route : RawRoute} {key : RouteKey} {backend : Backend}
    (hname : Hostname.parse name = .ok host) (hrow : WildcardRow name route)
    (hp : route.Parses key backend) : RouteKey.wildcardFor host = some key := by
  obtain ⟨label, parent, hlabel, htext, hrowText⟩ := hrow
  have hstrip : stripPrefix wildcardPrefix (toAsciiLowercase route.hostname) = some parent :=
    stripPrefix_eq_some_iff.mpr hrowText
  obtain ⟨⟨parentHost, hparent, hdot⟩, hkey⟩ := (RouteKey.parse_wildcard_iff hstrip).mp hp.1
  -- the parent is a tail of a lowercase string
  have hlower : toAsciiLowercase parent = parent := by
    have h := toAsciiLowercase_idem route.hostname
    rw [hrowText, toAsciiLowercase_append] at h
    exact List.append_cancel_left (h.trans rfl)
  rw [Hostname.parse_eq_ok_iff.mp hparent, hlower] at hdot
  rw [← Hostname.parse_eq_ok_iff.mp hname] at htext
  rw [RouteKey.wildcardFor_eq_some_iff]
  exact ⟨label, parent, hlabel, htext, hdot, by rw [hkey, hrowText]⟩

/-- What is answered was stored by an exact or a wildcard row. -/
theorem row_of_resolveRoute (hbuild : buildRouteTable routes = .ok table)
    (hname : Hostname.parse name = .ok host) {found : RouteMatch}
    (h : resolveRoute table.lookup host = .ok found) :
    ∃ route ∈ routes, route.Parses found.key found.backend ∧
      (ExactRow name route ∨ WildcardRow name route) := by
  obtain ⟨hget, hkey⟩ := resolveRoute_eq_ok_iff.mp h
  obtain ⟨route, hr, hp⟩ := (buildRouteTable_get hbuild).mp hget
  refine ⟨route, hr, hp, ?_⟩
  have htext := Hostname.parse_eq_ok_iff.mp hname
  rcases hkey with hkey | ⟨-, hkey⟩
  · left
    have := hp.key_eq.symm.trans hkey
    exact (congrArg RouteKey.text this).trans htext
  · right
    obtain ⟨label, parent, hlabel, hsplit, -, hk⟩ := RouteKey.wildcardFor_eq_some_iff.mp hkey
    refine ⟨label, parent, hlabel, htext ▸ hsplit, ?_⟩
    have := hp.key_eq.symm.trans hk
    exact congrArg RouteKey.text this

/-- An exact row is preferred. -/
theorem resolveRoute_exact (hbuild : buildRouteTable routes = .ok table)
    (hname : Hostname.parse name = .ok host) {route : RawRoute} (hr : route ∈ routes)
    (hrow : ExactRow name route) :
    ∃ key backend, route.Parses key backend ∧
      resolveRoute table.lookup host = .ok ⟨key, backend⟩ := by
  obtain ⟨key, backend, hp⟩ := (buildRouteTable_ok hbuild).parses route hr
  refine ⟨key, backend, hp, ?_⟩
  rw [resolveRoute_eq_ok_iff]
  exact ⟨(buildRouteTable_get hbuild).mpr ⟨route, hr, hp⟩, Or.inl (hrow.key_eq hname hp)⟩

/-- Without an exact row, the wildcard's is taken. -/
theorem resolveRoute_wildcard (hbuild : buildRouteTable routes = .ok table)
    (hname : Hostname.parse name = .ok host)
    (hno : ∀ route ∈ routes, ¬ ExactRow name route) {route : RawRoute} (hr : route ∈ routes)
    (hrow : WildcardRow name route) :
    ∃ key backend, route.Parses key backend ∧
      resolveRoute table.lookup host = .ok ⟨key, backend⟩ := by
  obtain ⟨key, backend, hp⟩ := (buildRouteTable_ok hbuild).parses route hr
  refine ⟨key, backend, hp, ?_⟩
  rw [resolveRoute_eq_ok_iff]
  refine ⟨(buildRouteTable_get hbuild).mpr ⟨route, hr, hp⟩, Or.inr ⟨?_, hrow.key_eq hname hp⟩⟩
  -- a row stored under the exact key would spell the name
  cases hget : table.get (RouteKey.exact host) with
  | none => rfl
  | some b =>
    obtain ⟨r, hr', hp'⟩ := (buildRouteTable_get hbuild).mp hget
    have htext := congrArg RouteKey.text hp'.key_eq
    exact absurd (htext.symm.trans (Hostname.parse_eq_ok_iff.mp hname)) (hno r hr')

/-- Without either row the route is not found. -/
theorem resolveRoute_notFound (hbuild : buildRouteTable routes = .ok table)
    (hname : Hostname.parse name = .ok host)
    (hno : ∀ route ∈ routes, ¬ ExactRow name route ∧ ¬ WildcardRow name route) :
    resolveRoute table.lookup host = .error .notFound := by
  cases h : resolveRoute table.lookup host with
  | error e => rw [resolveRoute_error h]
  | ok found =>
    obtain ⟨route, hr, -, hrow⟩ := row_of_resolveRoute hbuild hname h
    rcases hrow with hrow | hrow
    · exact absurd hrow (hno route hr).1
    · exact absurd hrow (hno route hr).2

/-- A wildcard row covers neither its own parent nor names two labels deeper. -/
theorem not_wildcardRow {route : RawRoute} {parent : Str}
    (hrow : toAsciiLowercase route.hostname = wildcardPrefix ++ parent)
    (hdeep : toAsciiLowercase name = parent ∨
      ∃ front label, toAsciiLowercase name = front ++ dot :: label ++ dot :: parent) :
    ¬ WildcardRow name route := by
  intro ⟨label, parent', hlabel, htext, hrow'⟩
  have hparent : parent' = parent := List.append_cancel_left (hrow'.symm.trans hrow)
  subst hparent
  rcases hdeep with hself | ⟨front, inner, htwo⟩
  · have hlen := congrArg List.length (htext.symm.trans hself)
    simp at hlen
    omega
  · have heq := List.append_cancel_right (htext.symm.trans htwo)
    rw [heq] at hlabel
    simp at hlabel

end Rule

/-- **Routing equals the documented rule.** For every accepted file and every
accepted name: the row that spells the name answers; else the covering
wildcard row; else the name is not found. Nothing a table answers is ignored,
the answer does not depend on the order of the rows or on case, and a wildcard
row never answers for its parent or for names two labels deeper. -/
theorem resolveRoute_matches_rule {routes : List RawRoute} {table : InMemoryLookup} {name : Str}
    {host : Hostname} (hbuild : buildRouteTable routes = .ok table)
    (hname : Hostname.parse name = .ok host) :
    (∀ route ∈ routes, ExactRow name route →
      ∃ key backend, route.Parses key backend ∧
        resolveRoute table.lookup host = .ok ⟨key, backend⟩) ∧
    ((∀ route ∈ routes, ¬ ExactRow name route) →
      ∀ route ∈ routes, WildcardRow name route →
        ∃ key backend, route.Parses key backend ∧
          resolveRoute table.lookup host = .ok ⟨key, backend⟩) ∧
    ((∀ route ∈ routes, ¬ ExactRow name route ∧ ¬ WildcardRow name route) →
      resolveRoute table.lookup host = .error .notFound) ∧
    (selectRoute (candidateKeys host) (table.hits (candidateKeys host))).ignoredHits = 0 ∧
    (∀ routes' name',
      (routes.map RawRoute.normalized).Perm (routes'.map RawRoute.normalized) →
      toAsciiLowercase name' = toAsciiLowercase name →
      ∃ table' host', buildRouteTable routes' = .ok table' ∧
        Hostname.parse name' = .ok host' ∧
        resolveRoute table'.lookup host' = resolveRoute table.lookup host) ∧
    (∀ route ∈ routes, ∀ parent,
      toAsciiLowercase route.hostname = wildcardPrefix ++ parent →
      (toAsciiLowercase name = parent ∨
        ∃ front label, toAsciiLowercase name = front ++ dot :: label ++ dot :: parent) →
      ∀ found, resolveRoute table.lookup host = .ok found →
        found.key.text ≠ toAsciiLowercase route.hostname) := by
  refine ⟨fun route hr hrow => resolveRoute_exact hbuild hname hr hrow,
    fun hno route hr hrow => resolveRoute_wildcard hbuild hname hno hr hrow,
    fun hno => resolveRoute_notFound hbuild hname hno, ?_, ?_, ?_⟩
  · rw [selectRoute_hits]
  · intro routes' name' hperm hcase
    obtain ⟨table', hbuild', hget⟩ := buildRouteTable_congr hbuild hperm
    refine ⟨table', host, hbuild', ?_, resolveRoute_congr hget⟩
    rw [Hostname.parse_eq_ok_iff, hcase]
    exact Hostname.parse_eq_ok_iff.mp hname
  · intro route hr parent hrow hdeep found hfound htext
    obtain ⟨row, -, hp, hkind⟩ := row_of_resolveRoute hbuild hname hfound
    have hrowText : toAsciiLowercase row.hostname = toAsciiLowercase route.hostname := by
      rw [← htext, hp.key_eq]
    rcases hkind with hexact | hwild
    · -- the exact key of a name has no wildcard prefix
      have hhost : host.text = wildcardPrefix ++ parent := by
        rw [Hostname.parse_eq_ok_iff.mp hname, ← hexact, hrowText, hrow]
      have := host.stripPrefix_wildcard
      rw [stripPrefix_eq_some_iff.mpr hhost] at this
      exact absurd this (by simp)
    · exact not_wildcardRow (hrowText.trans hrow) hdeep hwild

/-- At the rows `A.x.com` and `*.X.com`, the name `b.X.com` gets the wildcard
row. -/
theorem resolveRoute_matches_rule_at :
    ∃ table host,
      buildRouteTable [⟨ascii "A.x.com", ascii "a:1"⟩, ⟨ascii "*.X.com", ascii "w:2"⟩] = .ok table ∧
      Hostname.parse (ascii "b.X.com") = .ok host ∧
      ∃ key backend,
        RawRoute.Parses ⟨ascii "*.X.com", ascii "w:2"⟩ key backend ∧
        resolveRoute table.lookup host = .ok ⟨key, backend⟩ := by
  obtain ⟨table, hbuild⟩ : ∃ table, buildRouteTable
      [⟨ascii "A.x.com", ascii "a:1"⟩, ⟨ascii "*.X.com", ascii "w:2"⟩] = .ok table := ⟨_, rfl⟩
  obtain ⟨host, hname⟩ : ∃ host, Hostname.parse (ascii "b.X.com") = .ok host := ⟨_, rfl⟩
  exact ⟨table, host, hbuild, hname, (resolveRoute_matches_rule hbuild hname).2.1 (by decide)
    ⟨ascii "*.X.com", ascii "w:2"⟩ (by simp) ⟨ascii "b", ascii "x.com", by decide⟩⟩

end SniRouter
