import SniRouter.Routing.SelectRoute

/-!
# SniRouter — selection from any answer

A lookup is a plug-in: its answer may come in any order, repeat keys and hold
rows nobody asked for. What selection makes of such a list is read off the
candidates and the first row under each of them, never off the list's order.
-/

namespace SniRouter

-- ---------------------------------------------------------------------------
-- The row under a key
-- ---------------------------------------------------------------------------

/-- The row returned for a key is the first one stored under it. -/
theorem RouteHits.get_eq_some_iff {hits : RouteHits} {key : RouteKey} {backend : Backend} :
    RouteHits.get hits key = some backend ↔
      ∃ before after, hits = before ++ (key, backend) :: after ∧ ∀ hit ∈ before, hit.1 ≠ key := by
  unfold RouteHits.get
  rw [Option.map_eq_some_iff]
  refine ⟨fun h => ?_, fun h => ?_⟩
  · obtain ⟨⟨key', backend'⟩, hfind, rfl⟩ := h
    obtain ⟨hkey, before, after, hhits, hbefore⟩ := List.find?_eq_some_iff_append.mp hfind
    have hkey : key' = key := by simpa using hkey
    subst hkey
    exact ⟨before, after, hhits, fun hit hhit => by simpa using hbefore hit hhit⟩
  · obtain ⟨before, after, hhits, hbefore⟩ := h
    refine ⟨(key, backend),
      List.find?_eq_some_iff_append.mpr ⟨by simp, before, after, hhits, ?_⟩, rfl⟩
    intro hit hhit
    simpa using hbefore hit hhit

/-- A key without a hit is not found. -/
theorem RouteHits.get_eq_none_iff {hits : RouteHits} {key : RouteKey} :
    RouteHits.get hits key = none ↔ ∀ hit ∈ hits, hit.1 ≠ key := by
  simp [RouteHits.get]

/-- Rows the filter drops are under other keys, so a key the filter keeps
reads the same. -/
theorem RouteHits.get_filter {hits : RouteHits} {kept : RouteKey → Bool} {key : RouteKey}
    (hkept : kept key = true) :
    RouteHits.get (hits.filter fun hit => kept hit.1) key = RouteHits.get hits key := by
  unfold RouteHits.get
  rw [List.find?_filter]
  congr 2
  funext hit
  by_cases hkey : hit.1 = key
  · simp [hkey, hkept]
  · simp [hkey]

/-- Without repeated keys, the row under a key is the one row that has it. -/
theorem RouteHits.get_eq_some_iff_mem {hits : RouteHits} (hnodup : (hits.map Prod.fst).Nodup)
    {key : RouteKey} {backend : Backend} :
    RouteHits.get hits key = some backend ↔ (key, backend) ∈ hits := by
  refine ⟨fun h => ?_, fun h => ?_⟩
  · obtain ⟨before, after, rfl, -⟩ := RouteHits.get_eq_some_iff.mp h
    exact List.mem_append_right _ (List.mem_cons_self ..)
  · obtain ⟨before, after, rfl⟩ := List.append_of_mem h
    refine RouteHits.get_eq_some_iff.mpr ⟨before, after, rfl, ?_⟩
    rw [List.map_append, List.nodup_append] at hnodup
    intro hit hhit
    exact hnodup.2.2 hit.1 (List.mem_map_of_mem hhit) key (List.mem_cons_self ..)

/-- So the order of the rows does not matter. -/
theorem RouteHits.get_perm {hits hits' : RouteHits} (hnodup : (hits.map Prod.fst).Nodup)
    (hperm : hits.Perm hits') (key : RouteKey) :
    RouteHits.get hits key = RouteHits.get hits' key := by
  have hnodup' : (hits'.map Prod.fst).Nodup := (hperm.map Prod.fst).nodup_iff.mp hnodup
  refine Option.ext fun backend => ?_
  rw [RouteHits.get_eq_some_iff_mem hnodup, RouteHits.get_eq_some_iff_mem hnodup',
    hperm.mem_iff]

-- ---------------------------------------------------------------------------
-- Selection
-- ---------------------------------------------------------------------------

section

variable {candidates : RouteCandidates} {hits hits' : RouteHits}

/-- The exact row if there is one, else the wildcard row. -/
theorem selectRoute_matched :
    (selectRoute candidates hits).matched =
      match RouteHits.get hits candidates.exact with
      | some backend => some ⟨candidates.exact, backend⟩
      | none => candidates.wildcard.bind fun key =>
          (RouteHits.get hits key).map fun backend => ⟨key, backend⟩ := by
  unfold selectRoute RouteCandidates.keys
  rw [List.findSome?_cons]
  cases RouteHits.get hits candidates.exact with
  | some backend => rfl
  | none =>
    cases candidates.wildcard with
    | none => rfl
    | some key =>
      simp only [Option.map_none, Option.toList_some, List.findSome?_cons, List.findSome?_nil,
        Option.bind_some]
      cases RouteHits.get hits key <;> rfl

/-- A selected row is the first one under its key; it is the exact key's, or
the wildcard's when no row is under the exact key. -/
theorem selectRoute_matched_eq_some_iff {route : RouteMatch} :
    (selectRoute candidates hits).matched = some route ↔
      RouteHits.get hits route.key = some route.backend ∧
        (route.key = candidates.exact ∨
          RouteHits.get hits candidates.exact = none ∧ candidates.wildcard = some route.key) := by
  obtain ⟨key, backend⟩ := route
  rw [selectRoute_matched]
  cases hexact : RouteHits.get hits candidates.exact with
  | some b =>
    simp only [Option.some.injEq, RouteMatch.mk.injEq, reduceCtorEq, false_and, or_false]
    refine ⟨fun h => ?_, fun h => ?_⟩
    · obtain ⟨rfl, rfl⟩ := h
      exact ⟨hexact, rfl⟩
    · obtain ⟨hget, rfl⟩ := h
      exact ⟨rfl, Option.some.inj (hexact.symm.trans hget)⟩
  | none =>
    simp only [true_and, Option.bind_eq_some_iff, Option.map_eq_some_iff, RouteMatch.mk.injEq]
    refine ⟨fun h => ?_, fun h => ?_⟩
    · obtain ⟨w, hw, b, hget, rfl, rfl⟩ := h
      exact ⟨hget, Or.inr hw⟩
    · obtain ⟨hget, rfl | hw⟩ := h
      · exact absurd (hexact.symm.trans hget) (by simp)
      · exact ⟨key, hw, backend, hget, rfl, rfl⟩

/-- Nothing is selected exactly when no row is under a candidate. -/
theorem selectRoute_matched_eq_none_iff :
    (selectRoute candidates hits).matched = none ↔ ∀ hit ∈ hits, hit.1 ∉ candidates.keys := by
  simp only [selectRoute, List.findSome?_eq_none_iff, Option.map_eq_none_iff,
    RouteHits.get_eq_none_iff]
  refine ⟨fun h hit hhit hmem => ?_, fun h key hkey hit hhit heq => ?_⟩
  · exact h hit.1 hmem hit hhit rfl
  · exact h hit hhit (heq ▸ hkey)

/-- Selection reads the answer at the candidate keys only. -/
theorem selectRoute_matched_congr
    (h : ∀ key ∈ candidates.keys, RouteHits.get hits key = RouteHits.get hits' key) :
    (selectRoute candidates hits).matched = (selectRoute candidates hits').matched := by
  have hexact := h candidates.exact (List.mem_cons_self ..)
  rw [selectRoute_matched, selectRoute_matched, hexact]
  cases hw : candidates.wildcard with
  | none => rfl
  | some key => rw [Option.bind_some, Option.bind_some, h key (by simp [RouteCandidates.keys, hw])]

/-- Rows under other keys are noise: two answers with the same rows under the
candidates, in the same order, are answered alike. -/
theorem selectRoute_matched_noise
    (h : (hits.filter fun hit => candidates.contains hit.1) =
      hits'.filter fun hit => candidates.contains hit.1) :
    (selectRoute candidates hits).matched = (selectRoute candidates hits').matched := by
  refine selectRoute_matched_congr fun key hkey => ?_
  have hkept := RouteCandidates.contains_iff.mpr hkey
  rw [← RouteHits.get_filter hkept, h, RouteHits.get_filter hkept]

/-- Without repeated keys the whole selection ignores the order. -/
theorem selectRoute_perm (hnodup : (hits.map Prod.fst).Nodup) (hperm : hits.Perm hits') :
    selectRoute candidates hits = selectRoute candidates hits' := by
  have hmatched : (selectRoute candidates hits).matched = (selectRoute candidates hits').matched :=
    selectRoute_matched_congr fun key _ => RouteHits.get_perm hnodup hperm key
  have hignored : (selectRoute candidates hits).ignoredHits =
      (selectRoute candidates hits').ignoredHits :=
    (hperm.filter _).length_eq
  exact congrArg₂ Selection.mk hmatched hignored

end

/-- **A store's answer decides only what it stores.** For every answer: a row
is selected exactly when some hit is under a candidate; it is the first hit
under the exact key, or under the wildcard when no hit has the exact key;
the hits under other keys are counted and otherwise ignored; and without
repeated keys no order of the hits changes the selection. -/
theorem selectRoute_any_answer (candidates : RouteCandidates) (hits : RouteHits) :
    ((selectRoute candidates hits).matched.isSome ↔ ∃ hit ∈ hits, hit.1 ∈ candidates.keys) ∧
    (∀ route, (selectRoute candidates hits).matched = some route →
      (if ∃ hit ∈ hits, hit.1 = candidates.exact then route.key = candidates.exact
        else candidates.wildcard = some route.key) ∧
      ∃ before after, hits = before ++ (route.key, route.backend) :: after ∧
        ∀ hit ∈ before, hit.1 ≠ route.key) ∧
    (selectRoute candidates hits).ignoredHits =
      hits.countP (fun hit => decide (hit.1 ∉ candidates.keys)) ∧
    (∀ before noise after, (∀ hit ∈ noise, hit.1 ∉ candidates.keys) →
      hits = before ++ noise ++ after →
      (selectRoute candidates hits).matched = (selectRoute candidates (before ++ after)).matched) ∧
    (∀ hits', ((hits.filter fun hit => candidates.contains hit.1) =
        hits'.filter fun hit => candidates.contains hit.1) →
      (selectRoute candidates hits).matched = (selectRoute candidates hits').matched) ∧
    ((hits.map Prod.fst).Nodup → ∀ hits', hits.Perm hits' →
      selectRoute candidates hits = selectRoute candidates hits') := by
  refine ⟨?_, ?_, ?_, ?_, fun hits' h => selectRoute_matched_noise h,
    fun hnodup hits' hperm => selectRoute_perm hnodup hperm⟩
  · rw [← not_iff_not, Bool.not_eq_true, Option.isSome_eq_false_iff, Option.isNone_iff_eq_none,
      selectRoute_matched_eq_none_iff]
    simp
  · intro route hroute
    obtain ⟨hget, hkey⟩ := selectRoute_matched_eq_some_iff.mp hroute
    have hfirst := RouteHits.get_eq_some_iff.mp hget
    refine ⟨?_, hfirst⟩
    split_ifs with hexact
    · rcases hkey with hkey | ⟨hnone, -⟩
      · exact hkey
      · obtain ⟨hit, hhit, heq⟩ := hexact
        exact absurd heq (RouteHits.get_eq_none_iff.mp hnone hit hhit)
    · rcases hkey with hkey | ⟨-, hwild⟩
      · -- the selected row itself is a hit under the exact key
        obtain ⟨before, after, rfl, -⟩ := hfirst
        exact absurd ⟨_, List.mem_append_right _ (List.mem_cons_self ..), hkey⟩ hexact
      · exact hwild
  · have hcontains : (fun hit : RouteKey × Backend => !candidates.contains hit.1) =
        fun hit => decide (hit.1 ∉ candidates.keys) := by
      funext hit
      rw [Bool.eq_iff_iff]
      simp [← RouteCandidates.contains_iff]
    rw [List.countP_eq_length_filter, selectRoute, hcontains]
  · intro before noise after hnoise hhits
    refine selectRoute_matched_noise ?_
    have hdrop : (noise.filter fun hit => candidates.contains hit.1) = [] := by
      rw [List.filter_eq_nil_iff]
      intro hit hhit hc
      exact hnoise hit hhit (RouteCandidates.contains_iff.mp hc)
    rw [hhits, List.filter_append, List.filter_append, List.filter_append, hdrop, List.append_nil]

end SniRouter
