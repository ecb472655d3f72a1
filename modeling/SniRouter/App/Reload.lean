import SniRouter.App.Config
import SniRouter.Lib.Machine
import SniRouter.Lib.Table

/-!
# SniRouter — reloading the routes

On SIGHUP the config file is read again, and its routes replace the current
table if the whole file is valid. A lookup takes the table under the lock once
and answers from that.

* `reloadFromPath` — one reload, with the table before and after it.
* `reloadMachine` — lookups and reloads in any order. The tables that were ever
  current are kept as generations.
* `ReloadInv` — who made each generation, and which one each lookup holds.
* `reload_all_or_nothing` — a reload installs all rows of its file or none, and
  a lookup answers from one generation.
-/

namespace SniRouter

open Text

-- ---------------------------------------------------------------------------
-- One reload
-- ---------------------------------------------------------------------------

/-- `InMemoryLookup::len`. -/
def InMemoryLookup.len (table : InMemoryLookup) : Nat := table.routes.size

/-- The settings the process started with. -/
structure StartupSettings where
  server : ServerConfig
  admin  : AdminConfig

/-- What a successful reload did. -/
structure ReloadOutcome where
  routes                    : Nat
  ignoredRestartOnlyChanges : Bool
deriving DecidableEq

/-- The outcome of a reload: the routes in force, and whether a restart is needed. -/
def reloadOutcome (startup : StartupSettings) (config : AppConfig) : ReloadOutcome :=
  ⟨config.routes.len, config.server != startup.server || config.admin != startup.admin⟩

/-- What a reload returns, and the table after it. -/
def reloadFromPath (toml : Str → Except Str RawConfig) (path : Str) (file : Except IoError Str)
    (startup : StartupSettings) (table : InMemoryLookup) :
    Except LoadError ReloadOutcome × InMemoryLookup :=
  match AppConfig.load toml path file with
  | .error error => (.error error, table)
  | .ok config => (.ok (reloadOutcome startup config), config.routes)

/-- The table and the number of routes are those of exactly these rows. -/
structure RowsInstalled (rows : List RawRoute) (table : InMemoryLookup) (routes : Nat) : Prop where
  parsed   : ∀ route ∈ rows, ∃ key backend, route.Parses key backend
  distinct : rows.Pairwise fun route route' => ∀ key backend backend',
    route.Parses key backend → ¬ route'.Parses key backend'
  stored   : ∀ key backend, table.get key = some backend ↔
    ∃ route ∈ rows, route.Parses key backend
  number   : routes = rows.length ∧ routes = table.len

/-- Building adds one route for every row. -/
theorem buildRouteTableFrom_len {index : Nat} {table table' : InMemoryLookup}
    {rows : List RawRoute} (h : buildRouteTableFrom index table rows = .ok table') :
    table'.len = table.len + rows.length := by
  induction rows generalizing index table with
  | nil =>
    injection h with h
    rw [h]
    rfl
  | cons route rows ih =>
    rw [buildRouteTableFrom] at h
    split at h
    · exact absurd h (by simp)
    · next key hkey =>
      split at h
      · exact absurd h (by simp)
      · next backend hbackend =>
        simp only [InMemoryLookup.insert, Option.isSome_iff_ne_none] at h
        split at h
        · exact absurd h (by simp)
        · next hfresh =>
          have hnone : table.routes.lookup key = none := not_not.mp hfresh
          have hlen : InMemoryLookup.len ⟨table.routes.insert key backend⟩ = table.len + 1 := by
            unfold InMemoryLookup.len
            rw [Map.size_insert, hnone]
            rfl
          have htotal := ih h
          rw [List.length_cons]
          omega

/-- A built table has exactly the rows installed. -/
theorem rowsInstalled_of_build {rows : List RawRoute} {table : InMemoryLookup}
    (h : buildRouteTable rows = .ok table) : RowsInstalled rows table table.len := by
  have hok := buildRouteTable_ok h
  have hlen : table.len = 0 + rows.length := buildRouteTableFrom_len h
  refine ⟨hok.parses, ?_, fun key backend => buildRouteTable_get h, by omega, rfl⟩
  refine (List.pairwise_map.mp hok.nodup).imp ?_
  intro route route' hne key backend backend' hparses hparses'
  exact hne (hparses.hostname_eq hparses')

/-- A loaded configuration has the rows of its file installed. -/
theorem rowsInstalled_of_load {toml : Str → Except Str RawConfig} {path : Str}
    {file : Except IoError Str} {config : AppConfig}
    (h : AppConfig.load toml path file = .ok config) :
    ∃ source raw, file = .ok source ∧ toml source = .ok raw ∧
      RowsInstalled raw.routes config.routes config.routes.len := by
  obtain ⟨source, hfile, hsource⟩ := AppConfig.load_ok h
  obtain ⟨raw, hraw, -, -, hroutes⟩ := AppConfig.fromTomlStr_ok hsource
  exact ⟨source, raw, hfile, hraw, rowsInstalled_of_build hroutes⟩

-- ---------------------------------------------------------------------------
-- Lookups and reloads
-- ---------------------------------------------------------------------------

/-- Ghost: a table that was current, and the reload that put it there. -/
structure Generation where
  table  : InMemoryLookup
  reload : Option Nat

/-- What became of a route lookup. -/
inductive FileLookupPhase where
  | begun
  /-- It holds the table that was current when it had the lock. -/
  | snapshot (table : InMemoryLookup)
  | returned (hits : RouteHits)

/-- A call of `FileRouteLookup::lookup`. -/
structure FileLookup where
  candidates : RouteCandidates
  phase      : FileLookupPhase
  /-- Ghost: the generation that was current when it began. -/
  began      : Nat
  /-- Ghost: the generation that was current when it returned. -/
  ended      : Nat

/-- What became of a reload. -/
inductive ReloadPhase where
  | begun
  /-- The file is valid; the table is not replaced yet. -/
  | loaded (config : AppConfig)
  | returned (result : Except LoadError ReloadOutcome)

/-- A call of `reload_from_path`. -/
structure Reload where
  path    : Str
  startup : StartupSettings
  /-- Ghost: what reading the file returned. -/
  file    : Option (Except IoError Str)
  phase   : ReloadPhase

/-- The shared table with the lookups and reloads that use it. -/
structure ReloadSystem where
  table       : InMemoryLookup
  /-- Ghost. The last one is the current table. -/
  generations : List Generation
  lookups     : List FileLookup
  reloads     : List Reload

/-- A step of a lookup or of a reload. -/
inductive ReloadStep where
  | lookup (candidates : RouteCandidates)
  | snapshot (l : Nat)
  | answer (l : Nat)
  | reload (path : Str) (startup : StartupSettings)
  | load (r : Nat) (file : Except IoError Str)
  | replace (r : Nat)

namespace ReloadSystem

/-- The initial table, and nobody uses it. -/
def start (initial : InMemoryLookup) : ReloadSystem := ⟨initial, [⟨initial, none⟩], [], []⟩

/-- The number of the current generation. -/
def current (s : ReloadSystem) : Nat := s.generations.length - 1

/-- A lookup goes on. -/
def setLookup (s : ReloadSystem) (l : Nat) (lookup : FileLookup) : ReloadSystem :=
  { s with lookups := s.lookups.set l lookup }

/-- A reload goes on. -/
def setReload (s : ReloadSystem) (r : Nat) (reload : Reload) : ReloadSystem :=
  { s with reloads := s.reloads.set r reload }

/-- After `load` comes `replace`, if the file was valid. -/
def afterLoad (loaded : Except LoadError AppConfig) : ReloadPhase :=
  match loaded with
  | .error error => .returned (.error error)
  | .ok config => .loaded config

/-- `FileRouteLookup::replace`, and the return of the reload. -/
def install (s : ReloadSystem) (r : Nat) (reload : Reload) (config : AppConfig) : ReloadSystem :=
  setReload { s with
    table := config.routes
    generations := s.generations ++ [⟨config.routes, some r⟩] } r
    { reload with phase := .returned (.ok (reloadOutcome reload.startup config)) }

/-- The step relation; `none` is an event that cannot happen. -/
def step (toml : Str → Except Str RawConfig) (event : ReloadStep) (s : ReloadSystem) :
    Option ReloadSystem :=
  match event with
  | .lookup candidates =>
    some { s with lookups := s.lookups ++ [⟨candidates, .begun, s.current, s.current⟩] }
  | .snapshot l =>
    (s.lookups[l]?).bind fun lookup =>
      match lookup.phase with
      | .begun => some (s.setLookup l { lookup with phase := .snapshot s.table })
      | _ => none
  | .answer l =>
    (s.lookups[l]?).bind fun lookup =>
      match lookup.phase with
      | .snapshot table => some (s.setLookup l { lookup with
          phase := .returned (table.hits lookup.candidates), ended := s.current })
      | _ => none
  | .reload path startup =>
    some { s with reloads := s.reloads ++ [⟨path, startup, none, .begun⟩] }
  | .load r file =>
    (s.reloads[r]?).bind fun reload =>
      match reload.phase with
      | .begun => some (s.setReload r { reload with
          file := some file, phase := afterLoad (AppConfig.load toml reload.path file) })
      | _ => none
  | .replace r =>
    (s.reloads[r]?).bind fun reload =>
      match reload.phase with
      | .loaded config => some (s.install r reload config)
      | _ => none

/-- All that one event can do. -/
inductive Stepped (toml : Str → Except Str RawConfig) (s : ReloadSystem) :
    ReloadStep → ReloadSystem → Prop where
  | lookup {candidates} : Stepped toml s (.lookup candidates)
      { s with lookups := s.lookups ++ [⟨candidates, .begun, s.current, s.current⟩] }
  | snapshot {l lookup} (hlookup : s.lookups[l]? = some lookup) (hphase : lookup.phase = .begun) :
      Stepped toml s (.snapshot l) (s.setLookup l { lookup with phase := .snapshot s.table })
  | answer {l lookup table} (hlookup : s.lookups[l]? = some lookup)
      (hphase : lookup.phase = .snapshot table) :
      Stepped toml s (.answer l) (s.setLookup l { lookup with
        phase := .returned (table.hits lookup.candidates), ended := s.current })
  | reload {path startup} : Stepped toml s (.reload path startup)
      { s with reloads := s.reloads ++ [⟨path, startup, none, .begun⟩] }
  | load {r file reload} (hreload : s.reloads[r]? = some reload) (hphase : reload.phase = .begun) :
      Stepped toml s (.load r file) (s.setReload r { reload with
        file := some file, phase := afterLoad (AppConfig.load toml reload.path file) })
  | replace {r reload config} (hreload : s.reloads[r]? = some reload)
      (hphase : reload.phase = .loaded config) :
      Stepped toml s (.replace r) (s.install r reload config)

/-- An event that happens, case by case. -/
theorem step_cases {toml : Str → Except Str RawConfig} {event : ReloadStep} {s s' : ReloadSystem}
    (h : step toml event s = some s') : Stepped toml s event s' := by
  unfold step at h
  split at h
  · injection h with h
    exact h ▸ .lookup
  · obtain ⟨lookup, hlookup, h⟩ := Option.bind_eq_some_iff.mp h
    split at h
    · next hphase =>
      injection h with h
      exact h ▸ .snapshot hlookup hphase
    · exact absurd h (by simp)
  · obtain ⟨lookup, hlookup, h⟩ := Option.bind_eq_some_iff.mp h
    split at h
    · next hphase =>
      injection h with h
      exact h ▸ .answer hlookup hphase
    · exact absurd h (by simp)
  · injection h with h
    exact h ▸ .reload
  · obtain ⟨reload, hreload, h⟩ := Option.bind_eq_some_iff.mp h
    split at h
    · next hphase =>
      injection h with h
      exact h ▸ .load hreload hphase
    · exact absurd h (by simp)
  · obtain ⟨reload, hreload, h⟩ := Option.bind_eq_some_iff.mp h
    split at h
    · next hphase =>
      injection h with h
      exact h ▸ .replace hreload hphase
    · exact absurd h (by simp)

end ReloadSystem

/-- The shared table under any interleaving. -/
def reloadMachine (toml : Str → Except Str RawConfig) (initial : InMemoryLookup) :
    Machine ReloadSystem ReloadStep where
  init s := s = .start initial
  step   := ReloadSystem.step toml

-- ---------------------------------------------------------------------------
-- The invariant
-- ---------------------------------------------------------------------------

/-- Generation `g` was current, and this was its table. -/
def TableAt (generations : List Generation) (g : Nat) (table : InMemoryLookup) : Prop :=
  ∃ generation, generations[g]? = some generation ∧ generation.table = table

/-- A generation stays where it is. -/
theorem TableAt.append {generations : List Generation} {g : Nat} {table : InMemoryLookup}
    (h : TableAt generations g table) (generation : Generation) :
    TableAt (generations ++ [generation]) g table := by
  obtain ⟨old, hold, htable⟩ := h
  exact ⟨old, (List.getElem?_append_left (Table.lt_length hold)).trans hold, htable⟩

/-- The generation a lookup answers from was current during the call. -/
def FileLookup.Ok (generations : List Generation) (lookup : FileLookup) : Prop :=
  lookup.began < generations.length ∧
  match lookup.phase with
  | .begun => True
  | .snapshot table => ∃ g, lookup.began ≤ g ∧ TableAt generations g table
  | .returned hits => ∃ g table, lookup.began ≤ g ∧ g ≤ lookup.ended ∧
      TableAt generations g table ∧ hits = table.hits lookup.candidates

/-- A lookup stays right when a generation is added. -/
theorem FileLookup.Ok.append {generations : List Generation} {lookup : FileLookup}
    (h : lookup.Ok generations) (generation : Generation) :
    lookup.Ok (generations ++ [generation]) := by
  obtain ⟨hbegan, h⟩ := h
  refine ⟨?_, ?_⟩
  · rw [List.length_append]
    exact Nat.lt_add_right _ hbegan
  · split
    · trivial
    · next table hphase =>
      rw [hphase] at h
      obtain ⟨g, hle, htable⟩ := h
      exact ⟨g, hle, htable.append generation⟩
    · next hits hphase =>
      rw [hphase] at h
      obtain ⟨g, table, hle, hend, htable, hhits⟩ := h
      exact ⟨g, table, hle, hend, htable.append generation, hhits⟩

/-- What a reload read, and what became of it. -/
def Reload.Ok (toml : Str → Except Str RawConfig) (generations : List Generation) (r : Nat)
    (reload : Reload) : Prop :=
  match reload.phase with
  | .begun => ∀ generation ∈ generations, generation.reload ≠ some r
  | .loaded config => (∀ generation ∈ generations, generation.reload ≠ some r) ∧
      ∃ file, reload.file = some file ∧ AppConfig.load toml reload.path file = .ok config
  | .returned (.error error) => (∀ generation ∈ generations, generation.reload ≠ some r) ∧
      ∃ file, reload.file = some file ∧ AppConfig.load toml reload.path file = .error error
  | .returned (.ok outcome) => ∃ config, ⟨config.routes, some r⟩ ∈ generations ∧
      outcome = reloadOutcome reload.startup config ∧
      ∃ file, reload.file = some file ∧ AppConfig.load toml reload.path file = .ok config

/-- A reload stays right when another one replaces the table. -/
theorem Reload.Ok.append {toml : Str → Except Str RawConfig} {generations : List Generation}
    {r : Nat} {reload : Reload} (h : reload.Ok toml generations r) {generation : Generation}
    (hother : generation.reload ≠ some r) : reload.Ok toml (generations ++ [generation]) r := by
  have hnew : (∀ old ∈ generations, old.reload ≠ some r) →
      ∀ old ∈ generations ++ [generation], old.reload ≠ some r := by
    intro hold old hmem
    rcases List.mem_append.mp hmem with hmem | hmem
    · exact hold old hmem
    · rw [List.mem_singleton.mp hmem]
      exact hother
  unfold Ok at h ⊢
  split
  · next hphase =>
    rw [hphase] at h
    exact hnew h
  · next hphase =>
    rw [hphase] at h
    exact ⟨hnew h.1, h.2⟩
  · next hphase =>
    rw [hphase] at h
    exact ⟨hnew h.1, h.2⟩
  · next hphase =>
    rw [hphase] at h
    obtain ⟨config, hmem, hrest⟩ := h
    exact ⟨config, List.mem_append_left _ hmem, hrest⟩

/-- What holds in every reachable state. -/
structure ReloadInv (toml : Str → Except Str RawConfig) (initial : InMemoryLookup)
    (s : ReloadSystem) : Prop where
  current : TableAt s.generations s.current s.table
  lookups : ∀ (l : Nat) lookup, s.lookups[l]? = some lookup → lookup.Ok s.generations
  reloads : ∀ (r : Nat) reload, s.reloads[r]? = some reload → reload.Ok toml s.generations r
  made    : ∀ (g : Nat) generation, s.generations[g]? = some generation →
    (g = 0 ∧ generation = ⟨initial, none⟩) ∨
      ∃ r reload outcome, generation.reload = some r ∧ s.reloads[r]? = some reload ∧
        reload.phase = .returned (.ok outcome)

namespace ReloadInv

variable {toml : Str → Except Str RawConfig} {initial : InMemoryLookup} {s s' : ReloadSystem}

theorem start (toml : Str → Except Str RawConfig) (initial : InMemoryLookup) :
    ReloadInv toml initial (.start initial) where
  current := ⟨⟨initial, none⟩, rfl, rfl⟩
  lookups l lookup h := absurd h (by simp [ReloadSystem.start])
  reloads r reload h := absurd h (by simp [ReloadSystem.start])
  made g generation h := by
    have hlt : g < 1 := Table.lt_length h
    have hg : g = 0 := by omega
    subst hg
    injection h with h
    exact .inl ⟨rfl, h.symm⟩

theorem began_lt (inv : ReloadInv toml initial s) : s.current < s.generations.length := by
  obtain ⟨generation, hgeneration, -⟩ := inv.current
  exact Table.lt_length hgeneration

/-- No generation was made by a reload that has not begun. -/
theorem fresh (inv : ReloadInv toml initial s) :
    ∀ generation ∈ s.generations, generation.reload ≠ some s.reloads.length := by
  intro generation hmem hreload
  obtain ⟨g, hg⟩ := List.mem_iff_getElem?.mp hmem
  rcases inv.made g generation hg with ⟨-, hinitial⟩ | ⟨r, reload, outcome, hr, hfound, -⟩
  · rw [hinitial] at hreload
    exact absurd hreload (by simp)
  · have hlt := Table.lt_length hfound
    have heq : r = s.reloads.length := Option.some.inj (hr.symm.trans hreload)
    omega

theorem setLookup (inv : ReloadInv toml initial s) {l : Nat} {lookup lookup' : FileLookup}
    (hlookup : s.lookups[l]? = some lookup) (hok : lookup'.Ok s.generations) :
    ReloadInv toml initial (s.setLookup l lookup') := by
  refine ⟨inv.current, ?_, inv.reloads, inv.made⟩
  intro l' other hother
  rcases Table.lookup_set_cases hlookup hother with ⟨-, rfl⟩ | ⟨-, hold⟩
  · exact hok
  · exact inv.lookups l' other hold

/-- A reload that had not replaced the table comes to another phase. -/
theorem setReload (inv : ReloadInv toml initial s) {r : Nat} {reload reload' : Reload}
    (hreload : s.reloads[r]? = some reload)
    (hpending : ∀ outcome, reload.phase ≠ .returned (.ok outcome))
    (hok : reload'.Ok toml s.generations r) : ReloadInv toml initial (s.setReload r reload') := by
  refine ⟨inv.current, inv.lookups, ?_, ?_⟩
  · intro r' other hother
    rcases Table.lookup_set_cases hreload hother with ⟨rfl, rfl⟩ | ⟨-, hold⟩
    · exact hok
    · exact inv.reloads r' other hold
  · intro g generation hg
    rcases inv.made g generation hg with hinitial | ⟨r', other, outcome, hr', hother, hphase⟩
    · exact .inl hinitial
    · refine .inr ⟨r', other, outcome, hr', ?_, hphase⟩
      have hne : r' ≠ r := by
        intro heq
        have hsame : other = reload := Option.some.inj (hother.symm.trans (heq ▸ hreload))
        exact hpending outcome (hsame ▸ hphase)
      exact (Table.lookup_set hreload reload' r').trans ((if_neg hne).trans hother)

/-- What comes after `load` is right. -/
theorem afterLoad_ok {r : Nat} {reload : Reload} {generations : List Generation}
    (hnew : ∀ generation ∈ generations, generation.reload ≠ some r)
    (file : Except IoError Str) :
    Reload.Ok toml generations r { reload with
      file := some file
      phase := ReloadSystem.afterLoad (AppConfig.load toml reload.path file) } := by
  unfold Reload.Ok ReloadSystem.afterLoad
  cases hload : AppConfig.load toml reload.path file with
  | error error => exact ⟨hnew, file, rfl, hload⟩
  | ok config => exact ⟨hnew, file, rfl, hload⟩

/-- A valid file becomes the next generation. -/
theorem install (inv : ReloadInv toml initial s) {r : Nat} {reload : Reload} {config : AppConfig}
    (hreload : s.reloads[r]? = some reload) (hphase : reload.phase = .loaded config) :
    ReloadInv toml initial (s.install r reload config) := by
  have hok := inv.reloads r reload hreload
  unfold Reload.Ok at hok
  rw [hphase] at hok
  obtain ⟨hnew, file, hfile, hload⟩ := hok
  let generations := s.generations ++ [⟨config.routes, some r⟩]
  have hlast : TableAt generations s.generations.length config.routes :=
    ⟨⟨config.routes, some r⟩, List.getElem?_concat_length, rfl⟩
  refine ⟨?_, fun l lookup hlookup => (inv.lookups l lookup hlookup).append _, ?_, ?_⟩
  · have hcurrent : (s.install r reload config).current = s.generations.length := by
      show (s.generations ++ [_]).length - 1 = s.generations.length
      rw [List.length_append]
      rfl
    rw [hcurrent]
    exact hlast
  · intro r' other hother
    rcases Table.lookup_set_cases hreload hother with ⟨rfl, rfl⟩ | ⟨hr, hold⟩
    · exact ⟨config, List.mem_append_right _ List.mem_cons_self, rfl, file, hfile, hload⟩
    · exact (inv.reloads r' other hold).append (by simpa using Ne.symm hr)
  · intro g generation hg
    rcases Table.lookup_append_cases hg with ⟨-, rfl⟩ | hold
    · let installed : Reload :=
        { reload with phase := .returned (.ok (reloadOutcome reload.startup config)) }
      exact .inr ⟨r, installed, _, rfl,
        (Table.lookup_set hreload installed r).trans (if_pos rfl), rfl⟩
    · rcases inv.made g generation hold with hinitial | ⟨r', other, outcome, hr', hother, hreturned⟩
      · exact .inl hinitial
      · have hne : r' ≠ r := by
          intro heq
          have hsame : other = reload := Option.some.inj (hother.symm.trans (heq ▸ hreload))
          rw [hsame, hphase] at hreturned
          exact absurd hreturned (by simp)
        exact .inr ⟨r', other, outcome, hr',
          (Table.lookup_set hreload _ r').trans ((if_neg hne).trans hother), hreturned⟩

theorem step (inv : ReloadInv toml initial s) {event : ReloadStep}
    (h : ReloadSystem.step toml event s = some s') : ReloadInv toml initial s' := by
  cases ReloadSystem.step_cases h with
  | lookup =>
    refine ⟨inv.current, ?_, inv.reloads, inv.made⟩
    intro l lookup hlookup
    rcases Table.lookup_append_cases hlookup with ⟨-, rfl⟩ | hold
    · exact ⟨inv.began_lt, trivial⟩
    · exact inv.lookups l lookup hold
  | @snapshot l lookup hlookup hphase =>
    obtain ⟨hbegan, -⟩ := inv.lookups l lookup hlookup
    refine inv.setLookup hlookup ⟨hbegan, s.current, ?_, inv.current⟩
    show lookup.began ≤ s.generations.length - 1
    omega
  | @answer l lookup table hlookup hphase =>
    obtain ⟨hbegan, hok⟩ := inv.lookups l lookup hlookup
    rw [hphase] at hok
    obtain ⟨g, hle, htable⟩ := hok
    refine inv.setLookup hlookup ⟨hbegan, g, table, hle, ?_, htable, rfl⟩
    obtain ⟨generation, hgeneration, -⟩ := htable
    have hlt := Table.lt_length hgeneration
    show g ≤ s.generations.length - 1
    omega
  | reload =>
    refine ⟨inv.current, inv.lookups, ?_, ?_⟩
    · intro r reload hreload
      rcases Table.lookup_append_cases hreload with ⟨rfl, rfl⟩ | hold
      · exact inv.fresh
      · exact inv.reloads r reload hold
    · intro g generation hg
      rcases inv.made g generation hg with hinitial | ⟨r, reload, outcome, hr, hreload, hphase⟩
      · exact .inl hinitial
      · exact .inr ⟨r, reload, outcome, hr,
          (List.getElem?_append_left (Table.lt_length hreload)).trans hreload, hphase⟩
  | @load r file reload hreload hphase =>
    have hok := inv.reloads r reload hreload
    unfold Reload.Ok at hok
    rw [hphase] at hok
    exact inv.setReload hreload (by simp [hphase]) (afterLoad_ok hok file)
  | replace hreload hphase => exact inv.install hreload hphase

end ReloadInv

theorem reload_inv {toml : Str → Except Str RawConfig} {initial : InMemoryLookup}
    {s : ReloadSystem} (h : (reloadMachine toml initial).Reachable s) :
    ReloadInv toml initial s :=
  h.invariant (fun hinit => hinit ▸ .start toml initial) fun inv hstep => inv.step hstep

-- ---------------------------------------------------------------------------
-- All or nothing
-- ---------------------------------------------------------------------------

/-- The two steps of a reload do what `reloadFromPath` does. -/
theorem reloadFromPath_steps {toml : Str → Except Str RawConfig} {initial : InMemoryLookup}
    {s : ReloadSystem} {r : Nat} {reload : Reload} (hreload : s.reloads[r]? = some reload)
    (hphase : reload.phase = .begun) (file : Except IoError Str) :
    ∃ es s', (reloadMachine toml initial).run es s = some s' ∧
      s'.table = (reloadFromPath toml reload.path file reload.startup s.table).2 ∧
      s'.reloads[r]?.map Reload.phase =
        some (.returned (reloadFromPath toml reload.path file reload.startup s.table).1) := by
  let read : Reload := { reload with
    file := some file, phase := ReloadSystem.afterLoad (AppConfig.load toml reload.path file) }
  have hstep : (reloadMachine toml initial).step (.load r file) s = some (s.setReload r read) := by
    show ReloadSystem.step toml (.load r file) s = _
    unfold ReloadSystem.step
    dsimp only
    rw [hreload, Option.bind_some, hphase]
  have hread : (s.setReload r read).reloads[r]? = some read :=
    List.getElem?_set_self (Table.lt_length hreload)
  unfold reloadFromPath
  cases hload : AppConfig.load toml reload.path file with
  | error error =>
    have hreturned : read.phase = .returned (.error error) := by
      show ReloadSystem.afterLoad (AppConfig.load toml reload.path file) = _
      rw [hload]
      rfl
    refine ⟨[.load r file], s.setReload r read, (Machine.run_cons _).mpr ⟨_, hstep, rfl⟩, rfl, ?_⟩
    rw [hread, Option.map_some, hreturned]
  | ok config =>
    have hloaded : read.phase = .loaded config := by
      show ReloadSystem.afterLoad (AppConfig.load toml reload.path file) = _
      rw [hload]
      rfl
    have hreplace : (reloadMachine toml initial).step (.replace r) (s.setReload r read) =
        some ((s.setReload r read).install r read config) := by
      show ReloadSystem.step toml (.replace r) (s.setReload r read) = _
      unfold ReloadSystem.step
      dsimp only
      rw [hread, Option.bind_some, hloaded]
    refine ⟨[.load r file, .replace r], _, (Machine.run_cons _).mpr ⟨_, hstep,
      (Machine.run_cons _).mpr ⟨_, hreplace, rfl⟩⟩, rfl, ?_⟩
    show Option.map Reload.phase (((s.setReload r read).reloads.set r _)[r]?) = _
    rw [List.getElem?_set_self (Table.lt_length hread)]
    rfl

/-- The reloads of a run installed whole files, and its lookups answered from
one table each. -/
structure ReloadedWhole (toml : Str → Except Str RawConfig) (initial : InMemoryLookup)
    (s : ReloadSystem) : Prop where
  /-- The table is the last one that was installed. -/
  current   : TableAt s.generations s.current s.table
  /-- Only reloads that succeed install one. -/
  made      : ∀ (g : Nat) generation, s.generations[g]? = some generation →
    (g = 0 ∧ generation = ⟨initial, none⟩) ∨
      ∃ r reload outcome, generation.reload = some r ∧ s.reloads[r]? = some reload ∧
        reload.phase = .returned (.ok outcome)
  failed    : ∀ (r : Nat) reload error, s.reloads[r]? = some reload →
    reload.phase = .returned (.error error) →
    ∀ generation ∈ s.generations, generation.reload ≠ some r
  succeeded : ∀ (r : Nat) reload outcome, s.reloads[r]? = some reload →
    reload.phase = .returned (.ok outcome) →
    ∃ generation ∈ s.generations, generation.reload = some r ∧
      ∃ source raw, reload.file = some (.ok source) ∧ toml source = .ok raw ∧
        RowsInstalled raw.routes generation.table outcome.routes
  /-- One table for both keys, current between the start and the end of the
  call. -/
  lookups   : ∀ (l : Nat) lookup hits, s.lookups[l]? = some lookup →
    lookup.phase = .returned hits → ∃ g table, lookup.began ≤ g ∧ g ≤ lookup.ended ∧
      TableAt s.generations g table ∧ hits = table.hits lookup.candidates

/-- The invariant says that reloads are whole. -/
theorem ReloadInv.whole {toml : Str → Except Str RawConfig} {initial : InMemoryLookup}
    {s : ReloadSystem} (inv : ReloadInv toml initial s) : ReloadedWhole toml initial s := by
  refine ⟨inv.current, inv.made, ?_, ?_, ?_⟩
  · intro r reload error hreload hphase
    have hok := inv.reloads r reload hreload
    unfold Reload.Ok at hok
    rw [hphase] at hok
    exact hok.1
  · intro r reload outcome hreload hphase
    have hok := inv.reloads r reload hreload
    unfold Reload.Ok at hok
    rw [hphase] at hok
    obtain ⟨config, hmem, houtcome, file, hfile, hload⟩ := hok
    obtain ⟨source, raw, hsource, hraw, hrows⟩ := rowsInstalled_of_load hload
    refine ⟨_, hmem, rfl, source, raw, hsource ▸ hfile, hraw, ?_⟩
    rw [houtcome]
    exact hrows
  · intro l lookup hits hlookup hphase
    have hok := (inv.lookups l lookup hlookup).2
    rw [hphase] at hok
    exact hok

/-- **Reload is all or nothing.** A reload that fails leaves the table as it
was; one that succeeds makes it the rows of its file, which all parse to
different keys. However lookups and reloads interleave, every lookup answers
both its keys from one table that was current during the call. -/
theorem reload_all_or_nothing {toml : Str → Except Str RawConfig} {initial : InMemoryLookup}
    {s : ReloadSystem} (hr : (reloadMachine toml initial).Reachable s) :
    (∀ path file startup table,
      (∀ error, (reloadFromPath toml path file startup table).1 = .error error →
        (reloadFromPath toml path file startup table).2 = table) ∧
      (∀ outcome, (reloadFromPath toml path file startup table).1 = .ok outcome →
        ∃ source raw, file = .ok source ∧ toml source = .ok raw ∧
          RowsInstalled raw.routes (reloadFromPath toml path file startup table).2
            outcome.routes)) ∧
    ReloadedWhole toml initial s := by
  refine ⟨fun path file startup table => ?_, (reload_inv hr).whole⟩
  unfold reloadFromPath
  cases hload : AppConfig.load toml path file with
  | error error => exact ⟨fun _ _ => rfl, fun outcome h => absurd h (by simp)⟩
  | ok config =>
    refine ⟨fun error h => absurd h (by simp), fun outcome h => ?_⟩
    injection h with h
    rw [← h]
    exact rowsInstalled_of_load hload

/-- A file of one route, and a parser that knows only this file. -/
def sampleSource : Str := ascii "[[routes]]\nhostname = \"A.test\"\nbackend = \"new:1\"\n"

/-- A TOML reader that knows one file. -/
def sampleToml (source : Str) : Except Str RawConfig :=
  if source = sampleSource then .ok ⟨.default, .default, [⟨ascii "A.test", ascii "new:1"⟩]⟩
  else .error (ascii "expected an equals")

/-- The startup settings of the sample. -/
def sampleStartup : StartupSettings where
  server := ⟨RawServer.default.listen, .default⟩
  admin := ⟨RawAdmin.default.listen, RawAdmin.default.healthPath⟩

/-- The hits a lookup has returned. -/
def FileLookup.hits (lookup : FileLookup) : Option RouteHits :=
  match lookup.phase with
  | .returned hits => some hits
  | _ => none

/-- A lookup takes the table between a reload that succeeds and one that
fails. -/
def sampleRun : List ReloadStep :=
  [.lookup ⟨⟨ascii "a.test", false⟩, none⟩, .reload (ascii "f") sampleStartup,
    .load 0 (.ok sampleSource), .replace 0, .snapshot 0, .reload (ascii "f") sampleStartup,
    .load 1 (.ok (ascii "not toml [")), .answer 0]

theorem reload_all_or_nothing_at :
    ∃ s, (reloadMachine sampleToml .new).run sampleRun (.start .new) = some s ∧
      (s.lookups[0]?.bind FileLookup.hits) =
        some [(⟨ascii "a.test", false⟩, ⟨.dns (ascii "new"), ⟨1, by decide⟩⟩)] ∧
      ReloadedWhole sampleToml .new s := by
  have hends : ((reloadMachine sampleToml .new).run sampleRun (.start .new)).map
      (fun s => s.lookups[0]?.bind FileLookup.hits) =
        some (some [(⟨ascii "a.test", false⟩, ⟨.dns (ascii "new"), ⟨1, by decide⟩⟩)]) := by
    decide +kernel
  obtain ⟨s, hrun, hhits⟩ := Option.map_eq_some_iff.mp hends
  exact ⟨s, hrun, hhits, (reload_all_or_nothing ⟨_, _, rfl, hrun⟩).2⟩

end SniRouter
