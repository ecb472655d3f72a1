import SniRouter.App.Run
import SniRouter.Delivery.Lookups

/-!
# SniRouter — from the config file to the backend

In the app every lookup of a connection is one call of the file table. So what
a connection does with its hostname can be read off the rows of one config
file: the one the process started with, or one that a reload has read.

* `RowsName` — what the rows of a file say about a hostname.
* `Sourced` — every table comes from the file of its reload.
* `CallInv` — which connection made which call, and what it made of it.
* `app_routes_by_file` — hostname, backend and bytes of every connection.
-/

namespace SniRouter

open Framing Text Table

-- ---------------------------------------------------------------------------
-- Rows
-- ---------------------------------------------------------------------------

/-- The rows name this backend for the hostname: in its own row or, if it has
none, in the row of its wildcard. -/
def RowsName (rows : List RawRoute) (host : Hostname) (backend : Backend) : Prop :=
  (∃ row ∈ rows, row.Parses (.exact host) backend) ∨
    (∀ row ∈ rows, ∀ other, ¬ row.Parses (.exact host) other) ∧
      ∃ key, RouteKey.wildcardFor host = some key ∧ ∃ row ∈ rows, row.Parses key backend

/-- A route found is that of a row that names the host. -/
theorem RowsInstalled.resolve_ok {rows : List RawRoute} {table : InMemoryLookup} {n : Nat}
    (h : RowsInstalled rows table n) {host : Hostname} {route : RouteMatch}
    (hroute : resolveRoute table.lookup host = .ok route) : RowsName rows host route.backend := by
  obtain ⟨hget, hkey | ⟨hnone, hwild⟩⟩ := resolveRoute_eq_ok_iff.mp hroute
  · rw [hkey] at hget
    exact .inl ((h.stored _ _).mp hget)
  · refine .inr ⟨fun row hrow other hparses => ?_, route.key, hwild, (h.stored _ _).mp hget⟩
    rw [(h.stored _ _).mpr ⟨row, hrow, hparses⟩] at hnone
    exact absurd hnone (by simp)

/-- Where no route is found, no row names the host. -/
theorem RowsInstalled.resolve_notFound {rows : List RawRoute} {table : InMemoryLookup} {n : Nat}
    (h : RowsInstalled rows table n) {host : Hostname}
    (hroute : resolveRoute table.lookup host = .error .notFound) (backend : Backend) :
    ¬ RowsName rows host backend := by
  have hnot : ∀ key, resolveRoute table.lookup host ≠ .ok ⟨key, backend⟩ := by
    intro key hok
    exact absurd (hroute.symm.trans hok) (by simp)
  rintro (hrow | ⟨hother, key, hwild, hrow⟩)
  · exact hnot _ (resolveRoute_eq_ok_iff.mpr ⟨(h.stored _ _).mpr hrow, .inl rfl⟩)
  · refine hnot key (resolveRoute_eq_ok_iff.mpr ⟨(h.stored _ _).mpr hrow, .inr ⟨?_, hwild⟩⟩)
    cases hget : table.get (.exact host) with
    | none => rfl
    | some other =>
      obtain ⟨row, hmem, hparses⟩ := (h.stored _ _).mp hget
      exact absurd hparses (hother row hmem other)

-- ---------------------------------------------------------------------------
-- Tables and files
-- ---------------------------------------------------------------------------

/-- Every table that a reload has installed is that of the file it read. -/
def Sourced (toml : Str → Except Str RawConfig) (s : ReloadSystem) : Prop :=
  ∀ generation ∈ s.generations, ∀ r, generation.reload = some r →
    ∃ reload file config, s.reloads[r]? = some reload ∧ reload.phase ≠ .begun ∧
      reload.file = some file ∧ AppConfig.load toml reload.path file = .ok config ∧
      generation.table = config.routes

namespace Sourced

variable {toml : Str → Except Str RawConfig} {initial : InMemoryLookup} {s s' : ReloadSystem}

theorem step (h : Sourced toml s) (inv : ReloadInv toml initial s) {event : ReloadStep}
    (hstep : ReloadSystem.step toml event s = some s') : Sourced toml s' := by
  cases ReloadSystem.step_cases hstep with
  | lookup | snapshot | answer => exact h
  | reload =>
    intro generation hmem r hr
    obtain ⟨reload, file, config, hreload, hrest⟩ := h generation hmem r hr
    exact ⟨reload, file, config, (List.getElem?_append_left (lt_length hreload)).trans hreload,
      hrest⟩
  | @load r₀ _ reload₀ hreload₀ hbegun =>
    intro generation hmem r hr
    obtain ⟨reload, file, config, hreload, hphase, hrest⟩ := h generation hmem r hr
    have hne : r ≠ r₀ := by
      rintro rfl
      rw [Option.some.inj (hreload.symm.trans hreload₀)] at hphase
      exact hphase hbegun
    exact ⟨reload, file, config, ((lookup_set hreload₀ _ r).trans (if_neg hne)).trans hreload,
      hphase, hrest⟩
  | @replace r₀ reload₀ config₀ hreload₀ hloaded =>
    have hok := inv.reloads r₀ reload₀ hreload₀
    unfold Reload.Ok at hok
    rw [hloaded] at hok
    obtain ⟨hnew, file₀, hfile₀, hload₀⟩ := hok
    intro generation hmem r hr
    rcases List.mem_append.mp hmem with hold | hlast
    · obtain ⟨reload, file, config, hreload, hrest⟩ := h generation hold r hr
      have hne : r ≠ r₀ := by
        rintro rfl
        exact hnew generation hold hr
      exact ⟨reload, file, config, ((lookup_set hreload₀ _ r).trans (if_neg hne)).trans hreload,
        hrest⟩
    · obtain rfl := List.mem_singleton.mp hlast
      obtain rfl := Option.some.inj hr
      exact ⟨_, file₀, config₀, (lookup_set hreload₀ _ r₀).trans (if_pos rfl), by simp, hfile₀,
        hload₀, rfl⟩

/-- Every generation comes from a file. -/
theorem reachable (h : (reloadMachine toml initial).Reachable s) : Sourced toml s := by
  let Inv (s : ReloadSystem) : Prop := ReloadInv toml initial s ∧ Sourced toml s
  have hinit : ∀ {s}, (reloadMachine toml initial).init s → Inv s := by
    rintro s rfl
    refine ⟨.start toml initial, fun generation hmem r hr => ?_⟩
    rw [List.mem_singleton.mp hmem] at hr
    exact absurd hr (by simp)
  have hstep : ∀ {event s s'}, Inv s → (reloadMachine toml initial).step event s = some s' →
      Inv s' := fun hinv hstep => ⟨hinv.1.step hstep, hinv.2.step hinv.1 hstep⟩
  exact (h.invariant hinit hstep).2

end Sourced

/-- The rows that were in force in this generation: those the process started
with, or those of the file that the reload behind it has read. -/
def ReloadSystem.RowsOf (toml : Str → Except Str RawConfig) (startup : List RawRoute)
    (s : ReloadSystem) (g : Nat) (rows : List RawRoute) : Prop :=
  (g = 0 ∧ rows = startup) ∨
    ∃ generation r reload source raw, s.generations[g]? = some generation ∧
      generation.reload = some r ∧ s.reloads[r]? = some reload ∧
      reload.file = some (.ok source) ∧ toml source = .ok raw ∧ rows = raw.routes

/-- The table of a generation is that of its rows. -/
theorem rows_of_table {toml : Str → Except Str RawConfig} {initial : InMemoryLookup}
    {startup : List RawRoute} (hstartup : RowsInstalled startup initial initial.len)
    {s : ReloadSystem} (h : (reloadMachine toml initial).Reachable s) {g : Nat}
    {table : InMemoryLookup} (htable : TableAt s.generations g table) :
    ∃ rows, s.RowsOf toml startup g rows ∧ RowsInstalled rows table table.len := by
  obtain ⟨generation, hgeneration, rfl⟩ := htable
  rcases (reload_inv h).made g generation hgeneration with ⟨hfirst, rfl⟩ | ⟨r, -, -, hr, -⟩
  · exact ⟨startup, .inl ⟨hfirst, rfl⟩, hstartup⟩
  · obtain ⟨reload, file, config, hreload, -, hfile, hload, htable⟩ :=
      Sourced.reachable h generation (List.mem_of_getElem? hgeneration) r hr
    obtain ⟨source, raw, rfl, hraw, hrows⟩ := rowsInstalled_of_load hload
    rw [htable]
    exact ⟨raw.routes, .inr ⟨generation, r, reload, source, raw, hgeneration, hr, hreload, hfile,
      hraw, rfl⟩, hrows⟩

-- ---------------------------------------------------------------------------
-- Calls of the file table
-- ---------------------------------------------------------------------------

/-- A call asks for the same keys all along, and keeps what it has returned. -/
def FileLookup.GoesOn (lookup lookup' : FileLookup) : Prop :=
  lookup'.candidates = lookup.candidates ∧
    ∀ hits, lookup.phase = .returned hits → lookup' = lookup

theorem FileLookup.GoesOn.refl (lookup : FileLookup) : lookup.GoesOn lookup :=
  ⟨rfl, fun _ _ => rfl⟩

/-- The calls under way go on, and only `lookup` begins one. -/
theorem ReloadSystem.Stepped.calls {toml : Str → Except Str RawConfig} {event : ReloadStep}
    {s s' : ReloadSystem} (hstep : Stepped toml s event s')
    (hevent : ∀ candidates, event ≠ .lookup candidates) :
    Evolves FileLookup.GoesOn s.lookups s'.lookups ∧ s'.lookups.length = s.lookups.length := by
  cases hstep with
  | lookup => exact absurd rfl (hevent _)
  | snapshot hlookup hphase =>
    refine ⟨.set .refl hlookup ⟨rfl, fun hits hreturned => ?_⟩, List.length_set⟩
    exact absurd (hphase.symm.trans hreturned) (by simp)
  | answer hlookup hphase =>
    refine ⟨.set .refl hlookup ⟨rfl, fun hits hreturned => ?_⟩, List.length_set⟩
    exact absurd (hphase.symm.trans hreturned) (by simp)
  | reload | load | replace => exact ⟨.refl .refl _, rfl⟩

/-- What an event of the reload task does to the route lookups. -/
theorem SighupTask.Stepped.calls {toml : Str → Except Str RawConfig} {path : Str}
    {startup : StartupSettings} {event : SighupEvent} {s s' : SighupTask}
    (hstep : Stepped toml path startup s event s') (hallowed : App.filesAllows event = true) :
    Evolves FileLookup.GoesOn s.files.lookups s'.files.lookups ∧
      s'.files.lookups.length = s.files.lookups.length := by
  cases hstep with
  | received _ _ hfiles => exact (ReloadSystem.step_cases hfiles).calls (by simp)
  | @files event _ _ hfiles =>
    refine (ReloadSystem.step_cases hfiles).calls ?_
    rintro candidates rfl
    exact absurd hallowed (by simp [App.filesAllows])
  | _ => exact ⟨.refl .refl _, rfl⟩

namespace App

/-- What the file table has answered to this connection for its hostname. -/
def Answer (s : App) (i : Nat) (host : Hostname) (result : Except RouteError RouteMatch) : Prop :=
  ∃ (l : Nat) (lookup : FileLookup) (hits : RouteHits), s.callers[l]? = some i ∧
    s.files.files.lookups[l]? = some lookup ∧ lookup.candidates = candidateKeys host ∧
    lookup.phase = .returned hits ∧
    resolveRoute (fun _ => .answered (.ok hits)) host = result

/-- The connection behind a call is there, and has come to its lookup stage. While
it is in it, it is being polled, and the call is for its hostname. -/
def Called (s : App) (l i : Nat) : Prop :=
  ∃ (c : Connection) (lookup : FileLookup), s.server.net.conns[i]? = some c ∧
    s.files.files.lookups[l]? = some lookup ∧ 2 ≤ c.stage.number ∧
    ∀ buffered host, c.stage = .lookup buffered host →
      c.checked = true ∧ lookup.candidates = candidateKeys host

/-- Every call has its connection, and the other way round. -/
structure CallInv (s : App) : Prop where
  length   : s.callers.length = s.files.files.lookups.length
  called   : ∀ (l i : Nat), s.callers[l]? = some i → s.Called l i
  answered : ∀ (i : Nat) c, s.server.net.conns[i]? = some c → c.Answered (s.Answer i)

variable {config : AppConfig} {toml : Str → Except Str RawConfig} {path : Str} {s s' : App}

theorem CallInv.bound (config : AppConfig) : CallInv (.bound config) where
  length := rfl
  called l i h := absurd h (by simp [App.bound])
  answered i c h := absurd h (by simp [App.bound, Server.new, Net.new])

/-- A table answers with a row or with none. -/
theorem resolveRoute_hits_error {hits : RouteHits} {host : Hostname} {error : RouteError}
    (h : resolveRoute (fun _ => .answered (.ok hits)) host = .error error) : error = .notFound := by
  unfold resolveRoute at h
  dsimp only at h
  split at h
  · exact absurd h (by simp)
  · injection h with h
    exact h.symm

/-- A connection does nothing in its call, and its lookup ends by the reply. -/
theorem serverAllows_conn {i : Nat} {event : ConnectionEvent}
    (h : s.serverAllows (.conn i event) = true) :
    s.calling i = false ∧ ∀ ended, event ≠ .work (.lookup ended) := by
  unfold serverAllows at h
  split at h
  · next heq => exact absurd heq (by simp)
  · exact absurd h (by simp)
  · next hnot heq =>
    injection heq with hi hevent
    subst hi hevent
    refine ⟨by simpa using h, hnot⟩
  · next hnot => exact absurd rfl (hnot i event)

/-- The connection in the lookup stage is the one that calls. -/
theorem calling_of_stage {l i : Nat} (hcaller : s.callers[l]? = some i) {c : Connection}
    (hconn : s.server.net.conns[i]? = some c) {buffered : Bytes} {host : Hostname}
    (hstage : c.stage = .lookup buffered host) : s.calling i = true := by
  unfold calling
  rw [decide_eq_true (List.mem_of_getElem? hcaller), hconn, Option.any_some, hstage]
  rfl

theorem Answer.mono {i : Nat} {host : Hostname} {result : Except RouteError RouteMatch}
    (h : s.Answer i host result) (hcallers : s.callers <+: s'.callers)
    (hlookups : Evolves FileLookup.GoesOn s.files.files.lookups s'.files.files.lookups) :
    s'.Answer i host result := by
  obtain ⟨l, lookup, hits, hcaller, hlookup, hcandidates, hphase, hresult⟩ := h
  obtain ⟨lookup', hlookup', -, hsame⟩ := hlookups l lookup hlookup
  rw [hsame hits hphase] at hlookup'
  obtain ⟨new, hnew⟩ := hcallers
  have hcaller' : s'.callers[l]? = some i := by
    rw [← hnew, List.getElem?_append_left (lt_length hcaller)]
    exact hcaller
  exact ⟨l, lookup, hits, hcaller', hlookup', hcandidates, hphase, hresult⟩

namespace CallInv

/-- One connection moves on, and its call if it made one is over. -/
theorem conn (inv : CallInv s) {server : Server} {i : Nat} {c c' : Connection}
    (hconn : s.server.net.conns[i]? = some c)
    (hconns : server.net.conns = s.server.net.conns.set i c')
    (hle : c.stage.number ≤ c'.stage.number)
    (hover : ∀ (l : Nat), s.callers[l]? = some i → ∀ buffered host,
      c'.stage ≠ .lookup buffered host)
    (hanswered : c'.Answered (s.Answer i)) : CallInv { s with server := server } where
  length := inv.length
  called l j hcaller := by
    obtain ⟨d, lookup, hd, hlookup, htwo, hhost⟩ := inv.called l j hcaller
    show ∃ c lookup, server.net.conns[j]? = some c ∧ _
    rw [hconns, lookup_set hconn]
    by_cases hj : j = i
    · subst hj
      obtain rfl := Option.some.inj (hd.symm.trans hconn)
      rw [if_pos rfl]
      exact ⟨c', lookup, rfl, hlookup, htwo.trans hle, fun buffered host hstage =>
        absurd hstage (hover l hcaller buffered host)⟩
    · rw [if_neg hj]
      exact ⟨d, lookup, hd, hlookup, htwo, hhost⟩
  answered j d hd := by
    change server.net.conns[j]? = some d at hd
    rw [hconns] at hd
    rcases lookup_set_cases hconn hd with ⟨rfl, rfl⟩ | ⟨-, hold⟩
    · exact hanswered
    · exact inv.answered j d hold

/-- Any other event of the router. -/
theorem others (inv : CallInv s) {server : Server}
    (hconns : (∃ client, server.net.conns = s.server.net.conns ++ [.spawn client]) ∨
      server.net.conns = s.server.net.conns) : CallInv { s with server := server } := by
  have hold : ∀ {j : Nat} {d}, s.server.net.conns[j]? = some d → server.net.conns[j]? = some d := by
    intro j d hd
    rcases hconns with ⟨client, hconns⟩ | hconns
    · rw [hconns, List.getElem?_append_left (lt_length hd)]
      exact hd
    · rw [hconns]
      exact hd
  refine ⟨inv.length, fun l j hcaller => ?_, fun j d hd => ?_⟩
  · obtain ⟨d, lookup, hd, hrest⟩ := inv.called l j hcaller
    exact ⟨d, lookup, hold hd, hrest⟩
  · change server.net.conns[j]? = some d at hd
    rcases hconns with ⟨client, hconns⟩ | hconns
    · rw [hconns] at hd
      rcases lookup_append_cases hd with ⟨-, rfl⟩ | hd
      · exact .spawn client
      · exact inv.answered j d hd
    · rw [hconns] at hd
      exact inv.answered j d hd

/-- The calls go on. -/
theorem files (inv : CallInv s) {files : SighupTask}
    (hlookups : Evolves FileLookup.GoesOn s.files.files.lookups files.files.lookups)
    (hlength : files.files.lookups.length = s.files.files.lookups.length) :
    CallInv { s with files := files } where
  length := inv.length.trans hlength.symm
  called l i hcaller := by
    obtain ⟨c, lookup, hconn, hlookup, htwo, hhost⟩ := inv.called l i hcaller
    obtain ⟨lookup', hlookup', hcandidates, -⟩ := hlookups l lookup hlookup
    exact ⟨c, lookup', hconn, hlookup', htwo, fun buffered host hstage =>
      ⟨(hhost buffered host hstage).1, hcandidates.trans (hhost buffered host hstage).2⟩⟩
  answered i c hconn :=
    (inv.answered i c hconn).mono fun h => h.mono (List.prefix_refl _) hlookups

/-- A connection begins its call. -/
theorem ask (inv : CallInv s) {i : Nat} {c : Connection} {buffered : Bytes} {host : Hostname}
    (hconn : s.server.net.conns[i]? = some c) (hstage : c.stage = .lookup buffered host)
    (hchecked : c.checked = true) {files : SighupTask} {call : FileLookup}
    (hcall : call.candidates = candidateKeys host)
    (hlookups : files.files.lookups = s.files.files.lookups ++ [call]) :
    CallInv { s with files := files, callers := s.callers ++ [i] } where
  length := by
    show (s.callers ++ [i]).length = files.files.lookups.length
    rw [hlookups, List.length_append, List.length_append, inv.length]
    rfl
  called l j hcaller := by
    show ∃ c lookup, _ ∧ files.files.lookups[l]? = some lookup ∧ _
    rw [hlookups]
    rcases lookup_append_cases hcaller with ⟨rfl, rfl⟩ | hold
    · refine ⟨c, call, hconn, ?_, by rw [hstage]; exact le_rfl, fun buffered' host' hstage' => ?_⟩
      · rw [inv.length]
        exact List.getElem?_concat_length
      · rw [hstage] at hstage'
        injection hstage' with _ hhost
        exact ⟨hchecked, by rw [hcall, hhost]⟩
    · obtain ⟨d, lookup, hd, hlookup, hrest⟩ := inv.called l j hold
      exact ⟨d, lookup, hd, (List.getElem?_append_left (lt_length hlookup)).trans hlookup, hrest⟩
  answered j d hd := by
    refine (inv.answered j d hd).mono fun h => h.mono (List.prefix_append _ _) ?_
    show Evolves _ _ files.files.lookups
    rw [hlookups]
    exact .append .refl _ _

theorem step (inv : CallInv s)
    (hfaithful : s.server.net.Forall (Connection.Faithful config.server.router.toRouterConfig))
    (hstep : Stepped config toml path s s') : CallInv s' := by
  cases hstep with
  | @server event server hallowed hserver =>
    rcases (serverPart_effect hserver).conns with ⟨i, e, rfl, hnet⟩ | hconns
    · obtain ⟨hcalling, hevent⟩ := serverAllows_conn hallowed
      obtain ⟨c, c', gate', events, hconn, hmove, hconns⟩ := Net.step_conn hnet
      have hle := (Connection.step_cases hmove).number_le
      refine inv.conn hconn hconns hle (fun l hcaller buffered host hstage => ?_) ?_
      · -- it would have been in its lookup stage before, and so in its call
        obtain ⟨d, -, hd, -, htwo, -⟩ := inv.called l i hcaller
        obtain rfl := Option.some.inj (hd.symm.trans hconn)
        rw [hstage] at hle
        obtain ⟨buffered, host, hbefore⟩ := Connection.lookup_of_number (le_antisymm hle htwo)
        rw [calling_of_stage hcaller hconn hbefore] at hcalling
        exact absurd hcalling (by simp)
      · exact (Connection.Stepped.answered (hfaithful i c hconn) (inv.answered i c hconn) hmove
          fun ended heq => absurd heq (hevent ended))
    · exact inv.others hconns
  | @replied l i hits server lookup hcaller hlookup hphase hserver =>
    rcases (serverPart_effect hserver).conns with ⟨j, e, heq, hnet⟩ | hconns
    · injection heq with hj he
      subst hj he
      obtain ⟨c, c', gate', events, hconn, hmove, hconns⟩ := Net.step_conn hnet
      obtain ⟨buffered, host, hstage, hafter⟩ :=
        Connection.work_lookup (Connection.work_of_step hmove)
      refine inv.conn hconn hconns (Connection.step_cases hmove).number_le ?_ ?_
      · intro _ _ buffered' host' hstage'
        rw [hafter] at hstage'
        unfold Connection.afterLookup at hstage'
        split at hstage' <;> exact absurd hstage' (by simp [Connection.goto, Connection.finish])
      · refine Connection.Stepped.answered (hfaithful i c hconn) (inv.answered i c hconn) hmove ?_
        intro ended heq buffered' host' hstage'
        injection heq with heq
        injection heq with heq
        subst heq
        obtain ⟨d, lookup', hd, hlookup', -, hhost⟩ := inv.called l i hcaller
        obtain rfl := Option.some.inj (hd.symm.trans hconn)
        obtain rfl := Option.some.inj (hlookup'.symm.trans hlookup)
        exact ⟨⟨l, lookup', hits, hcaller, hlookup, (hhost _ _ hstage').2, hphase, rfl⟩,
          fun error herror => resolveRoute_hits_error herror⟩
    · exact inv.others hconns
  | files hallowed hfiles =>
    obtain ⟨hlookups, hlength⟩ := (filesPart_cases hfiles).calls hallowed
    exact inv.files hlookups hlength
  | asked hconn hstage hcall hfiles =>
    cases filesPart_cases hfiles with
    | files _ hlookup =>
      cases ReloadSystem.step_cases hlookup with
      | lookup => exact inv.ask hconn hstage hcall.1 rfl rfl
    | left hevent | ended hevent => exact absurd hevent (by simp)
  | _ => exact ⟨inv.length, inv.called, inv.answered⟩

end CallInv

end App

theorem appMachine_calls {config : AppConfig} {toml : Str → Except Str RawConfig} {path : Str}
    {s : App} (h : (appMachine config toml path).Reachable s) : s.CallInv := by
  let Inv (s : App) : Prop := (appMachine config toml path).Reachable s ∧ s.CallInv
  have hinit : ∀ {s}, (appMachine config toml path).init s → Inv s :=
    fun hinit => ⟨.init hinit, hinit ▸ .bound config⟩
  have hstep : ∀ {e s s'}, Inv s → (appMachine config toml path).step e s = some s' → Inv s' := by
    intro e s s' hinv hstep
    have hserver : ServerInv config.server.router.toRouterConfig s.server :=
      serverMachine_inv (server_reachable hinv.1)
    exact ⟨hinv.1.step hstep,
      hinv.2.step (netMachine_faithful hserver.reached) (App.step_cases hstep)⟩
  exact (h.invariant hinit hstep).2

-- ---------------------------------------------------------------------------
-- End to end
-- ---------------------------------------------------------------------------

/-- The rows that were in force at a moment between the beginning and the end of
the connection's one call. -/
def App.InForce (toml : Str → Except Str RawConfig) (startup : List RawRoute) (s : App) (i : Nat)
    (rows : List RawRoute) : Prop :=
  ∃ (l : Nat) (lookup : FileLookup) (g : Nat), s.callers[l]? = some i ∧
    s.files.files.lookups[l]? = some lookup ∧ lookup.began ≤ g ∧ g ≤ lookup.ended ∧
    s.files.files.RowsOf toml startup g rows

/-- From the bytes of the client to the backend. -/
structure RoutedByFile (config : AppConfig) (toml : Str → Except Str RawConfig)
    (startup : List RawRoute) (s : App) (i : Nat) (c : Connection) : Prop where
  /-- The hostname is that of the hello that the client sent. -/
  hostname  : ∀ host, c.sni = some host → ∃ hello,
    parseClientHello (c.sockets.client.take config.server.router.helloLimits.maxWireBytes)
      config.server.router.helloLimits = .ok hello ∧ hello.sni = some host
  /-- The backend is the one that the rows name for it. -/
  backend   : ∀ backend, c.backend = some backend → ∃ host rows, c.sni = some host ∧
    s.InForce toml startup i rows ∧ RowsName rows host backend
  /-- A hostname is unknown when they name none. -/
  unknown   : c.decided = some .unknownHost → ∃ host rows, c.sni = some host ∧
    s.InForce toml startup i rows ∧ ∀ backend, ¬ RowsName rows host backend
  /-- The file table neither fails nor keeps anyone waiting. -/
  answered  : c.decided ≠ some .lookupFailed ∧ c.decided ≠ some .lookupTimeout
  /-- What the backend receives is what the client sent. -/
  forwarded : Forwarded c.backend c.sockets

/-- An answer is that of the rows in force. -/
theorem App.Answer.rows {config : AppConfig} {toml : Str → Except Str RawConfig} {path : Str}
    {startup : List RawRoute}
    (hstartup : RowsInstalled startup config.routes config.routes.len) {s : App}
    (h : (appMachine config toml path).Reachable s) {i : Nat} {host : Hostname}
    {result : Except RouteError RouteMatch} (hanswer : s.Answer i host result) :
    ∃ rows table, s.InForce toml startup i rows ∧ RowsInstalled rows table table.len ∧
      resolveRoute table.lookup host = result := by
  obtain ⟨l, lookup, hits, hcaller, hlookup, hcandidates, hphase, hresult⟩ := hanswer
  have hreload : (reloadMachine toml config.routes).Reachable s.files.files :=
    (sighupMachine_inv (files_reachable h)).reached
  obtain ⟨g, table, hbegan, hended, htable, hhits⟩ :=
    (reload_inv hreload).whole.lookups l lookup hits hlookup hphase
  obtain ⟨rows, hrows, hinstalled⟩ := rows_of_table hstartup hreload htable
  refine ⟨rows, table, ⟨l, lookup, g, hcaller, hlookup, hbegan, hended, hrows⟩, hinstalled, ?_⟩
  rw [← hresult, hhits, hcandidates]
  rfl

/-- **The app routes by its config file.** Whatever reloads, lookups, clients and
the shutdown do in between: every connection's hostname is that of its hello,
and its backend the one that the rows in force during its lookup name for that
hostname, or it is rejected because they name none. -/
theorem app_routes_by_file {toml : Str → Except Str RawConfig} {path : Str}
    {file : Except IoError Str} {config : AppConfig}
    (hload : AppConfig.load toml path file = .ok config) {s : App}
    (h : (appMachine config toml path).Reachable s) :
    ∃ source raw, file = .ok source ∧ toml source = .ok raw ∧
      ∀ (i : Nat) c, s.server.net.conns[i]? = some c →
        RoutedByFile config toml raw.routes s i c := by
  obtain ⟨source, raw, hfile, hraw, hstartup⟩ := rowsInstalled_of_load hload
  refine ⟨source, raw, hfile, hraw, fun i c hconn => ?_⟩
  have hserver : ServerInv config.server.router.toRouterConfig s.server :=
    serverMachine_inv (server_reachable h)
  have hfaithful := netMachine_faithful hserver.reached i c hconn
  have hanswered := (appMachine_calls h).answered i c hconn
  refine ⟨hfaithful.named, ?_, ?_, hanswered.failed, hfaithful.carries.forwarded⟩
  · intro backend hbackend
    obtain ⟨host, route, hsni, hanswer, rfl⟩ := hanswered.backend backend hbackend
    obtain ⟨rows, table, hforce, hinstalled, hroute⟩ := hanswer.rows hstartup h
    exact ⟨host, rows, hsni, hforce, hinstalled.resolve_ok hroute⟩
  · intro hunknown
    obtain ⟨host, hsni, hanswer⟩ := hanswered.unknown hunknown
    obtain ⟨rows, table, hforce, hinstalled, hroute⟩ := hanswer.rows hstartup h
    exact ⟨host, rows, hsni, hforce, hinstalled.resolve_notFound hroute⟩

/-- A client that asks for the one row of the file while it is read again. -/
theorem app_routes_by_file_at :
    ∃ (es : List AppEvent) (s : App),
      (appMachine sampleConfig sampleToml (ascii "f")).run es (.bound sampleConfig) = some s ∧
      (s.server.net.conns.map Connection.backend) =
        [some ⟨.dns (ascii "new"), ⟨1, by decide⟩⟩] ∧
      ∃ source raw, Except.ok sampleSource = (.ok source : Except IoError Str) ∧
        sampleToml source = .ok raw ∧ ∀ (i : Nat) c, s.server.net.conns[i]? = some c →
          RoutedByFile sampleConfig sampleToml raw.routes s i c := by
  let hello : Bytes := [22, 3, 1, 0, 62, 1, 0, 0, 58, 3, 3] ++ List.replicate 32 0 ++
    [0, 0, 2, 19, 1, 1, 0, 0, 15, 0, 0, 0, 11, 0, 9, 0, 0, 6, 97, 46, 116, 101, 115, 116]
  let accepted : List AppEvent :=
    [.poll, .acquire, .poll, .accept [some (.stream hello)]].map AppEvent.server
  let named : List AppEvent :=
    [.start, .poll, .work (.read 67), .work .parsed, .poll].map fun e => .server (.conn 0 e)
  let es : List AppEvent := accepted ++ named ++
    [.files (.start true), .files .hangup, .files .recv, .lookup 0,
      .files (.files (.load 0 (.ok sampleSource))), .files (.files (.snapshot 0)),
      .files (.files (.replace 0)), .files (.files (.answer 0)), .reply 0]
  obtain ⟨s, hrun, hends⟩ := Option.map_eq_some_iff.mp
    (show ((appMachine sampleConfig sampleToml (ascii "f")).run es (.bound sampleConfig)).map
      (fun s => s.server.net.conns.map Connection.backend) =
        some [some ⟨.dns (ascii "new"), ⟨1, by decide⟩⟩] from by decide +kernel)
  exact ⟨es, s, hrun, hends, app_routes_by_file sampleConfig_load ⟨_, _, rfl, hrun⟩⟩

end SniRouter
