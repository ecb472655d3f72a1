import SniRouter.App.Admin
import SniRouter.App.Sighup
import SniRouter.Delivery.Server

/-!
# SniRouter — the app

`BoundApp::run`: the router, the SIGHUP task, the admin listener and the watch
that turns the health endpoint, around one shutdown token. The router asks the
table of the config file, which answers in the poll that asks it.

* `App.step` — one event of any part, or of `run` itself.
* `App.Stepped` — all that one event can do.
* `App.server_reachable` … — every part is in a state of its own machine.
* `AppInv` — what each part has waited for.
* `run_winds_down` — the order of the shutdown, over every run.
-/

namespace SniRouter

open Text Table

-- ---------------------------------------------------------------------------
-- The parts
-- ---------------------------------------------------------------------------

/-- What `run` waits for. -/
inductive RunStage where
  | serving
  | drainWatch
  | reloadTask
  | adminTask
  | returned
deriving DecidableEq

/-- The app: router, reload task and admin server, with the tokens that stop them. -/
structure App where
  server   : Server
  files    : SighupTask
  admin    : AdminServer
  /-- The connection that made each call of the file table. -/
  callers  : List Nat
  /-- The drain watch has ended. -/
  watched  : Bool
  stage    : RunStage

/-- What happens in the app. -/
inductive AppEvent where
  /-- The shutdown token is cancelled. -/
  | shutdown
  | server (event : ServerEvent)
  | files (event : SighupEvent)
  | admin (event : AdminEvent)
  /-- A connection asks the file table. -/
  | lookup (i : Nat)
  /-- ... and goes on with the answer to this call. -/
  | reply (l : Nat)
  | drainWatch
  /-- `run` goes on. -/
  | run

/-- The connection waits for a route. -/
def Stage.looking : Stage → Bool
  | .lookup _ _ => true
  | _ => false

namespace App

/-- All listeners are bound, nothing serves yet. -/
def bound (config : AppConfig) : App :=
  ⟨.new config.server.router.toRouterConfig, .spawn config.routes, .new .default, [], false,
    .serving⟩

/-- The connection is in a call of the file table. -/
def calling (s : App) (i : Nat) : Bool :=
  decide (i ∈ s.callers) && (s.server.net.conns[i]?).any fun c => c.stage.looking

/-- The router shares its token, its lookups are calls of the file table, and a
connection does nothing else during its call. -/
def serverAllows (s : App) : ServerEvent → Bool
  | .shutdown => false
  | .conn _ (.work (.lookup _)) => false
  | .conn i _ => !s.calling i
  | _ => true

/-- The reload task hears of the shutdown from the app, and of lookups from the router. -/
def filesAllows : SighupEvent → Bool
  | .shutdown | .files (.lookup _) => false
  | _ => true

/-- The admin server hears of the shutdown and of the drain flag from the app. -/
def adminAllows : AdminEvent → Bool
  | .shutdown | .setDraining => false
  | _ => true

/-- The settings that a reload compares with. -/
def startup (config : AppConfig) : StartupSettings := ⟨config.server, config.admin⟩

section

variable (config : AppConfig) (toml : Str → Except Str RawConfig) (path : Str)

/-- The router's server. -/
def serverPart : Machine Server ServerEvent :=
  serverMachine config.server.router.toRouterConfig config.server.listen.length

/-- The reload task. -/
def filesPart : Machine SighupTask SighupEvent :=
  sighupMachine toml path (startup config) config.routes

/-- The admin server. -/
def adminPart : Machine AdminServer AdminEvent :=
  adminMachine .default ⟨config.admin.healthPath⟩

/-- The step relation; `none` is an event that cannot happen. -/
def step (event : AppEvent) (s : App) : Option App :=
  match event, s.stage with
  | .shutdown, _ => some { s with server.shutdown := true, files.shutdown := true }
  | .server event, _ =>
    if s.serverAllows event then
      ((serverPart config).step event s.server).map fun server => { s with server := server }
    else none
  | .files event, _ =>
    if filesAllows event then
      ((filesPart config toml path).step event s.files).map fun files =>
        { s with files := files }
    else none
  | .admin event, _ =>
    if adminAllows event then
      ((adminPart config).step event s.admin).map fun admin => { s with admin := admin }
    else none
  | .lookup i, _ =>
    (s.server.net.conns[i]?).bind fun c =>
      match c.stage with
      | .lookup _ host =>
        if c.checked ∧ i ∉ s.callers then
          ((filesPart config toml path).step (.files (.lookup (candidateKeys host)))
              s.files).map fun files =>
            { s with files := files, callers := s.callers ++ [i] }
        else none
      | _ => none
  | .reply l, _ =>
    (s.callers[l]?).bind fun i =>
      ((s.files.files.lookups[l]?).bind FileLookup.hits).bind fun hits =>
        ((serverPart config).step (.conn i (.work (.lookup (.answered (.ok hits))))) s.server).map
          fun server => { s with server := server }
  | .drainWatch, _ =>
    if s.server.shutdown ∧ s.watched = false then
      some { s with admin.draining := true, watched := true }
    else none
  | .run, .serving =>
    if s.server.phase = .returned then
      some { s with admin.shutdown := true, stage := .drainWatch }
    else none
  | .run, .drainWatch => if s.watched then some { s with stage := .reloadTask } else none
  | .run, .reloadTask =>
    if s.files.stage = .exited then some { s with stage := .adminTask } else none
  | .run, .adminTask =>
    if s.admin.stage = .returned then some { s with stage := .returned } else none
  | .run, .returned => none

/-- All that one event can do. -/
inductive Stepped (s : App) : App → Prop where
  | shutdown : Stepped s { s with server.shutdown := true, files.shutdown := true }
  | server {event server} (hallowed : s.serverAllows event = true)
      (hserver : (serverPart config).step event s.server = some server) :
      Stepped s { s with server := server }
  | files {event files} (hallowed : filesAllows event = true)
      (hfiles : (filesPart config toml path).step event s.files = some files) :
      Stepped s { s with files := files }
  | admin {event admin} (hallowed : adminAllows event = true)
      (hadmin : (adminPart config).step event s.admin = some admin) :
      Stepped s { s with admin := admin }
  | asked {i : Nat} {c buffered host files} (hconn : s.server.net.conns[i]? = some c)
      (hstage : c.stage = .lookup buffered host) (hcall : c.checked = true ∧ i ∉ s.callers)
      (hfiles : (filesPart config toml path).step (.files (.lookup (candidateKeys host))) s.files =
        some files) :
      Stepped s { s with files := files, callers := s.callers ++ [i] }
  | replied {l i : Nat} {hits server} {lookup : FileLookup} (hcaller : s.callers[l]? = some i)
      (hlookup : s.files.files.lookups[l]? = some lookup) (hphase : lookup.phase = .returned hits)
      (hserver : (serverPart config).step (.conn i (.work (.lookup (.answered (.ok hits)))))
        s.server = some server) :
      Stepped s { s with server := server }
  | watched (hshutdown : s.server.shutdown = true) :
      Stepped s { s with admin.draining := true, watched := true }
  | served (hstage : s.stage = .serving) (hphase : s.server.phase = .returned) :
      Stepped s { s with admin.shutdown := true, stage := .drainWatch }
  | joinedWatch (hstage : s.stage = .drainWatch) (hwatched : s.watched = true) :
      Stepped s { s with stage := .reloadTask }
  | joinedReload (hstage : s.stage = .reloadTask) (hexited : s.files.stage = .exited) :
      Stepped s { s with stage := .adminTask }
  | joinedAdmin (hstage : s.stage = .adminTask) (hreturned : s.admin.stage = .returned) :
      Stepped s { s with stage := .returned }

variable {config toml path}

/-- The server's part in an event. -/
theorem serverPart_effect {event : ServerEvent} {server server' : Server}
    (h : (serverPart config).step event server = some server') :
    Server.Effect config.server.router.toRouterConfig event server server' :=
  Server.step_effect h

/-- The reload task's part in an event. -/
theorem filesPart_cases {event : SighupEvent} {files files' : SighupTask}
    (h : (filesPart config toml path).step event files = some files') :
    SighupTask.Stepped toml path (startup config) files event files' :=
  SighupTask.step_cases h

/-- Only a lookup that has returned has hits. -/
theorem hits_eq_some {lookup : FileLookup} {hits : RouteHits} (h : lookup.hits = some hits) :
    lookup.phase = .returned hits := by
  unfold FileLookup.hits at h
  split at h
  · next hphase =>
    injection h with h
    rw [hphase, h]
  · exact absurd h (by simp)

/-- An event that happens, case by case. -/
theorem step_cases {event : AppEvent} {s s' : App} (h : step config toml path event s = some s') :
    Stepped config toml path s s' := by
  unfold step at h
  split at h
  · cases h
    exact .shutdown
  · split_ifs at h with hallowed
    obtain ⟨server, hserver, rfl⟩ := Option.map_eq_some_iff.mp h
    exact .server hallowed hserver
  · split_ifs at h with hallowed
    obtain ⟨files, hfiles, rfl⟩ := Option.map_eq_some_iff.mp h
    exact .files hallowed hfiles
  · split_ifs at h with hallowed
    obtain ⟨admin, hadmin, rfl⟩ := Option.map_eq_some_iff.mp h
    exact .admin hallowed hadmin
  · obtain ⟨c, hconn, h⟩ := Option.bind_eq_some_iff.mp h
    split at h
    · next hstage =>
      split_ifs at h with hcall
      obtain ⟨files, hfiles, rfl⟩ := Option.map_eq_some_iff.mp h
      exact .asked hconn hstage hcall hfiles
    · exact absurd h (by simp)
  · obtain ⟨i, hcaller, h⟩ := Option.bind_eq_some_iff.mp h
    obtain ⟨hits, hhits, h⟩ := Option.bind_eq_some_iff.mp h
    obtain ⟨lookup, hlookup, hhits⟩ := Option.bind_eq_some_iff.mp hhits
    obtain ⟨server, hserver, rfl⟩ := Option.map_eq_some_iff.mp h
    exact .replied hcaller hlookup (hits_eq_some hhits) hserver
  · split_ifs at h with hwatch
    cases h
    exact .watched hwatch.1
  · next hstage =>
    split_ifs at h with hphase
    cases h
    exact .served hstage hphase
  · next hstage =>
    split_ifs at h with hwatched
    cases h
    exact .joinedWatch hstage hwatched
  · next hstage =>
    split_ifs at h with hexited
    cases h
    exact .joinedReload hstage hexited
  · next hstage =>
    split_ifs at h with hreturned
    cases h
    exact .joinedAdmin hstage hreturned
  · exact absurd h (by simp)

end

end App

/-- `BoundApp::run` with this config, whose file is read again on SIGHUP. -/
def appMachine (config : AppConfig) (toml : Str → Except Str RawConfig) (path : Str) :
    Machine App AppEvent where
  init s := s = .bound config
  step   := App.step config toml path

-- ---------------------------------------------------------------------------
-- The parts on their own
-- ---------------------------------------------------------------------------

section

variable {config : AppConfig} {toml : Str → Except Str RawConfig} {path : Str} {s : App}

/-- The server's part of a run is a run of the server. -/
theorem server_reachable (h : (appMachine config toml path).Reachable s) :
    (App.serverPart config).Reachable s.server := by
  refine h.component App.server (fun hinit => by rw [hinit]; rfl) fun hstep => ?_
  cases App.step_cases hstep with
  | shutdown => exact .inr ⟨.shutdown, rfl⟩
  | server _ hserver | replied _ _ _ hserver => exact .inr ⟨_, hserver⟩
  | _ => exact .inl rfl

/-- The reload task's part of a run is a run of the task. -/
theorem files_reachable (h : (appMachine config toml path).Reachable s) :
    (App.filesPart config toml path).Reachable s.files := by
  refine h.component App.files (fun hinit => by rw [hinit]; rfl) fun hstep => ?_
  cases App.step_cases hstep with
  | shutdown => exact .inr ⟨.shutdown, rfl⟩
  | files _ hfiles | asked _ _ _ hfiles => exact .inr ⟨_, hfiles⟩
  | _ => exact .inl rfl

/-- The admin server's part of a run is a run of it. -/
theorem admin_reachable (h : (appMachine config toml path).Reachable s) :
    (App.adminPart config).Reachable s.admin := by
  refine h.component App.admin (fun hinit => by rw [hinit]; rfl) fun hstep => ?_
  cases App.step_cases hstep with
  | admin _ hadmin => exact .inr ⟨_, hadmin⟩
  | watched => exact .inr ⟨.setDraining, rfl⟩
  | served => exact .inr ⟨.shutdown, rfl⟩
  | _ => exact .inl rfl

end

-- ---------------------------------------------------------------------------
-- What has ended stays ended
-- ---------------------------------------------------------------------------

/-- A shutdown is not taken back. -/
theorem Server.Stepped.keeps_shutdown {config : RouterConfig} {s s' : Server}
    (hstep : Stepped config s s') (h : s.shutdown = true) : s'.shutdown = true := by
  cases hstep with
  | shutdown => rfl
  | _ => exact h

/-- The reload task does not come back. -/
theorem SighupTask.Stepped.keeps_exited {toml : Str → Except Str RawConfig} {path : Str}
    {startup : StartupSettings} {event : SighupEvent} {s s' : SighupTask}
    (hstep : Stepped toml path startup s event s')
    (h : s.stage = .exited) : s'.stage = .exited := by
  cases hstep with
  | started hstage | received hstage | ended _ hstage =>
    exact absurd (h.symm.trans hstage) (by simp)
  | left => rfl
  | _ => exact h

namespace AdminServer

variable {routes : AdminRoutes} {event : AdminEvent} {s s' : AdminServer}

/-- An admin server that has returned does not come back. -/
theorem Stepped.keeps_returned (hstep : Stepped routes s event s') (h : s.stage = .returned) :
    s'.stage = .returned := by
  cases hstep with
  | acquired hstage | accepted hstage | acceptError hstage | resumed hstage | left hstage
  | selectJoined hstage | graceOver hstage => exact absurd (h.symm.trans hstage) (by simp)
  | returned => rfl
  | _ => exact h

/-- The listener hears of the shutdown and of the drain from `run` alone. -/
theorem Stepped.keeps_tokens (hstep : Stepped routes s event s')
    (h : App.adminAllows event = true) :
    s'.shutdown = s.shutdown ∧ s'.draining = s.draining := by
  cases hstep with
  | shutdown | drained => exact absurd h (by simp [App.adminAllows])
  | _ => exact ⟨rfl, rfl⟩

end AdminServer

-- ---------------------------------------------------------------------------
-- The order of the shutdown
-- ---------------------------------------------------------------------------

/-- How many of its tasks `run` has waited for. -/
def RunStage.number : RunStage → Nat
  | .serving => 0
  | .drainWatch => 1
  | .reloadTask => 2
  | .adminTask => 3
  | .returned => 4

/-- The tasks that `run` waits for, in this order. -/
def App.Ended (s : App) : Nat → Prop
  | 0 => s.server.phase = .returned
  | 1 => s.watched = true
  | 2 => s.files.stage = .exited
  | _ => s.admin.stage = .returned

/-- How the app's tokens and stages go together. -/
structure AppInv (s : App) : Prop where
  draining : s.admin.draining = s.watched
  asked    : s.watched = true → s.server.shutdown = true
  up       : s.admin.shutdown = true ↔ s.stage ≠ .serving
  ended    : ∀ n < s.stage.number, s.Ended n

namespace AppInv

variable {config : AppConfig} {toml : Str → Except Str RawConfig} {path : Str} {s s' : App}

theorem bound (config : AppConfig) : AppInv (.bound config) where
  draining := rfl
  asked h := absurd h (by simp [App.bound])
  up := by simp [App.bound, AdminServer.new]
  ended n h := absurd h (Nat.not_lt_zero n)

/-- The router goes on. -/
theorem server (inv : AppInv s) {event : ServerEvent} {server : Server}
    (hserver : (App.serverPart config).step event s.server = some server) :
    AppInv { s with server := server } where
  draining := inv.draining
  asked h := (Server.step_cases hserver).keeps_shutdown (inv.asked h)
  up := inv.up
  ended n h := match n with
    | 0 => (App.serverPart_effect hserver).returned (inv.ended 0 h)
    | 1 => inv.ended 1 h
    | 2 => inv.ended 2 h
    | n + 3 => inv.ended (n + 3) h

/-- The reload task has an event. -/
theorem files (inv : AppInv s) {event : SighupEvent} {files : SighupTask}
    (hfiles : (App.filesPart config toml path).step event s.files = some files) :
    AppInv { s with files := files } where
  draining := inv.draining
  asked := inv.asked
  up := inv.up
  ended n h := match n with
    | 0 => inv.ended 0 h
    | 1 => inv.ended 1 h
    | 2 => (App.filesPart_cases hfiles).keeps_exited (inv.ended 2 h)
    | n + 3 => inv.ended (n + 3) h

/-- The admin server has an event. -/
theorem admin (inv : AppInv s) {event : AdminEvent} (hallowed : App.adminAllows event = true)
    {admin : AdminServer} (hadmin : (App.adminPart config).step event s.admin = some admin) :
    AppInv { s with admin := admin } where
  draining := ((AdminServer.step_cases hadmin).keeps_tokens hallowed).2.trans inv.draining
  asked := inv.asked
  up := by
    show admin.shutdown = true ↔ _
    rw [((AdminServer.step_cases hadmin).keeps_tokens hallowed).1]
    exact inv.up
  ended n h := match n with
    | 0 => inv.ended 0 h
    | 1 => inv.ended 1 h
    | 2 => inv.ended 2 h
    | n + 3 => (AdminServer.step_cases hadmin).keeps_returned (inv.ended (n + 3) h)

/-- `run` goes on when what it waits for has ended. -/
theorem goesOn (inv : AppInv s) {stage : RunStage} (hnumber : stage.number = s.stage.number + 1)
    (hended : s.Ended s.stage.number) (hstage : s.stage ≠ .serving) :
    AppInv { s with stage := stage } where
  draining := inv.draining
  asked := inv.asked
  up := by
    refine ⟨fun _ => ?_, fun _ => inv.up.mpr hstage⟩
    rintro rfl
    exact absurd hnumber (by simp [RunStage.number])
  ended n h := by
    have hle : n < s.stage.number + 1 := hnumber ▸ h
    rcases Nat.lt_succ_iff_lt_or_eq.mp hle with hlt | rfl
    · exact inv.ended n hlt
    · exact hended

theorem step (inv : AppInv s) (hstep : App.Stepped config toml path s s') : AppInv s' := by
  cases hstep with
  | shutdown => exact ⟨inv.draining, fun _ => rfl, inv.up, inv.ended⟩
  | server _ hserver | replied _ _ _ hserver => exact inv.server hserver
  | files _ hfiles => exact inv.files hfiles
  | asked _ _ _ hfiles =>
    obtain ⟨hdraining, hasked, hup, hended⟩ := inv.files hfiles
    exact ⟨hdraining, hasked, hup, hended⟩
  | admin hallowed hadmin => exact inv.admin hallowed hadmin
  | watched hshutdown =>
    refine ⟨rfl, fun _ => hshutdown, inv.up, fun n h => ?_⟩
    match n with
    | 0 => exact inv.ended 0 h
    | 1 => rfl
    | 2 => exact inv.ended 2 h
    | n + 3 => exact inv.ended (n + 3) h
  | served hstage hphase =>
    refine ⟨inv.draining, inv.asked, by simp, fun n h => ?_⟩
    obtain rfl := Nat.lt_one_iff.mp h
    exact hphase
  | joinedWatch hstage hended | joinedReload hstage hended | joinedAdmin hstage hended =>
    exact inv.goesOn (by rw [hstage]; rfl) (by rw [hstage]; exact hended) (by rw [hstage]; simp)

end AppInv

theorem appMachine_inv {config : AppConfig} {toml : Str → Except Str RawConfig} {path : Str}
    {s : App} (h : (appMachine config toml path).Reachable s) : AppInv s :=
  h.invariant (fun hinit => hinit ▸ .bound config) fun inv hstep => inv.step (App.step_cases hstep)

/-- In what order the parts of the app end. -/
structure WindsDown (config : AppConfig) (toml : Str → Except Str RawConfig) (path : Str)
    (s : App) : Prop where
  /-- As long as the router serves or drains, a probe can be answered, whatever
  the other clients of the admin listener do; nothing else changes. -/
  up       : s.server.phase ≠ .returned → ∀ request,
    AdminRoutes.IsProbe ⟨config.admin.healthPath⟩ request → ∃ admin,
      (appMachine config toml path).Reaches
        (fun event => ∃ e, event = .admin e ∧ (e.serves = true ∨ e.asks request)) s
        { s with admin := admin } ∧
      admin.answers = s.admin.answers ++ [(request, AdminRoutes.health s.watched)]
  /-- It is told to go away only after the shutdown. -/
  asked    : s.watched = true → s.server.shutdown = true
  /-- `run` waits for the drain watch, then for the SIGHUP task. -/
  waits    : (s.stage = .reloadTask → s.watched = true) ∧
    (s.stage = .adminTask → s.watched = true ∧ s.files.stage = .exited)
  /-- When `run` returns nothing is left: every connection is gone and every slot
  of the router is back, the drain was announced, no reload runs or will, and
  the admin listener has joined its tasks. -/
  returned : s.stage = .returned → s.server.shutdown = true ∧
    (∀ c ∈ s.server.net.conns, c.stage = .gone) ∧
    s.server.slots = config.server.router.maxConnections ∧
    s.admin.draining = true ∧ s.files.stage = .exited ∧
    (∀ t ∈ s.admin.tasks, t = .joined) ∧ s.admin.slots = AdminLimits.default.maxConnections

/-- A run of the admin listener alone. -/
theorem App.reaches_admin {config : AppConfig} {toml : Str → Except Str RawConfig} {path : Str}
    {s : App} {P : AdminEvent → Prop} (hallowed : ∀ {e}, P e → adminAllows e = true)
    {admin : AdminServer} (h : (adminPart config).Reaches P s.admin admin) :
    (appMachine config toml path).Reaches (fun event => ∃ e, event = .admin e ∧ P e) s
      { s with admin := admin } := by
  refine Machine.Reaches.simulate (fun admin => { s with admin := admin }) ?_ h
  intro e t t' hP hstep
  have hmove : (appMachine config toml path).step (.admin e) { s with admin := t } =
      some { s with admin := t' } := by
    show step config toml path (.admin e) { s with admin := t } = _
    simp only [step, hallowed hP, if_true, hstep, Option.map_some]
  exact .single ⟨e, rfl, hP⟩ hmove

/-- **The app winds down in order**: the admin listener answers probes until the
last connection is gone, tells them to go away only after the shutdown, and
nothing outlives `run`. -/
theorem run_winds_down {toml : Str → Except Str RawConfig} {path : Str}
    {file : Except IoError Str} {config : AppConfig}
    (hload : AppConfig.load toml path file = .ok config) {s : App}
    (h : (appMachine config toml path).Reachable s) : WindsDown config toml path s := by
  have inv := appMachine_inv h
  have hserver : ServerInv config.server.router.toRouterConfig s.server :=
    serverMachine_inv (server_reachable h)
  have hadmin := admin_reachable h
  obtain ⟨source, -, hsource⟩ := AppConfig.load_ok hload
  obtain ⟨raw, -, -, hvalid, -⟩ := AppConfig.fromTomlStr_ok hsource
  refine ⟨fun hphase request hprobe => ?_, inv.asked, ⟨fun hstage => ?_, fun hstage => ⟨?_, ?_⟩⟩,
    fun hstage => ?_⟩
  · have hserving : s.stage = .serving := by
      by_contra hstage
      refine hphase (inv.ended 0 ?_)
      cases hnow : s.stage with
      | serving => exact absurd hnow hstage
      | _ => exact Nat.succ_pos _
    have hlooping : s.admin.stage.looping = true := by
      by_contra hlooping
      exact inv.up.mp ((adminMachine_inv hadmin).left (Bool.eq_false_iff.mpr hlooping)) hserving
    obtain ⟨admin, hreaches, hanswers⟩ :=
      probe_can_be_answered hvalid (by decide) hadmin hlooping hprobe
    refine ⟨admin, App.reaches_admin ?_ hreaches, hanswers.trans (by rw [inv.draining])⟩
    intro e hkind
    cases e with
    | shutdown | setDraining =>
      exact absurd hkind (by simp [AdminEvent.serves, AdminEvent.asks])
    | _ => rfl
  · exact inv.ended 1 (by rw [hstage]; decide)
  · exact inv.ended 1 (by rw [hstage]; decide)
  · exact inv.ended 2 (by rw [hstage]; decide)
  · have hended : ∀ n < 4, s.Ended n := fun n hn => inv.ended n (by rw [hstage]; exact hn)
    have hphase : s.server.phase = .returned := hended 0 (by decide)
    have hwatched : s.watched = true := hended 1 (by decide)
    obtain ⟨hslots, htasks⟩ := (adminMachine_inv hadmin).returned (hended 3 (by decide))
    exact ⟨inv.asked hwatched, hserver.gone hphase, hserver.slots_returned hphase,
      inv.draining.trans hwatched, hended 2 (by decide), htasks, hslots⟩

/-- The config of the sample file. -/
def sampleConfig : AppConfig where
  server := ⟨RawServer.default.listen, .default⟩
  admin := ⟨RawAdmin.default.listen, RawAdmin.default.healthPath⟩
  routes :=
    match buildRouteTable [⟨ascii "A.test", ascii "new:1"⟩] with
    | .ok table => table
    | .error _ => .new

/-- The sample file loads. -/
theorem sampleConfig_load :
    AppConfig.load sampleToml (ascii "f") (.ok sampleSource) = .ok sampleConfig := by
  have htoml : sampleToml sampleSource =
      .ok ⟨.default, .default, [⟨ascii "A.test", ascii "new:1"⟩]⟩ := if_pos rfl
  simp only [AppConfig.load, AppConfig.fromTomlStr, Except.mapError, bind, Except.bind, htoml,
    RawServer.validate_default, RawAdmin.validate_default]
  rfl

/-- A shutdown that finds a client at the admin listener. -/
theorem run_winds_down_at :
    ∃ s, (appMachine sampleConfig sampleToml (ascii "f")).run
        [.admin .acquire, .admin (.accept true), .files (.start true), .shutdown, .server .poll,
          .server .close, .server .drained, .run, .admin (.start 0), .admin .leave, .drainWatch,
          .run, .files .leave, .run, .admin (.finish 0), .admin (.join 0), .admin .allJoined, .run]
        (.bound sampleConfig) = some s ∧
      s.stage = .returned ∧ WindsDown sampleConfig sampleToml (ascii "f") s := by
  obtain ⟨s, hrun, hends⟩ := Option.map_eq_some_iff.mp
    (show ((appMachine sampleConfig sampleToml (ascii "f")).run
        [.admin .acquire, .admin (.accept true), .files (.start true), .shutdown, .server .poll,
          .server .close, .server .drained, .run, .admin (.start 0), .admin .leave, .drainWatch,
          .run, .files .leave, .run, .admin (.finish 0), .admin (.join 0), .admin .allJoined, .run]
        (.bound sampleConfig)).map App.stage = some .returned from by decide +kernel)
  exact ⟨s, hrun, hends, run_winds_down sampleConfig_load ⟨_, _, rfl, hrun⟩⟩

end SniRouter
