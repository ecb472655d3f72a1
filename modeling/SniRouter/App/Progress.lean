import SniRouter.App.Routed
import SniRouter.Delivery.Progress

/-!
# SniRouter — the app comes to an end

After the shutdown every part can go on without clients, backends or signals
until `run` has returned: the router first, then the tasks that `run` waits
for. The disk may answer a reload under way with anything.

* `App.left` — what is left to do, the router before the calls of the file
  table, and these before the rest.
* `App.moves_router` — the router, or a call that one of its connections waits
  for, can go on.
* `App.moves_run` — so can `run` when the router has returned.
* `run_can_return` — from every state.
-/

namespace SniRouter

open Framing Text Table

/-- The SIGHUP task needs nobody for the event but the disk, which gives `disk`. -/
def SighupEvent.own (disk : Except IoError Str) : SighupEvent → Prop
  | .start _ | .leave | .joined => True
  | .files (.snapshot _) | .files (.answer _) | .files (.replace _) => True
  | .files (.load _ file) => file = disk
  | _ => False

/-- The app needs nobody for the event but the disk, and whoever asks for the
shutdown. -/
def AppEvent.own (disk : Except IoError Str) : AppEvent → Prop
  | .shutdown | .lookup _ | .reply _ | .drainWatch | .run => True
  | .server event => event.own = true
  | .files event => event.own disk
  | .admin event => event.own = true

-- ---------------------------------------------------------------------------
-- What is left to do
-- ---------------------------------------------------------------------------

/-- The steps a route lookup has before it. -/
def FileLookup.left (lookup : FileLookup) : Nat :=
  match lookup.phase with
  | .begun => 2
  | .snapshot _ => 1
  | .returned _ => 0

/-- The steps a reload has before it. -/
def Reload.left (reload : Reload) : Nat :=
  match reload.phase with
  | .begun => 2
  | .loaded _ => 1
  | .returned _ => 0

/-- The steps the reload task has before it exits. -/
def SighupTask.left (s : SighupTask) : Nat :=
  match s.stage with
  | .spawned => 2
  | .waiting => 1
  | .reloading r => 2 + ((s.files.reloads[r]?).map Reload.left).getD 0
  | .exited => 0

/-- An answer ends the lookup stage. -/
theorem Connection.lessens_lookup {config : RouterConfig} {gate : ProxyGate} {force : Bool}
    {c : Connection} {buffered : Bytes} {host : Hostname}
    (hstage : c.stage = .lookup buffered host) (hchecked : c.checked = true) (ended : LookupEnd) :
    ∃ c' gate' events, c.step config gate force (.work (.lookup ended)) =
      some (c', gate', events) ∧ c'.left < c.left := by
  have hwork := step_work config gate force c (.lookup ended)
  simp only [hchecked, if_true, work, hstage, Option.map_some] at hwork
  refine ⟨_, _, _, hwork, left_lt ?_ ?_⟩
  · rw [hstage]
    unfold afterLookup
    split <;> simp [Stage.number, goto, finish]
  · unfold afterLookup
    split <;> simp [Stage.number, goto, finish]

/-- A shutdown is not taken back. -/
theorem SighupTask.Stepped.keeps_shutdown {toml : Str → Except Str RawConfig} {path : Str}
    {startup : StartupSettings} {event : SighupEvent} {s s' : SighupTask}
    (hstep : Stepped toml path startup s event s') (h : s.shutdown = true) :
    s'.shutdown = true := by
  cases hstep with
  | shutdown => rfl
  | _ => exact h

namespace App

/-- How many connections have not called the file table. -/
def uncalled (s : App) : Nat :=
  ((Finset.range s.server.net.conns.length).filter (· ∉ s.callers)).card

/-- The steps of all route lookups. -/
def callsLeft (s : App) : Nat :=
  (s.files.files.lookups.map FileLookup.left).sum

/-- What is left outside the server and its calls. -/
def restLeft (s : App) : Nat :=
  (if s.watched then 0 else 1) + (4 - s.stage.number) + s.files.left + s.admin.left

/-- How much is left to do at most. -/
def left (s : App) : Nat ×ₗ Nat ×ₗ Nat ×ₗ Nat :=
  toLex (s.server.left, toLex (s.uncalled, toLex (s.callsLeft, s.restLeft)))

variable {config : AppConfig} {toml : Str → Except Str RawConfig} {path : Str}
  {disk : Except IoError Str} {s s' : App}

/-- The app can do an event of its own, and it leaves less to do. -/
def Moves (s : App) (config : AppConfig) (toml : Str → Except Str RawConfig) (path : Str)
    (disk : Except IoError Str) : Prop :=
  ∃ event s', event.own disk ∧ step config toml path event s = some s' ∧ s'.left < s.left

/-- A server with less to do is progress, whatever the calls do. -/
theorem left_server (h : s'.server.left < s.server.left) : s'.left < s.left :=
  Prod.Lex.toLex_lt_toLex.mpr (.inl h)

/-- With the same server, fewer calls to be made are progress. -/
theorem left_uncalled (hserver : s'.server = s.server) (h : s'.uncalled < s.uncalled) :
    s'.left < s.left := by
  unfold left
  rw [hserver, Prod.Lex.toLex_lt_toLex]
  exact .inr ⟨rfl, Prod.Lex.toLex_lt_toLex.mpr (.inl h)⟩

/-- With the same calls, a call further on is progress. -/
theorem left_calls (hserver : s'.server = s.server) (hcallers : s'.callers = s.callers)
    (h : s'.callsLeft < s.callsLeft) : s'.left < s.left := by
  have huncalled : s'.uncalled = s.uncalled := by rw [uncalled, uncalled, hserver, hcallers]
  unfold left
  rw [hserver, huncalled, Prod.Lex.toLex_lt_toLex]
  refine .inr ⟨rfl, Prod.Lex.toLex_lt_toLex.mpr (.inr ⟨rfl, ?_⟩)⟩
  exact Prod.Lex.toLex_lt_toLex.mpr (.inl h)

/-- With the server and the calls as they are, the rest decides. -/
theorem left_rest (hserver : s'.server = s.server) (hcallers : s'.callers = s.callers)
    (hlookups : s'.files.files.lookups = s.files.files.lookups) (h : s'.restLeft < s.restLeft) :
    s'.left < s.left := by
  have huncalled : s'.uncalled = s.uncalled := by rw [uncalled, uncalled, hserver, hcallers]
  have hcalls : s'.callsLeft = s.callsLeft := by rw [callsLeft, callsLeft, hlookups]
  unfold left
  rw [hserver, huncalled, hcalls, Prod.Lex.toLex_lt_toLex]
  refine .inr ⟨rfl, Prod.Lex.toLex_lt_toLex.mpr (.inr ⟨rfl, ?_⟩)⟩
  exact Prod.Lex.toLex_lt_toLex.mpr (.inr ⟨rfl, h⟩)

-- ---------------------------------------------------------------------------
-- The router
-- ---------------------------------------------------------------------------

/-- What the router can do without a call, it can do in the app. -/
theorem moves_server {event : ServerEvent} (hown : event.own = true)
    (hallowed : s.serverAllows event = true) {server : Server}
    (hserver : (serverPart config).step event s.server = some server)
    (hleft : server.left < s.server.left) : s.Moves config toml path disk := by
  refine ⟨.server event, { s with server := server }, hown, ?_, left_server hleft⟩
  simp only [step, hallowed, hserver, if_true, Option.map_some]

/-- A step of a lookup, or of the reload that the task waits for. -/
theorem filesPart_step {event : ReloadStep} {files : ReloadSystem}
    (hallows : s.files.stage.allows event = true)
    (hfiles : s.files.files.step toml event = some files) :
    (filesPart config toml path).step (.files event) s.files =
      some { s.files with files := files } := by
  show SighupTask.step toml path (startup config) (.files event) s.files = _
  simp only [SighupTask.step, hallows, hfiles, if_true, Option.map_some]

/-- A connection that has not called the file table calls it. -/
theorem moves_lookup {i : Nat} {c : Connection} {buffered : Bytes} {host : Hostname}
    (hconn : s.server.net.conns[i]? = some c) (hstage : c.stage = .lookup buffered host)
    (hchecked : c.checked = true) (hfresh : i ∉ s.callers) : s.Moves config toml path disk := by
  let call : FileLookup :=
    ⟨candidateKeys host, .begun, s.files.files.current, s.files.files.current⟩
  let files : ReloadSystem := { s.files.files with lookups := s.files.files.lookups ++ [call] }
  have hfiles : (filesPart config toml path).step (.files (.lookup (candidateKeys host))) s.files =
      some { s.files with files := files } := filesPart_step rfl rfl
  refine ⟨.lookup i, { s with files.files := files, callers := s.callers ++ [i] }, trivial, ?_,
    left_uncalled rfl ?_⟩
  · simp only [step, hconn, Option.bind_some, hstage, hchecked, hfresh, not_false_eq_true, and_self,
      if_true, hfiles, Option.map_some]
  · refine Finset.card_lt_card ⟨?_, fun hle => ?_⟩
    · intro j hj
      simp only [Finset.mem_filter, List.mem_append, not_or] at hj ⊢
      exact ⟨hj.1, hj.2.1⟩
    · have hmem := hle (Finset.mem_filter.mpr ⟨Finset.mem_range.mpr (lt_length hconn), hfresh⟩)
      simp at hmem

/-- A lookup or reload that goes on is progress. -/
theorem moves_phase {l : Nat} {lookup lookup' : FileLookup} {event : ReloadStep}
    (hown : SighupEvent.own disk (.files event))
    (hallowed : filesAllows (.files event) = true) (hallows : s.files.stage.allows event = true)
    (hlookup : s.files.files.lookups[l]? = some lookup)
    (hfiles : s.files.files.step toml event = some (s.files.files.setLookup l lookup'))
    (hleft : lookup'.left < lookup.left) : s.Moves config toml path disk := by
  have hstep : (filesPart config toml path).step (.files event) s.files =
      some { s.files with files := s.files.files.setLookup l lookup' } :=
    filesPart_step hallows hfiles
  refine ⟨.files (.files event), { s with files.files := s.files.files.setLookup l lookup' }, hown,
    ?_, left_calls rfl rfl ?_⟩
  · simp only [step, hallowed, hstep, if_true, Option.map_some]
  · have hsum := sum_map_set FileLookup.left hlookup lookup'
    show ((s.files.files.lookups.set l lookup').map FileLookup.left).sum < s.callsLeft
    unfold callsLeft
    omega

/-- A call goes on, and so does its connection when it has returned. -/
theorem moves_call {l i : Nat} {c : Connection} {lookup : FileLookup} {buffered : Bytes}
    {host : Hostname} (hcaller : s.callers[l]? = some i)
    (hlookup : s.files.files.lookups[l]? = some lookup)
    (hconn : s.server.net.conns[i]? = some c) (hstage : c.stage = .lookup buffered host)
    (hchecked : c.checked = true) : s.Moves config toml path disk := by
  cases hphase : lookup.phase with
  | begun =>
    have hsnapshot : s.files.files.step toml (.snapshot l) = some (s.files.files.setLookup l
        { lookup with phase := .snapshot s.files.files.table }) := by
      simp only [ReloadSystem.step, hlookup, Option.bind_some, hphase]
    have hown : SighupEvent.own disk (.files (.snapshot l)) := trivial
    exact moves_phase hown rfl rfl hlookup hsnapshot (by simp [FileLookup.left, hphase])
  | snapshot table =>
    have hanswer : s.files.files.step toml (.answer l) = some (s.files.files.setLookup l
        { lookup with
          phase := .returned (table.hits lookup.candidates), ended := s.files.files.current }) := by
      simp only [ReloadSystem.step, hlookup, Option.bind_some, hphase]
    have hown : SighupEvent.own disk (.files (.answer l)) := trivial
    exact moves_phase hown rfl rfl hlookup hanswer (by simp [FileLookup.left, hphase])
  | returned hits =>
    have hhits : (s.files.files.lookups[l]?).bind FileLookup.hits = some hits := by
      rw [hlookup, Option.bind_some, FileLookup.hits, hphase]
    obtain ⟨server, hserver, hleft⟩ := Server.moves_conn config.server.listen.length hconn
      (Connection.lessens_lookup hstage hchecked (.answered (.ok hits)))
    refine ⟨.reply l, { s with server := server }, trivial, ?_, left_server hleft⟩
    have hpart : (serverPart config).step (.conn i (.work (.lookup (.answered (.ok hits)))))
        s.server = some server := hserver
    simp only [step, hcaller, hhits, hpart, Option.bind_some, Option.map_some]

/-- Every event but the answer to a lookup is allowed to a connection that waits for
none. -/
theorem allows_conn {i : Nat} {event : ConnectionEvent} (hcalling : s.calling i = false)
    (hevent : ∀ ended, event ≠ .work (.lookup ended)) : s.serverAllows (.conn i event) = true := by
  unfold serverAllows
  split
  · next heq => exact absurd heq (by simp)
  · next heq =>
    injection heq with _ heq
    exact absurd heq (hevent _)
  · next heq =>
    injection heq with hi _
    rw [← hi, hcalling]
    rfl
  · rfl

/-- The events of the control flow are always allowed. -/
theorem allows_control {event : ServerEvent} (h : event.control = true) :
    s.serverAllows event = true := by
  cases event with
  | poll | pending | pauseAbandoned | close | graceOver | drained => rfl
  | _ => exact absurd h (by simp [ServerEvent.control])

/-- After the shutdown the router goes on, or a call that it waits for. -/
theorem moves_router (h : (appMachine config toml path).Reachable s)
    (hshutdown : s.server.shutdown = true) (hphase : s.server.phase ≠ .returned) :
    s.Moves config toml path disk := by
  have hforces : s.server.Forces := serverMachine_forces (server_reachable h)
  have hcontrol : s.server.Moves config.server.router.toRouterConfig config.server.listen.length
      ServerEvent.control ∨ _ := Server.moves_control hforces hshutdown hphase
  rcases hcontrol with ⟨event, server, hcontrol, hserver, hleft⟩ | ⟨hforce, i, c, hconn, hgone⟩
  · exact moves_server (ServerEvent.own_of_control hcontrol) (allows_control hcontrol) hserver hleft
  have hlooking : s.calling i = true ↔ i ∈ s.callers ∧ c.stage.looking = true := by
    rw [calling, hconn, Option.any_some, Bool.and_eq_true, decide_eq_true_iff]
  by_cases hcalling : s.calling i = true
  · obtain ⟨hmem, hlooks⟩ := hlooking.mp hcalling
    obtain ⟨l, hcaller⟩ := List.getElem?_of_mem hmem
    obtain ⟨d, lookup, hd, hlookup, -, hcall⟩ := (appMachine_calls h).called l i hcaller
    obtain rfl := Option.some.inj (hd.symm.trans hconn)
    obtain ⟨buffered, host, hstage⟩ : ∃ buffered host, d.stage = .lookup buffered host := by
      unfold Stage.looking at hlooks
      split at hlooks
      · next hstage => exact ⟨_, _, hstage⟩
      · exact absurd hlooks (by simp)
    exact moves_call hcaller hlookup hconn hstage (hcall buffered host hstage).1
  · obtain ⟨event, hown, c', gate', events, hstep, hleft⟩ :
        ∃ event, c.Moves config.server.router.toRouterConfig s.server.net.gate s.server.net.force
          event := hforce ▸ Connection.moves_of_force hgone
    by_cases hevent : ∃ ended, event = .work (.lookup ended)
    · obtain ⟨ended, rfl⟩ := hevent
      obtain ⟨buffered, host, hstage, -⟩ := Connection.work_lookup (Connection.work_of_step hstep)
      have hchecked : c.checked = true := by
        rw [Connection.step_work] at hstep
        by_contra hunchecked
        rw [if_neg hunchecked] at hstep
        exact absurd hstep (by simp)
      have hfresh : i ∉ s.callers := fun hmem => hcalling (hlooking.mpr ⟨hmem, by rw [hstage]; rfl⟩)
      exact moves_lookup hconn hstage hchecked hfresh
    · obtain ⟨server, hserver, hless⟩ :=
        Server.moves_conn config.server.listen.length hconn ⟨c', gate', events, hstep, hleft⟩
      have hallowed : s.serverAllows (.conn i event) = true :=
        allows_conn (Bool.eq_false_iff.mpr hcalling) fun ended heq => hevent ⟨ended, heq⟩
      have hown' : ServerEvent.own (.conn i event) = true := hown
      exact moves_server hown' hallowed hserver hless

-- ---------------------------------------------------------------------------
-- The tasks that run waits for
-- ---------------------------------------------------------------------------

/-- The SIGHUP task does something other than a step of a lookup. -/
theorem moves_task {event : SighupEvent} (files : SighupTask) (hown : event.own disk)
    (hallowed : filesAllows event = true)
    (hfiles : (filesPart config toml path).step event s.files = some files)
    (hlookups : files.files.lookups = s.files.files.lookups) (hleft : files.left < s.files.left) :
    s.Moves config toml path disk := by
  refine ⟨.files event, { s with files := files }, hown, ?_, left_rest rfl rfl hlookups ?_⟩
  · simp only [step, hallowed, hfiles, if_true, Option.map_some]
  · show _ + files.left + _ < _ + s.files.left + _
    exact Nat.add_lt_add_right (Nat.add_lt_add_left hleft _) _

/-- The reload that the task waits for goes on. -/
theorem moves_reload {r : Nat} {reload reload' : Reload} {event : ReloadStep}
    {files : ReloadSystem} (hstage : s.files.stage = .reloading r)
    (hown : SighupEvent.own disk (.files event)) (hallowed : filesAllows (.files event) = true)
    (hallows : s.files.stage.allows event = true)
    (hreload : s.files.files.reloads[r]? = some reload)
    (hfiles : s.files.files.step toml event = some files)
    (hreloads : files.reloads = s.files.files.reloads.set r reload')
    (hlookups : files.lookups = s.files.files.lookups) (hleft : reload'.left < reload.left) :
    s.Moves config toml path disk := by
  refine moves_task _ hown hallowed (filesPart_step hallows hfiles) hlookups ?_
  have hset : files.reloads[r]? = some reload' := by
    rw [hreloads]
    exact List.getElem?_set_self (lt_length hreload)
  simp only [SighupTask.left, hstage, hset, hreload, Option.map_some, Option.getD_some]
  omega

/-- After the shutdown the SIGHUP task goes on until it has exited. -/
theorem moves_files (inv : SighupInv toml path (startup config) config.routes s.files)
    (hshutdown : s.files.shutdown = true) (hstage : s.files.stage ≠ .exited) :
    s.Moves config toml path disk := by
  cases hnow : s.files.stage with
  | spawned =>
    have hown : SighupEvent.own disk (.start true) := trivial
    refine moves_task { s.files with stage := .waiting } hown rfl ?_ rfl ?_
    · show SighupTask.step toml path (startup config) (.start true) s.files = _
      simp only [SighupTask.step, hnow, if_true]
    · simp [SighupTask.left, hnow]
  | waiting =>
    have hown : SighupEvent.own disk .leave := trivial
    refine moves_task { s.files with stage := .exited } hown rfl ?_ rfl ?_
    · show SighupTask.step toml path (startup config) .leave s.files = _
      simp only [SighupTask.step, hnow, hshutdown, if_true]
    · simp [SighupTask.left, hnow]
  | reloading r =>
    have hlt : r < s.files.files.reloads.length := (inv.last r hnow) ▸ Nat.lt_succ_self r
    obtain ⟨reload, hreload⟩ : ∃ reload, s.files.files.reloads[r]? = some reload :=
      ⟨_, List.getElem?_eq_getElem hlt⟩
    have hallows : ∀ file, s.files.stage.allows (.load r file) = true ∧
        s.files.stage.allows (.replace r) = true := by
      simp [hnow, SighupStage.allows]
    cases hphase : reload.phase with
    | begun =>
      have hown : SighupEvent.own disk (.files (.load r disk)) := rfl
      have hload : s.files.files.step toml (.load r disk) = some (s.files.files.setReload r
          { reload with
            file := some disk
            phase := ReloadSystem.afterLoad (AppConfig.load toml reload.path disk) }) := by
        simp only [ReloadSystem.step, hreload, Option.bind_some, hphase]
      refine moves_reload hnow hown rfl (hallows disk).1 hreload hload rfl rfl ?_
      cases AppConfig.load toml reload.path disk <;>
        simp [Reload.left, hphase, ReloadSystem.afterLoad]
    | loaded loaded =>
      have hown : SighupEvent.own disk (.files (.replace r)) := trivial
      have hreplace : s.files.files.step toml (.replace r) =
          some (s.files.files.install r reload loaded) := by
        simp only [ReloadSystem.step, hreload, Option.bind_some, hphase]
      exact moves_reload hnow hown rfl (hallows disk).2 hreload hreplace rfl rfl
        (by simp [Reload.left, hphase])
    | returned result =>
      have hown : SighupEvent.own disk .joined := trivial
      have hreturned : reload.phase.isReturned = true := by rw [hphase]; rfl
      refine moves_task { s.files with stage := .waiting } hown rfl ?_ rfl ?_
      · show SighupTask.step toml path (startup config) .joined s.files = _
        simp only [SighupTask.step, hnow, hreload, Option.bind_some, hreturned, if_true]
      · simp only [SighupTask.left, hnow]
        omega
  | exited => exact absurd hnow hstage

/-- `run` itself goes on. -/
theorem moves_stage (stage : RunStage) (admin : AdminServer) (hadmin : admin.left = s.admin.left)
    (hrun : step config toml path .run s = some { s with admin := admin, stage := stage })
    (hnumber : stage.number = s.stage.number + 1) (hlt : s.stage.number < 4) :
    s.Moves config toml path disk := by
  refine ⟨.run, _, trivial, hrun, left_rest rfl rfl rfl ?_⟩
  simp only [restLeft, hadmin, hnumber]
  omega

/-- When the router has returned, `run` goes on, or the task that it waits for. -/
theorem moves_run (h : (appMachine config toml path).Reachable s)
    (hserver : s.server.shutdown = true) (hfiles : s.files.shutdown = true)
    (hphase : s.server.phase = .returned) (hstage : s.stage ≠ .returned) :
    s.Moves config toml path disk := by
  cases hnow : s.stage with
  | serving =>
    refine moves_stage .drainWatch { s.admin with shutdown := true } rfl ?_
      (by rw [hnow]; rfl) (by rw [hnow]; decide)
    simp only [step, hnow, hphase, if_true]
  | drainWatch =>
    cases hwatched : s.watched with
    | true =>
      refine moves_stage .reloadTask s.admin rfl ?_
        (by rw [hnow]; rfl) (by rw [hnow]; decide)
      simp only [step, hnow, hwatched, if_true]
    | false =>
      refine ⟨.drainWatch, _, trivial, if_pos ⟨hserver, hwatched⟩, left_rest rfl rfl rfl ?_⟩
      have hadmin : ({ s.admin with draining := true } : AdminServer).left = s.admin.left := rfl
      simp only [restLeft, hadmin, hwatched, if_true, Bool.false_eq_true, if_false]
      omega
  | reloadTask =>
    by_cases hexited : s.files.stage = .exited
    · refine moves_stage .adminTask s.admin rfl ?_
        (by rw [hnow]; rfl) (by rw [hnow]; decide)
      simp only [step, hnow, hexited, if_true]
    · exact moves_files (sighupMachine_inv (files_reachable h)) hfiles hexited
  | adminTask =>
    by_cases hreturned : s.admin.stage = .returned
    · refine moves_stage .returned s.admin rfl ?_
        (by rw [hnow]; rfl) (by rw [hnow]; decide)
      simp only [step, hnow, hreturned, if_true]
    · have hshutdown : s.admin.shutdown = true := (appMachine_inv h).up.mpr (by rw [hnow]; simp)
      obtain ⟨event, admin, hown, hadmin, hleft⟩ :
          s.admin.Moves ⟨config.admin.healthPath⟩ AdminEvent.own :=
        AdminServer.progress hshutdown hreturned
      have hallowed : adminAllows event = true := by
        cases event with
        | shutdown | setDraining => exact absurd hown (by simp [AdminEvent.own, AdminEvent.serves])
        | _ => rfl
      have hpart : (adminPart config).step event s.admin = some admin := hadmin
      refine ⟨.admin event, { s with admin := admin }, hown, ?_, left_rest rfl rfl rfl ?_⟩
      · simp only [step, hallowed, hpart, if_true, Option.map_some]
      · exact Nat.add_lt_add_left hleft _
  | returned => exact absurd hnow hstage

/-- The shutdown is never taken back. -/
theorem Stepped.keeps_shutdown (hstep : Stepped config toml path s s')
    (h : s.server.shutdown = true ∧ s.files.shutdown = true) :
    s'.server.shutdown = true ∧ s'.files.shutdown = true := by
  have hserves : ∀ {event server}, (serverPart config).step event s.server = some server →
      server.shutdown = true := fun hserver => (Server.step_cases hserver).keeps_shutdown h.1
  have hfiled : ∀ {event files}, (filesPart config toml path).step event s.files = some files →
      files.shutdown = true := fun hfiles => (filesPart_cases hfiles).keeps_shutdown h.2
  cases hstep with
  | shutdown => exact ⟨rfl, rfl⟩
  | server _ hserver | replied _ _ _ hserver => exact ⟨hserves hserver, h.2⟩
  | files _ hfiles | asked _ _ _ hfiles => exact ⟨h.1, hfiled hfiles⟩
  | _ => exact h

end App

/-- **`run` can always return**: from every state, once the shutdown is asked for,
with nobody's help but that of the disk, which may answer with any file or error. -/
theorem run_can_return {config : AppConfig} {toml : Str → Except Str RawConfig} {path : Str}
    {s : App} (h : (appMachine config toml path).Reachable s) (disk : Except IoError Str) :
    ∃ s', (appMachine config toml path).Reaches (AppEvent.own disk) s s' ∧
      s'.stage = .returned := by
  let machine := appMachine config toml path
  let Inv (u : App) : Prop := machine.Reachable u ∧
    u.server.shutdown = true ∧ u.files.shutdown = true
  have hstep : ∀ u, Inv u → u.stage = .returned ∨ ∃ e u', AppEvent.own disk e ∧
      machine.step e u = some u' ∧ Inv u' ∧ u'.left < u.left := by
    rintro u ⟨hu, hserver, hfiles⟩
    by_cases hstage : u.stage = .returned
    · exact .inl hstage
    · have hmoves : u.Moves config toml path disk := by
        by_cases hphase : u.server.phase = .returned
        · exact App.moves_run hu hserver hfiles hphase hstage
        · exact App.moves_router hu hserver hphase
      obtain ⟨event, u', hown, hmove, hleft⟩ := hmoves
      exact .inr ⟨event, u', hown, hmove, ⟨hu.step hmove,
        (App.step_cases hmove).keeps_shutdown ⟨hserver, hfiles⟩⟩, hleft⟩
  have hasked : machine.step .shutdown s =
      some { s with server.shutdown := true, files.shutdown := true } := rfl
  have hown : AppEvent.own disk .shutdown := trivial
  obtain ⟨s', hreaches, -, hreturned⟩ :=
    Machine.reaches_of_measure App.left hstep ⟨h.step hasked, rfl, rfl⟩
  exact ⟨s', hreaches.head hown hasked, hreturned⟩

/-- A client in its call of the file table, and a reload whose file cannot be
read. -/
theorem run_can_return_at :
    ∃ (es : List AppEvent) (s s' : App),
      (appMachine sampleConfig sampleToml (ascii "f")).run es (.bound sampleConfig) = some s ∧
      (s.calling 0, s.files.stage) = (true, .reloading 0) ∧
      (appMachine sampleConfig sampleToml (ascii "f")).Reaches
        (AppEvent.own (.error ⟨.notFound, ascii "gone"⟩)) s s' ∧ s'.stage = .returned := by
  let hello : Bytes := [22, 3, 1, 0, 62, 1, 0, 0, 58, 3, 3] ++ List.replicate 32 0 ++
    [0, 0, 2, 19, 1, 1, 0, 0, 15, 0, 0, 0, 11, 0, 9, 0, 0, 6, 97, 46, 116, 101, 115, 116]
  let accepted : List AppEvent :=
    [.poll, .acquire, .poll, .accept [some (.stream hello)]].map AppEvent.server
  let named : List AppEvent :=
    [.start, .poll, .work (.read 67), .work .parsed, .poll].map fun e => .server (.conn 0 e)
  let es : List AppEvent := accepted ++ named ++
    [.files (.start true), .files .hangup, .files .recv, .lookup 0, .files (.files (.snapshot 0))]
  obtain ⟨s, hrun, hends⟩ := Option.map_eq_some_iff.mp
    (show ((appMachine sampleConfig sampleToml (ascii "f")).run es (.bound sampleConfig)).map
      (fun s => (s.calling 0, s.files.stage)) = some (true, .reloading 0) from by decide +kernel)
  obtain ⟨s', hreturned⟩ := run_can_return ⟨_, _, rfl, hrun⟩ (.error ⟨.notFound, ascii "gone"⟩)
  exact ⟨es, s, s', hrun, hends, hreturned⟩

end SniRouter
