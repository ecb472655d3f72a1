import SniRouter.App.Reload

/-!
# SniRouter — reloading on SIGHUP

The task of `spawn_sighup_reload`: it waits for a signal or the shutdown, and
runs one reload at a time on a blocking thread, while lookups go on. Signals
that come during a reload are one signal when it is over.

* `SighupTask.step` — one event of the task, of its reload or of a lookup.
* `SighupInv` — one reload at a time, and when each was begun.
* `sighups_served` — the table is that of the files read, one after the other,
  and no signal is lost.
-/

namespace SniRouter

open Text

-- ---------------------------------------------------------------------------
-- The task
-- ---------------------------------------------------------------------------

/-- Where the reload task is. -/
inductive SighupStage where
  /-- Not polled yet: no handler is installed. -/
  | spawned
  /-- In the select. -/
  | waiting
  /-- Waiting for the blocking thread, which runs this reload. -/
  | reloading (r : Nat)
  | exited
deriving DecidableEq

/-- The reload task, the signals that came and the reloads it began. -/
structure SighupTask where
  files    : ReloadSystem
  stage    : SighupStage
  /-- A signal has come that `recv` has not returned for. -/
  pending  : Bool
  shutdown : Bool
  /-- Ghost: how many signals have come since the handler was installed. -/
  hangups  : Nat
  /-- Ghost: how many had come when each reload was begun. -/
  begun    : List Nat

/-- What happens to the reload task. -/
inductive SighupEvent where
  /-- The first poll, with a handler or without one. -/
  | start (installed : Bool)
  | hangup
  | shutdown
  /-- The select finds the shutdown token cancelled. -/
  | leave
  /-- `recv` gives nothing more. -/
  | closed
  | recv
  /-- A step of the running reload, or of a lookup. -/
  | files (event : ReloadStep)
  /-- The reload panics before it has replaced the table. -/
  | panic
  | joined

/-- The reload has its outcome. -/
def ReloadPhase.isReturned : ReloadPhase → Bool
  | .returned _ => true
  | _ => false

/-- Only the reload that the task waits for goes on; lookups always do. -/
def SighupStage.allows (stage : SighupStage) : ReloadStep → Bool
  | .lookup _ | .snapshot _ | .answer _ => true
  | .reload _ _ => false
  | .load r _ | .replace r =>
    match stage with
    | .reloading r' => r == r'
    | _ => false

namespace SighupTask

/-- The task before its first poll. -/
def spawn (initial : InMemoryLookup) : SighupTask :=
  ⟨.start initial, .spawned, false, false, 0, []⟩

/-- The step relation; `none` is an event that cannot happen. -/
def step (toml : Str → Except Str RawConfig) (path : Str) (startup : StartupSettings)
    (event : SighupEvent) (s : SighupTask) : Option SighupTask :=
  match event, s.stage with
  | .start installed, .spawned =>
    some { s with stage := if installed then .waiting else .exited }
  | .hangup, .waiting | .hangup, .reloading _ =>
    some { s with pending := true, hangups := s.hangups + 1 }
  -- before the handler is installed and after it is dropped nobody listens
  | .hangup, _ => some s
  | .shutdown, _ => some { s with shutdown := true }
  | .leave, .waiting => if s.shutdown then some { s with stage := .exited } else none
  | .closed, .waiting => some { s with stage := .exited }
  | .recv, .waiting =>
    if s.pending then
      (s.files.step toml (.reload path startup)).map fun files => { s with
        files := files
        stage := .reloading s.files.reloads.length
        pending := false
        begun := s.begun ++ [s.hangups] }
    else none
  | .files event, stage =>
    if stage.allows event then
      (s.files.step toml event).map fun files => { s with files := files }
    else none
  | .panic, .reloading r =>
    (s.files.reloads[r]?).bind fun reload =>
      if reload.phase.isReturned then none else some { s with stage := .waiting }
  | .joined, .reloading r =>
    (s.files.reloads[r]?).bind fun reload =>
      if reload.phase.isReturned then some { s with stage := .waiting } else none
  | _, _ => none

/-- All that one event can do. -/
inductive Stepped (toml : Str → Except Str RawConfig) (path : Str) (startup : StartupSettings)
    (s : SighupTask) : SighupEvent → SighupTask → Prop where
  | started {installed stage} (hstage : s.stage = .spawned)
      (hnext : stage = .waiting ∨ stage = .exited) :
      Stepped toml path startup s (.start installed) { s with stage := stage }
  | hangup : Stepped toml path startup s .hangup
      { s with pending := true, hangups := s.hangups + 1 }
  | ignored : Stepped toml path startup s .hangup s
  | shutdown : Stepped toml path startup s .shutdown { s with shutdown := true }
  | left {event} (hevent : event = .leave ∨ event = .closed) (hstage : s.stage = .waiting) :
      Stepped toml path startup s event { s with stage := .exited }
  | received {files} (hstage : s.stage = .waiting) (hpending : s.pending = true)
      (hfiles : s.files.step toml (.reload path startup) = some files) :
      Stepped toml path startup s .recv { s with
        files := files
        stage := .reloading s.files.reloads.length
        pending := false
        begun := s.begun ++ [s.hangups] }
  | files {event files} (hallows : s.stage.allows event = true)
      (hfiles : s.files.step toml event = some files) :
      Stepped toml path startup s (.files event) { s with files := files }
  | ended {event r} (hevent : event = .panic ∨ event = .joined) (hstage : s.stage = .reloading r) :
      Stepped toml path startup s event { s with stage := .waiting }

/-- An event that happens, case by case. -/
theorem step_cases {toml : Str → Except Str RawConfig} {path : Str} {startup : StartupSettings}
    {event : SighupEvent} {s s' : SighupTask} (h : step toml path startup event s = some s') :
    Stepped toml path startup s event s' := by
  unfold step at h
  split at h
  · next installed hstage =>
    cases h
    refine .started hstage ?_
    split_ifs
    · exact .inl rfl
    · exact .inr rfl
  · cases h
    exact .hangup
  · cases h
    exact .hangup
  · cases h
    exact .ignored
  · cases h
    exact .shutdown
  · next hstage =>
    split_ifs at h
    cases h
    exact .left (.inl rfl) hstage
  · next hstage =>
    cases h
    exact .left (.inr rfl) hstage
  · next hstage =>
    split_ifs at h with hpending
    obtain ⟨files, hfiles, rfl⟩ := Option.map_eq_some_iff.mp h
    exact .received hstage hpending hfiles
  · split_ifs at h with hallows
    obtain ⟨files, hfiles, rfl⟩ := Option.map_eq_some_iff.mp h
    exact .files hallows hfiles
  · next hstage =>
    obtain ⟨reload, -, h⟩ := Option.bind_eq_some_iff.mp h
    split_ifs at h
    cases h
    exact .ended (.inl rfl) hstage
  · next hstage =>
    obtain ⟨reload, -, h⟩ := Option.bind_eq_some_iff.mp h
    split_ifs at h
    cases h
    exact .ended (.inr rfl) hstage
  · exact absurd h (by simp)

end SighupTask

/-- The reload task on its own. -/
def sighupMachine (toml : Str → Except Str RawConfig) (path : Str) (startup : StartupSettings)
    (initial : InMemoryLookup) : Machine SighupTask SighupEvent where
  init s := s = .spawn initial
  step   := SighupTask.step toml path startup

-- ---------------------------------------------------------------------------
-- The invariant
-- ---------------------------------------------------------------------------

/-- What reading the file gave, where the reload has returned. -/
def Reload.read (reload : Reload) : Option (Except IoError Str) :=
  if reload.phase.isReturned then reload.file else none

/-- The table after a reload of this file. -/
def afterReload (toml : Str → Except Str RawConfig) (path : Str) (startup : StartupSettings)
    (table : InMemoryLookup) (file : Except IoError Str) : InMemoryLookup :=
  (reloadFromPath toml path file startup table).2

/-- What holds in every reachable state of the reload task. -/
structure SighupInv (toml : Str → Except Str RawConfig) (path : Str) (startup : StartupSettings)
    (initial : InMemoryLookup) (s : SighupTask) : Prop where
  reached : (reloadMachine toml initial).Reachable s.files
  counted : s.begun.length = s.files.reloads.length
  /-- One reload at a time. -/
  last    : ∀ r, s.stage = .reloading r → r + 1 = s.files.reloads.length
  called  : ∀ reload ∈ s.files.reloads, reload.path = path ∧ reload.startup = startup
  table   : s.files.table =
    (s.files.reloads.filterMap Reload.read).foldl (afterReload toml path startup) initial
  ordered : s.begun.Pairwise (· < ·)
  /-- No reload without a signal, and none twice for the same. -/
  signalled : ∀ n ∈ s.begun, 1 ≤ n
  few     : s.begun.length ≤ s.begun.getLast?.getD 0
  /-- What has come since the last reload was begun is pending. -/
  fresh   : s.begun.getLast?.getD 0 ≤ s.hangups ∧
    (s.pending = true ↔ s.begun.getLast?.getD 0 < s.hangups)

namespace SighupInv

variable {toml : Str → Except Str RawConfig} {path : Str} {startup : StartupSettings}
  {initial : InMemoryLookup} {s s' : SighupTask}

theorem spawn (toml : Str → Except Str RawConfig) (path : Str) (startup : StartupSettings)
    (initial : InMemoryLookup) : SighupInv toml path startup initial (.spawn initial) where
  reached := .init rfl
  counted := rfl
  last r h := absurd h (by simp [SighupTask.spawn])
  called reload h := absurd h (by simp [SighupTask.spawn, ReloadSystem.start])
  table := rfl
  ordered := .nil
  signalled n h := absurd h (by simp [SighupTask.spawn])
  few := Nat.le_refl _
  fresh := by simp [SighupTask.spawn]

/-- No reload began after more signals than the last. -/
theorem begun_le (inv : SighupInv toml path startup initial s) :
    ∀ n ∈ s.begun, n ≤ s.begun.getLast?.getD 0 := by
  have hordered := inv.ordered
  intro n hn
  obtain ⟨before, last, heq⟩ := (List.eq_nil_or_concat s.begun).resolve_left (List.ne_nil_of_mem hn)
  rw [List.concat_eq_append] at heq
  rw [heq] at hn hordered ⊢
  rw [List.getLast?_concat, Option.getD_some]
  rcases List.mem_append.mp hn with hn | hn
  · exact (List.pairwise_append.mp hordered).2.2 n hn last (List.mem_singleton_self _) |>.le
  · exact (List.mem_singleton.mp hn).le

/-- A reload that begins is the last one. -/
theorem received (inv : SighupInv toml path startup initial s) {files : ReloadSystem}
    (hpending : s.pending = true)
    (hfiles : s.files.step toml (.reload path startup) = some files) :
    SighupInv toml path startup initial { s with
      files := files
      stage := .reloading s.files.reloads.length
      pending := false
      begun := s.begun ++ [s.hangups] } := by
  have hmove : (reloadMachine toml initial).step (.reload path startup) s.files = some files :=
    hfiles
  have hreached : (reloadMachine toml initial).Reachable files := inv.reached.step hmove
  cases hfiles
  have hnew := inv.fresh.2.mp hpending
  refine ⟨hreached, ?_, ?_, ?_, ?_, ?_, ?_, ?_, ?_⟩
  · simp [inv.counted]
  · intro r hr
    injection hr with hr
    simp [← hr]
  · intro reload hmem
    rcases List.mem_append.mp hmem with hmem | hmem
    · exact inv.called reload hmem
    · rw [List.mem_singleton.mp hmem]
      exact ⟨rfl, rfl⟩
  · show s.files.table = ((s.files.reloads ++ [_]).filterMap Reload.read).foldl _ initial
    rw [List.filterMap_append, List.filterMap_cons_none rfl, List.filterMap_nil, List.append_nil]
    exact inv.table
  · refine List.pairwise_append.mpr ⟨inv.ordered, List.pairwise_singleton _ _, ?_⟩
    intro n hn m hm
    rw [List.mem_singleton.mp hm]
    exact (inv.begun_le n hn).trans_lt hnew
  · intro n hn
    rcases List.mem_append.mp hn with hold | hlast
    · exact inv.signalled n hold
    · rw [List.mem_singleton.mp hlast]
      exact Nat.one_le_of_lt hnew
  · show (s.begun ++ [s.hangups]).length ≤ _
    rw [List.getLast?_concat, Option.getD_some, List.length_append, List.length_singleton]
    exact Nat.succ_le_of_lt (inv.few.trans_lt hnew)
  · simp

/-- A step of the running reload changes the last one, and the table if it
installs its file. -/
theorem setLast (inv : SighupInv toml path startup initial s) {files : ReloadSystem} {r : Nat}
    {reload reload' : Reload} (hreached : (reloadMachine toml initial).Reachable files)
    (hstage : s.stage = .reloading r) (hreload : s.files.reloads[r]? = some reload)
    (hreloads : files.reloads = s.files.reloads.set r reload')
    (hcalled : reload'.path = reload.path ∧ reload'.startup = reload.startup)
    (hunread : reload.read = none)
    (htable : files.table =
      reload'.read.toList.foldl (afterReload toml path startup) s.files.table) :
    SighupInv toml path startup initial { s with files := files } := by
  refine ⟨hreached, ?_, ?_, ?_, ?_, inv.ordered, inv.signalled, inv.few, inv.fresh⟩
  · show s.begun.length = files.reloads.length
    rw [hreloads, List.length_set, inv.counted]
  · intro r' hr'
    show r' + 1 = files.reloads.length
    rw [hreloads, List.length_set]
    exact inv.last r' hr'
  · intro other hmem
    rw [show files.reloads = _ from hreloads] at hmem
    rcases List.mem_or_eq_of_mem_set hmem with hold | rfl
    · exact inv.called other hold
    · rw [hcalled.1, hcalled.2]
      exact inv.called reload (List.mem_of_getElem? hreload)
  · show files.table = (files.reloads.filterMap Reload.read).foldl _ initial
    rw [hreloads, Table.filterMap_set_last hreload (inv.last r hstage) hunread, List.foldl_append,
      ← inv.table, htable]

/-- While a reload may load or replace, the task is in it. -/
theorem reloading_of_allows {stage : SighupStage} {r : Nat} {event : ReloadStep}
    (hevent : (∃ file, event = .load r file) ∨ event = .replace r)
    (h : stage.allows event = true) : stage = .reloading r := by
  cases stage with
  | reloading r' =>
    rcases hevent with ⟨file, rfl⟩ | rfl
    · rw [beq_iff_eq.mp (show (r == r') = true from h)]
    · rw [beq_iff_eq.mp (show (r == r') = true from h)]
  | _ => rcases hevent with ⟨file, rfl⟩ | rfl <;> exact absurd h (by simp [SighupStage.allows])

/-- A step of the running reload or of a lookup. -/
theorem files (inv : SighupInv toml path startup initial s) {event : ReloadStep}
    {files : ReloadSystem} (hallows : s.stage.allows event = true)
    (hfiles : s.files.step toml event = some files) :
    SighupInv toml path startup initial { s with files := files } := by
  have hreached : (reloadMachine toml initial).Reachable files := inv.reached.step hfiles
  cases ReloadSystem.step_cases hfiles with
  | lookup | snapshot | answer =>
    exact ⟨hreached, inv.counted, inv.last, inv.called, inv.table, inv.ordered, inv.signalled,
      inv.few, inv.fresh⟩
  | reload => exact absurd hallows (by simp [SighupStage.allows])
  | @load r file reload hreload hphase =>
    have hstage := reloading_of_allows (.inl ⟨file, rfl⟩) hallows
    refine inv.setLast hreached hstage hreload rfl ⟨rfl, rfl⟩ ?_ ?_
    · rw [Reload.read, hphase]
      rfl
    · have hpath := (inv.called reload (List.mem_of_getElem? hreload)).1
      show s.files.table = _
      cases hload : AppConfig.load toml reload.path file with
      | ok config => simp [Reload.read, ReloadSystem.afterLoad, ReloadPhase.isReturned]
      | error error =>
        simp [Reload.read, ReloadSystem.afterLoad, hload, ReloadPhase.isReturned, afterReload,
          reloadFromPath, ← hpath]
  | @replace r reload config hreload hphase =>
    have hstage := reloading_of_allows (.inr rfl) hallows
    have hok := (reload_inv inv.reached).reloads r reload hreload
    unfold Reload.Ok at hok
    rw [hphase] at hok
    obtain ⟨-, file, hfile, hload⟩ := hok
    refine inv.setLast hreached hstage hreload rfl ⟨rfl, rfl⟩ ?_ ?_
    · rw [Reload.read, hphase]
      rfl
    · have hpath := (inv.called reload (List.mem_of_getElem? hreload)).1
      rw [hpath] at hload
      simp [Reload.read, ReloadPhase.isReturned, hfile, afterReload, reloadFromPath, hload,
        ReloadSystem.install, ReloadSystem.setReload]

theorem step (inv : SighupInv toml path startup initial s)
    {event : SighupEvent} (hstep : SighupTask.Stepped toml path startup s event s') :
    SighupInv toml path startup initial s' := by
  cases hstep with
  | ignored => exact inv
  | shutdown =>
    exact ⟨inv.reached, inv.counted, inv.last, inv.called, inv.table, inv.ordered, inv.signalled,
      inv.few, inv.fresh⟩
  | started _ hnext =>
    refine ⟨inv.reached, inv.counted, ?_, inv.called, inv.table, inv.ordered, inv.signalled,
      inv.few, inv.fresh⟩
    intro r hr
    rcases hnext with rfl | rfl <;> exact absurd hr (by simp)
  | left | ended =>
    exact ⟨inv.reached, inv.counted, fun r hr => absurd hr (by simp), inv.called, inv.table,
      inv.ordered, inv.signalled, inv.few, inv.fresh⟩
  | hangup =>
    refine ⟨inv.reached, inv.counted, inv.last, inv.called, inv.table, inv.ordered, inv.signalled,
      inv.few, ?_⟩
    have hle := inv.fresh.1
    exact ⟨Nat.le_succ_of_le hle, fun _ => Nat.lt_succ_of_le hle, fun _ => rfl⟩
  | received _ hpending hfiles => exact inv.received hpending hfiles
  | files hallows hfiles => exact inv.files hallows hfiles

end SighupInv

theorem sighupMachine_inv {toml : Str → Except Str RawConfig} {path : Str}
    {startup : StartupSettings} {initial : InMemoryLookup} {s : SighupTask}
    (h : (sighupMachine toml path startup initial).Reachable s) :
    SighupInv toml path startup initial s :=
  h.invariant (fun hinit => hinit ▸ .spawn toml path startup initial) fun inv hstep =>
    inv.step (SighupTask.step_cases hstep)

-- ---------------------------------------------------------------------------
-- Every run
-- ---------------------------------------------------------------------------

/-- What has become of the signals. -/
structure SighupsServed (toml : Str → Except Str RawConfig) (path : Str) (startup : StartupSettings)
    (initial : InMemoryLookup) (s : SighupTask) : Prop where
  /-- As if `reload_from_path` had been called on the files read, one after the
  other. -/
  table   : s.files.table =
    (s.files.reloads.filterMap Reload.read).foldl (afterReload toml path startup) initial
  whole   : ReloadedWhole toml initial s.files
  /-- No reload begins before the last one is over. -/
  alone   : ∀ r, s.stage = .reloading r → r + 1 = s.files.reloads.length
  /-- Every reload was begun for signals that had come since the one before. -/
  called  : s.begun.length = s.files.reloads.length ∧ s.begun.Pairwise (· < ·) ∧
    ∀ n ∈ s.begun, 1 ≤ n ∧ n ≤ s.hangups
  /-- Never more reloads than signals. -/
  few     : s.files.reloads.length ≤ s.hangups
  /-- When nothing is left to do, the last reload was begun after the last
  signal. -/
  served  : s.stage = .waiting → s.pending = false → 0 < s.hangups →
    s.begun.getLast? = some s.hangups
  /-- A signal that comes while the task listens is pending until then. -/
  noticed : s.pending = true ↔ s.begun.getLast?.getD 0 < s.hangups

/-- **No signal is lost, and the reloads come one at a time**, however signals,
reloads, lookups and the shutdown interleave. -/
theorem sighups_served {toml : Str → Except Str RawConfig} {path : Str}
    {startup : StartupSettings} {initial : InMemoryLookup} {s : SighupTask}
    (h : (sighupMachine toml path startup initial).Reachable s) :
    SighupsServed toml path startup initial s := by
  have inv := sighupMachine_inv h
  refine ⟨inv.table, (reload_inv inv.reached).whole, inv.last, ⟨inv.counted, inv.ordered, ?_⟩, ?_,
    ?_, inv.fresh.2⟩
  · exact fun n hn => ⟨inv.signalled n hn, (inv.begun_le n hn).trans inv.fresh.1⟩
  · rw [← inv.counted]
    exact inv.few.trans inv.fresh.1
  · intro _ hpending hhangups
    have hnot : ¬ s.begun.getLast?.getD 0 < s.hangups := by
      rw [← inv.fresh.2, hpending]
      decide
    have heq : s.begun.getLast?.getD 0 = s.hangups := by
      have hle := inv.fresh.1
      omega
    cases hlast : s.begun.getLast? with
    | none =>
      rw [hlast, Option.getD_none] at heq
      omega
    | some n =>
      rw [hlast, Option.getD_some] at heq
      rw [heq]

/-- Two signals during a reload are one reload more, whose file is no TOML. -/
theorem sighups_served_at :
    ∃ s, (sighupMachine sampleToml (ascii "f") sampleStartup .new).run
        [.start true, .hangup, .recv, .hangup, .files (.load 0 (.ok sampleSource)), .hangup,
          .files (.replace 0), .joined, .recv, .files (.load 1 (.ok (ascii "not toml ["))), .joined]
        (.spawn .new) = some s ∧
      (s.begun, s.files.table.len) = ([1, 3], 1) ∧
      SighupsServed sampleToml (ascii "f") sampleStartup .new s := by
  obtain ⟨s, hrun, hends⟩ := Option.map_eq_some_iff.mp
    (show ((sighupMachine sampleToml (ascii "f") sampleStartup .new).run
        [.start true, .hangup, .recv, .hangup, .files (.load 0 (.ok sampleSource)), .hangup,
          .files (.replace 0), .joined, .recv, .files (.load 1 (.ok (ascii "not toml ["))), .joined]
        (.spawn .new)).map (fun s => (s.begun, s.files.table.len)) = some ([1, 3], 1) from
      by decide +kernel)
  exact ⟨s, hrun, hends, sighups_served ⟨_, _, rfl, hrun⟩⟩

end SniRouter
