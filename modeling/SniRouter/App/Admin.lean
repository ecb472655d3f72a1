import Mathlib.Data.List.TakeWhile
import SniRouter.App.Config
import SniRouter.Lib.Machine
import SniRouter.Lib.Permits

/-!
# SniRouter — the admin listener

`AdminServer::serve` with its select loop, its slots and the tasks in its
`JoinSet`, and what the routes answer. The future that takes a slot and then
accepts is made anew in every round of the loop, so a slot in its hands comes
back when another branch wins.

* `AdminRoutes.handle` — one request.
* `AdminRoutes.IsProbe` — a request that asks for the health.
* `AdminServer.step` — one event of `serve` or of a task.
* `AdminInv` — the slots, the tasks and the answers.
* `AdminServer.progress` — what `serve` can do without its clients.
* `admin_accounts` — slots and tasks over every run; probes are told to go away
  from the moment on at which the drain begins.
* `probe_can_be_answered` — whoever else is connected.
-/

namespace SniRouter

open Text Permits Table

-- ---------------------------------------------------------------------------
-- Requests
-- ---------------------------------------------------------------------------

/-- The status codes of the endpoints. -/
inductive StatusCode where
  | ok
  | notFound
  | methodNotAllowed
  | internalServerError
  | serviceUnavailable
deriving DecidableEq

/-- What `handle` reads of a request. -/
structure AdminRequest where
  method : Str
  /-- What the request line asks for, from the path on. -/
  target : Str
deriving DecidableEq

/-- `Uri::path`: it ends where the query or the fragment begins, and is never
empty. -/
def AdminRequest.path (request : AdminRequest) : Str :=
  let path := request.target.takeWhile fun b => b != questionMark && b != numberSign
  if path.isEmpty then ascii "/" else path

/-- No request has such a path. -/
def Hidden (path : Str) : Prop := path = [] ∨ questionMark ∈ path ∨ numberSign ∈ path

/-- What `handle` answers with. -/
structure AdminResponse where
  status      : StatusCode
  contentType : Str
  body        : Str
deriving DecidableEq

/-- `text`. -/
def textResponse (status : StatusCode) (body : Str) : AdminResponse :=
  ⟨status, ascii "text/plain; charset=utf-8", body⟩

/-- The settings behind the endpoints. -/
structure AdminRoutes where
  healthPath : Str

namespace AdminRoutes

/-- `encoded` is what the encoder makes of the registry. -/
def metrics (encoded : Option Str) : AdminResponse :=
  match encoded with
  | none => textResponse .internalServerError (ascii "metrics encoding failed\n")
  | some body => ⟨.ok, ascii "text/plain; version=0.0.4; charset=utf-8", body⟩

/-- `handle`. -/
def handle (routes : AdminRoutes) (draining : Bool) (encoded : Option Str)
    (request : AdminRequest) : AdminResponse :=
  if request.method ≠ ascii "GET" then
    textResponse .methodNotAllowed (ascii "method not allowed\n")
  else if request.path = ascii "/metrics" then metrics encoded
  else if request.path = routes.healthPath then
    if draining then textResponse .serviceUnavailable (ascii "draining\n")
    else textResponse .ok (ascii "ok\n")
  else textResponse .notFound (ascii "not found\n")

/-- A health probe: a GET of the health path, with any query. -/
def IsProbe (routes : AdminRoutes) (request : AdminRequest) : Prop :=
  request.method = ascii "GET" ∧ request.path = routes.healthPath

/-- What a probe is told. -/
def health (draining : Bool) : AdminResponse :=
  if draining then textResponse .serviceUnavailable (ascii "draining\n")
  else textResponse .ok (ascii "ok\n")

/-- There is a probe, unless the health path hides. -/
theorem exists_probe_iff {routes : AdminRoutes} :
    (∃ request, routes.IsProbe request) ↔ ¬Hidden routes.healthPath := by
  constructor
  · rintro ⟨request, -, hpath⟩
    rw [← hpath, AdminRequest.path]
    split_ifs with hempty
    · unfold Hidden
      decide
    · rintro (hnil | hmem | hmem)
      · exact hempty (List.isEmpty_iff.mpr hnil)
      · exact absurd (List.mem_takeWhile_imp hmem) (by simp)
      · exact absurd (List.mem_takeWhile_imp hmem) (by simp)
  · intro h
    have hwhole : routes.healthPath.takeWhile (fun b => b != questionMark && b != numberSign) =
        routes.healthPath := by
      refine List.takeWhile_eq_self_iff.mpr fun b hb => ?_
      have hquestion : b ≠ questionMark := fun heq => h (.inr (.inl (heq ▸ hb)))
      have hnumber : b ≠ numberSign := fun heq => h (.inr (.inr (heq ▸ hb)))
      simp [hquestion, hnumber]
    have hne : ¬ routes.healthPath.isEmpty = true := fun hnil => h (.inl (List.isEmpty_iff.mp hnil))
    refine ⟨⟨ascii "GET", routes.healthPath⟩, rfl, ?_⟩
    rw [AdminRequest.path, hwhole, if_neg hne]

-- validation lets a path pass that hides
example : ∃ config, RawAdmin.validate ⟨RawAdmin.default.listen, ascii "/h?x"⟩ = .ok config ∧
    Hidden config.healthPath :=
  ⟨⟨RawAdmin.default.listen, ascii "/h?x"⟩, by decide +kernel, .inr (.inl (by decide))⟩

/-- A validated health path does not hide behind the metrics. -/
theorem handle_probe {raw : RawAdmin} {config : AdminConfig} (h : raw.validate = .ok config)
    {request : AdminRequest} (hprobe : IsProbe ⟨config.healthPath⟩ request) (draining : Bool)
    (encoded : Option Str) :
    handle ⟨config.healthPath⟩ draining encoded request = health draining := by
  unfold RawAdmin.validate at h
  split_ifs at h with hvalid
  injection h with h
  have hmetrics : config.healthPath ≠ ascii "/metrics" := by
    intro heq
    rw [← h] at heq
    simp [show raw.healthPath = ascii "/metrics" from heq] at hvalid
  obtain ⟨hget, hpath⟩ := hprobe
  unfold handle health
  rw [hget, hpath, if_neg (by simp), if_neg hmetrics, if_pos rfl]

/-- Nobody else is told so. -/
theorem isProbe_of_handle {routes : AdminRoutes} {draining draining' : Bool}
    {encoded : Option Str} {request : AdminRequest}
    (h : handle routes draining encoded request = health draining') : routes.IsProbe request := by
  have hstatus : (health draining').status = .ok ∨
      (health draining').status = .serviceUnavailable := by
    cases draining' with
    | false => exact .inl rfl
    | true => exact .inr rfl
  have htype : (health draining').contentType = ascii "text/plain; charset=utf-8" := by
    cases draining' <;> rfl
  unfold handle at h
  split_ifs at h with hget hmetrics hpath
  · rw [← h] at hstatus
    exact absurd hstatus (by simp [textResponse])
  · cases encoded with
    | none =>
      rw [← h] at hstatus
      exact absurd hstatus (by simp [metrics, textResponse])
    | some body =>
      rw [← h] at htype
      have htype : ascii "text/plain; version=0.0.4; charset=utf-8" =
          ascii "text/plain; charset=utf-8" := htype
      exact absurd htype (by decide)
  · exact ⟨not_not.mp hget, hpath⟩
  · exact ⟨not_not.mp hget, hpath⟩
  · rw [← h] at hstatus
    exact absurd hstatus (by simp [textResponse])

end AdminRoutes

-- ---------------------------------------------------------------------------
-- Serving
-- ---------------------------------------------------------------------------

/-- The timeouts of a connection decide when it is over, not what can happen. -/
structure AdminLimits where
  maxConnections : Nat

/-- The limits of the endpoints, less those that only the clock sees. -/
def AdminLimits.default : AdminLimits := ⟨256⟩

/-- The task of an admin connection. -/
inductive AdminTask where
  /-- Not polled yet. -/
  | spawned
  /-- `hyper` waits for the request. -/
  | reading
  /-- The one request is answered, the response is being written. -/
  | writing
  /-- Over: the slot is back, the result waits in the `JoinSet`. -/
  | finished
  | joined
deriving DecidableEq

/-- The task holds a slot. -/
def AdminTask.live : AdminTask → Bool
  | .spawned | .reading | .writing => true
  | _ => false

/-- Where `serve` is. -/
inductive AdminStage where
  /-- In the select; the accept future has a slot in its hands, or not. -/
  | selecting (held : Bool)
  /-- Sleeping after a failed accept. -/
  | pausing
  /-- Joining, under the grace period. -/
  | grace
  | aborting
  | returned
deriving DecidableEq

/-- The slots in the hands of the accept loop. -/
def AdminStage.held : AdminStage → Nat
  | .selecting held => if held then 1 else 0
  | _ => 0

/-- The loop has not seen the shutdown. -/
def AdminStage.looping : AdminStage → Bool
  | .selecting _ | .pausing => true
  | _ => false

/-- The admin server with its connections, the drain flag and the answers it gave. -/
structure AdminServer where
  stage    : AdminStage
  /-- Free slots. -/
  slots    : Nat
  tasks    : List AdminTask
  shutdown : Bool
  /-- `Health`. -/
  draining : Bool
  /-- Ghost: the requests in the order they were answered. -/
  answers  : List (AdminRequest × AdminResponse)

/-- What happens to the admin server. -/
inductive AdminEvent where
  | shutdown
  | setDraining
  | acquire
  /-- A client, or an error. -/
  | accept (stream : Bool)
  | pauseOver
  | leave
  | join (i : Nat)
  | graceOver
  | allJoined
  | start (i : Nat)
  | request (i : Nat) (request : AdminRequest) (encoded : Option Str)
  /-- The connection is served, fails, times out or panics. -/
  | finish (i : Nat)
  | abort (i : Nat)

namespace AdminServer

/-- The server before its first accept. -/
def new (limits : AdminLimits) : AdminServer :=
  ⟨.selecting false, limits.maxConnections, [], false, false, []⟩

/-- The select ends: the accept future is dropped, and its slot with it. -/
def dropAccept (s : AdminServer) (stage : AdminStage) : AdminServer :=
  { s with slots := s.slots + s.stage.held, stage := stage }

/-- A connection task goes on. -/
def setTask (s : AdminServer) (i : Nat) (task : AdminTask) : AdminServer :=
  { s with tasks := s.tasks.set i task }

/-- The step relation; `none` is an event that cannot happen. -/
def step (routes : AdminRoutes) (event : AdminEvent) (s : AdminServer) : Option AdminServer :=
  match event, s.stage with
  | .shutdown, _ => some { s with shutdown := true }
  | .setDraining, _ => some { s with draining := true }
  | .acquire, .selecting false =>
    if 0 < s.slots then some { s with slots := s.slots - 1, stage := .selecting true } else none
  | .accept true, .selecting true =>
    some { s with tasks := s.tasks ++ [.spawned], stage := .selecting false }
  | .accept false, .selecting true => some (s.dropAccept .pausing)
  | .pauseOver, .pausing => some { s with stage := .selecting false }
  | .leave, .selecting _ => if s.shutdown then some (s.dropAccept .grace) else none
  | .join i, stage =>
    if s.tasks[i]? = some .finished then
      match stage with
      | .selecting _ => some ((s.dropAccept (.selecting false)).setTask i .joined)
      | .grace | .aborting => some (s.setTask i .joined)
      | _ => none
    else none
  | .graceOver, .grace => some { s with stage := .aborting }
  | .allJoined, .grace | .allJoined, .aborting =>
    if s.tasks.all (· = .joined) then some { s with stage := .returned } else none
  | .start i, _ => if s.tasks[i]? = some .spawned then some (s.setTask i .reading) else none
  | .request i request encoded, _ =>
    if s.tasks[i]? = some .reading then
      some { s.setTask i .writing with
        answers := s.answers ++ [(request, routes.handle s.draining encoded request)] }
    else none
  | .finish i, _ =>
    if s.tasks[i]? = some .reading ∨ s.tasks[i]? = some .writing then
      some { s.setTask i .finished with slots := s.slots + 1 }
    else none
  | .abort i, .aborting =>
    (s.tasks[i]?).bind fun task =>
      if task.live then some { s.setTask i .finished with slots := s.slots + 1 } else none
  | _, _ => none

/-- All that one event can do. -/
inductive Stepped (routes : AdminRoutes) (s : AdminServer) : AdminEvent → AdminServer → Prop where
  | shutdown : Stepped routes s .shutdown { s with shutdown := true }
  | drained : Stepped routes s .setDraining { s with draining := true }
  | acquired (hstage : s.stage = .selecting false) (hfree : 0 < s.slots) :
      Stepped routes s .acquire { s with slots := s.slots - 1, stage := .selecting true }
  | accepted (hstage : s.stage = .selecting true) :
      Stepped routes s (.accept true)
        { s with tasks := s.tasks ++ [.spawned], stage := .selecting false }
  | acceptError (hstage : s.stage = .selecting true) :
      Stepped routes s (.accept false) (s.dropAccept .pausing)
  | resumed (hstage : s.stage = .pausing) :
      Stepped routes s .pauseOver { s with stage := .selecting false }
  | left {held} (hstage : s.stage = .selecting held) (hshutdown : s.shutdown = true) :
      Stepped routes s .leave (s.dropAccept .grace)
  | selectJoined {i held} (hstage : s.stage = .selecting held)
      (htask : s.tasks[i]? = some .finished) :
      Stepped routes s (.join i) ((s.dropAccept (.selecting false)).setTask i .joined)
  | joined {i} (hstage : s.stage = .grace ∨ s.stage = .aborting)
      (htask : s.tasks[i]? = some .finished) : Stepped routes s (.join i) (s.setTask i .joined)
  | graceOver (hstage : s.stage = .grace) :
      Stepped routes s .graceOver { s with stage := .aborting }
  | returned (hstage : s.stage = .grace ∨ s.stage = .aborting) (hall : ∀ t ∈ s.tasks, t = .joined) :
      Stepped routes s .allJoined { s with stage := .returned }
  | started {i} (htask : s.tasks[i]? = some .spawned) :
      Stepped routes s (.start i) (s.setTask i .reading)
  | answered {i request encoded} (htask : s.tasks[i]? = some .reading) :
      Stepped routes s (.request i request encoded) { s.setTask i .writing with
        answers := s.answers ++ [(request, routes.handle s.draining encoded request)] }
  | finished {event i task} (hevent : event = .finish i ∨ event = .abort i)
      (htask : s.tasks[i]? = some task) (hlive : task.live = true) :
      Stepped routes s event { s.setTask i .finished with slots := s.slots + 1 }

/-- An event that happens, case by case. -/
theorem step_cases {routes : AdminRoutes} {event : AdminEvent} {s s' : AdminServer}
    (h : step routes event s = some s') : Stepped routes s event s' := by
  unfold step at h
  split at h
  · cases h
    exact .shutdown
  · cases h
    exact .drained
  · next hstage =>
    split_ifs at h with hfree
    cases h
    exact .acquired hstage hfree
  · next hstage =>
    cases h
    exact .accepted hstage
  · next hstage =>
    cases h
    exact .acceptError hstage
  · next hstage =>
    cases h
    exact .resumed hstage
  · next hstage =>
    split_ifs at h with hshutdown
    cases h
    exact .left hstage hshutdown
  · split_ifs at h with htask
    split at h
    · next hstage =>
      cases h
      exact .selectJoined hstage htask
    · next hstage =>
      cases h
      exact .joined (.inl hstage) htask
    · next hstage =>
      cases h
      exact .joined (.inr hstage) htask
    · exact absurd h (by simp)
  · next hstage =>
    cases h
    exact .graceOver hstage
  · next hstage =>
    split_ifs at h with hall
    cases h
    exact .returned (.inl hstage) fun t ht => of_decide_eq_true (List.all_eq_true.mp hall t ht)
  · next hstage =>
    split_ifs at h with hall
    cases h
    exact .returned (.inr hstage) fun t ht => of_decide_eq_true (List.all_eq_true.mp hall t ht)
  · split_ifs at h with htask
    cases h
    exact .started htask
  · split_ifs at h with htask
    cases h
    exact .answered htask
  · split_ifs at h with htask
    cases h
    rcases htask with htask | htask
    · exact .finished (.inl rfl) htask rfl
    · exact .finished (.inl rfl) htask rfl
  · obtain ⟨task, htask, h⟩ := Option.bind_eq_some_iff.mp h
    split_ifs at h with hlive
    cases h
    exact .finished (.inr rfl) htask hlive
  · exact absurd h (by simp)

end AdminServer

/-- The admin server on its own. -/
def adminMachine (limits : AdminLimits) (routes : AdminRoutes) :
    Machine AdminServer AdminEvent where
  init s := s = .new limits
  step   := AdminServer.step routes

-- ---------------------------------------------------------------------------
-- The invariant
-- ---------------------------------------------------------------------------

/-- The answers given in this state of `Health`. -/
def AdminRoutes.Answered (routes : AdminRoutes) (draining : Bool)
    (answers : List (AdminRequest × AdminResponse)) : Prop :=
  ∀ answer ∈ answers, ∃ encoded, answer.2 = routes.handle draining encoded answer.1

/-- The answers were given by `handle`. -/
def AdminRoutes.Handled (routes : AdminRoutes) (answers : List (AdminRequest × AdminResponse)) :
    Prop :=
  ∀ answer ∈ answers, ∃ draining encoded, answer.2 = routes.handle draining encoded answer.1

/-- What holds in every reachable state of the admin server. -/
structure AdminInv (limits : AdminLimits) (routes : AdminRoutes) (s : AdminServer) : Prop where
  slots   : Conserved AdminTask.live limits.maxConnections (s.slots + s.stage.held) s.tasks
  joined  : s.stage = .returned → ∀ t ∈ s.tasks, t = .joined
  left    : s.stage.looping = false → s.shutdown = true
  fresh   : s.draining = false → routes.Answered false s.answers
  handled : routes.Handled s.answers

namespace AdminRoutes.Answered

variable {routes : AdminRoutes} {draining : Bool} {answers : List (AdminRequest × AdminResponse)}

/-- No answer is a wrong one. -/
theorem nil : routes.Answered draining [] := by
  intro answer hmem
  exact absurd hmem (by simp)

/-- One more answer by the handler. -/
theorem append (h : routes.Answered draining answers) (request : AdminRequest)
    (encoded : Option Str) :
    routes.Answered draining
      (answers ++ [(request, routes.handle draining encoded request)]) := by
  intro answer hmem
  rcases List.mem_append.mp hmem with hold | hnew
  · exact h answer hold
  · rw [List.mem_singleton.mp hnew]
    exact ⟨encoded, rfl⟩

end AdminRoutes.Answered

/-- One more answer by the handler under any flag. -/
theorem AdminRoutes.Handled.append {routes : AdminRoutes}
    {answers : List (AdminRequest × AdminResponse)} (h : routes.Handled answers)
    (request : AdminRequest) (draining : Bool) (encoded : Option Str) :
    routes.Handled (answers ++ [(request, routes.handle draining encoded request)]) := by
  intro answer hmem
  rcases List.mem_append.mp hmem with hold | hnew
  · exact h answer hold
  · rw [List.mem_singleton.mp hnew]
    exact ⟨draining, encoded, rfl⟩

namespace AdminInv

variable {limits : AdminLimits} {routes : AdminRoutes} {s s' : AdminServer}

theorem new (limits : AdminLimits) (routes : AdminRoutes) :
    AdminInv limits routes (.new limits) where
  slots := .init _ _
  joined h := absurd h (by simp [AdminServer.new])
  left h := absurd h (by simp [AdminServer.new, AdminStage.looping])
  fresh _ := .nil
  handled answer hmem := absurd hmem (by simp [AdminServer.new])

/-- A task that is not joined goes on, with a slot more where it gives its own
back. -/
theorem setTask (inv : AdminInv limits routes s) {i : Nat} {task : AdminTask}
    (htask : s.tasks[i]? = some task) (hjoined : task ≠ .joined) (task' : AdminTask) {slots : Nat}
    (hmove : slots + (if task'.live then 1 else 0) = s.slots + if task.live then 1 else 0) :
    AdminInv limits routes { s.setTask i task' with slots := slots } where
  slots := by
    refine inv.slots.set htask ?_
    show slots + s.stage.held + _ = _
    omega
  joined hreturned := absurd (inv.joined hreturned task (List.mem_of_getElem? htask)) hjoined
  left := inv.left
  fresh := inv.fresh
  handled := inv.handled

/-- The loop goes on to another stage, with as many slots free or in its hands. -/
theorem move (inv : AdminInv limits routes s) {slots : Nat} {stage : AdminStage}
    (hslots : slots + stage.held = s.slots + s.stage.held) (hreturned : stage ≠ .returned)
    (hleft : stage.looping = false → s.shutdown = true) :
    AdminInv limits routes { s with slots := slots, stage := stage } where
  slots := by
    show Conserved _ _ (slots + stage.held) _
    rw [hslots]
    exact inv.slots
  joined h := absurd h hreturned
  left := hleft
  fresh := inv.fresh
  handled := inv.handled

theorem step {event : AdminEvent} (inv : AdminInv limits routes s)
    (hstep : AdminServer.Stepped routes s event s') :
    AdminInv limits routes s' := by
  cases hstep with
  | shutdown => exact ⟨inv.slots, inv.joined, fun _ => rfl, inv.fresh, inv.handled⟩
  | drained =>
    exact ⟨inv.slots, inv.joined, inv.left, fun h => absurd h (by simp), inv.handled⟩
  | acquired hstage hfree =>
    refine inv.move ?_ (by simp) (fun h => absurd h (by simp [AdminStage.looping]))
    rw [hstage]
    show s.slots - 1 + 1 = s.slots + 0
    omega
  | accepted hstage =>
    have hslots := inv.slots
    rw [hstage] at hslots
    exact ⟨hslots.append_holding rfl, fun h => absurd h (by simp),
      fun h => absurd h (by simp [AdminStage.looping]), inv.fresh, inv.handled⟩
  | acceptError => exact inv.move rfl (by simp) (fun h => absurd h (by simp [AdminStage.looping]))
  | resumed hstage =>
    refine inv.move ?_ (by simp) (fun h => absurd h (by simp [AdminStage.looping]))
    rw [hstage]
    rfl
  | left _ hshutdown => exact inv.move rfl (by simp) fun _ => hshutdown
  | selectJoined _ htask =>
    have inv' : AdminInv limits routes (s.dropAccept (.selecting false)) :=
      inv.move rfl (by simp) (fun h => absurd h (by simp [AdminStage.looping]))
    exact inv'.setTask htask (by simp) .joined rfl
  | joined _ htask => exact inv.setTask htask (by simp) .joined rfl
  | graceOver hstage =>
    refine inv.move ?_ (by simp) fun _ => inv.left (by rw [hstage]; rfl)
    rw [hstage]
    rfl
  | returned hstage hall =>
    have hheld : s.stage.held = 0 ∧ s.stage.looping = false := by
      rcases hstage with hstage | hstage <;>
      · rw [hstage]
        exact ⟨rfl, rfl⟩
    refine ⟨?_, fun _ => hall, fun _ => inv.left hheld.2, inv.fresh, inv.handled⟩
    have hslots := inv.slots
    rw [hheld.1] at hslots
    exact hslots
  | started htask => exact inv.setTask htask (by simp) .reading rfl
  | @answered i request encoded htask =>
    have inv' : AdminInv limits routes (s.setTask i .writing) :=
      inv.setTask htask (by simp) .writing rfl
    refine ⟨inv'.slots, inv'.joined, inv'.left, fun hdraining => ?_,
      inv.handled.append request s.draining encoded⟩
    have hfalse : s.draining = false := hdraining
    show routes.Answered false (s.answers ++ _)
    rw [hfalse]
    exact (inv.fresh hfalse).append request encoded
  | finished _ htask hlive =>
    refine inv.setTask htask ?_ .finished ?_
    · rintro rfl
      exact absurd hlive (by simp [AdminTask.live])
    · rw [hlive]
      rfl

/-- When `serve` has returned, every slot is back. -/
theorem returned (inv : AdminInv limits routes s) (h : s.stage = .returned) :
    s.slots = limits.maxConnections ∧ ∀ t ∈ s.tasks, t = .joined := by
  have hjoined := inv.joined h
  have hnone : s.tasks.countP AdminTask.live = 0 := by
    rw [List.countP_eq_zero]
    intro t ht
    rw [hjoined t ht]
    decide
  have hslots := inv.slots
  unfold Conserved at hslots
  rw [h, hnone] at hslots
  exact ⟨hslots, hjoined⟩

end AdminInv

theorem adminMachine_inv {limits : AdminLimits} {routes : AdminRoutes} {s : AdminServer}
    (h : (adminMachine limits routes).Reachable s) : AdminInv limits routes s :=
  h.invariant (fun hinit => hinit ▸ .new limits routes) fun inv hstep =>
    inv.step (AdminServer.step_cases hstep)

-- ---------------------------------------------------------------------------
-- Answers
-- ---------------------------------------------------------------------------

/-- Once draining, the answers that follow are those of a draining server. -/
theorem AdminServer.Stepped.answers {routes : AdminRoutes} {event : AdminEvent}
    {s s' : AdminServer} (hstep : Stepped routes s event s') (h : s.draining = true) :
    s'.draining = true ∧ ∃ later, s'.answers = s.answers ++ later ∧ routes.Answered true later := by
  cases hstep with
  | drained => exact ⟨rfl, [], (List.append_nil _).symm, .nil⟩
  | @answered i request encoded =>
    refine ⟨h, [(request, routes.handle s.draining encoded request)], rfl, ?_⟩
    rw [h]
    exact AdminRoutes.Answered.nil.append request encoded
  | _ => exact ⟨h, [], (List.append_nil _).symm, .nil⟩

/-- Once the drain has begun every request is told so. -/
theorem adminMachine_answers {limits : AdminLimits} {routes : AdminRoutes} {es : List AdminEvent}
    {s s' : AdminServer} (hdraining : s.draining = true)
    (h : (adminMachine limits routes).run es s = some s') :
    s'.draining = true ∧ ∃ later, s'.answers = s.answers ++ later ∧ routes.Answered true later := by
  induction es generalizing s with
  | nil =>
    cases h
    exact ⟨hdraining, [], (List.append_nil _).symm, .nil⟩
  | cons e es ih =>
    obtain ⟨s₁, he, hes⟩ := (Machine.run_cons _).mp h
    obtain ⟨hfirst, first, hanswers, hall⟩ := (AdminServer.step_cases he).answers hdraining
    obtain ⟨hlast, later, hanswers', hall'⟩ := ih hfirst hes
    refine ⟨hlast, first ++ later, ?_, ?_⟩
    · rw [hanswers', hanswers, List.append_assoc]
    · intro answer hmem
      exact (List.mem_append.mp hmem).elim (hall answer) (hall' answer)

-- ---------------------------------------------------------------------------
-- What `serve` does on its own
-- ---------------------------------------------------------------------------

/-- The event needs no client and no shutdown. -/
def AdminEvent.serves : AdminEvent → Bool
  | .acquire | .pauseOver | .start _ | .finish _ => true
  | _ => false

/-- The event needs no client. -/
def AdminEvent.own : AdminEvent → Bool
  | .leave | .join _ | .graceOver | .allJoined | .abort _ => true
  | event => event.serves

/-- The steps a connection has before it is joined. -/
def AdminTask.left : AdminTask → Nat
  | .spawned => 3
  | .reading | .writing => 2
  | .finished => 1
  | .joined => 0

/-- The steps the accept loop has before it returns. -/
def AdminStage.left : AdminStage → Nat
  | .pausing => 5
  | .selecting false => 4
  | .selecting true => 3
  | .grace => 2
  | .aborting => 1
  | .returned => 0

namespace AdminServer

variable {limits : AdminLimits} {routes : AdminRoutes} {s : AdminServer}

/-- How much `serve` and its tasks have left to do at most. -/
def left (s : AdminServer) : Nat := s.stage.left + (s.tasks.map AdminTask.left).sum

/-- `serve` can do an event of this kind, and it leaves less to do. -/
def Moves (s : AdminServer) (routes : AdminRoutes) (kind : AdminEvent → Bool) : Prop :=
  ∃ event s', kind event = true ∧ step routes event s = some s' ∧ s'.left < s.left

/-- What serving does, the server does of its own. -/
theorem Moves.own (h : s.Moves routes AdminEvent.serves) : s.Moves routes AdminEvent.own := by
  obtain ⟨event, s', hserves, hstep⟩ := h
  refine ⟨event, s', ?_, hstep⟩
  cases event with
  | acquire | pauseOver | start | finish => rfl
  | _ => exact absurd hserves (by simp [AdminEvent.serves])

/-- A task that goes on leaves less to do. -/
theorem left_setTask {i : Nat} {task task' : AdminTask} (htask : s.tasks[i]? = some task)
    (hlt : task'.left < task.left) (slots : Nat) :
    ({ s.setTask i task' with slots := slots } : AdminServer).left < s.left := by
  have hsum := sum_map_set AdminTask.left htask task'
  show s.stage.left + ((s.tasks.set i task').map AdminTask.left).sum < s.left
  unfold left
  omega

/-- A task that holds a slot can go on. -/
theorem moves_live {i : Nat} {task : AdminTask} (htask : s.tasks[i]? = some task)
    (hlive : task.live = true) : s.Moves routes AdminEvent.serves := by
  cases task with
  | spawned =>
    exact ⟨.start i, s.setTask i .reading, rfl, by simp only [step, htask, if_true],
      left_setTask htask (by decide) s.slots⟩
  | reading =>
    exact ⟨.finish i, { s.setTask i .finished with slots := s.slots + 1 }, rfl,
      by simp only [step, htask, true_or, if_true], left_setTask htask (by decide) (s.slots + 1)⟩
  | writing =>
    exact ⟨.finish i, { s.setTask i .finished with slots := s.slots + 1 }, rfl,
      by simp only [step, htask, or_true, if_true], left_setTask htask (by decide) (s.slots + 1)⟩
  | finished | joined => exact absurd hlive (by simp [AdminTask.live])

/-- A pause ends. -/
theorem moves_pausing (hstage : s.stage = .pausing) : s.Moves routes AdminEvent.serves := by
  refine ⟨.pauseOver, { s with stage := .selecting false }, rfl, by simp only [step, hstage], ?_⟩
  simp only [left, hstage, AdminStage.left]
  omega

/-- A free slot is taken; where none is, a task can give its own back. -/
theorem moves_selecting (inv : AdminInv limits routes s) (hmax : 0 < limits.maxConnections)
    (hstage : s.stage = .selecting false) : s.Moves routes AdminEvent.serves := by
  by_cases hfree : 0 < s.slots
  · refine ⟨.acquire, { s with slots := s.slots - 1, stage := .selecting true }, rfl, ?_, ?_⟩
    · simp only [step, hstage]
      exact if_pos hfree
    · simp only [left, hstage, AdminStage.left]
      omega
  · have hslots := inv.slots
    unfold Conserved at hslots
    rw [hstage] at hslots
    have hpos : 0 < s.tasks.countP AdminTask.live := by
      simp only [AdminStage.held, Bool.false_eq_true, if_false] at hslots
      omega
    obtain ⟨task, hmem, hlive⟩ := List.countP_pos_iff.mp hpos
    obtain ⟨i, htask⟩ := List.getElem?_of_mem hmem
    exact moves_live htask hlive

/-- Past the loop, `serve` comes to its end. -/
theorem moves_joining (hstage : s.stage = .grace ∨ s.stage = .aborting) :
    s.Moves routes AdminEvent.own := by
  by_cases hall : ∀ t ∈ s.tasks, t = .joined
  · have htrue : s.tasks.all (· = .joined) = true :=
      List.all_eq_true.mpr fun t ht => decide_eq_true (hall t ht)
    refine ⟨.allJoined, { s with stage := .returned }, rfl, ?_, ?_⟩
    · rcases hstage with hstage | hstage <;> simp only [step, hstage, htrue, if_true]
    · have hpos : 0 < s.stage.left := by
        rcases hstage with hstage | hstage <;>
        · rw [hstage]
          decide
      show 0 + (s.tasks.map AdminTask.left).sum < s.stage.left + (s.tasks.map AdminTask.left).sum
      omega
  · obtain ⟨task, hmem⟩ := not_forall.mp hall
    obtain ⟨hmem, hjoined⟩ := Classical.not_imp.mp hmem
    obtain ⟨i, htask⟩ := List.getElem?_of_mem hmem
    cases hlive : task.live with
    | true => exact (moves_live htask hlive).own
    | false =>
      have hfinished : task = .finished := by
        cases task <;> simp_all [AdminTask.live]
      subst hfinished
      refine ⟨.join i, s.setTask i .joined, rfl, ?_, left_setTask htask (by decide) s.slots⟩
      rcases hstage with hstage | hstage <;> simp only [step, hstage, htask, if_true]

/-- After the shutdown `serve` has something to do until it has returned. -/
theorem progress (hshutdown : s.shutdown = true) (hstage : s.stage ≠ .returned) :
    s.Moves routes AdminEvent.own := by
  cases hnow : s.stage with
  | pausing => exact (moves_pausing hnow).own
  | selecting held =>
    refine ⟨.leave, s.dropAccept .grace, rfl, ?_, ?_⟩
    · simp only [step, hnow, hshutdown, if_true]
    · show AdminStage.grace.left + _ < s.left
      cases held <;>
      · simp only [left, hnow, AdminStage.left, dropAccept]
        omega
  | grace => exact moves_joining (.inl hnow)
  | aborting => exact moves_joining (.inr hnow)
  | returned => exact absurd hnow hstage

/-- Events without a client answer nothing and stay in the loop. -/
theorem step_serves {s' : AdminServer} {event : AdminEvent} (hserves : event.serves = true)
    (h : step routes event s = some s') : s'.answers = s.answers ∧ s'.draining = s.draining ∧
      s'.stage.looping = s.stage.looping := by
  cases step_cases h with
  | acquired hstage | resumed hstage => exact ⟨rfl, rfl, by rw [hstage]; rfl⟩
  | started | finished => exact ⟨rfl, rfl, rfl⟩
  | _ => exact absurd hserves (by simp [AdminEvent.serves])

end AdminServer

-- ---------------------------------------------------------------------------
-- Slots, tasks and probes
-- ---------------------------------------------------------------------------

/-- What the slots, the flags and the answers add up to. -/
structure AdminAccounts (limits : AdminLimits) (routes : AdminRoutes) (s : AdminServer) :
    Prop where
  /-- Free slots, the one that the accept future may hold and the live tasks. -/
  slots    : s.slots + s.stage.held + s.tasks.countP AdminTask.live = limits.maxConnections
  /-- Before the drain probes are told to come. -/
  ready    : s.draining = false → ∀ answer ∈ s.answers, routes.IsProbe answer.1 →
    answer.2 = AdminRoutes.health false
  /-- From then on they are told to go away. -/
  draining : ∀ es s', s.draining = true → (adminMachine limits routes).run es s = some s' →
    ∃ later, s'.answers = s.answers ++ later ∧
      ∀ answer ∈ later, routes.IsProbe answer.1 → answer.2 = AdminRoutes.health true
  /-- Nobody else is told either; where the health path has a query or a fragment
  in it, nobody at all. -/
  others   : ∀ answer ∈ s.answers, ∀ draining, answer.2 = AdminRoutes.health draining →
    routes.IsProbe answer.1 ∧ ¬Hidden routes.healthPath
  /-- The loop ends for the shutdown alone. -/
  left     : s.stage.looping = false → s.shutdown = true
  /-- When `serve` returns, it has joined every task, and every slot is back. -/
  returned : s.stage = .returned → s.slots = limits.maxConnections ∧ ∀ t ∈ s.tasks, t = .joined
  /-- After the shutdown it can return, whatever its clients do. -/
  ends     : s.shutdown = true → ∃ s', s'.stage = .returned ∧
    (adminMachine limits routes).Reaches (fun event => event.own = true) s s'

/-- After the shutdown the server can return by events of its own. -/
theorem AdminServer.ends {limits : AdminLimits} {routes : AdminRoutes} {s : AdminServer}
    (hshutdown : s.shutdown = true) : ∃ s', s'.stage = .returned ∧
      (adminMachine limits routes).Reaches (fun event => event.own = true) s s' := by
  have hstep : ∀ u : AdminServer, u.shutdown = true → u.stage = .returned ∨ ∃ e u',
      e.own = true ∧ (adminMachine limits routes).step e u = some u' ∧ u'.shutdown = true ∧
        u'.left < u.left := by
    intro u hu
    by_cases hreturned : u.stage = .returned
    · exact .inl hreturned
    · obtain ⟨event, u', hown, hstep, hleft⟩ : u.Moves routes AdminEvent.own :=
        progress hu hreturned
      refine .inr ⟨event, u', hown, hstep, ?_, hleft⟩
      cases step_cases hstep with
      | shutdown => rfl
      | _ => exact hu
  obtain ⟨s', hreaches, -, hreturned⟩ := Machine.reaches_of_measure left hstep hshutdown
  exact ⟨s', hreturned, hreaches⟩

/-- **The admin listener keeps its slots, its tasks and its word**: never more
tasks than slots, none left when `serve` returns, and no probe is told to come
after one was told to go away. -/
theorem admin_accounts {raw : RawAdmin} {config : AdminConfig} (hvalid : raw.validate = .ok config)
    {limits : AdminLimits} {s : AdminServer}
    (h : (adminMachine limits ⟨config.healthPath⟩).Reachable s) :
    AdminAccounts limits ⟨config.healthPath⟩ s := by
  have inv := adminMachine_inv h
  have hprobes : ∀ {draining answers},
      AdminRoutes.Answered ⟨config.healthPath⟩ draining answers → ∀ answer ∈ answers,
        AdminRoutes.IsProbe ⟨config.healthPath⟩ answer.1 →
          answer.2 = AdminRoutes.health draining := by
    intro draining answers hall answer hmem hprobe
    obtain ⟨encoded, hanswer⟩ := hall answer hmem
    rw [hanswer]
    exact AdminRoutes.handle_probe hvalid hprobe draining encoded
  refine ⟨inv.slots, fun hfalse => hprobes (inv.fresh hfalse), ?_, ?_, inv.left, inv.returned,
    AdminServer.ends⟩
  · intro es s' hdraining hrun
    obtain ⟨-, later, hanswers, hall⟩ := adminMachine_answers hdraining hrun
    exact ⟨later, hanswers, hprobes hall⟩
  · intro answer hmem draining hhealth
    obtain ⟨draining', encoded, hanswer⟩ := inv.handled answer hmem
    have hprobe := AdminRoutes.isProbe_of_handle (hanswer.symm.trans hhealth)
    exact ⟨hprobe, AdminRoutes.exists_probe_iff.mp ⟨answer.1, hprobe⟩⟩

/-- One probe before the drain, one after, and a client that is aborted. -/
theorem admin_accounts_at :
    ∃ s, (adminMachine .default ⟨RawAdmin.default.healthPath⟩).run
        [.acquire, .accept true, .start 0, .acquire,
          .request 0 ⟨ascii "GET", ascii "/health"⟩ none, .finish 0, .join 0, .setDraining,
          .acquire, .accept true, .start 1, .request 1 ⟨ascii "GET", ascii "/health"⟩ none,
          .shutdown, .leave, .graceOver, .abort 1, .join 1, .allJoined] (.new .default) = some s ∧
      (s.stage, s.answers.map fun answer => answer.2.status) =
        (.returned, [.ok, .serviceUnavailable]) ∧
      AdminAccounts .default ⟨RawAdmin.default.healthPath⟩ s := by
  obtain ⟨s, hrun, hends⟩ := Option.map_eq_some_iff.mp
    (show ((adminMachine .default ⟨RawAdmin.default.healthPath⟩).run
        [.acquire, .accept true, .start 0, .acquire,
          .request 0 ⟨ascii "GET", ascii "/health"⟩ none, .finish 0, .join 0, .setDraining,
          .acquire, .accept true, .start 1, .request 1 ⟨ascii "GET", ascii "/health"⟩ none,
          .shutdown, .leave, .graceOver, .abort 1, .join 1, .allJoined] (.new .default)).map
        (fun s => (s.stage, s.answers.map fun answer => answer.2.status)) =
          some (.returned, [.ok, .serviceUnavailable]) from by decide +kernel)
  exact ⟨s, hrun, hends, admin_accounts RawAdmin.validate_default ⟨_, _, rfl, hrun⟩⟩

/-- With a slot in hand a new client is accepted, and its request answered. -/
theorem AdminServer.ask {limits : AdminLimits} {routes : AdminRoutes} {s : AdminServer}
    (hstage : s.stage = .selecting true) (request : AdminRequest) :
    ∃ s', (adminMachine limits routes).run [.accept true, .start s.tasks.length,
        .request s.tasks.length request none] s = some s' ∧
      s'.answers = s.answers ++ [(request, routes.handle s.draining none request)] := by
  let accepted : AdminServer := { s with tasks := s.tasks ++ [.spawned], stage := .selecting false }
  let reading : AdminServer := accepted.setTask s.tasks.length .reading
  have hspawned : accepted.tasks[s.tasks.length]? = some .spawned := List.getElem?_concat_length
  have hreading : reading.tasks[s.tasks.length]? = some .reading :=
    List.getElem?_set_self (lt_length hspawned)
  have haccept : step routes (.accept true) s = some accepted := by
    simp only [step, hstage]
    rfl
  have hstart : step routes (.start s.tasks.length) accepted = some reading := by
    simp only [step, hspawned, if_true]
    rfl
  refine ⟨{ reading.setTask s.tasks.length .writing with
    answers := s.answers ++ [(request, routes.handle s.draining none request)] }, ?_, rfl⟩
  refine (Machine.run_cons _).mpr ⟨_, haccept, (Machine.run_cons _).mpr ⟨_, hstart, ?_⟩⟩
  refine (Machine.run_cons _).mpr ⟨_, ?_, rfl⟩
  show step routes (.request s.tasks.length request none) reading = _
  simp only [step, hreading, if_true]
  rfl

/-- A new client comes, and sends this request. -/
def AdminEvent.asks (request : AdminRequest) (event : AdminEvent) : Prop :=
  event = .accept true ∨ ∃ i, event = .request i request none

/-- **Clients cannot keep a probe from its answer**: as long as the loop runs, that
of a new one can be answered without any of the others, even if all slots are
taken. -/
theorem probe_can_be_answered {raw : RawAdmin} {config : AdminConfig}
    (hvalid : raw.validate = .ok config) {limits : AdminLimits} (hmax : 0 < limits.maxConnections)
    {s : AdminServer} (h : (adminMachine limits ⟨config.healthPath⟩).Reachable s)
    (hlooping : s.stage.looping = true) {request : AdminRequest}
    (hprobe : AdminRoutes.IsProbe ⟨config.healthPath⟩ request) :
    ∃ s', (adminMachine limits ⟨config.healthPath⟩).Reaches
        (fun event => event.serves = true ∨ event.asks request) s s' ∧
      s'.answers = s.answers ++ [(request, AdminRoutes.health s.draining)] := by
  let routes : AdminRoutes := ⟨config.healthPath⟩
  let machine := adminMachine limits routes
  let kind (event : AdminEvent) : Prop := event.serves = true ∨ event.asks request
  let Inv (u : AdminServer) : Prop := AdminInv limits routes u ∧ u.answers = s.answers ∧
    u.draining = s.draining ∧ u.stage.looping = true
  have hstep : ∀ u, Inv u → u.stage = .selecting true ∨ ∃ e u', kind e ∧
      machine.step e u = some u' ∧ Inv u' ∧ u'.left < u.left := by
    rintro u ⟨inv, hanswers, hdraining, hloop⟩
    have hmoves : u.stage = .selecting true ∨ u.Moves routes AdminEvent.serves := by
      cases hstage : u.stage with
      | pausing => exact .inr (AdminServer.moves_pausing hstage)
      | selecting held =>
        cases held with
        | true => exact .inl rfl
        | false => exact .inr (AdminServer.moves_selecting inv hmax hstage)
      | grace | aborting | returned =>
        rw [hstage] at hloop
        exact absurd hloop (by simp [AdminStage.looping])
    refine hmoves.imp_right ?_
    rintro ⟨event, u', hserves, hstep, hleft⟩
    obtain ⟨hanswers', hdraining', hloop'⟩ := AdminServer.step_serves hserves hstep
    exact ⟨event, u', .inl hserves, hstep, ⟨inv.step (AdminServer.step_cases hstep),
      hanswers'.trans hanswers, hdraining'.trans hdraining, hloop'.trans hloop⟩, hleft⟩
  obtain ⟨u, hreaches, ⟨-, hanswers, hdraining, -⟩, hstage⟩ :=
    Machine.reaches_of_measure AdminServer.left hstep ⟨adminMachine_inv h, rfl, rfl, hlooping⟩
  obtain ⟨s', hrun, hasked⟩ :
      ∃ s', machine.run [.accept true, .start u.tasks.length,
          .request u.tasks.length request none] u = some s' ∧
        s'.answers = u.answers ++ [(request, routes.handle u.draining none request)] :=
    AdminServer.ask hstage request
  have hevents : ∀ event ∈ [AdminEvent.accept true, .start u.tasks.length,
      .request u.tasks.length request none], kind event := by
    simp [kind, AdminEvent.serves, AdminEvent.asks]
  refine ⟨s', hreaches.trans ⟨_, hevents, hrun⟩, ?_⟩
  rw [hasked, hanswers, hdraining]
  exact congrArg (fun answer => s.answers ++ [(request, answer)])
    (AdminRoutes.handle_probe hvalid hprobe s.draining none)

/-- The only slot is taken by a client that says nothing; the probe has a query. -/
theorem probe_can_be_answered_at :
    ∃ s s', (adminMachine ⟨1⟩ ⟨RawAdmin.default.healthPath⟩).run
        [.acquire, .accept true, .start 0] (.new ⟨1⟩) = some s ∧ s.slots = 0 ∧
      (adminMachine ⟨1⟩ ⟨RawAdmin.default.healthPath⟩).Reaches (fun event =>
        event.serves = true ∨ event.asks ⟨ascii "GET", ascii "/health?full"⟩) s s' ∧
      s'.answers = s.answers ++
        [(⟨ascii "GET", ascii "/health?full"⟩, AdminRoutes.health s.draining)] := by
  obtain ⟨s, hrun, hends⟩ : ∃ s, (adminMachine ⟨1⟩ ⟨RawAdmin.default.healthPath⟩).run
      [.acquire, .accept true, .start 0] (.new ⟨1⟩) = some s ∧
        (s.slots, s.stage.looping) = (0, true) :=
    Option.map_eq_some_iff.mp (by decide +kernel)
  obtain ⟨hslots, hlooping⟩ := Prod.mk.inj hends
  have hprobe : AdminRoutes.IsProbe ⟨RawAdmin.default.healthPath⟩
      ⟨ascii "GET", ascii "/health?full"⟩ := ⟨rfl, by decide⟩
  obtain ⟨s', hs'⟩ := probe_can_be_answered RawAdmin.validate_default Nat.one_pos
    ⟨_, _, rfl, hrun⟩ hlooping hprobe
  exact ⟨s, s', hrun, hslots, hs'⟩

end SniRouter
