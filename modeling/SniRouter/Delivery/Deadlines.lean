import SniRouter.App.Config
import SniRouter.Delivery.Control

/-!
# SniRouter — the deadlines of a handshake

The connections with a clock. Every await before the proxy stage is under a
timeout that starts with its stage, and fires no sooner than it is due; how
late the runtime may be is a parameter, the slack.

* `RouterSettings.timeout` — the timeout of each stage.
* `TimedNet.step` — one event of a connection, or time passing.
* `Connection.Worked.room` — a stage leaves the next one what the timeouts say.
* `Connection.Stepped.number_le` — no event goes back to an earlier stage.
* `Timely` — what the clock says about one connection.
* `handshakes_end_on_time` — how long a connection may take before it proxies.
-/

namespace SniRouter

open Framing Table

/-- How long the `unrecognized_name` alert write may take. -/
def alertWriteTimeout : Nat := nanosPerSec

-- ---------------------------------------------------------------------------
-- Stages
-- ---------------------------------------------------------------------------

/-- The stages in order; stages with one number share a future. -/
def Stage.number : Stage → Nat
  | .spawned => 0
  | .hello _ => 1
  | .lookup _ _ => 2
  | .alert _ _ => 3
  | .connect _ _ _ => 4
  | .entering => 5
  | .proxying _ => 6
  | .leaving _ => 7
  | .returned => 8
  | .closed => 9
  | .released => 10
  | .gone => 11

/-- The stage whose timeout an outcome reports, by its number. -/
def ConnectionOutcome.timeoutStage : ConnectionOutcome → Option Nat
  | .helloTimeout => some 1
  | .lookupTimeout => some 2
  | .upstreamTimeout => some 4
  | _ => none

namespace RouterSettings

variable (config : RouterSettings)

/-- The timeout around the future of a stage. A stage that awaits nothing is
over at once. -/
def timeout : Stage → Option Nat
  | .hello _ => some config.clientHelloTimeout
  | .alert _ _ => some alertWriteTimeout
  | .lookup _ _ => some config.lookupTimeout
  | .connect _ _ _ => some config.upstreamTimeout
  | .proxying _ | .gone => none
  | .spawned | .entering | .leaving _ | .returned | .closed | .released => some 0

/-- All timeouts of a handshake, with its alert or its connect. -/
def handshakeTimeout : Nat :=
  config.clientHelloTimeout + config.lookupTimeout + max config.upstreamTimeout alertWriteTimeout

/-- How long after it was accepted a connection comes to a stage at the latest,
unless it proxies first. -/
def latest (slack : Nat) : Stage → Nat
  | .spawned | .leaving _ => 0
  | .hello _ => slack
  | .lookup _ _ => config.clientHelloTimeout + 2 * slack
  | .alert _ _ | .connect _ _ _ => config.clientHelloTimeout + config.lookupTimeout + 3 * slack
  | .entering =>
    config.clientHelloTimeout + config.lookupTimeout + config.upstreamTimeout + 4 * slack
  | .proxying _ =>
    config.clientHelloTimeout + config.lookupTimeout + config.upstreamTimeout + 5 * slack
  | .returned => config.handshakeTimeout + 5 * slack
  | .closed => config.handshakeTimeout + 6 * slack
  | .released => config.handshakeTimeout + 7 * slack
  | .gone => config.handshakeTimeout + 8 * slack

/-- How long after the beginning of its stage, and so after the accept, a
connection has an outcome at the soonest. -/
def earliest : ConnectionOutcome → Nat
  | .helloTimeout => config.clientHelloTimeout
  | .lookupTimeout => config.lookupTimeout
  | .upstreamTimeout => config.upstreamTimeout
  | _ => 0

variable {config} in
/-- Only a timeout takes time. -/
theorem earliest_eq_zero {outcome : ConnectionOutcome} (h : outcome.timeoutStage = none) :
    config.earliest outcome = 0 := by
  cases outcome with
  | helloTimeout | lookupTimeout | upstreamTimeout =>
    exact absurd h (by simp [ConnectionOutcome.timeoutStage])
  | _ => rfl

variable {config} in
/-- The timeout and the latest time of a stage are those of its number. -/
theorem eq_of_number {stage stage' : Stage} (h : stage'.number = stage.number) :
    config.timeout stage' = config.timeout stage ∧
      ∀ slack, config.latest slack stage' = config.latest slack stage := by
  cases stage <;> cases stage' <;>
    first
    | exact ⟨rfl, fun _ => rfl⟩
    | exact absurd h (by simp [Stage.number])

end RouterSettings

-- ---------------------------------------------------------------------------
-- Connections with a clock
-- ---------------------------------------------------------------------------

/-- The instants of a connection that its timeouts count from. -/
structure Timer where
  accepted : Nat
  /-- When the future of the stage was made. -/
  since    : Nat
  /-- Ghost: the stages so far by their numbers, and when they began. -/
  begun    : List (Nat × Nat)

/-- The timeout of the stage is due. -/
def Timer.due (config : RouterSettings) (now : Nat) (stage : Stage) (timer : Timer) : Bool :=
  (config.timeout stage).any fun timeout => decide (timer.since + timeout ≤ now)

/-- The timeout has been due for longer than the slack. -/
def Timer.overdue (config : RouterSettings) (slack now : Nat) (stage : Stage) (timer : Timer) :
    Bool :=
  (config.timeout stage).any fun timeout => decide (timer.since + timeout + slack < now)

/-- A connection that was just accepted. -/
def Timer.start (now : Nat) : Timer := ⟨now, now, [(Stage.spawned.number, now)]⟩

/-- Another stage has another future, with a timeout of its own. -/
def Timer.moved (now : Nat) (stage stage' : Stage) (timer : Timer) : Timer :=
  if stage'.number = stage.number then timer
  else { timer with since := now, begun := timer.begun ++ [(stage'.number, now)] }

/-- The connections with the instants of each. -/
structure TimedNet where
  clock  : Nat
  net    : Net
  /-- One for each connection. -/
  timers : List Timer

/-- The passage of time, a new connection or an event of one. -/
inductive TimedEvent where
  | tick (duration : Nat)
  | accept (client : Bytes)
  | conn (i : Nat) (event : ConnectionEvent)
  | close
  | force

/-- The event is that of a timeout. -/
def ConnectionEvent.timesOut : ConnectionEvent → Bool
  | .work .elapsed | .work (.lookup .elapsed) => true
  | _ => false

namespace TimedNet

/-- No connection yet. -/
def new : TimedNet := ⟨0, .new, []⟩

/-- Nothing is overdue at a moment. -/
def Punctual (config : RouterSettings) (slack now : Nat) (s : TimedNet) : Prop :=
  ∀ p ∈ s.net.conns.zip s.timers, p.2.overdue config slack now p.1.stage = false

instance (config : RouterSettings) (slack now : Nat) (s : TimedNet) :
    Decidable (s.Punctual config slack now) :=
  inferInstanceAs
    (Decidable (∀ p ∈ s.net.conns.zip s.timers, p.2.overdue config slack now p.1.stage = false))

/-- Time passes as long as nothing is overdue then. -/
def step (config : RouterSettings) (slack : Nat) (event : TimedEvent) (s : TimedNet) :
    Option TimedNet :=
  match event with
  | .tick duration =>
    if s.Punctual config slack (s.clock + duration) then
      some { s with clock := s.clock + duration }
    else none
  | .accept client =>
    (s.net.step config.toRouterConfig (.accept client)).map fun net =>
      { s with net := net, timers := s.timers ++ [.start s.clock] }
  | .conn i event =>
    (s.net.conns[i]?).bind fun c =>
      (s.timers[i]?).bind fun timer =>
        if event.timesOut ∧ timer.due config s.clock c.stage = false then none
        else
          (c.step config.toRouterConfig s.net.gate s.net.force event).map
            fun (c', gate, events) => { s with
              net := { s.net with
                gate := gate
                conns := s.net.conns.set i c'
                metrics := s.net.metrics ++ events.map fun event => (i, event) }
              timers := s.timers.set i (timer.moved s.clock c.stage c'.stage) }
  | .close => (s.net.step config.toRouterConfig .close).map fun net => { s with net := net }
  | .force => (s.net.step config.toRouterConfig .force).map fun net => { s with net := net }

/-- All that one event can do. -/
inductive Stepped (config : RouterSettings) (slack : Nat) (s : TimedNet) : TimedNet → Prop where
  | tick {duration} (hpunctual : s.Punctual config slack (s.clock + duration)) :
      Stepped config slack s { s with clock := s.clock + duration }
  | accept {client} :
      Stepped config slack s { s with
        net := { s.net with conns := s.net.conns ++ [.spawn client] }
        timers := s.timers ++ [.start s.clock] }
  | conn {i c timer event c' gate events} (hconn : s.net.conns[i]? = some c)
      (htimer : s.timers[i]? = some timer)
      (hdue : event.timesOut = true → timer.due config s.clock c.stage = true)
      (hstep : c.step config.toRouterConfig s.net.gate s.net.force event =
        some (c', gate, events)) :
      Stepped config slack s { s with
        net := { s.net with
          gate := gate
          conns := s.net.conns.set i c'
          metrics := s.net.metrics ++ events.map fun event => (i, event) }
        timers := s.timers.set i (timer.moved s.clock c.stage c'.stage) }
  | close : Stepped config slack s { s with net := { s.net with gate := s.net.gate.close.2 } }
  | force : Stepped config slack s { s with net := { s.net with force := true } }

/-- An event that happens, case by case. -/
theorem step_cases {config : RouterSettings} {slack : Nat} {event : TimedEvent} {s s' : TimedNet}
    (h : step config slack event s = some s') : Stepped config slack s s' := by
  cases event with
  | tick duration =>
    rw [step] at h
    split_ifs at h with hpunctual
    cases h
    exact .tick hpunctual
  | accept client =>
    cases h
    exact .accept
  | conn i event =>
    obtain ⟨c, hconn, h⟩ := Option.bind_eq_some_iff.mp h
    obtain ⟨timer, htimer, h⟩ := Option.bind_eq_some_iff.mp h
    split_ifs at h with hearly
    obtain ⟨⟨c', gate, events⟩, hstep, rfl⟩ := Option.map_eq_some_iff.mp h
    refine .conn hconn htimer ?_ hstep
    intro htimes
    by_contra hdue
    exact hearly ⟨htimes, Bool.eq_false_iff.mpr hdue⟩
  | close =>
    cases h
    exact .close
  | force =>
    cases h
    exact .force

end TimedNet

/-- The connections in runs where no timer and no wake comes later than `slack`. -/
def timedMachine (config : RouterSettings) (slack : Nat) : Machine TimedNet TimedEvent where
  init s := s = .new
  step   := TimedNet.step config slack

-- ---------------------------------------------------------------------------
-- From stage to stage
-- ---------------------------------------------------------------------------

namespace Connection

variable {config : RouterSettings} {gate gate' : ProxyGate} {force : Bool} {c c' : Connection}
  {event : ConnectionEvent} {events : List MetricEvent}

/-- A stage leaves the next one what its timeout says. -/
def Room (config : RouterSettings) (slack : Nat) (stage stage' : Stage) : Prop :=
  stage'.number = stage.number ∨
    stage.number < stage'.number ∧
      ∃ timeout, config.timeout stage = some timeout ∧
        config.latest slack stage + timeout + slack ≤ config.latest slack stage'

/-- The end of the proxy stage or of the pass, which no timeout bounds. -/
def Unbounded (c c' : Connection) : Prop :=
  c.holdsPass = true ∧ 7 ≤ c'.stage.number

/-- Work leads to a stage with room for its timeout, or to one without. -/
theorem Worked.room (slack : Nat) {event : WorkEvent}
    (hwork : Worked config.toRouterConfig c event c' events) :
    Room config slack c.stage c'.stage ∨ Unbounded c c' := by
  cases hwork with
  | read hstage | readError hstage | alertWrite hstage | dialled hstage | setup hstage
  | copied hstage =>
    rw [hstage]
    exact .inl (.inl rfl)
  | idle hstage | finished hstage | error hstage =>
    exact .inr ⟨by rw [Connection.holdsPass, hstage], le_rfl⟩
  | rejected hstage | noSni hstage | named hstage | helloTimeout hstage | alertEnd hstage
  | routed hstage | notFound hstage | lookupFailed hstage | dialFailed hstage
  | upstreamTimeout hstage | connected hstage =>
    rw [hstage]
    refine .inl (.inr ⟨by simp [Stage.number, finish, goto], _, rfl, ?_⟩)
    simp only [finish, goto, RouterSettings.latest, RouterSettings.handshakeTimeout]
    omega

/-- Before the gate every stage leaves `run` time enough to return. -/
theorem room_returned {stage : Stage} (slack : Nat) (h : stage.handshaking = true) :
    Room config slack stage .returned := by
  cases stage with
  | hello _ | alert _ _ | lookup _ _ | connect _ _ _ | entering =>
    refine .inr ⟨by simp [Stage.number], _, rfl, ?_⟩
    simp only [RouterSettings.latest, RouterSettings.handshakeTimeout]
    omega
  | _ => exact absurd h (by simp [Stage.handshaking])

/-- Every event leads to a stage with room for its timeout, or to one without. -/
theorem Stepped.room (slack : Nat)
    (hstep : Stepped config.toRouterConfig gate force c event c' gate' events) :
    Room config slack c.stage c'.stage ∨ Unbounded c c' := by
  cases hstep with
  | checked | pending => exact .inl (.inl rfl)
  | work _ hwork => exact hwork.room slack
  | cancelled _ hcancel => exact .inl (room_returned slack (Stage.handshaking_of_onCancel hcancel))
  | abandoned hstage => exact .inl (room_returned slack hstage)
  | refused hstage => exact .inl (room_returned slack (by rw [hstage]; rfl))
  | forced _ hstage | torn hstage =>
    exact .inr ⟨by rw [Connection.holdsPass, hstage], le_rfl⟩
  | dropPass hstage =>
    exact .inr ⟨by rw [Connection.holdsPass, hstage], by simp [Stage.number]⟩
  | start hstage | entered hstage | neverPolled hstage | closeBooks hstage | releaseSlot hstage
  | exit hstage =>
    rw [hstage]
    refine .inl (.inr ⟨by simp [Stage.number, goto], _, rfl, ?_⟩)
    simp only [goto, RouterSettings.latest, RouterSettings.handshakeTimeout]
    omega

/-- No event goes back to an earlier stage. -/
theorem Stepped.number_le
    (hstep : Stepped config.toRouterConfig gate force c event c' gate' events) :
    c.stage.number ≤ c'.stage.number := by
  rcases hstep.room 0 with (heq | ⟨hlt, -⟩) | ⟨hholds, hnext⟩
  · exact heq.ge
  · exact hlt.le
  · have hle : c.stage.number ≤ 7 := by
      unfold Connection.holdsPass at hholds
      split at hholds
      · next hstage =>
        rw [hstage]
        exact Nat.le_succ 6
      · next hstage =>
        rw [hstage]
        exact le_rfl
      · exact absurd hholds (by simp)
    exact hle.trans hnext

-- ---------------------------------------------------------------------------
-- Outcomes
-- ---------------------------------------------------------------------------

/-- An answer from the store is no timeout. -/
theorem resolveRoute_answered (answer : Except LookupError RouteHits) (host : Hostname) :
    resolveRoute (fun _ => .answered answer) host ≠ .error .timeout := by
  unfold resolveRoute
  dsimp only
  split
  · split <;> simp
  · simp
  · next h => exact absurd h (by simp)

/-- The lookup stage reports a timeout only when its timeout fires. -/
theorem work_lookupTimeout {config : RouterConfig} {ended : LookupEnd} (hrunning : c.outcome = none)
    (h : c.work config (.lookup ended) = some (c', events))
    (hout : c'.outcome = some .lookupTimeout) : ended = .elapsed := by
  obtain ⟨buffered, host, hstage⟩ : ∃ buffered host, c.stage = .lookup buffered host := by
    cases work_cases h with
    | routed hstage | notFound hstage | lookupFailed hstage => exact ⟨_, _, hstage⟩
  cases ended with
  | elapsed => rfl
  | answered answer =>
    simp only [work, hstage, Option.some.injEq, Prod.mk.injEq] at h
    rw [← h.1] at hout
    unfold afterLookup at hout
    split at hout
    · exact absurd (hrunning.symm.trans hout) (by simp)
    · exact absurd (hrunning.symm.trans hout) (by simp)
    · exact absurd hout (by simp [finish])
    · next htimeout => exact absurd htimeout (resolveRoute_answered answer host)

/-- How a connection comes by an outcome: it had it, it takes no time, or a
timeout fires. -/
def Early (config : RouterSettings) (c : Connection) (event : ConnectionEvent)
    (outcome : ConnectionOutcome) : Prop :=
  c.decided = some outcome ∨ outcome.timeoutStage = none ∨
    event.timesOut = true ∧ config.timeout c.stage = some (config.earliest outcome) ∧
      outcome.timeoutStage = some c.stage.number

/-- A timeout decides in its own stage. -/
theorem work_early {event : WorkEvent} {outcome : ConnectionOutcome} (h : c.Control)
    (hwork : c.work config.toRouterConfig event = some (c', events))
    (hout : c'.decided = some outcome) : Early config c (.work event) outcome := by
  cases work_cases hwork with
  | read hstage | readError hstage | named hstage | alertWrite hstage | alertEnd hstage
  | routed hstage | dialled hstage | connected hstage | setup hstage | copied hstage
  | idle hstage | finished hstage | error hstage =>
    refine .inl ?_
    rw [decided, hstage]
    exact hout
  | noSni hstage | notFound hstage | dialFailed hstage =>
    injection hout with hout
    exact .inr (.inl (hout ▸ rfl))
  | rejected hstage houtcome =>
    injection hout with hout
    rcases houtcome with rfl | rfl <;> exact .inr (.inl (hout ▸ rfl))
  | helloTimeout hstage | upstreamTimeout hstage =>
    injection hout with hout
    refine .inr (.inr ⟨rfl, ?_⟩)
    rw [hstage, ← hout]
    exact ⟨rfl, rfl⟩
  | lookupFailed hstage houtcome =>
    injection hout with hout
    rcases houtcome with rfl | rfl
    · exact .inr (.inl (hout ▸ rfl))
    · have hrunning : c.outcome = none := (h.handshaking (by rw [hstage]; rfl)).2
      have helapsed := work_lookupTimeout hrunning hwork rfl
      refine .inr (.inr ⟨by rw [helapsed]; rfl, ?_⟩)
      rw [hstage, ← hout]
      exact ⟨rfl, rfl⟩

/-- No outcome comes before its timeout. -/
theorem step_early {outcome : ConnectionOutcome} (h : c.Control)
    (hstep : c.step config.toRouterConfig gate force event = some (c', gate', events))
    (hout : c'.decided = some outcome) : Early config c event outcome := by
  cases step_cases hstep with
  | work => exact work_early h (work_of_step hstep) hout
  | checked | pending => exact .inl hout
  | start hstage | entered hstage | forced _ hstage | torn hstage | neverPolled hstage
  | closeBooks hstage | releaseSlot hstage | exit hstage =>
    refine .inl ?_
    rw [decided, hstage]
    exact hout
  | cancelled _ hcancel =>
    injection hout with hout
    rcases (Stage.onCancel_eq hcancel).2 with rfl | ⟨unsent, hstage⟩
    · exact .inr (.inl (hout ▸ rfl))
    · refine .inl ?_
      rw [decided, hstage]
      exact congrArg some hout
  | refused =>
    injection hout with hout
    exact .inr (.inl (hout ▸ rfl))
  | abandoned hstage => exact absurd ((h.handshaking hstage).2.symm.trans hout) (by simp)
  | dropPass hstage =>
    unfold Control at h
    rw [hstage] at h
    have hafter := h.2.2 _ hout
    cases outcome with
    | helloTimeout | lookupTimeout | upstreamTimeout => exact absurd hafter (by decide)
    | _ => exact .inr (.inl rfl)

end Connection

-- ---------------------------------------------------------------------------
-- One connection against the clock
-- ---------------------------------------------------------------------------

/-- What the clock says about a connection. -/
structure Timely (config : RouterSettings) (slack now : Nat) (c : Connection) (timer : Timer) :
    Prop where
  control  : c.Control
  accepted : timer.accepted ≤ timer.since
  since    : timer.since ≤ now
  punctual : timer.overdue config slack now c.stage = false
  room     : c.proxied = false ∨ c.stage.number ≤ 6 →
    timer.since ≤ timer.accepted + config.latest slack c.stage
  early    : ∀ o, c.decided = some o → timer.accepted + config.earliest o ≤ now
  current  : (c.stage.number, timer.since) ∈ timer.begun
  begun    : ∀ p ∈ timer.begun, p.1 ≤ c.stage.number ∧ p.2 ≤ timer.since
  ordered  : timer.begun.Pairwise fun p q => p.1 < q.1 ∧ p.2 ≤ q.2
  staged   : ∀ o number, c.decided = some o → o.timeoutStage = some number →
    ∃ began, (number, began) ∈ timer.begun ∧ began + config.earliest o ≤ now

namespace Timer

variable {config : RouterSettings} {slack now : Nat} {stage : Stage} {timer : Timer}

/-- When a timeout is due. -/
theorem due_iff {timeout : Nat} (h : config.timeout stage = some timeout) :
    timer.due config now stage = true ↔ timer.since + timeout ≤ now := by
  rw [due, h, Option.any_some, decide_eq_true_iff]

/-- When nothing is overdue. -/
theorem overdue_eq_false_iff :
    timer.overdue config slack now stage = false ↔
      ∀ timeout, config.timeout stage = some timeout → now ≤ timer.since + timeout + slack := by
  rw [overdue, Option.any_eq_false]
  simp only [decide_eq_false_iff_not, not_lt]

/-- A future that was just made is not overdue. -/
theorem overdue_now (h : timer.since = now) : timer.overdue config slack now stage = false := by
  rw [overdue_eq_false_iff]
  intro timeout _
  omega

end Timer

namespace Timely

variable {config : RouterSettings} {slack now : Nat} {gate gate' : ProxyGate} {force : Bool}
  {c c' : Connection} {timer : Timer} {event : ConnectionEvent} {events : List MetricEvent}

theorem spawn (client : Bytes) (now : Nat) :
    Timely config slack now (.spawn client) (.start now) where
  control := .spawn client
  accepted := le_rfl
  since := le_rfl
  punctual := Timer.overdue_now rfl
  room := fun _ => le_rfl
  early := fun o ho => absurd ho (by simp [Connection.decided, Connection.spawn])
  current := List.mem_singleton_self _
  begun := fun p hp => List.mem_singleton.mp hp ▸ ⟨le_rfl, le_rfl⟩
  ordered := List.pairwise_singleton _ _
  staged := fun o _ ho => absurd ho (by simp [Connection.decided, Connection.spawn])

/-- Time passes without anything overdue. -/
theorem tick {duration : Nat} (h : Timely config slack now c timer)
    (hpunctual : timer.overdue config slack (now + duration) c.stage = false) :
    Timely config slack (now + duration) c timer where
  control := h.control
  accepted := h.accepted
  since := Nat.le_add_right_of_le h.since
  punctual := hpunctual
  room := h.room
  early := fun o ho => Nat.le_add_right_of_le (h.early o ho)
  current := h.current
  begun := h.begun
  ordered := h.ordered
  staged := fun o number ho hnumber => by
    obtain ⟨began, hmem, hle⟩ := h.staged o number ho hnumber
    exact ⟨began, hmem, Nat.le_add_right_of_le hle⟩

/-- A stage of the handshake begins in time if the one before it did. -/
theorem begins {stage' : Stage} (h : Timely config slack now c timer)
    (hroom : ∃ timeout, config.timeout c.stage = some timeout ∧
      config.latest slack c.stage + timeout + slack ≤ config.latest slack stage')
    (hbounded : c.proxied = false ∨ c.stage.number ≤ 6) :
    now ≤ timer.accepted + config.latest slack stage' := by
  obtain ⟨timeout, htimeout, hle⟩ := hroom
  have hpunctual := Timer.overdue_eq_false_iff.mp h.punctual timeout htimeout
  have hsince := h.room hbounded
  omega

/-- What has begun before, is of lower number and no later. -/
theorem begun_moved {number : Nat} (h : Timely config slack now c timer)
    (hlt : c.stage.number < number) :
    ∀ p ∈ timer.begun ++ [(number, now)], p.1 ≤ number ∧ p.2 ≤ now := by
  intro p hmem
  rcases List.mem_append.mp hmem with hold | hnew
  · obtain ⟨hnumber, htime⟩ := h.begun p hold
    exact ⟨hnumber.trans hlt.le, htime.trans h.since⟩
  · rw [List.mem_singleton.mp hnew]
    exact ⟨le_rfl, le_rfl⟩

/-- A stage that begins now begins after those before it. -/
theorem ordered_moved {number : Nat} (h : Timely config slack now c timer)
    (hlt : c.stage.number < number) :
    (timer.begun ++ [(number, now)]).Pairwise fun p q => p.1 < q.1 ∧ p.2 ≤ q.2 := by
  refine List.pairwise_append.mpr ⟨h.ordered, List.pairwise_singleton _ _, ?_⟩
  intro p hp q hq
  obtain ⟨hnumber, htime⟩ := h.begun p hp
  rw [List.mem_singleton.mp hq]
  exact ⟨hnumber.trans_lt hlt, htime.trans h.since⟩

theorem step (h : Timely config slack now c timer)
    (hdue : event.timesOut = true → timer.due config now c.stage = true)
    (hstep : c.step config.toRouterConfig gate force event = some (c', gate', events)) :
    Timely config slack now c' (timer.moved now c.stage c'.stage) := by
  have hcontrol : c'.Control := h.control.step (Connection.step_cases hstep)
  have hearly : ∀ o, c'.decided = some o → timer.accepted + config.earliest o ≤ now := by
    intro o ho
    rcases Connection.step_early h.control hstep ho with hold | hnone | ⟨htimes, htimeout, -⟩
    · exact h.early o hold
    · rw [RouterSettings.earliest_eq_zero hnone]
      exact h.accepted.trans h.since
    · exact (Nat.add_le_add_right h.accepted _).trans ((Timer.due_iff htimeout).mp (hdue htimes))
  have hstaged : ∀ o number, c'.decided = some o → o.timeoutStage = some number →
      ∃ began, (number, began) ∈ timer.begun ∧ began + config.earliest o ≤ now := by
    intro o number ho hnumber
    rcases Connection.step_early h.control hstep ho with hold | hnone | ⟨htimes, htimeout, hstage⟩
    · exact h.staged o number hold hnumber
    · exact absurd (hnone.symm.trans hnumber) (by simp)
    · -- it is the timeout of this very stage
      obtain rfl := Option.some.inj (hstage.symm.trans hnumber)
      exact ⟨timer.since, h.current, (Timer.due_iff htimeout).mp (hdue htimes)⟩
  have hpass := (Connection.step_cases hstep).proxied
  have hnopass : c'.proxied = false → c.proxied = false := by
    intro hno
    by_contra hyes
    rw [hpass.mpr (.inl (Bool.eq_true_of_not_eq_false hyes))] at hno
    exact absurd hno (by decide)
  by_cases hsame : c'.stage.number = c.stage.number
  · obtain ⟨htimeout, hlatest⟩ := RouterSettings.eq_of_number hsame
    rw [Timer.moved, if_pos hsame]
    refine ⟨hcontrol, h.accepted, h.since, ?_, ?_, hearly, hsame ▸ h.current, hsame ▸ h.begun,
      h.ordered, hstaged⟩
    · have hpunctual := h.punctual
      unfold Timer.overdue at hpunctual ⊢
      rwa [htimeout]
    · intro hbounded
      rw [hlatest]
      exact h.room (hbounded.imp hnopass (hsame ▸ id))
  · rw [Timer.moved, if_neg hsame]
    have hlt : c.stage.number < c'.stage.number :=
      lt_of_le_of_ne (Connection.step_cases hstep).number_le (Ne.symm hsame)
    refine ⟨hcontrol, h.accepted.trans h.since, le_rfl, Timer.overdue_now rfl, ?_, hearly,
      List.mem_append_right _ (List.mem_singleton_self _), h.begun_moved hlt, h.ordered_moved hlt,
      ?_⟩
    case refine_2 =>
      intro o number ho hnumber
      obtain ⟨began, hmem, hle⟩ := hstaged o number ho hnumber
      exact ⟨began, List.mem_append_left _ hmem, hle⟩
    intro hbounded
    rcases (Connection.step_cases hstep).room slack with (heq | ⟨hlt, hroom⟩) | ⟨hholds, hnext⟩
    · exact absurd heq hsame
    · exact h.begins hroom (hbounded.imp hnopass fun hle => hlt.le.trans hle)
    · -- the pass is still recorded, and the proxy stage is over
      rcases hbounded with hno | hle
      · exact absurd ((h.control.proxying hholds).symm.trans (hnopass hno)) (by decide)
      · omega

/-- The timeouts of the handshake are over. -/
theorem gone (h : Timely config slack now c timer) (hpass : c.proxied = false)
    (hlate : timer.accepted + config.handshakeTimeout + 8 * slack < now) : c.stage = .gone := by
  have hsince := h.room (.inl hpass)
  have hpunctual := Timer.overdue_eq_false_iff.mp h.punctual
  have hnopass : c.holdsPass = false := by
    by_contra hholds
    exact absurd ((h.control.proxying (Bool.eq_true_of_not_eq_false hholds)).symm.trans hpass)
      (by decide)
  cases hstage : c.stage with
  | gone => rfl
  | proxying _ | leaving _ => exact absurd hnopass (by simp [Connection.holdsPass, hstage])
  | _ =>
    rw [hstage] at hsince hpunctual
    have hle := hpunctual _ rfl
    simp only [RouterSettings.latest, RouterSettings.handshakeTimeout] at hsince hlate
    omega

end Timely

-- ---------------------------------------------------------------------------
-- All connections against the clock
-- ---------------------------------------------------------------------------

/-- Every connection has a timer and is timely. -/
structure TimedNet.Timely (config : RouterSettings) (slack : Nat) (s : TimedNet) : Prop where
  length : s.timers.length = s.net.conns.length
  timely : ∀ (i : Nat) c timer, s.net.conns[i]? = some c → s.timers[i]? = some timer →
    SniRouter.Timely config slack s.clock c timer

/-- What one event preserves, for all connections. -/
theorem TimedNet.Timely.step {config : RouterSettings} {slack : Nat} {event : TimedEvent}
    {s s' : TimedNet} (h : s.Timely config slack)
    (hstep : TimedNet.step config slack event s = some s') : s'.Timely config slack := by
  obtain ⟨hlength, htimely⟩ := h
  cases TimedNet.step_cases hstep with
  | tick hpunctual =>
    refine ⟨hlength, fun i c timer hconn htimer => ?_⟩
    have hmem : (c, timer) ∈ s.net.conns.zip s.timers := by
      refine List.mem_of_getElem? (i := i) ?_
      rw [List.getElem?_zip_eq_some]
      exact ⟨hconn, htimer⟩
    exact (htimely i c timer hconn htimer).tick (hpunctual _ hmem)
  | accept =>
    refine ⟨by simp [hlength], fun i c timer hconn htimer => ?_⟩
    rcases lookup_append_cases hconn with ⟨rfl, rfl⟩ | hconn
    · rw [← hlength, List.getElem?_concat_length] at htimer
      cases htimer
      exact .spawn _ _
    · have hlt := lt_length hconn
      rw [List.getElem?_append_left (hlength ▸ hlt)] at htimer
      exact htimely i c timer hconn htimer
  | conn hconn htimer hdue hmove =>
    refine ⟨by simp [hlength], fun j c timer hconn' htimer' => ?_⟩
    rcases lookup_set_cases hconn hconn' with ⟨rfl, rfl⟩ | ⟨hne, hconn'⟩
    · rw [lookup_set htimer, if_pos rfl] at htimer'
      cases htimer'
      exact (htimely _ _ _ hconn htimer).step hdue hmove
    · rw [lookup_set htimer, if_neg hne] at htimer'
      exact htimely j c timer hconn' htimer'
  | close | force => exact ⟨hlength, htimely⟩

theorem timedMachine_timely {config : RouterSettings} {slack : Nat} {s : TimedNet}
    (h : (timedMachine config slack).Reachable s) : s.Timely config slack := by
  refine h.invariant ?_ fun htimely hstep => htimely.step hstep
  rintro s rfl
  exact ⟨rfl, fun i c timer hconn => absurd hconn (by simp [TimedNet.new, Net.new])⟩

/-- How long a connection takes before it proxies. -/
structure HandshakeTimes (config : RouterSettings) (slack now : Nat) (c : Connection)
    (timer : Timer) : Prop where
  ends     : c.proxied = false → timer.accepted + config.handshakeTimeout + 8 * slack < now →
    c.stage = .gone
  begins   : ∀ copy, c.stage = .proxying copy → timer.since ≤ timer.accepted +
    (config.clientHelloTimeout + config.lookupTimeout + config.upstreamTimeout + 5 * slack)
  outcomes : ∀ o, c.outcome = some o → timer.accepted + config.earliest o ≤ now
  /-- The stages begin one after the other, each of them once. -/
  ordered  : timer.begun.Pairwise fun p q => p.1 < q.1 ∧ p.2 ≤ q.2
  /-- A timeout is reported when its stage has taken that long. -/
  staged   : ∀ o number, c.outcome = some o → o.timeoutStage = some number →
    ∃ began, (number, began) ∈ timer.begun ∧ began + config.earliest o ≤ now

/-- **No handshake outlives its timeouts**, whatever clients, backends and the
store do or leave undone: past them, a connection without a pass is gone, books,
slot and task; one that proxies was let in before. And no timeout is reported
before its time. -/
theorem handshakes_end_on_time {config : RouterSettings} {slack : Nat} {s : TimedNet}
    (h : (timedMachine config slack).Reachable s) :
    s.timers.length = s.net.conns.length ∧
      ∀ (i : Nat) c timer, s.net.conns[i]? = some c → s.timers[i]? = some timer →
        HandshakeTimes config slack s.clock c timer := by
  obtain ⟨hlength, htimely⟩ := timedMachine_timely h
  refine ⟨hlength, fun i c timer hconn htimer => ?_⟩
  have hc := htimely i c timer hconn htimer
  have hdecided : ∀ o, c.outcome = some o → c.decided = some o := fun o ho =>
    (Connection.decided_of_over (hc.control.over_of_outcome ho)).trans ho
  refine ⟨hc.gone, ?_, fun o ho => hc.early o (hdecided o ho), hc.ordered,
    fun o number ho => hc.staged o number (hdecided o ho)⟩
  intro copy hstage
  have hroom := hc.room (.inr (by rw [hstage]; exact le_rfl))
  rwa [hstage] at hroom

/-- A client that says nothing is gone some five seconds later; one that was
accepted with it and says hello is proxying by then. -/
theorem handshakes_end_on_time_at :
    ∃ (slack : Nat) (es : List TimedEvent) (s : TimedNet),
      (timedMachine .default slack).run es .new = some s ∧
      s.net.conns.map (fun c => (c.outcome, c.proxied)) =
        [(none, true), (some .helloTimeout, false)] ∧
      s.timers.length = s.net.conns.length ∧
        ∀ (i : Nat) c timer, s.net.conns[i]? = some c → s.timers[i]? = some timer →
          HandshakeTimes .default slack s.clock c timer := by
  let hello : List UInt8 := [22, 3, 1, 0, 59, 1, 0, 0, 55, 3, 3] ++ List.replicate 32 0 ++
    [0, 0, 2, 19, 1, 1, 0, 0, 12, 0, 0, 0, 8, 0, 6, 0, 0, 3, 97, 46, 120]
  let backend : Backend := ⟨.ip (.v4 ⟨[10, 0, 0, 1]⟩), ⟨443, by decide⟩⟩
  let es : List TimedEvent := [.accept hello, .accept [], .conn 0 .start, .conn 1 .start,
    .conn 0 .poll, .conn 0 (.work (.read 64)), .tick (fromSecs 1), .conn 0 (.work .parsed),
    .conn 1 .poll, .conn 1 .pending, .conn 0 .poll,
    .conn 0 (.work (.lookup (.answered (.ok [(⟨[97, 46, 120], false⟩, backend)])))),
    .conn 0 .poll, .conn 0 (.work (.dial (.attempt true))), .conn 0 (.work (.dial (.write 64))),
    .conn 0 (.work .connected), .conn 0 .enter, .tick (fromSecs 4), .conn 1 .poll,
    .conn 1 (.work .elapsed)]
  obtain ⟨s, hrun, hends⟩ : ∃ s, (timedMachine .default (fromSecs 1)).run es .new = some s ∧
      s.net.conns.map (fun c => (c.outcome, c.proxied)) =
        [(none, true), (some .helloTimeout, false)] :=
    Option.map_eq_some_iff.mp (by decide +kernel)
  exact ⟨_, es, s, hrun, hends, handshakes_end_on_time ⟨_, es, rfl, hrun⟩⟩

end SniRouter
