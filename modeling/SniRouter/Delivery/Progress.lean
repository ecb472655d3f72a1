import Mathlib.Data.Prod.Lex
import SniRouter.Delivery.Deadlines
import SniRouter.Delivery.Server

/-!
# SniRouter — what the tasks do on their own

A task needs no client, no backend and no store to come to its end: at the
timeout of its stage there is an event of its own that ends the stage, and the
force token ends the proxy stage.

* `Connection.atLast` — that event.
* `Connection.moves_atLast` — the task can do it, and it leaves less to do.
* `time_goes_on` — so time is never stuck, whatever the parties leave undone.
* `serve_can_return` — and `serve` can always come to its end.
-/

namespace SniRouter

open Framing Table

-- ---------------------------------------------------------------------------
-- The events of a task
-- ---------------------------------------------------------------------------

/-- The task needs neither client, backend nor store for the event. -/
def ConnectionEvent.own : ConnectionEvent → Bool
  | .start | .poll | .pending | .enter | .dropPass | .closeBooks | .releaseSlot | .exit => true
  | .work .parsed | .work .elapsed | .work .alertEnd | .work (.lookup .elapsed) => true
  | _ => false

/-- What happens of itself, time included. -/
def TimedEvent.own : TimedEvent → Bool
  | .tick _ => true
  | .conn _ event => event.own
  | _ => false

/-- What the future of a stage does when its timeout fires, or when it waits for
nothing. -/
def Stage.atLast : Stage → Option WorkEvent
  | .hello (.reading _) | .connect _ _ _ => some .elapsed
  | .hello (.done _) => some .parsed
  | .alert _ _ => some .alertEnd
  | .lookup _ _ => some (.lookup .elapsed)
  | _ => none

namespace Connection

/-- The next event of a task at the timeout of its stage. -/
def atLast (c : Connection) : Option ConnectionEvent :=
  match c.stage with
  | .spawned => some .start
  | .entering => some .enter
  | .leaving _ => some .dropPass
  | .returned => some .closeBooks
  | .closed => some .releaseSlot
  | .released => some .exit
  | stage => stage.atLast.map fun event => if c.checked then .work event else .poll

/-- How much of it is left at most. -/
def left (c : Connection) : Nat :=
  2 * (11 - c.stage.number) + (if c.checked = c.holdsPass then 1 else 0)

variable {config : RouterConfig} {gate : ProxyGate} {force : Bool} {c : Connection}

/-- The task can do `event` on its own, and leaves less to do. -/
def Moves (c : Connection) (config : RouterConfig) (gate : ProxyGate) (force : Bool)
    (event : ConnectionEvent) : Prop :=
  event.own = true ∧ ∃ c' gate' events,
    c.step config gate force event = some (c', gate', events) ∧ c'.left < c.left

theorem left_lt {c' : Connection} (h : c.stage.number < c'.stage.number)
    (hle : c'.stage.number ≤ 11) : c'.left < c.left := by
  unfold left
  split_ifs <;> omega

/-- A look at a token that a stage waits for brings it nearer to its end. -/
theorem left_turn {checked : Bool} (h : c.checked = c.holdsPass) (hturn : checked ≠ c.checked) :
    ({ c with checked := checked } : Connection).left < c.left := by
  show 2 * (11 - c.stage.number) + (if checked = c.holdsPass then 1 else 0) < c.left
  rw [left, if_pos h, if_neg (h ▸ hturn)]
  exact Nat.lt_succ_self _

/-- After the hello comes a later stage. -/
theorem afterHello_number (outcome : Except HelloReadError (Bytes × ClientHelloInfo)) :
    1 < (c.afterHello outcome).stage.number ∧ (c.afterHello outcome).stage.number ≤ 11 := by
  unfold afterHello
  split
  · simp [Stage.number, finish]
  · simp [Stage.number, finish]
  · simp [Stage.number, finish]
  · split <;> simp [Stage.number, goto]

/-- When its timeout fires a stage is over. -/
theorem work_atLast {event : WorkEvent} (h : c.stage.atLast = some event) :
    (ConnectionEvent.work event).own = true ∧ ∃ c' events,
      c.work config event = some (c', events) ∧ c.stage.number < c'.stage.number ∧
        c'.stage.number ≤ 11 := by
  cases hstage : c.stage with
  | hello reader =>
    rw [hstage] at h
    cases reader with
    | reading _ =>
      cases h
      exact ⟨rfl, c.finish .helloTimeout, _, by simp only [work, hstage]; rfl,
        by simp [Stage.number, finish]⟩
    | done outcome =>
      cases h
      exact ⟨rfl, c.afterHello outcome, _, by simp only [work, hstage]; rfl,
        afterHello_number outcome⟩
  | alert outcome _ =>
    rw [hstage] at h
    cases h
    exact ⟨rfl, c.finish outcome, _, by simp only [work, hstage]; rfl,
      by simp [Stage.number, finish]⟩
  | lookup _ _ =>
    rw [hstage] at h
    cases h
    exact ⟨rfl, c.finish .lookupTimeout, _,
      by simp only [work, hstage, resolveRoute, afterLookup]; rfl, by simp [Stage.number, finish]⟩
  | connect _ _ _ =>
    rw [hstage] at h
    cases h
    exact ⟨rfl, c.finish .upstreamTimeout, _, by simp only [work, hstage]; rfl,
      by simp [Stage.number, finish]⟩
  | _ =>
    rw [hstage] at h
    exact absurd h (by simp [Stage.atLast])

/-- What is at least possible at a stage moves it on. -/
theorem moves_work {event : WorkEvent} (hchecked : c.checked = true)
    (h : c.stage.atLast = some event) : Moves c config gate force (.work event) := by
  obtain ⟨hown, c', events, hwork, hlt, hle⟩ := work_atLast (c := c) h
  refine ⟨hown, c', gate, events, ?_, left_lt hlt hle⟩
  rw [step_work, if_pos hchecked, hwork]
  rfl

/-- A stage that looks at the token can be polled. -/
theorem moves_poll {outcome : ConnectionOutcome} (hchecked : c.checked = false)
    (hcancel : c.stage.onCancel = some outcome) : Moves c config gate force .poll := by
  refine ⟨rfl, ?_⟩
  have hstep : c.step config gate force .poll = some
      (if gate.cancelled then (c.finish outcome, gate, [])
      else ({ c with checked := true }, gate, [])) := by
    unfold step
    split <;> simp_all [Stage.onCancel]
  have hnumber : c.stage.number < 8 := by
    cases hstage : c.stage <;> simp_all [Stage.number, Stage.onCancel]
  rw [hstep]
  split_ifs
  · exact ⟨_, _, _, rfl, left_lt hnumber (by simp [finish, Stage.number])⟩
  · have hholds : c.holdsPass = false := holdsPass_of_onCancel (by rw [hcancel]; rfl)
    exact ⟨_, _, _, rfl, left_turn (hchecked.trans hholds.symm) (by simp [hchecked])⟩

/-- The gate moves a connection on, open or closed. -/
theorem moves_enter (hstage : c.stage = .entering) : Moves c config gate force .enter := by
  refine ⟨rfl, ?_⟩
  cases henter : gate.enter with
  | none =>
    refine ⟨c.finish .shutdownCancelled, _, _, by simp only [step, hstage, henter]; rfl, ?_⟩
    exact left_lt (by simp [hstage, finish, Stage.number]) (by simp [finish, Stage.number])
  | some gate' =>
    refine ⟨_, _, _, by simp only [step, hstage, henter]; rfl, ?_⟩
    exact left_lt (by simp [hstage, Stage.number]) (by simp [Stage.number])

/-- The task can do it, and it leaves less to do. -/
theorem moves_atLast {event : ConnectionEvent} (h : c.atLast = some event) :
    Moves c config gate force event := by
  have hwaiting {work : WorkEvent} {outcome : ConnectionOutcome}
      (hlast : c.stage.atLast = some work) (hcancel : c.stage.onCancel = some outcome)
      (heq : (if c.checked then ConnectionEvent.work work else .poll) = event) :
      Moves c config gate force event := by
    rw [← heq]
    split_ifs with hchecked
    · exact moves_work hchecked hlast
    · exact moves_poll (Bool.eq_false_iff.mpr hchecked) hcancel
  cases hstage : c.stage with
  | entering =>
    rw [atLast, hstage] at h
    cases h
    exact moves_enter hstage
  | spawned | leaving _ | returned | closed | released =>
    rw [atLast, hstage] at h
    cases h
    refine ⟨rfl, _, _, _, by simp only [step, hstage]; rfl, left_lt ?_ ?_⟩
    all_goals simp [hstage, Stage.number, goto]
  | proxying _ | gone =>
    rw [atLast, hstage] at h
    exact absurd h (by simp [Stage.atLast])
  | hello reader =>
    rw [atLast, hstage] at h
    cases reader with
    | reading _ | done _ =>
      injection h with h
      exact hwaiting (by rw [hstage]; rfl) (by rw [hstage]; rfl) h
  | alert _ _ | lookup _ _ | connect _ _ _ =>
    rw [atLast, hstage] at h
    injection h with h
    exact hwaiting (by rw [hstage]; rfl) (by rw [hstage]; rfl) h

/-- The force token ends the proxy stage. -/
theorem moves_forced {copy : Option Copy} (hstage : c.stage = .proxying copy) :
    Moves c config gate true (if c.checked then .pending else .poll) := by
  have hholds : c.holdsPass = true := by rw [holdsPass, hstage]
  split_ifs with hchecked
  · exact ⟨rfl, { c with checked := false }, gate, [], by simp only [step, hchecked, if_true],
      left_turn (hchecked.trans hholds.symm) (by simp [hchecked])⟩
  · refine ⟨rfl, c.goto (.leaving (some .shutdownForced)), gate, [], ?_, ?_⟩
    · simp only [step, hstage, hchecked, Bool.false_eq_true, if_false, if_true]
    · exact left_lt (by simp [hstage, Stage.number, goto]) (by simp [Stage.number, goto])

/-- Only a connection that proxies or is gone waits for others. -/
theorem proxying_of_atLast (h : c.atLast = none) (hgone : c.stage ≠ .gone) :
    ∃ copy, c.stage = .proxying copy := by
  unfold atLast at h
  cases hstage : c.stage with
  | proxying copy => exact ⟨copy, rfl⟩
  | gone => exact absurd hstage hgone
  | hello reader =>
    rw [hstage] at h
    cases reader <;> exact absurd h (by simp [Stage.atLast])
  | _ =>
    rw [hstage] at h
    exact absurd h (by simp [Stage.atLast])

/-- When the force token is cancelled every task can go on. -/
theorem moves_of_force (hgone : c.stage ≠ .gone) : ∃ event, Moves c config gate true event := by
  cases hlast : c.atLast with
  | some event => exact ⟨event, moves_atLast hlast⟩
  | none =>
    obtain ⟨copy, hstage⟩ := proxying_of_atLast hlast hgone
    exact ⟨_, moves_forced hstage⟩

/-- A stage with a timeout has something that ends it. -/
theorem atLast_of_timeout {config : RouterSettings} {timeout : Nat}
    (h : config.timeout c.stage = some timeout) : ∃ event, c.atLast = some event := by
  cases hlast : c.atLast with
  | some event => exact ⟨event, rfl⟩
  | none =>
    by_cases hgone : c.stage = .gone
    · rw [hgone] at h
      exact absurd h (by simp [RouterSettings.timeout])
    · obtain ⟨copy, hstage⟩ := proxying_of_atLast hlast hgone
      rw [hstage] at h
      exact absurd h (by simp [RouterSettings.timeout])

end Connection

-- ---------------------------------------------------------------------------
-- Time goes on
-- ---------------------------------------------------------------------------

namespace TimedNet

/-- How much the connections have left to do at most. -/
def left (s : TimedNet) : Nat :=
  (s.net.conns.map Connection.left).sum

/-- Time passes, or a connection whose time is up goes on. -/
theorem progress (config : RouterSettings) (slack : Nat) (s : TimedNet) :
    TimedNet.step config slack (.tick 1) s = some { s with clock := s.clock + 1 } ∨
      ∃ i event s', event.own = true ∧ TimedNet.step config slack (.conn i event) s = some s' ∧
        s'.left < s.left := by
  by_cases hpunctual : s.Punctual config slack (s.clock + 1)
  · exact .inl (if_pos hpunctual)
  · unfold Punctual at hpunctual
    obtain ⟨⟨c, timer⟩, hpair⟩ := not_forall.mp hpunctual
    obtain ⟨hmem, hoverdue⟩ := Classical.not_imp.mp hpair
    obtain ⟨i, hi⟩ := List.getElem?_of_mem hmem
    obtain ⟨hconn, htimer⟩ : s.net.conns[i]? = some c ∧ s.timers[i]? = some timer :=
      List.getElem?_zip_eq_some.mp hi
    obtain ⟨timeout, htimeout, hlate⟩ :=
      (Option.any_eq_true _ _).mp (Bool.eq_true_of_not_eq_false hoverdue)
    have hdue : timer.due config s.clock c.stage = true := by
      rw [Timer.due_iff htimeout]
      have hlt : timer.since + timeout + slack < s.clock + 1 := of_decide_eq_true hlate
      omega
    obtain ⟨event, hlast⟩ := Connection.atLast_of_timeout htimeout
    have hmoves : c.Moves config.toRouterConfig s.net.gate s.net.force event :=
      Connection.moves_atLast hlast
    obtain ⟨hown, c', gate, events, hmove, hleft⟩ := hmoves
    refine .inr ⟨i, event, { s with
      net := { s.net with
        gate := gate
        conns := s.net.conns.set i c'
        metrics := s.net.metrics ++ events.map fun event => (i, event) }
      timers := s.timers.set i (timer.moved s.clock c.stage c'.stage) }, hown, ?_, ?_⟩
    · simp only [TimedNet.step, hconn, htimer, Option.bind_some, hdue, hmove, Bool.true_eq_false,
        and_false, if_false, Option.map_some]
    · have hsum := sum_map_set Connection.left hconn c'
      simp only [left]
      omega

/-- No event of a connection changes the clock or when the connections were
accepted. -/
theorem conn_clock {config : RouterSettings} {slack now : Nat} {i : Nat}
    {event : ConnectionEvent} {s s' : TimedNet}
    (hstep : step config slack (.conn i event) s = some s')
    (h : ∀ timer ∈ s.timers, timer.accepted ≤ now) :
    s'.clock = s.clock ∧ ∀ timer ∈ s'.timers, timer.accepted ≤ now := by
  obtain ⟨c, hconn, hstep⟩ := Option.bind_eq_some_iff.mp hstep
  obtain ⟨timer, htimer, hstep⟩ := Option.bind_eq_some_iff.mp hstep
  split_ifs at hstep
  obtain ⟨⟨c', gate, events⟩, -, rfl⟩ := Option.map_eq_some_iff.mp hstep
  refine ⟨rfl, fun timer' hmem => ?_⟩
  rcases List.mem_or_eq_of_mem_set hmem with hold | rfl
  · exact h timer' hold
  · have haccepted := h timer (List.mem_of_getElem? htimer)
    unfold Timer.moved
    split_ifs <;> exact haccepted

end TimedNet

/-- **Time goes on**: from every state the tasks alone, without a client, a
backend or the store, let any time pass; and past the timeouts all handshakes
are over. -/
theorem time_goes_on {config : RouterSettings} {slack : Nat} {s : TimedNet}
    (h : (timedMachine config slack).Reachable s) (duration : Nat) :
    ∃ s', (timedMachine config slack).Reaches (fun event => event.own = true) s s' ∧
      s'.clock = s.clock + duration ∧
      (config.handshakeTimeout + 8 * slack < duration →
        ∀ (i : Nat) c, s'.net.conns[i]? = some c → c.proxied = true ∨ c.stage = .gone) := by
  have htimely := timedMachine_timely h
  have haccepted : ∀ timer ∈ s.timers, timer.accepted ≤ s.clock := by
    intro timer hmem
    obtain ⟨i, htimer⟩ := List.getElem?_of_mem hmem
    have hlt : i < s.net.conns.length := htimely.length ▸ lt_length htimer
    have hc := htimely.timely i _ timer (List.getElem?_eq_getElem hlt) htimer
    exact hc.accepted.trans hc.since
  let Inv (u : TimedNet) : Prop := u.Timely config slack ∧
    ∀ timer ∈ u.timers, timer.accepted ≤ s.clock
  have hstep : ∀ u, Inv u → u.clock < s.clock + duration → ∃ e u', e.own = true ∧
      (timedMachine config slack).step e u = some u' ∧ Inv u' ∧
      (u'.clock = u.clock + 1 ∨ u'.clock = u.clock ∧ u'.left < u.left) := by
    rintro u ⟨hu, hbefore⟩ -
    rcases u.progress config slack with htick | ⟨i, event, u', hown, hconn, hleft⟩
    · exact ⟨.tick 1, _, rfl, htick, ⟨hu.step htick, hbefore⟩, .inl rfl⟩
    · obtain ⟨hsame, hbefore'⟩ := TimedNet.conn_clock hconn hbefore
      exact ⟨.conn i event, _, hown, hconn, ⟨hu.step hconn, hbefore'⟩, .inr ⟨hsame, hleft⟩⟩
  obtain ⟨s', hreach, ⟨htimely', hbefore⟩, hclock⟩ := Machine.reaches_clock TimedNet.clock
    TimedNet.left hstep (show Inv s from ⟨htimely, haccepted⟩) (Nat.le_add_right _ _)
  refine ⟨s', hreach, hclock, fun hlong i c hconn => ?_⟩
  have hlt : i < s'.timers.length := htimely'.length ▸ lt_length hconn
  have hc := htimely'.timely i c _ hconn (List.getElem?_eq_getElem hlt)
  have hle := hbefore _ (List.getElem_mem hlt)
  cases hpass : c.proxied with
  | true => exact .inl rfl
  | false => exact .inr (hc.gone hpass (by omega))

/-- Thirteen seconds can pass over a client that says nothing. -/
theorem time_goes_on_at :
    ∃ s s', (timedMachine .default 0).run [.accept [], .conn 0 .start] .new = some s ∧
      (timedMachine .default 0).Reaches (fun event => event.own = true) s s' ∧
      s'.clock = s.clock + fromSecs 13 ∧
      (RouterSettings.default.handshakeTimeout + 8 * 0 < fromSecs 13 →
        ∀ (i : Nat) c, s'.net.conns[i]? = some c → c.proxied = true ∨ c.stage = .gone) := by
  obtain ⟨s, hrun, -⟩ : ∃ s,
      (timedMachine .default 0).run [.accept [], .conn 0 .start] .new = some s ∧ s.clock = 0 :=
    Option.map_eq_some_iff.mp (by decide +kernel)
  obtain ⟨s', hs'⟩ := time_goes_on ⟨_, _, rfl, hrun⟩ (fromSecs 13)
  exact ⟨s, s', hrun, hs'⟩

-- ---------------------------------------------------------------------------
-- Coming to an end
-- ---------------------------------------------------------------------------

/-- The events of the accept loop and of `serve` itself. -/
def ServerEvent.control : ServerEvent → Bool
  | .poll | .pending | .pauseAbandoned | .close | .graceOver | .drained => true
  | _ => false

/-- `serve` needs nobody for the event but whoever cancels the shutdown token. -/
def ServerEvent.own : ServerEvent → Bool
  | .conn _ event => event.own
  | .shutdown => true
  | event => event.control

/-- The control flow goes on of itself. -/
theorem ServerEvent.own_of_control {event : ServerEvent} (h : event.control = true) :
    event.own = true := by
  cases event with
  | poll | pending | pauseAbandoned | close | graceOver | drained => rfl
  | _ => exact absurd h (by simp [control])

/-- The phases before the return. -/
def ServePhase.left : ServePhase → Nat
  | .serving => 3
  | .draining => 2
  | .forced => 1
  | .returned => 0

/-- The steps before the accept loop exits. -/
def AcceptLoop.left (loop : AcceptLoop) : Nat :=
  if loop.stage = .exited then 0 else if loop.checked then 2 else 1

/-- How much `serve` has left to do at most. -/
def Server.left (s : Server) : Nat :=
  (if s.shutdown then 0 else 1) + s.loop.left + s.phase.left +
    (s.net.conns.map Connection.left).sum

/-- The force token is cancelled when the grace period is over. -/
def Server.Forces (s : Server) : Prop :=
  s.phase = .forced → s.net.force = true

/-- A forced phase has its token cancelled, in every reachable state. -/
theorem serverMachine_forces {config : RouterConfig} {listeners : Nat} {s : Server}
    (h : (serverMachine config listeners).Reachable s) : s.Forces := by
  have hforce : ∀ {i event} {net net' : Net}, net.step config (.conn i event) = some net' →
      net'.force = net.force := by
    intro i event net net' hnet
    cases Net.step_cases hnet
    rfl
  refine h.invariant ?_ ?_
  · rintro s rfl hphase
    exact absurd hphase (by simp [Server.new])
  · intro event s s' hinv hstep
    cases Server.step_cases hstep with
    | conn _ hnet | released hnet => exact fun hphase => (hforce hnet).trans (hinv hphase)
    | accepted _ hnet =>
      cases hnet
      exact hinv
    | forced _ hnet =>
      cases hnet
      exact fun _ => rfl
    | shutdown | checked | exited | acquired | acceptError | resumed => exact hinv
    | closed | returned => exact fun hphase => absurd hphase (by simp)

namespace Server

variable {config : RouterConfig} {listeners : Nat} {s : Server}

/-- `serve` can do an event of this kind, and it leaves less to do. -/
def Moves (s : Server) (config : RouterConfig) (listeners : Nat) (kind : ServerEvent → Bool) :
    Prop :=
  ∃ event s', kind event = true ∧ step config listeners event s = some s' ∧ s'.left < s.left

/-- A loop that exits leaves less to do. -/
theorem left_exitLoop (hloop : s.loop.stage ≠ .exited) : s.exitLoop.left < s.left := by
  have hzero : s.exitLoop.loop.left = 0 := if_pos rfl
  have hpos : 0 < s.loop.left := by
    rw [AcceptLoop.left, if_neg hloop]
    split_ifs <;> omega
  have hsame : s.exitLoop.shutdown = s.shutdown ∧ s.exitLoop.phase = s.phase ∧
      s.exitLoop.net = s.net := ⟨rfl, rfl, rfl⟩
  rw [left, left, hsame.1, hsame.2.1, hsame.2.2, hzero]
  omega

/-- After the shutdown the accept loop can always exit. -/
theorem moves_loop (hshutdown : s.shutdown = true) (hloop : s.loop.stage ≠ .exited) :
    s.Moves config listeners ServerEvent.control := by
  cases hstage : s.loop.stage with
  | exited => exact absurd hstage hloop
  | backingOff =>
    refine ⟨.pauseAbandoned, s.exitLoop, rfl, ?_, left_exitLoop hloop⟩
    simp only [step, hstage, hshutdown, if_true]
  | acquiring | accepting =>
    cases hchecked : s.loop.checked with
    | false =>
      refine ⟨.poll, s.exitLoop, rfl, ?_, left_exitLoop hloop⟩
      simp only [step, hstage, hchecked, hshutdown, Bool.false_eq_true, if_false, if_true]
    | true =>
      refine ⟨.pending, { s with loop.checked := false }, rfl, ?_, ?_⟩
      · simp only [step, hchecked, if_true]
      · simp only [left, AcceptLoop.left, hstage, hchecked, reduceCtorEq, Bool.false_eq_true,
          if_false, if_true]
        omega

/-- An event of a connection is one of the server. -/
theorem step_conn (listeners : Nat) {i : Nat} {event : ConnectionEvent} {net : Net}
    (hnet : s.net.step config (.conn i event) = some net) :
    ∃ slots, step config listeners (.conn i event) s =
      some { s with net := net, slots := slots } := by
  by_cases hevent : event = .releaseSlot
  · subst hevent
    exact ⟨s.slots + 1, by simp only [step, hnet]; rfl⟩
  · refine ⟨s.slots, ?_⟩
    unfold step
    split <;> simp_all

/-- What leaves a connection less to do, leaves `serve` less to do. -/
theorem moves_conn (listeners : Nat) {i : Nat} {c : Connection} (hconn : s.net.conns[i]? = some c)
    {event : ConnectionEvent}
    (hmoves : ∃ c' gate' events,
      c.step config s.net.gate s.net.force event = some (c', gate', events) ∧ c'.left < c.left) :
    ∃ s', step config listeners (.conn i event) s = some s' ∧ s'.left < s.left := by
  obtain ⟨c', gate, events, hmove, hleft⟩ := hmoves
  have hnet : s.net.step config (.conn i event) = some
      { s.net with
        gate := gate
        conns := s.net.conns.set i c'
        metrics := s.net.metrics ++ events.map fun event => (i, event) } := by
    simp only [Net.step, hconn, Option.bind_some, hmove, Option.map_some]
  obtain ⟨slots, hstep⟩ := step_conn listeners hnet
  refine ⟨_, hstep, ?_⟩
  have hsum := sum_map_set Connection.left hconn c'
  simp only [left]
  omega

/-- A later phase leaves less to do. -/
theorem left_phase {net : Net} {phase : ServePhase} (hconns : net.conns = s.net.conns)
    (hlt : phase.left < s.phase.left) :
    ({ s with net := net, phase := phase } : Server).left < s.left := by
  simp only [left, hconns]
  omega

/-- After the shutdown it is for `serve` to go on, or for a connection that the
force token has reached. -/
theorem moves_control (hforces : s.Forces) (hshutdown : s.shutdown = true)
    (hphase : s.phase ≠ .returned) : s.Moves config listeners ServerEvent.control ∨
      s.net.force = true ∧ ∃ (i : Nat) (c : Connection), s.net.conns[i]? = some c ∧
        c.stage ≠ .gone := by
  by_cases hloop : s.loop.stage = .exited
  · cases hnow : s.phase with
    | serving =>
      let net := { s.net with gate := s.net.gate.close.2 }
      refine .inl ⟨.close, { s with net := net, phase := .draining }, rfl, ?_, left_phase rfl ?_⟩
      · simp only [step, hloop, hshutdown, hnow, and_self, if_true]
        rfl
      · rw [hnow]
        decide
    | draining =>
      let net := { s.net with force := true }
      refine .inl ⟨.graceOver, { s with net := net, phase := .forced }, rfl, if_pos hnow,
        left_phase rfl ?_⟩
      rw [hnow]
      decide
    | forced =>
      by_cases hall : ∀ c ∈ s.net.conns, c.stage = .gone
      · refine .inl ⟨.drained, { s with phase := .returned }, rfl, ?_, left_phase rfl ?_⟩
        · refine if_pos ⟨.inr hnow, List.all_eq_true.mpr fun c hmem => ?_⟩
          rw [hall c hmem]
        · rw [hnow]
          decide
      · obtain ⟨c, hc⟩ := not_forall.mp hall
        obtain ⟨hmem, hgone⟩ := Classical.not_imp.mp hc
        obtain ⟨i, hconn⟩ := List.getElem?_of_mem hmem
        exact .inr ⟨hforces hnow, i, c, hconn, hgone⟩
    | returned => exact absurd hnow hphase
  · exact .inl (moves_loop hshutdown hloop)

/-- Until it has returned, `serve` has something to do. -/
theorem progress (hforces : s.Forces) (hphase : s.phase ≠ .returned) :
    s.Moves config listeners ServerEvent.own := by
  cases hshutdown : s.shutdown with
  | false =>
    refine ⟨.shutdown, { s with shutdown := true }, rfl, rfl, ?_⟩
    simp [left, AcceptLoop.left, hshutdown]
  | true =>
    have hmoves : s.Moves config listeners ServerEvent.control ∨ _ :=
      moves_control hforces hshutdown hphase
    rcases hmoves with ⟨event, s', hcontrol, hstep⟩ | ⟨hforce, i, c, hconn, hgone⟩
    · exact ⟨event, s', ServerEvent.own_of_control hcontrol, hstep⟩
    · obtain ⟨event, hevent⟩ : ∃ event, c.Moves config s.net.gate s.net.force event :=
        hforce ▸ Connection.moves_of_force hgone
      obtain ⟨s', hstep⟩ := moves_conn listeners hconn hevent.2
      exact ⟨.conn i event, s', hevent.1, hstep⟩

end Server

/-- **`serve` can always return**: from every state, by events of its own alone,
with every slot back and every task gone. -/
theorem serve_can_return {config : RouterConfig} {listeners : Nat} {s : Server}
    (h : (serverMachine config listeners).Reachable s) :
    ∃ s', (serverMachine config listeners).Reaches (fun event => event.own = true) s s' ∧
      s'.phase = .returned ∧ s'.slots = config.maxConnections ∧
        ∀ c ∈ s'.net.conns, c.stage = .gone := by
  let machine := serverMachine config listeners
  have hstep : ∀ u, machine.Reachable u → u.phase = .returned ∨ ∃ e u', e.own = true ∧
      machine.step e u = some u' ∧ machine.Reachable u' ∧ u'.left < u.left := by
    intro u hu
    by_cases hphase : u.phase = .returned
    · exact .inl hphase
    · obtain ⟨event, u', hown, hevent, hleft⟩ : u.Moves config listeners ServerEvent.own :=
        Server.progress (serverMachine_forces hu) hphase
      exact .inr ⟨event, u', hown, hevent, hu.step hevent, hleft⟩
  obtain ⟨s', hreaches, hreachable, hphase⟩ := Machine.reaches_of_measure _ hstep h
  have inv := serverMachine_inv hreachable
  exact ⟨s', hreaches, hphase, inv.slots_returned hphase, inv.gone hphase⟩

/-- A silent client and a shutdown that nobody has asked for. -/
theorem serve_can_return_at :
    ∃ s s', (serverMachine .default 1).run
        [.poll, .acquire, .poll, .accept [some (.stream [])], .conn 0 .start]
        (.new .default) = some s ∧
      (serverMachine .default 1).Reaches (fun event => event.own = true) s s' ∧
      s'.phase = .returned ∧ s'.slots = RouterConfig.default.maxConnections ∧
        ∀ c ∈ s'.net.conns, c.stage = .gone := by
  obtain ⟨s, hrun, -⟩ : ∃ s, (serverMachine .default 1).run
      [.poll, .acquire, .poll, .accept [some (.stream [])], .conn 0 .start]
      (.new .default) = some s ∧ s.phase = .serving :=
    Option.map_eq_some_iff.mp (by decide +kernel)
  obtain ⟨s', hs'⟩ := serve_can_return ⟨_, _, rfl, hrun⟩
  exact ⟨s, s', hrun, hs'⟩

end SniRouter
