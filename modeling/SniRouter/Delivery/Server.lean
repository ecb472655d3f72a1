import SniRouter.Delivery.Bookkeeping

/-!
# SniRouter — serving

`serve` with its accept loop, the connection slots and the tasks it has
spawned. The accept loop takes a slot before it accepts, and the task of a
connection keeps it to its end.

* `acceptAny` — whichever listener is ready first, from a rotating index.
* `AcceptLoop` / `Server` — the accept loop, and all of `serve`.
* `Server.step` — one event of a connection, of the accept loop or of `serve`.
* `server_refines_net` — a run of `serve` is a run of its connections.
* `serve_accounting` — slots and books, over every run.
-/

namespace SniRouter

open Framing Table

-- ---------------------------------------------------------------------------
-- Accepting
-- ---------------------------------------------------------------------------

/-- What `poll_accept` gives: a client with all it will send, or an error. -/
inductive Accepted where
  | stream (client : Bytes)
  | error

/-- The first ready listener from `next` on, and what it gives. -/
def acceptAny (listeners : List (Option Accepted)) (next : Nat) : Option (Nat × Accepted) :=
  (List.range listeners.length).findSome? fun offset =>
    let index := (next + offset) % listeners.length
    (listeners[index]?.join).map fun accepted => (index, accepted)

/-- Where the accept loop is. -/
inductive AcceptStage where
  /-- Waiting for a slot. -/
  | acquiring
  /-- Waiting for a client, with a slot in hand. -/
  | accepting
  | backingOff
  /-- Returned or panicked. -/
  | exited
deriving DecidableEq

/-- The slots in hand. -/
def AcceptStage.held : AcceptStage → Nat
  | .accepting => 1
  | _ => 0

/-- The accept loop. -/
structure AcceptLoop where
  stage   : AcceptStage
  /-- A poll is under way that found no shutdown. -/
  checked : Bool
  next    : Nat

/-- Where `serve` is. -/
inductive ServePhase where
  /-- Waiting for the shutdown token, then for the accept loop. -/
  | serving
  /-- The grace period. -/
  | draining
  | forced
  | returned
deriving DecidableEq

/-- The server: connections, slots, accept loop and shutdown. -/
structure Server where
  net      : Net
  /-- Free slots. -/
  slots    : Nat
  loop     : AcceptLoop
  /-- The shutdown token is cancelled. -/
  shutdown : Bool
  phase    : ServePhase

/-- What happens to the server. -/
inductive ServerEvent where
  | conn (i : Nat) (event : ConnectionEvent)
  | shutdown
  | poll
  | pending
  | acquire
  /-- The listeners are polled, each ready with something or not. -/
  | accept (listeners : List (Option Accepted))
  | pauseOver
  | pauseAbandoned
  | panic
  | close
  | graceOver
  | drained

namespace Server

/-- The server before its first accept. -/
def new (config : RouterConfig) : Server :=
  ⟨.new, config.maxConnections, ⟨.acquiring, false, 0⟩, false, .serving⟩

/-- The accept loop is over; a slot in hand is dropped. -/
def exitLoop (s : Server) : Server :=
  { s with
    slots := s.slots + s.loop.stage.held
    loop := { s.loop with stage := .exited, checked := false } }

/-- What is accepted is spawned with the slot, or the slot is dropped. -/
def afterAccept (config : RouterConfig) (s : Server) (next : Nat) : Accepted → Option Server
  | .stream client => (s.net.step config (.accept client)).map fun net =>
    { s with net := net, loop := ⟨.acquiring, false, next⟩ }
  | .error => some { s with slots := s.slots + 1, loop := ⟨.backingOff, false, next⟩ }

/-- One event of `serve` on so many listeners. -/
def step (config : RouterConfig) (listeners : Nat) (event : ServerEvent) (s : Server) :
    Option Server :=
  match event, s.loop.stage with
  | .conn i .releaseSlot, _ => (s.net.step config (.conn i .releaseSlot)).map fun net =>
    { s with net := net, slots := s.slots + 1 }
  | .conn i event, _ => (s.net.step config (.conn i event)).map fun net => { s with net := net }
  | .shutdown, _ => some { s with shutdown := true }
  | .poll, .acquiring | .poll, .accepting =>
    if s.loop.checked then none
    else if s.shutdown then some s.exitLoop
    else some { s with loop.checked := true }
  | .pending, _ => if s.loop.checked then some { s with loop.checked := false } else none
  | .acquire, .acquiring =>
    if s.loop.checked ∧ 0 < s.slots then
      some { s with slots := s.slots - 1, loop := ⟨.accepting, false, s.loop.next⟩ }
    else none
  | .accept polled, .accepting =>
    if s.loop.checked ∧ polled.length = listeners then
      (acceptAny polled s.loop.next).bind fun (index, accepted) =>
        s.afterAccept config ((index + 1) % listeners) accepted
    else none
  | .pauseOver, .backingOff => some { s with loop.stage := .acquiring }
  -- this select looks at the token and the clock in any order
  | .pauseAbandoned, .backingOff => if s.shutdown then some s.exitLoop else none
  | .panic, stage => if stage = .exited then none else some s.exitLoop
  -- the shutdown token has been seen and the accept loop joined
  | .close, .exited =>
    if s.shutdown ∧ s.phase = .serving then
      (s.net.step config .close).map fun net => { s with net := net, phase := .draining }
    else none
  | .graceOver, _ =>
    if s.phase = .draining then
      (s.net.step config .force).map fun net => { s with net := net, phase := .forced }
    else none
  -- `tracker.wait()`: every task is finished
  | .drained, _ =>
    if (s.phase = .draining ∨ s.phase = .forced) ∧
        s.net.conns.all fun c => match c.stage with | .gone => true | _ => false then
      some { s with phase := .returned }
    else none
  | _, _ => none

/-- All that one event can do. -/
inductive Stepped (config : RouterConfig) (s : Server) : Server → Prop where
  | conn {i event net} (hevent : event ≠ .releaseSlot)
      (hnet : s.net.step config (.conn i event) = some net) : Stepped config s { s with net := net }
  | released {i net} (hnet : s.net.step config (.conn i .releaseSlot) = some net) :
      Stepped config s { s with net := net, slots := s.slots + 1 }
  | shutdown : Stepped config s { s with shutdown := true }
  | checked (checked) : Stepped config s { s with loop.checked := checked }
  | exited (hphase : s.loop.stage ≠ .exited) : Stepped config s s.exitLoop
  | acquired (hstage : s.loop.stage = .acquiring) (hfree : 0 < s.slots) :
      Stepped config s { s with slots := s.slots - 1, loop := ⟨.accepting, false, s.loop.next⟩ }
  | accepted {client net} (hstage : s.loop.stage = .accepting)
      (hnet : s.net.step config (.accept client) = some net) (next) :
      Stepped config s { s with net := net, loop := ⟨.acquiring, false, next⟩ }
  | acceptError (hstage : s.loop.stage = .accepting) (next) :
      Stepped config s { s with slots := s.slots + 1, loop := ⟨.backingOff, false, next⟩ }
  | resumed (hstage : s.loop.stage = .backingOff) :
      Stepped config s { s with loop.stage := .acquiring }
  | closed {net} (hstage : s.loop.stage = .exited)
      (hnet : s.net.step config .close = some net) :
      Stepped config s { s with net := net, phase := .draining }
  | forced {net} (hphase : s.phase = .draining) (hnet : s.net.step config .force = some net) :
      Stepped config s { s with net := net, phase := .forced }
  | returned (hphase : s.phase = .draining ∨ s.phase = .forced)
      (hall : ∀ c ∈ s.net.conns, c.stage = .gone) :
      Stepped config s { s with phase := .returned }

/-- An event that happens, case by case. -/
theorem step_cases {config : RouterConfig} {listeners : Nat} {event : ServerEvent}
    {s s' : Server} (h : step config listeners event s = some s') : Stepped config s s' := by
  unfold step at h
  split at h
  · obtain ⟨net, hnet, rfl⟩ := Option.map_eq_some_iff.mp h
    exact .released hnet
  · next hevent =>
    obtain ⟨net, hnet, rfl⟩ := Option.map_eq_some_iff.mp h
    exact .conn (fun heq => hevent heq) hnet
  · cases h
    exact .shutdown
  · next hstage =>
    split_ifs at h
    · cases h
      exact .exited (by rw [hstage]; simp)
    · cases h
      exact .checked true
  · next hstage =>
    split_ifs at h
    · cases h
      exact .exited (by rw [hstage]; simp)
    · cases h
      exact .checked true
  · split_ifs at h
    cases h
    exact .checked false
  · next hstage =>
    split_ifs at h with hfree
    cases h
    exact .acquired hstage hfree.2
  · next hstage =>
    split_ifs at h
    obtain ⟨⟨index, accepted⟩, -, h⟩ := Option.bind_eq_some_iff.mp h
    change s.afterAccept config _ accepted = some s' at h
    unfold afterAccept at h
    cases accepted with
    | stream client =>
      obtain ⟨net, hnet, rfl⟩ := Option.map_eq_some_iff.mp h
      exact .accepted hstage hnet _
    | error =>
      cases h
      exact .acceptError hstage _
  · next hstage =>
    cases h
    exact .resumed hstage
  · next hstage =>
    split_ifs at h
    cases h
    exact .exited (by rw [hstage]; simp)
  · next hstage =>
    split_ifs at h with hexited
    cases h
    exact .exited hexited
  · next hstage =>
    split_ifs at h
    obtain ⟨net, hnet, rfl⟩ := Option.map_eq_some_iff.mp h
    exact .closed hstage hnet
  · split_ifs at h with hphase
    obtain ⟨net, hnet, rfl⟩ := Option.map_eq_some_iff.mp h
    exact .forced hphase hnet
  · split_ifs at h with hdone
    cases h
    refine .returned hdone.1 ?_
    intro c hc
    have hgone := List.all_eq_true.mp hdone.2 c hc
    split at hgone
    · next hstage => exact hstage
    · exact absurd hgone (by simp)
  · exact absurd h (by simp)

/-- What an event does to the connections, and that `serve` returns once. -/
structure Effect (config : RouterConfig) (event : ServerEvent) (s s' : Server) : Prop where
  conns    : (∃ i e, event = .conn i e ∧ s.net.step config (.conn i e) = some s'.net) ∨
    (∃ client, s'.net.conns = s.net.conns ++ [.spawn client]) ∨ s'.net.conns = s.net.conns
  returned : s.phase = .returned → s'.phase = .returned

/-- What an event does to the connections and the slots. -/
theorem step_effect {config : RouterConfig} {listeners : Nat} {event : ServerEvent}
    {s s' : Server} (h : step config listeners event s = some s') : Effect config event s s' := by
  unfold step at h
  split at h
  case h_1 | h_2 =>
    obtain ⟨net, hnet, rfl⟩ := Option.map_eq_some_iff.mp h
    exact ⟨.inl ⟨_, _, rfl, hnet⟩, id⟩
  case h_8 =>
    split_ifs at h
    obtain ⟨⟨index, accepted⟩, -, h⟩ := Option.bind_eq_some_iff.mp h
    change s.afterAccept config _ accepted = some s' at h
    unfold afterAccept at h
    cases accepted with
    | stream client =>
      obtain ⟨net, hnet, rfl⟩ := Option.map_eq_some_iff.mp h
      cases hnet
      exact ⟨.inr (.inl ⟨client, rfl⟩), id⟩
    | error =>
      cases h
      exact ⟨.inr (.inr rfl), id⟩
  -- only these three know the phase
  case h_12 =>
    split_ifs at h with hserving
    obtain ⟨net, hnet, rfl⟩ := Option.map_eq_some_iff.mp h
    cases hnet
    exact ⟨.inr (.inr rfl), fun hphase => absurd (hphase.symm.trans hserving.2) (by simp)⟩
  case h_13 =>
    split_ifs at h with hdraining
    obtain ⟨net, hnet, rfl⟩ := Option.map_eq_some_iff.mp h
    cases hnet
    exact ⟨.inr (.inr rfl), fun hphase => absurd (hphase.symm.trans hdraining) (by simp)⟩
  case h_14 =>
    split_ifs at h
    cases h
    exact ⟨.inr (.inr rfl), fun _ => rfl⟩
  case h_15 => exact absurd h (by simp)
  all_goals
    try split_ifs at h
    all_goals
      cases h
      exact ⟨.inr (.inr rfl), id⟩

end Server

/-- `serve` on so many listeners. -/
def serverMachine (config : RouterConfig) (listeners : Nat) : Machine Server ServerEvent where
  init s := s = .new config
  step   := Server.step config listeners

/-- The task of the connection is alive: its slot is not back. -/
def Connection.live (c : Connection) : Bool :=
  match c.stage with
  | .released | .gone => false
  | _ => true

-- ---------------------------------------------------------------------------
-- Runs
-- ---------------------------------------------------------------------------

/-- A run of `serve` is a run of its connections, with the gate closed and the
force token fired by `serve`. -/
theorem server_refines_net {config : RouterConfig} {listeners : Nat} {es : List ServerEvent}
    {s s' : Server} (h : (serverMachine config listeners).run es s = some s') :
    ∃ fs, (netMachine config).run fs s.net = some s'.net := by
  induction es generalizing s with
  | nil =>
    cases h
    exact ⟨[], rfl⟩
  | cons e es ih =>
    obtain ⟨s₁, he, hes⟩ := ((serverMachine config listeners).run_cons).mp h
    obtain ⟨fs, hfs⟩ := ih hes
    have hcons : ∀ {f}, s.net.step config f = some s₁.net →
        ∃ fs, (netMachine config).run fs s.net = some s'.net :=
      fun hnet => ⟨_ :: fs, ((netMachine config).run_cons).mpr ⟨_, hnet, hfs⟩⟩
    cases Server.step_cases he with
    | conn _ hnet | released hnet | accepted _ hnet | closed _ hnet | forced _ hnet =>
      exact hcons hnet
    | shutdown | checked | exited | acquired | acceptError | resumed | returned => exact ⟨fs, hfs⟩

namespace Connection

variable {config : RouterConfig} {gate gate' : ProxyGate} {force : Bool} {c c' : Connection}

/-- Work keeps a connection alive. -/
theorem Worked.live {event : WorkEvent} {events : List MetricEvent}
    (hwork : Worked config c event c' events) : c'.live = c.live := by
  cases hwork with
  | read hstage | readError hstage | rejected hstage | noSni hstage | named hstage
  | helloTimeout hstage | alertWrite hstage | alertEnd hstage | routed hstage | notFound hstage
  | lookupFailed hstage | dialled hstage | dialFailed hstage | upstreamTimeout hstage
  | connected hstage | setup hstage | copied hstage | idle hstage | finished hstage
  | error hstage => simp only [Connection.live, hstage, Connection.finish, Connection.goto]

/-- Where a cancellation can end it, a connection is alive. -/
theorem live_of_onCancel {outcome : ConnectionOutcome} (h : c.stage.onCancel = some outcome) :
    c.live = true := by
  unfold live
  cases hstage : c.stage with
  | released | gone =>
    rw [hstage] at h
    exact absurd h (by simp [Stage.onCancel])
  | _ => rfl

/-- In the handshake a connection is alive. -/
theorem live_of_handshaking (h : c.stage.handshaking = true) : c.live = true := by
  unfold live
  cases hstage : c.stage with
  | released | gone =>
    rw [hstage] at h
    exact absurd h (by simp [Stage.handshaking])
  | _ => rfl

/-- A live task stays alive until it releases its slot, once. -/
theorem Stepped.live {event : ConnectionEvent} {events : List MetricEvent}
    (hstep : Stepped config gate force c event c' gate' events) :
    (event ≠ .releaseSlot → c'.live = c.live) ∧
      (event = .releaseSlot → c.live = true ∧ c'.live = false) := by
  cases hstep with
  | releaseSlot hstage =>
    refine ⟨fun hne => absurd rfl hne, fun _ => ⟨?_, rfl⟩⟩
    unfold Connection.live
    rw [hstage]
  | work _ hwork => exact ⟨fun _ => hwork.live, fun h => absurd h (by simp)⟩
  | checked | pending => exact ⟨fun _ => rfl, fun h => absurd h (by simp)⟩
  | cancelled _ hcancel =>
    exact ⟨fun _ => (live_of_onCancel hcancel).symm, fun h => absurd h (by simp)⟩
  | abandoned hstage =>
    exact ⟨fun _ => (live_of_handshaking hstage).symm, fun h => absurd h (by simp)⟩
  | start hstage | forced _ hstage | entered hstage | refused hstage | dropPass hstage
  | neverPolled hstage | torn hstage | closeBooks hstage | exit hstage =>
    refine ⟨fun _ => ?_, fun h => absurd h (by simp)⟩
    simp only [Connection.live, hstage, Connection.finish, Connection.goto]

end Connection

-- ---------------------------------------------------------------------------
-- Slots
-- ---------------------------------------------------------------------------

/-- What holds in every reachable state of the server. -/
structure ServerInv (config : RouterConfig) (s : Server) : Prop where
  reached : (netMachine config).Reachable s.net
  slots   : s.slots + s.loop.stage.held + s.net.conns.countP Connection.live =
    config.maxConnections
  /-- The accept loop is over when `serve` goes on. -/
  joined  : s.phase ≠ .serving → s.loop.stage = .exited
  gone    : s.phase = .returned → ∀ c ∈ s.net.conns, c.stage = .gone

/-- The slots that an event of the connections gives back. -/
def NetEvent.frees : NetEvent → Nat
  | .conn _ .releaseSlot => 1
  | _ => 0

/-- The tasks that it spawns. -/
def NetEvent.spawns : NetEvent → Nat
  | .accept _ => 1
  | _ => 0

/-- Only releasing a slot frees one. -/
theorem NetEvent.frees_conn {i : Nat} {event : ConnectionEvent} (h : event ≠ .releaseSlot) :
    (NetEvent.conn i event).frees = 0 := by
  unfold frees
  split
  · next heq =>
    injection heq with _ heq
    exact absurd heq h
  · rfl

/-- How one event of the connections changes the number of live ones. -/
theorem net_step_live {config : RouterConfig} {event : NetEvent} {s s' : Net}
    (h : Net.step config event s = some s') :
    s'.conns.countP Connection.live + event.frees =
      s.conns.countP Connection.live + event.spawns := by
  cases Net.step_cases h with
  | accept =>
    rw [List.countP_append]
    rfl
  | @conn i event c c' gate events hconn hstep =>
    have hcount := countP_set Connection.live hconn c'
    obtain ⟨hsame, hreleased⟩ := hstep.live
    show (s.conns.set i c').countP _ + _ = _
    by_cases hevent : event = .releaseSlot
    · obtain ⟨hbefore, hafter⟩ := hreleased hevent
      subst hevent
      rw [hbefore, hafter, if_pos rfl, if_neg (by simp)] at hcount
      exact hcount
    · rw [hsame hevent] at hcount
      rw [NetEvent.frees_conn hevent, show (NetEvent.conn i event).spawns = 0 from rfl]
      omega
  | close | force => rfl

/-- What is gone stays gone. -/
theorem gone_step {config : RouterConfig} {i : Nat} {event : ConnectionEvent} {s s' : Net}
    (hgone : ∀ c ∈ s.conns, c.stage = .gone) (h : Net.step config (.conn i event) s = some s') :
    ∀ c ∈ s'.conns, c.stage = .gone := by
  cases Net.step_cases h with
  | @conn i event c c' gate events hconn hstep =>
    have hc := hgone c (List.mem_of_getElem? hconn)
    have hc' : c'.stage = .gone := by
      cases hstep with
      | pending | checked => exact hc
      | work _ hwork =>
        have hover := hwork.not_over
        rw [hc] at hover
        exact absurd hover (by simp [Stage.over])
      | cancelled _ hcancel =>
        rw [hc] at hcancel
        exact absurd hcancel (by simp [Stage.onCancel])
      | abandoned hstage =>
        rw [hc] at hstage
        exact absurd hstage (by simp [Stage.handshaking])
      | start hstage | forced _ hstage | entered hstage | refused hstage | dropPass hstage
      | neverPolled hstage | torn hstage | closeBooks hstage | releaseSlot hstage | exit hstage =>
        exact absurd (hc.symm.trans hstage) (by simp)
    intro d hd
    rcases List.mem_or_eq_of_mem_set hd with hd | rfl
    · exact hgone d hd
    · exact hc'

theorem ServerInv.step {config : RouterConfig} {s s' : Server} (inv : ServerInv config s)
    (hstep : Server.Stepped config s s') : ServerInv config s' := by
  obtain ⟨hreached, hslots, hjoined, hgone⟩ := inv
  have hreach : ∀ {event net}, s.net.step config event = some net →
      (netMachine config).Reachable net := fun hnet => hreached.step hnet
  cases hstep with
  | @conn i event net hevent hnet =>
    have hlive := net_step_live hnet
    rw [NetEvent.frees_conn hevent, show (NetEvent.conn i event).spawns = 0 from rfl] at hlive
    refine ⟨hreach hnet, ?_, hjoined, fun hphase => gone_step (hgone hphase) hnet⟩
    show s.slots + s.loop.stage.held + net.conns.countP _ = _
    omega
  | @released i net hnet =>
    have hlive := net_step_live hnet
    refine ⟨hreach hnet, ?_, hjoined, fun hphase => gone_step (hgone hphase) hnet⟩
    show s.slots + 1 + s.loop.stage.held + net.conns.countP _ = _
    simp only [NetEvent.frees, NetEvent.spawns] at hlive
    omega
  | shutdown | checked => exact ⟨hreached, hslots, hjoined, hgone⟩
  | exited =>
    refine ⟨hreached, ?_, fun _ => rfl, hgone⟩
    show s.slots + s.loop.stage.held + 0 + s.net.conns.countP _ = _
    omega
  | acquired hstage hfree =>
    refine ⟨hreached, ?_, ?_, hgone⟩
    · show s.slots - 1 + 1 + s.net.conns.countP _ = _
      rw [hstage] at hslots
      change s.slots + 0 + s.net.conns.countP _ = _ at hslots
      omega
    · intro hphase
      exact absurd (hstage.symm.trans (hjoined hphase)) (by simp)
  | @accepted client net hstage hnet next =>
    have hlive := net_step_live hnet
    have hserving : s.phase = .serving := by
      by_contra hphase
      exact absurd (hstage.symm.trans (hjoined hphase)) (by simp)
    refine ⟨hreach hnet, ?_, fun hphase => absurd hserving hphase, ?_⟩
    · show s.slots + 0 + net.conns.countP _ = _
      rw [hstage] at hslots
      change s.slots + 1 + s.net.conns.countP _ = _ at hslots
      simp only [NetEvent.frees, NetEvent.spawns] at hlive
      omega
    · intro hphase
      exact absurd (hserving.symm.trans hphase) (by simp)
  | acceptError hstage =>
    refine ⟨hreached, ?_, ?_, hgone⟩
    · show s.slots + 1 + 0 + _ = _
      rw [hstage] at hslots
      exact hslots
    · intro hphase
      exact absurd (hstage.symm.trans (hjoined hphase)) (by simp)
  | resumed hstage =>
    refine ⟨hreached, ?_, ?_, hgone⟩
    · rw [hstage] at hslots
      exact hslots
    · intro hphase
      exact absurd (hstage.symm.trans (hjoined hphase)) (by simp)
  | @closed net hstage hnet =>
    refine ⟨hreach hnet, ?_, fun _ => hstage, fun hphase => absurd hphase (by simp)⟩
    have hlive := net_step_live hnet
    show s.slots + s.loop.stage.held + net.conns.countP _ = _
    simp only [NetEvent.frees, NetEvent.spawns] at hlive
    omega
  | @forced net hphase hnet =>
    have hlive := net_step_live hnet
    refine ⟨hreach hnet, ?_, fun _ => hjoined (by simp [hphase]),
      fun hphase => absurd hphase (by simp)⟩
    show s.slots + s.loop.stage.held + net.conns.countP _ = _
    simp only [NetEvent.frees, NetEvent.spawns] at hlive
    omega
  | returned hphase hall =>
    refine ⟨hreached, hslots, fun _ => hjoined ?_, fun _ => hall⟩
    rcases hphase with hphase | hphase <;> simp [hphase]

theorem serverMachine_inv {config : RouterConfig} {listeners : Nat} {s : Server}
    (h : (serverMachine config listeners).Reachable s) : ServerInv config s := by
  have hinit : ∀ {s}, (serverMachine config listeners).init s → ServerInv config s := by
    intro s hinit
    rw [show s = .new config from hinit]
    exact ⟨.init rfl, rfl, fun hphase => absurd rfl hphase,
      fun hphase => absurd hphase (by simp [Server.new])⟩
  have hstep : ∀ {event s s'}, ServerInv config s →
      (serverMachine config listeners).step event s = some s' → ServerInv config s' :=
    fun inv h => inv.step (Server.step_cases h)
  exact h.invariant hinit hstep

/-- When `serve` has returned, every slot is back. -/
theorem ServerInv.slots_returned {config : RouterConfig} {s : Server} (inv : ServerInv config s)
    (hphase : s.phase = .returned) : s.slots = config.maxConnections := by
  have hgone := inv.gone hphase
  have hexited := inv.joined (by simp [hphase])
  have hnone : s.net.conns.countP Connection.live = 0 := by
    rw [List.countP_eq_zero]
    intro c hmem
    simp [Connection.live, hgone c hmem]
  have hslots := inv.slots
  rw [hexited, hnone] at hslots
  exact hslots

-- ---------------------------------------------------------------------------
-- Slots and books
-- ---------------------------------------------------------------------------

/-- The slots and the books of `serve`. -/
structure Accounts (config : RouterConfig) (listeners : Nat) (s : Server) : Prop where
  /-- Free slots, the one that the accept loop may hold and the live tasks. -/
  slots    : s.slots + s.loop.stage.held + s.net.conns.countP Connection.live =
    config.maxConnections
  held     : s.loop.stage.held ≤ 1
  /-- Never more connections are open than there are slots. -/
  gauge    : s.net.metrics.countP (fun report => report.2.opens) ≤
    s.net.metrics.countP (fun report => report.2.closes) + config.maxConnections
  /-- A connection that has reported its opening has since reported routine only,
  and at its close, once, the bytes of all its stages and its outcome. -/
  books    : ∀ (i : Nat) c, s.net.conns[i]? = some c →
    .connectionOpened ∈ reports i s.net.metrics →
    ∃ routine : List MetricEvent, (∀ e ∈ routine, e.routine = true) ∧
      reports i s.net.metrics = .connectionOpened :: routine ++
        if c.stage.filed then c.finalReport else []
  /-- When the slot is released the close has been reported. -/
  ordered  : ∀ i s', Server.step config listeners (.conn i .releaseSlot) s = some s' →
    .connectionOpened ∈ reports i s.net.metrics →
    ∃ outcome, .connectionClosed outcome ∈ reports i s.net.metrics
  unopened : ∀ i, .connectionOpened ∉ reports i s.net.metrics → reports i s.net.metrics = []
  /-- When `serve` returns, all is closed and no task is alive. -/
  returned : s.phase = .returned →
    s.net.metrics.countP (fun report => report.2.opens) =
      s.net.metrics.countP (fun report => report.2.closes) ∧
    ∀ c ∈ s.net.conns, c.stage = .gone

/-- A connection that is not alive has filed its report. -/
theorem Connection.filed_of_not_live {c : Connection} (h : c.live = false) :
    c.stage.filed = true := by
  unfold live at h
  cases hstage : c.stage with
  | released | gone => rfl
  | _ =>
    rw [hstage] at h
    exact absurd h (by simp)

/-- Open connections are alive. -/
theorem opened_le (conns : List Connection) :
    conns.countP Connection.opened ≤
      conns.countP Connection.filed + conns.countP Connection.live := by
  induction conns with
  | nil => exact Nat.le_refl _
  | cons c conns ih =>
    have hone : (if c.opened then 1 else 0) ≤
        (if c.filed then 1 else 0) + (if c.live then 1 else 0) := by
      cases hlive : c.live with
      | true =>
        rw [if_pos rfl]
        split_ifs <;> omega
      | false =>
        unfold Connection.filed
        rw [Connection.filed_of_not_live hlive, Bool.and_true]
        exact Nat.le_add_right ..
    simp only [List.countP_cons]
    omega

/-- The reports of a connection that has reported its opening. -/
theorem serve_books {config : RouterConfig} {s : Server} (inv : ServerInv config s) (i : Nat)
    (c : Connection) (hc : s.net.conns[i]? = some c)
    (hopened : .connectionOpened ∈ reports i s.net.metrics) :
    ∃ routine : List MetricEvent, (∀ e ∈ routine, e.routine = true) ∧
      reports i s.net.metrics = .connectionOpened :: routine ++
        if c.stage.filed then c.finalReport else [] := by
  have hbooked := (netMachine_books inv.reached).booked i c hc
  unfold Connection.Booked at hbooked
  by_cases hc' : c.opened = true
  · rw [if_pos hc'] at hbooked
    obtain ⟨routine, hroutine, heq⟩ := hbooked
    rw [Connection.closingEvents_eq ((netMachine_faithful inv.reached) i c hc).metered] at heq
    exact ⟨routine, hroutine, heq⟩
  · rw [if_neg hc'] at hbooked
    rw [hbooked] at hopened
    exact absurd hopened (by simp)

/-- **Connection accounting and slot conservation.** In every run of `serve`, on
any number of listeners, whatever is accepted, however its connections end and
whenever it is shut down. -/
theorem serve_accounting {config : RouterConfig} {listeners : Nat} {es : List ServerEvent}
    {s : Server} (hrun : (serverMachine config listeners).run es (.new config) = some s) :
    Accounts config listeners s := by
  have inv := serverMachine_inv ⟨.new config, es, rfl, hrun⟩
  have books := netMachine_books inv.reached
  refine ⟨inv.slots, ?_, ?_, ?_, ?_, ?_, ?_⟩
  · unfold AcceptStage.held
    split <;> omega
  · have hle := opened_le s.net.conns
    have hslots := inv.slots
    rw [books.opened, books.closed]
    omega
  · exact serve_books inv
  · intro i s' hstep hopened
    obtain ⟨net, hnet, -⟩ := Option.map_eq_some_iff.mp
      (show (s.net.step config (.conn i .releaseSlot)).map _ = some s' from hstep)
    cases Net.step_cases hnet with
    | @conn _ _ c _ _ _ hconn hmove =>
      cases hmove with
      | releaseSlot hstage =>
        obtain ⟨routine, -, heq⟩ := serve_books inv i c hconn hopened
        rw [hstage, if_pos (show Stage.closed.filed = true from rfl)] at heq
        refine ⟨c.outcome.getD .aborted, ?_⟩
        rw [heq]
        exact List.mem_append_right _ (List.mem_append_right _ (List.mem_singleton_self _))
  · intro i hunopened
    cases hc : s.net.conns[i]? with
    | none => exact books.absent i hc
    | some c =>
      have hbooked := books.booked i c hc
      unfold Connection.Booked at hbooked
      by_cases hc' : c.opened = true
      · rw [if_pos hc'] at hbooked
        obtain ⟨routine, -, heq⟩ := hbooked
        rw [heq] at hunopened
        exact absurd hunopened (by simp)
      · rw [if_neg hc'] at hbooked
        exact hbooked
  · intro hphase
    have hgone := inv.gone hphase
    refine ⟨?_, hgone⟩
    rw [books.opened, books.closed]
    refine List.countP_congr ?_
    intro c hc
    unfold Connection.filed
    rw [hgone c hc]
    simp [Stage.filed]

/-- Two clients on two listeners: one is cancelled by the shutdown, the other
aborted after three bytes; a third accept fails. -/
theorem serve_accounting_at :
    ∃ (es : List ServerEvent) (s : Server),
      (serverMachine .default 2).run es (.new .default) = some s ∧ s.phase = .returned ∧
      reports 1 s.net.metrics =
        [.connectionOpened, .bytesRead 3, .connectionClosed .aborted] ∧
      Accounts .default 2 s := by
  let es : List ServerEvent := [.poll, .acquire, .poll, .accept [none, some (.stream [])],
    .conn 0 .start, .poll, .acquire, .poll, .accept [some (.stream [22, 3, 1, 0]), none],
    .conn 1 .start, .conn 1 .poll, .conn 1 (.work (.read 3)),
    .poll, .acquire, .poll, .accept [some .error, some .error], .shutdown, .conn 1 .abort,
    .pauseAbandoned, .conn 1 .closeBooks, .conn 1 .releaseSlot, .conn 1 .exit, .close,
    .conn 0 .poll, .conn 0 .closeBooks, .conn 0 .releaseSlot, .conn 0 .exit, .drained]
  obtain ⟨s, hrun, hends⟩ : ∃ s, (serverMachine .default 2).run es (.new .default) = some s ∧
      (s.phase, reports 1 s.net.metrics) =
        (.returned, [.connectionOpened, .bytesRead 3, .connectionClosed .aborted]) :=
    Option.map_eq_some_iff.mp (by decide +kernel)
  injection hends with hphase hreports
  exact ⟨es, s, hrun, hphase, hreports, serve_accounting hrun⟩

end SniRouter
