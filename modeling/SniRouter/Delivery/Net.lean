import SniRouter.Delivery.Connection
import SniRouter.Lib.Table

/-!
# SniRouter — connections sharing a gate

Any number of connections with the gate, the force token and the metrics they
share. A run is any interleaving of their events with `close` and with the
cancellation of the force token.

* `netMachine` — the machine.
* `netMachine_forall` — what every connection keeps to itself, all of them do.
-/

namespace SniRouter

open Framing Table

/-- All connections with the gate and the tokens they share. -/
structure Net where
  gate    : ProxyGate
  /-- The force token is cancelled. -/
  force   : Bool
  conns   : List Connection
  /-- Everything reported so far, with the connection that reported it. -/
  metrics : List (Nat × MetricEvent)

/-- What happens to the connections. -/
inductive NetEvent where
  /-- A connection whose client sends `client` is accepted and spawned. -/
  | accept (client : Bytes)
  | conn (i : Nat) (event : ConnectionEvent)
  | close
  | force

namespace Net

/-- No connection yet. -/
def new : Net := ⟨.new, false, [], []⟩

/-- The step relation; `none` is an event that cannot happen. -/
def step (config : RouterConfig) (event : NetEvent) (s : Net) : Option Net :=
  match event with
  | .accept client => some { s with conns := s.conns ++ [.spawn client] }
  | .conn i event =>
    (s.conns[i]?).bind fun c =>
      (c.step config s.gate s.force event).map fun (c, gate, events) =>
        { s with
          gate := gate
          conns := s.conns.set i c
          metrics := s.metrics ++ events.map fun event => (i, event) }
  | .close => some { s with gate := s.gate.close.2 }
  | .force => some { s with force := true }

/-- All that one event can do. -/
inductive Stepped (config : RouterConfig) (s : Net) : NetEvent → Net → Prop where
  | accept {client} :
      Stepped config s (.accept client) { s with conns := s.conns ++ [.spawn client] }
  | conn {i event c c' gate events} (hconn : s.conns[i]? = some c)
      (hstep : Connection.Stepped config s.gate s.force c event c' gate events) :
      Stepped config s (.conn i event)
        { s with
          gate := gate
          conns := s.conns.set i c'
          metrics := s.metrics ++ events.map fun event => (i, event) }
  | close : Stepped config s .close { s with gate := s.gate.close.2 }
  | force : Stepped config s .force { s with force := true }

/-- An event that happens, case by case. -/
theorem step_cases {config : RouterConfig} {event : NetEvent} {s s' : Net}
    (h : step config event s = some s') : Stepped config s event s' := by
  cases event with
  | accept client =>
    cases h
    exact .accept
  | conn i event =>
    obtain ⟨c, hconn, h⟩ := Option.bind_eq_some_iff.mp h
    obtain ⟨⟨c', gate, events⟩, hstep, rfl⟩ := Option.map_eq_some_iff.mp h
    exact .conn hconn (Connection.step_cases hstep)
  | close =>
    cases h
    exact .close
  | force =>
    cases h
    exact .force

end Net

/-- The connections under any interleaving. -/
def netMachine (config : RouterConfig) : Machine Net NetEvent where
  init s := s = .new
  step   := Net.step config

/-- Every connection satisfies `P`. -/
def Net.Forall (P : Connection → Prop) (s : Net) : Prop :=
  ∀ (i : Nat) c, s.conns[i]? = some c → P c

/-- What holds of new connections and is kept by their events holds of all. -/
theorem Net.Forall.step {config : RouterConfig} {P : Connection → Prop}
    (hspawn : ∀ client, P (.spawn client))
    (hstep : ∀ {gate force event c c' gate' events}, P c →
      Connection.Stepped config gate force c event c' gate' events → P c')
    {event : NetEvent} {s s' : Net} (hall : s.Forall P) (h : Net.step config event s = some s') :
    s'.Forall P := by
  cases Net.step_cases h with
  | accept =>
    intro i c hc
    rcases lookup_append_cases hc with ⟨-, rfl⟩ | hold
    · exact hspawn _
    · exact hall i c hold
  | conn hconn hmove =>
    intro j c hc
    rcases lookup_set_cases hconn hc with ⟨-, rfl⟩ | ⟨-, hold⟩
    · exact hstep (hall _ _ hconn) hmove
    · exact hall j c hold
  | close => exact hall
  | force => exact hall

/-- A property of connections that holds of new ones and that their own events
keep holds of all connections, at all times. -/
theorem netMachine_forall {config : RouterConfig} {P : Connection → Prop}
    (hspawn : ∀ client, P (.spawn client))
    (hstep : ∀ {gate force event c c' gate' events}, P c →
      Connection.Stepped config gate force c event c' gate' events → P c')
    {s : Net} (h : (netMachine config).Reachable s) : s.Forall P := by
  have hinit : ∀ {s}, (netMachine config).init s → s.Forall P := by
    intro s hinit i c hc
    rw [show s = .new from hinit] at hc
    exact absurd hc (by simp [Net.new])
  have hmove : ∀ {event s s'}, s.Forall P → (netMachine config).step event s = some s' →
      s'.Forall P := fun hall h => hall.step hspawn hstep h
  exact h.invariant hinit hmove

end SniRouter
