import SniRouter.Delivery.Net

/-!
# SniRouter — the control flow of a connection

What the stage of a connection says about its pass and its outcome, and how
single events change them.

* `Connection.Control` — pass and outcome by stage; `Control.step` keeps it.
* `Stepped.holdsPass` / `Stepped.proxied` — passes come from the gate only.
* `Connection.decided` — the outcome a connection has, or is about to return.
* `Connection.Doomed` — a connection that a closed gate leaves nothing but its
  cancellation.
-/

namespace SniRouter

open Framing Table

/-- The outcomes of a connection that proxied. -/
def ConnectionOutcome.afterGate : ConnectionOutcome → Bool
  | .proxied | .proxyError | .idleTimeout | .shutdownForced => true
  | _ => false

/-- The outcomes of a connection that ended before the gate. -/
def ConnectionOutcome.beforeGate : ConnectionOutcome → Bool
  | .proxied | .proxyError | .idleTimeout | .shutdownForced | .aborted => false
  | _ => true

/-- `run` is over. -/
def Stage.over : Stage → Bool
  | .returned | .closed | .released | .gone => true
  | _ => false

/-- A cancelled alert still returns the outcome it was written for. -/
theorem Stage.onCancel_eq {stage : Stage} {outcome : ConnectionOutcome}
    (h : stage.onCancel = some outcome) :
    stage.over = false ∧
      (outcome = .shutdownCancelled ∨ ∃ unsent, stage = .alert outcome unsent) := by
  cases stage with
  | hello _ | lookup _ _ | connect _ _ _ =>
    injection h with h
    exact ⟨rfl, .inl h.symm⟩
  | alert outcome' unsent =>
    injection h with h
    exact ⟨rfl, .inr ⟨unsent, congrArg (Stage.alert · unsent) h⟩⟩
  | _ => exact absurd h (by simp [onCancel])

/-- The handshake is not over. -/
theorem Stage.not_over_of_handshaking {stage : Stage} (h : stage.handshaking = true) :
    stage.over = false := by
  cases stage with
  | returned | closed | released | gone => exact absurd h (by simp [handshaking])
  | _ => rfl

/-- Only the handshake ends at a cancellation. -/
theorem Stage.handshaking_of_onCancel {stage : Stage} {outcome : ConnectionOutcome}
    (h : stage.onCancel = some outcome) : stage.handshaking = true := by
  cases stage with
  | hello _ | alert _ _ | lookup _ _ | connect _ _ _ => rfl
  | _ => exact absurd h (by simp [onCancel])

namespace Connection

/-- Work is done in a poll that found no cancellation. -/
theorem step_work (config : RouterConfig) (gate : ProxyGate) (force : Bool) (c : Connection)
    (event : WorkEvent) :
    c.step config gate force (.work event) =
      if c.checked then
        (c.work config event).map fun (c, events) => (c, gate, events)
      else none := by
  unfold step
  split <;> simp_all

/-- What a task does while it is polled, its future does. -/
theorem work_of_step {config : RouterConfig} {gate gate' : ProxyGate} {force : Bool}
    {c c' : Connection} {event : WorkEvent} {events : List MetricEvent}
    (h : c.step config gate force (.work event) = some (c', gate', events)) :
    c.work config event = some (c', events) := by
  rw [step_work] at h
  split_ifs at h
  obtain ⟨⟨c'', events'⟩, hwork, heq⟩ := Option.map_eq_some_iff.mp h
  cases heq
  exact hwork

/-- The connection holds a pass of the gate. -/
def holdsPass (c : Connection) : Bool :=
  match c.stage with
  | .proxying _ | .leaving _ => true
  | _ => false

/-- Pass and outcome by stage. -/
def Control (c : Connection) : Prop :=
  match c.stage with
  | .spawned | .hello _ | .lookup _ _ | .connect _ _ _ | .entering =>
    c.proxied = false ∧ c.outcome = none
  | .alert outcome _ =>
    c.proxied = false ∧ c.outcome = none ∧ outcome.beforeGate = true
  | .proxying _ => c.proxied = true ∧ c.outcome = none
  | .leaving outcome =>
    c.proxied = true ∧ c.outcome = none ∧ ∀ o, outcome = some o → o.afterGate = true
  | .returned | .closed | .released | .gone =>
    ∀ o, c.outcome = some o → if c.proxied then o.afterGate = true else o.beforeGate = true

variable {config : RouterConfig} {gate gate' : ProxyGate} {force : Bool} {c c' : Connection}

/-- `run` returns without a pass. -/
theorem Control.finish (hpass : c.proxied = false) {outcome : ConnectionOutcome}
    (houtcome : outcome.beforeGate = true) : (c.finish outcome).Control := by
  intro o ho
  injection ho with ho
  rw [← ho, show (c.finish outcome).proxied = false from hpass]
  exact houtcome

/-- The proxy stage ends. -/
theorem Control.leave (hpass : c.proxied = true) (hrunning : c.outcome = none)
    {outcome : Option ConnectionOutcome}
    (houtcome : ∀ o, outcome = some o → o.afterGate = true) :
    (c.goto (.leaving outcome)).Control :=
  ⟨hpass, hrunning, houtcome⟩

theorem Control.spawn (client : Bytes) : (Connection.spawn client).Control :=
  ⟨rfl, rfl⟩

/-- In the handshake nothing is decided. -/
theorem Control.handshaking (h : c.Control) (hstage : c.stage.handshaking = true) :
    c.proxied = false ∧ c.outcome = none := by
  unfold Control at h
  cases hs : c.stage with
  | hello _ | lookup _ _ | connect _ _ _ | entering =>
    rw [hs] at h
    exact h
  | alert _ _ =>
    rw [hs] at h
    exact ⟨h.1, h.2.1⟩
  | _ =>
    rw [hs] at hstage
    exact absurd hstage (by simp [Stage.handshaking])

/-- Where a cancellation ends it, nothing is decided yet. -/
theorem Control.onCancel (h : c.Control) {outcome : ConnectionOutcome}
    (hcancel : c.stage.onCancel = some outcome) :
    c.proxied = false ∧ c.outcome = none ∧ outcome.beforeGate = true := by
  unfold Control at h
  cases hstage : c.stage with
  | hello reader =>
    rw [hstage] at h hcancel
    injection hcancel with hcancel
    exact ⟨h.1, h.2, hcancel ▸ rfl⟩
  | lookup buffered host =>
    rw [hstage] at h hcancel
    injection hcancel with hcancel
    exact ⟨h.1, h.2, hcancel ▸ rfl⟩
  | connect buffered backend dial =>
    rw [hstage] at h hcancel
    injection hcancel with hcancel
    exact ⟨h.1, h.2, hcancel ▸ rfl⟩
  | alert outcome' unsent =>
    rw [hstage] at h hcancel
    injection hcancel with hcancel
    exact ⟨h.1, h.2.1, hcancel ▸ h.2.2⟩
  | _ =>
    rw [hstage] at hcancel
    exact absurd hcancel (by simp [Stage.onCancel])

/-- Work keeps the control state. -/
theorem Control.worked {event : WorkEvent} {events : List MetricEvent} (h : c.Control)
    (hwork : Worked config c event c' events) : c'.Control := by
  unfold Control at h
  cases hwork with
  | read hstage | readError hstage | named hstage | alertWrite hstage | routed hstage
  | dialled hstage | connected hstage | setup hstage | copied hstage =>
    -- neither pass nor outcome is touched
    rw [hstage] at h
    exact h
  | noSni hstage | notFound hstage =>
    rw [hstage] at h
    exact ⟨h.1, h.2, rfl⟩
  | rejected hstage houtcome | lookupFailed hstage houtcome =>
    rw [hstage] at h
    exact .finish h.1 (by rcases houtcome with rfl | rfl <;> rfl)
  | helloTimeout hstage | dialFailed hstage | upstreamTimeout hstage =>
    rw [hstage] at h
    exact .finish h.1 rfl
  | alertEnd hstage =>
    rw [hstage] at h
    exact .finish h.1 h.2.2
  | idle hstage | finished hstage | error hstage =>
    rw [hstage] at h
    refine .leave h.1 h.2 ?_
    intro o ho
    injection ho with ho
    rw [← ho]
    rfl

/-- Every event of the task keeps pass and outcome in step with the stage. -/
theorem Control.step {event : ConnectionEvent} {events : List MetricEvent} (h : c.Control)
    (hstep : Stepped config gate force c event c' gate' events) : c'.Control := by
  cases hstep with
  | checked | pending => exact h
  | work _ hwork => exact h.worked hwork
  | cancelled _ hcancel _ =>
    obtain ⟨hpass, -, houtcome⟩ := h.onCancel hcancel
    exact .finish hpass houtcome
  | abandoned hstage =>
    obtain ⟨-, hrunning⟩ := h.handshaking hstage
    intro o ho
    exact absurd (hrunning.symm.trans ho) (by simp)
  | start hstage =>
    unfold Control at h
    rw [hstage] at h
    exact h
  | forced _ hstage =>
    unfold Control at h
    rw [hstage] at h
    refine .leave h.1 h.2 ?_
    intro o ho
    injection ho with ho
    rw [← ho]
    rfl
  | entered hstage =>
    unfold Control at h
    rw [hstage] at h
    exact ⟨rfl, h.2⟩
  | refused hstage =>
    unfold Control at h
    rw [hstage] at h
    exact .finish h.1 rfl
  | dropPass hstage =>
    unfold Control at h
    rw [hstage] at h
    intro o ho
    rw [show c.proxied = true from h.1]
    exact h.2.2 o ho
  | neverPolled hstage =>
    unfold Control at h
    rw [hstage] at h
    intro o ho
    exact absurd (h.2.symm.trans ho) (by simp)
  | torn hstage =>
    unfold Control at h
    rw [hstage] at h
    exact .leave h.1 h.2 fun o ho => absurd ho (by simp)
  | closeBooks hstage | releaseSlot hstage | exit hstage =>
    unfold Control at h
    rw [hstage] at h
    exact h

-- ---------------------------------------------------------------------------
-- Passes
-- ---------------------------------------------------------------------------

/-- The future of a stage neither gets nor drops a pass. -/
theorem Worked.holdsPass {event : WorkEvent} {events : List MetricEvent}
    (hwork : Worked config c event c' events) :
    c'.holdsPass = c.holdsPass ∧ c'.proxied = c.proxied := by
  cases hwork with
  | read hstage | readError hstage | rejected hstage | noSni hstage | named hstage
  | helloTimeout hstage | alertWrite hstage | alertEnd hstage | routed hstage | notFound hstage
  | lookupFailed hstage | dialled hstage | dialFailed hstage | upstreamTimeout hstage
  | connected hstage | setup hstage | copied hstage | idle hstage | finished hstage
  | error hstage =>
    refine ⟨?_, rfl⟩
    simp only [Connection.holdsPass, hstage, Connection.finish, Connection.goto]

/-- Before the gate there is no pass. -/
theorem holdsPass_of_onCancel (h : c.stage.onCancel.isSome) : c.holdsPass = false := by
  unfold Connection.holdsPass
  cases hstage : c.stage with
  | proxying _ | leaving _ =>
    rw [hstage] at h
    exact absurd h (by simp [Stage.onCancel])
  | _ => rfl

/-- In the handshake there is no pass. -/
theorem holdsPass_of_handshaking (h : c.stage.handshaking = true) : c.holdsPass = false := by
  unfold Connection.holdsPass
  cases hstage : c.stage with
  | proxying _ | leaving _ =>
    rw [hstage] at h
    exact absurd h (by simp [Stage.handshaking])
  | _ => rfl

/-- A pass is granted by the gate, dropped at the gate, or not touched. -/
theorem Stepped.holdsPass {event : ConnectionEvent} {events : List MetricEvent}
    (hstep : Stepped config gate force c event c' gate' events) :
    (gate' = gate ∧ c'.holdsPass = c.holdsPass) ∨
      (c.holdsPass = false ∧ c'.holdsPass = true ∧ gate.enter = some gate') ∨
      (c.holdsPass = true ∧ c'.holdsPass = false ∧ gate' = gate.dropPass) := by
  cases hstep with
  | checked | pending => exact .inl ⟨rfl, rfl⟩
  | work _ hwork => exact .inl ⟨rfl, hwork.holdsPass.1⟩
  | cancelled _ hcancel =>
    have hpass : c.holdsPass = false := holdsPass_of_onCancel (by rw [hcancel]; rfl)
    exact .inl ⟨rfl, hpass.symm⟩
  | abandoned hstage =>
    exact .inl ⟨rfl, (holdsPass_of_handshaking hstage).symm⟩
  | start hstage | neverPolled hstage | closeBooks hstage | releaseSlot hstage | exit hstage
  | refused hstage | forced _ hstage | torn hstage =>
    refine .inl ⟨rfl, ?_⟩
    simp only [Connection.holdsPass, hstage, Connection.finish, Connection.goto]
  | entered hstage henter =>
    refine .inr (.inl ⟨?_, rfl, henter⟩)
    unfold Connection.holdsPass
    rw [hstage]
  | dropPass hstage =>
    refine .inr (.inr ⟨?_, rfl, rfl⟩)
    unfold Connection.holdsPass
    rw [hstage]

/-- No connection closes or opens the gate. -/
theorem Stepped.signals {event : ConnectionEvent} {events : List MetricEvent}
    (hstep : Stepped config gate force c event c' gate' events) :
    gate'.closed = gate.closed ∧ gate'.cancelled = gate.cancelled := by
  rcases hstep.holdsPass with ⟨rfl, -⟩ | ⟨-, -, henter⟩ | ⟨-, -, rfl⟩
  · exact ⟨rfl, rfl⟩
  · unfold ProxyGate.enter at henter
    split_ifs at henter
    injection henter with henter
    exact henter ▸ ⟨rfl, rfl⟩
  · exact ⟨rfl, rfl⟩

/-- A connection proxies exactly if it enters while the gate is open. -/
theorem Stepped.proxied {event : ConnectionEvent} {events : List MetricEvent}
    (hstep : Stepped config gate force c event c' gate' events) :
    c'.proxied = true ↔ c.proxied = true ∨ (event = .enter ∧ gate.closed = false) := by
  cases hstep with
  | entered _ henter =>
    unfold ProxyGate.enter at henter
    split_ifs at henter with hclosed
    simp [hclosed]
  | refused _ henter =>
    unfold ProxyGate.enter at henter
    split_ifs at henter with hclosed
    simp [hclosed, Connection.finish]
  | work _ hwork =>
    rw [hwork.holdsPass.2]
    simp
  | _ => simp [Connection.finish, Connection.goto]

/-- The outcome is or is about to be that of a forced shutdown. -/
def Forced (c : Connection) : Prop :=
  c.outcome = some .shutdownForced ∨ c.stage = .leaving (some .shutdownForced)

/-- An outcome from before the gate is not forced. -/
theorem not_forced_finish {outcome : ConnectionOutcome} (h : outcome.beforeGate = true) :
    ¬ (c.finish outcome).Forced := by
  intro hforced
  rcases hforced with hforced | hforced
  · injection hforced with hforced
    rw [hforced] at h
    exact absurd h (by decide)
  · exact absurd hforced (by simp [finish])

/-- Work forces no connection. -/
theorem Worked.not_forced {event : WorkEvent} {events : List MetricEvent} (h : c.Control)
    (hwork : Worked config c event c' events) : ¬ c'.Forced := by
  unfold Control at h
  cases hwork with
  | read hstage | readError hstage | named hstage | alertWrite hstage | routed hstage
  | dialled hstage | connected hstage | setup hstage | copied hstage | noSni hstage
  | notFound hstage | idle hstage | finished hstage | error hstage =>
    rw [hstage] at h
    simp [Forced, goto, h]
  | rejected hstage houtcome | lookupFailed hstage houtcome =>
    exact not_forced_finish (by rcases houtcome with rfl | rfl <;> rfl)
  | helloTimeout | dialFailed | upstreamTimeout => exact not_forced_finish rfl
  | alertEnd hstage =>
    rw [hstage] at h
    exact not_forced_finish h.2.2

/-- Only the force token, when it has fired, forces a connection out. -/
theorem Stepped.of_forced {event : ConnectionEvent} {events : List MetricEvent} (h : c.Control)
    (hstep : Stepped config gate force c event c' gate' events) (hforced : c'.Forced) :
    c.Forced ∨ force = true := by
  cases hstep with
  | checked | pending => exact .inl hforced
  | neverPolled | abandoned | torn | closeBooks | releaseSlot | exit | start | entered =>
    rcases hforced with hforced | hforced
    · exact .inl (.inl hforced)
    · exact absurd hforced (by simp [goto])
  | work _ hwork => exact absurd hforced (hwork.not_forced h)
  | cancelled _ hcancel => exact absurd hforced (not_forced_finish (h.onCancel hcancel).2.2)
  | refused => exact absurd hforced (not_forced_finish rfl)
  | forced _ _ hforce => exact .inr hforce
  | dropPass hstage =>
    rcases hforced with hforced | hforced
    · exact .inl (.inr (hstage.trans (congrArg Stage.leaving hforced)))
    · exact absurd hforced (by simp)

-- ---------------------------------------------------------------------------
-- After close
-- ---------------------------------------------------------------------------

/-- The outcome a connection has, or will have unless it is aborted. -/
def decided (c : Connection) : Option ConnectionOutcome :=
  match c.stage with
  | .alert outcome _ => some outcome
  | _ => c.outcome

/-- `run` was dropped and has no outcome. -/
def Dropped (c : Connection) : Prop :=
  c.outcome = none ∧ c.stage.over = true

/-- Without a pass, without a poll under way and with nothing decided but a
cancellation. -/
structure Doomed (c : Connection) : Prop where
  noPass    : c.proxied = false
  parked    : c.checked = false
  undecided : ∀ o, c.decided = some o → o = .shutdownCancelled

/-- A connection with a pass has been proxied. -/
theorem Control.proxying (h : c.Control) (hstage : c.holdsPass = true) : c.proxied = true := by
  unfold Control at h
  unfold holdsPass at hstage
  cases hs : c.stage with
  | proxying _ | leaving _ =>
    rw [hs] at h
    exact h.1
  | _ =>
    rw [hs] at hstage
    exact absurd hstage (by simp)

/-- Once the gate is closed a doomed connection is cancelled or dropped. -/
theorem Doomed.step {event : ConnectionEvent} {events : List MetricEvent} (h : c.Control)
    (hdoomed : c.Doomed) (hclosed : gate.closed = true) (hcancelled : gate.cancelled = true)
    (hstep : Stepped config gate force c event c' gate' events) : c'.Doomed := by
  obtain ⟨hpass, hparked, hundecided⟩ := hdoomed
  have hnopass : c.holdsPass = false := by
    by_contra hholds
    rw [h.proxying (Bool.eq_true_of_not_eq_false hholds)] at hpass
    exact absurd hpass (by simp)
  cases hstep with
  | pending hchecked | work hchecked =>
    rw [hparked] at hchecked
    exact absurd hchecked (by simp)
  | checked _ hwhy =>
    rcases hwhy with ⟨-, hopen⟩ | ⟨copy, hstage⟩
    · rw [hcancelled] at hopen
      exact absurd hopen (by simp)
    · rw [holdsPass, hstage] at hnopass
      exact absurd hnopass (by simp)
  | forced _ hstage | torn hstage | dropPass hstage =>
    rw [holdsPass, hstage] at hnopass
    exact absurd hnopass (by simp)
  | entered _ henter =>
    rw [ProxyGate.enter, if_pos hclosed] at henter
    exact absurd henter (by simp)
  | cancelled _ hcancel =>
    refine ⟨hpass, rfl, ?_⟩
    intro o ho
    injection ho with ho
    subst ho
    rcases (Stage.onCancel_eq hcancel).2 with hshut | ⟨unsent, hstage⟩
    · exact hshut
    · exact hundecided _ (by rw [decided, hstage])
  | refused =>
    refine ⟨hpass, rfl, ?_⟩
    intro o ho
    injection ho with ho
    exact ho.symm
  | abandoned hstage =>
    refine ⟨hpass, rfl, ?_⟩
    intro o ho
    exact absurd ((h.handshaking hstage).2.symm.trans ho) (by simp)
  | start hstage =>
    refine ⟨hpass, hparked, ?_⟩
    intro o ho
    exact hundecided o (by rw [decided, hstage]; exact ho)
  | neverPolled hstage | closeBooks hstage | releaseSlot hstage | exit hstage =>
    refine ⟨hpass, rfl, ?_⟩
    intro o ho
    exact hundecided o (by rw [decided, hstage]; exact ho)

/-- The futures of the stages are done when `run` is over. -/
theorem Worked.not_over {event : WorkEvent} {events : List MetricEvent}
    (hwork : Worked config c event c' events) : c.stage.over = false := by
  cases hwork with
  | read hstage | readError hstage | rejected hstage | noSni hstage | named hstage
  | helloTimeout hstage | alertWrite hstage | alertEnd hstage | routed hstage | notFound hstage
  | lookupFailed hstage | dialled hstage | dialFailed hstage | upstreamTimeout hstage
  | connected hstage | setup hstage | copied hstage | idle hstage | finished hstage
  | error hstage =>
    rw [hstage]
    rfl

/-- When `run` is over its outcome stays. -/
theorem Stepped.over {event : ConnectionEvent} {events : List MetricEvent}
    (hover : c.stage.over = true)
    (hstep : Stepped config gate force c event c' gate' events) :
    c'.stage.over = true ∧ c'.outcome = c.outcome := by
  cases hstep with
  | pending | checked => exact ⟨hover, rfl⟩
  | closeBooks | releaseSlot | exit => exact ⟨rfl, rfl⟩
  | work _ hwork =>
    rw [hwork.not_over] at hover
    exact absurd hover (by simp)
  | cancelled _ hcancel =>
    rw [(Stage.onCancel_eq hcancel).1] at hover
    exact absurd hover (by simp)
  | abandoned hstage =>
    rw [Stage.not_over_of_handshaking hstage] at hover
    exact absurd hover (by simp)
  | start hstage | forced _ hstage | entered hstage | refused hstage | dropPass hstage
  | neverPolled hstage | torn hstage =>
    rw [hstage] at hover
    exact absurd hover (by simp [Stage.over])

/-- An alert keeps its outcome until it returns it or is aborted. -/
theorem Stepped.alert {event : ConnectionEvent} {events : List MetricEvent}
    {outcome : ConnectionOutcome} {unsent : Bytes} (h : c.Control)
    (hstage : c.stage = .alert outcome unsent)
    (hstep : Stepped config gate force c event c' gate' events) :
    c'.decided = some outcome ∨ c'.Dropped := by
  cases hstep with
  | pending | checked => exact .inl (by rw [decided, hstage])
  | cancelled _ hcancel =>
    rw [hstage] at hcancel
    injection hcancel with hcancel
    exact .inl (congrArg some hcancel.symm)
  | abandoned hhandshaking => exact .inr ⟨(h.handshaking hhandshaking).2, rfl⟩
  | work _ hwork =>
    cases hwork with
    | alertWrite hstage' =>
      rw [hstage] at hstage'
      injection hstage' with houtcome _
      exact .inl (congrArg some houtcome.symm)
    | alertEnd hstage' =>
      rw [hstage] at hstage'
      injection hstage' with houtcome _
      exact .inl (congrArg some houtcome.symm)
    | read hstage' | readError hstage' | rejected hstage' | noSni hstage' | named hstage'
    | helloTimeout hstage' | routed hstage' | notFound hstage' | lookupFailed hstage'
    | dialled hstage' | dialFailed hstage' | upstreamTimeout hstage' | connected hstage'
    | setup hstage' | copied hstage' | idle hstage' | finished hstage' | error hstage' =>
      exact absurd (hstage.symm.trans hstage') (by simp)
  | start hstage' | forced _ hstage' | entered hstage' | refused hstage' | dropPass hstage'
  | neverPolled hstage' | torn hstage' | closeBooks hstage' | releaseSlot hstage'
  | exit hstage' => exact absurd (hstage.symm.trans hstage') (by simp)

/-- While `run` goes on and no alert is sent, nothing is decided. -/
theorem Control.over_of_outcome (h : c.Control) {outcome : ConnectionOutcome}
    (houtcome : c.outcome = some outcome) : c.stage.over = true := by
  unfold Control at h
  cases hstage : c.stage with
  | returned | closed | released | gone => rfl
  | alert _ _ | leaving _ =>
    rw [hstage] at h
    exact absurd (h.2.1.symm.trans houtcome) (by simp)
  | _ =>
    rw [hstage] at h
    exact absurd (h.2.symm.trans houtcome) (by simp)

/-- The outcome tells whether the connection was proxied. -/
theorem Control.outcome (h : c.Control) {o : ConnectionOutcome}
    (ho : c.outcome = some o) :
    if c.proxied then o.afterGate = true else o.beforeGate = true := by
  have hover := h.over_of_outcome ho
  unfold Control at h
  cases hstage : c.stage with
  | returned | closed | released | gone =>
    rw [hstage] at h
    exact h o ho
  | _ =>
    rw [hstage] at hover
    exact absurd hover (by simp [Stage.over])

/-- When all is over, what was decided is the outcome. -/
theorem decided_of_over (h : c.stage.over = true) : c.decided = c.outcome := by
  unfold decided
  split
  · next hstage =>
    rw [hstage] at h
    exact absurd h (by simp [Stage.over])
  · rfl

/-- An outcome is decided in the alert stage or is there. -/
theorem decided_cases {outcome : ConnectionOutcome} (h : c.decided = some outcome) :
    (∃ unsent, c.stage = .alert outcome unsent) ∨ c.outcome = some outcome := by
  unfold decided at h
  split at h
  · next hstage =>
    injection h with h
    exact .inl ⟨_, h ▸ hstage⟩
  · exact .inr h

/-- What is decided stays decided, unless the task is aborted. -/
theorem decided_step {event : ConnectionEvent} {events : List MetricEvent} (h : c.Control)
    (hstep : Stepped config gate force c event c' gate' events) {outcome : ConnectionOutcome}
    (hdecided : c.decided = some outcome ∨ c.Dropped) :
    c'.decided = some outcome ∨ c'.Dropped := by
  rcases hdecided with hdecided | ⟨hnone, hover⟩
  · rcases decided_cases hdecided with ⟨unsent, hstage⟩ | houtcome
    · exact hstep.alert h hstage
    · obtain ⟨hover, hkept⟩ := hstep.over (h.over_of_outcome houtcome)
      exact .inl ((decided_of_over hover).trans (hkept.trans houtcome))
  · obtain ⟨hover, hkept⟩ := hstep.over hover
    exact .inr ⟨hkept.trans hnone, hover⟩

end Connection

end SniRouter
