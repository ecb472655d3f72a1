import SniRouter.Delivery.Forwarding

/-!
# SniRouter — the books of a connection

What a connection reports, from its opening to its close record, which reports
the bytes and the outcome when it is dropped.

* `reports` — what one connection has reported.
* `Stepped.reported` — all that one event can report.
* `Connection.Booked` — the reports of a connection, by stage.
* `NetBooks` — the books of every connection, and their totals.
-/

namespace SniRouter

open Table

/-- What is reported between the opening and the close of a connection. -/
def MetricEvent.routine : MetricEvent → Bool
  | .routeLookup _ | .upstreamConnect _ => true
  | _ => false

/-- The event that opens a connection. -/
def MetricEvent.opens : MetricEvent → Bool
  | .connectionOpened => true
  | _ => false

/-- The event that closes one. -/
def MetricEvent.closes : MetricEvent → Bool
  | .connectionClosed _ => true
  | _ => false

/-- What is routine neither opens nor closes. -/
theorem MetricEvent.not_of_routine {events : List MetricEvent}
    (h : ∀ e ∈ events, e.routine = true) :
    events.countP MetricEvent.opens = 0 ∧ events.countP MetricEvent.closes = 0 := by
  refine ⟨List.countP_eq_zero.mpr ?_, List.countP_eq_zero.mpr ?_⟩
  · intro e he
    cases e with
    | connectionOpened => exact absurd (h _ he) (by simp [MetricEvent.routine])
    | _ => simp [MetricEvent.opens]
  · intro e he
    cases e with
    | connectionClosed _ => exact absurd (h _ he) (by simp [MetricEvent.routine])
    | _ => simp [MetricEvent.closes]

/-- What connection `i` has reported. -/
def reports (i : Nat) (metrics : List (Nat × MetricEvent)) : List MetricEvent :=
  (metrics.filter fun report => report.1 = i).map Prod.snd

theorem reports_append (i : Nat) (metrics metrics' : List (Nat × MetricEvent)) :
    reports i (metrics ++ metrics') = reports i metrics ++ reports i metrics' := by
  unfold reports
  rw [List.filter_append, List.map_append]

/-- The reports of one event, among those of all connections. -/
theorem reports_of (i j : Nat) (events : List MetricEvent) :
    reports i (events.map fun event => (j, event)) = if i = j then events else [] := by
  unfold reports
  rw [List.filter_map, List.map_map]
  by_cases hij : i = j
  · simp [hij, Function.comp_def]
  · simp [hij, Ne.symm hij, Function.comp_def]

/-- The close record is gone. -/
def Stage.filed : Stage → Bool
  | .closed | .released | .gone => true
  | _ => false

namespace Connection

/-- The close of the connection has been reported. -/
def filed (c : Connection) : Bool :=
  c.opened && c.stage.filed

/-- There is a close record from the first poll on. -/
def Recorded (c : Connection) : Prop :=
  match c.stage with
  | .spawned => c.opened = false
  | .closed | .released | .gone => True
  | _ => c.opened = true

/-- The final report: the bytes read from and written to the client, where there
were any, and the outcome. -/
def finalReport (c : Connection) : List MetricEvent :=
  let read := c.sockets.client.length - c.sockets.unread.length
  (if 0 < read then [.bytesRead read] else []) ++
    (if 0 < c.sockets.delivered then [.bytesWritten c.sockets.delivered] else []) ++
    [.connectionClosed (c.outcome.getD .aborted)]

/-- A closing connection reports its outcome and its bytes. -/
theorem closingEvents_eq {c : Connection} (h : c.sockets.Metered) :
    c.closingEvents = c.finalReport := by
  obtain ⟨hread, hwritten⟩ := h
  have hcount : c.sockets.counters.read = c.sockets.client.length - c.sockets.unread.length := by
    omega
  unfold closingEvents finalReport
  rw [hcount, hwritten]

variable {config : RouterConfig} {gate gate' : ProxyGate} {force : Bool} {c c' : Connection}

/-- The future of a stage reports nothing but the lookup and the connect. -/
theorem Worked.reported {event : WorkEvent} {events : List MetricEvent}
    (hwork : Worked config c event c' events) :
    c'.opened = c.opened ∧ c.stage.filed = false ∧ c'.stage.filed = false ∧
      (c.Recorded → c.opened = true) ∧ (c.Recorded → c'.Recorded) ∧
      ∀ e ∈ events, e.routine = true := by
  unfold Recorded
  cases hwork with
  | read hstage | readError hstage | rejected hstage | noSni hstage | named hstage
  | helloTimeout hstage | alertWrite hstage | alertEnd hstage | dialled hstage
  | setup hstage | copied hstage | idle hstage | finished hstage | error hstage =>
    rw [hstage]
    exact ⟨rfl, rfl, rfl, id, id, fun e he => absurd he (by simp)⟩
  | routed hstage | notFound hstage | lookupFailed hstage | dialFailed hstage
  | upstreamTimeout hstage | connected hstage =>
    rw [hstage]
    refine ⟨rfl, rfl, rfl, id, id, ?_⟩
    intro e he
    rw [List.mem_singleton.mp he]
    rfl

/-- A connection that a cancellation can end is open and not filed. -/
theorem Recorded.onCancel (h : c.Recorded) {outcome : ConnectionOutcome}
    (hcancel : c.stage.onCancel = some outcome) : c.opened = true ∧ c.stage.filed = false := by
  unfold Recorded at h
  cases hstage : c.stage with
  | hello _ | alert _ _ | lookup _ _ | connect _ _ _ =>
    rw [hstage] at h
    exact ⟨h, rfl⟩
  | _ =>
    rw [hstage] at hcancel
    exact absurd hcancel (by simp [Stage.onCancel])

/-- A connection in its handshake is open and not filed. -/
theorem Recorded.handshaking (h : c.Recorded) (hstage : c.stage.handshaking = true) :
    c.opened = true ∧ c.stage.filed = false := by
  unfold Recorded at h
  cases hs : c.stage with
  | hello _ | alert _ _ | lookup _ _ | connect _ _ _ | entering =>
    rw [hs] at h
    exact ⟨h, rfl⟩
  | _ =>
    rw [hs] at hstage
    exact absurd hstage (by simp [Stage.handshaking])

/-- All that one event can report: the opening, the close, or routine; nothing
before the opening and nothing after the close. -/
inductive Reported (c c' : Connection) : List MetricEvent → Prop where
  | opening (hbefore : c.opened = false) (hafter : c'.opened = true)
      (hopen : c'.stage.filed = false) : Reported c c' [.connectionOpened]
  | closing (hopened : c.opened = true) (hsame : c'.opened = true)
      (hopen : c.stage.filed = false) (hfiled : c'.stage.filed = true)
      (hreport : c.closingEvents = c'.closingEvents) : Reported c c' c.closingEvents
  | routine {events} (hopened : c.opened = true) (hsame : c'.opened = true)
      (hopen : c.stage.filed = false) (hopen' : c'.stage.filed = false)
      (hroutine : ∀ e ∈ events, e.routine = true) : Reported c c' events
  | silent (hsame : c'.opened = c.opened)
      (hfiled : c.opened = true → c'.stage.filed = c.stage.filed ∧
        (c.stage.filed = true → c'.closingEvents = c.closingEvents)) : Reported c c' []

theorem Stepped.recorded {event : ConnectionEvent} {events : List MetricEvent} (h : c.Recorded)
    (hstep : Stepped config gate force c event c' gate' events) : c'.Recorded := by
  cases hstep with
  | checked | pending => exact h
  | work _ hwork => exact hwork.reported.2.2.2.2.1 h
  | cancelled _ hcancel => exact (h.onCancel hcancel).1
  | abandoned hstage => exact (h.handshaking hstage).1
  | start => exact rfl
  | neverPolled | closeBooks | releaseSlot | exit => trivial
  | forced _ hstage | entered hstage | refused hstage | dropPass hstage | torn hstage =>
    unfold Recorded at h
    rw [hstage] at h
    exact h

/-- What one event reports. -/
theorem Stepped.reported {event : ConnectionEvent} {events : List MetricEvent} (h : c.Recorded)
    (hstep : Stepped config gate force c event c' gate' events) : Reported c c' events := by
  cases hstep with
  | checked | pending => exact .silent rfl fun _ => ⟨rfl, fun _ => rfl⟩
  | work _ hwork =>
    obtain ⟨hsame, hopen, hopen', hopened, -, hroutine⟩ := hwork.reported
    exact .routine (hopened h) (hsame.trans (hopened h)) hopen hopen' hroutine
  | cancelled _ hcancel =>
    obtain ⟨hopened, hopen⟩ := h.onCancel hcancel
    exact .routine hopened hopened hopen rfl fun e he => absurd he (by simp)
  | abandoned hstage =>
    obtain ⟨hopened, hopen⟩ := h.handshaking hstage
    exact .routine hopened hopened hopen rfl fun e he => absurd he (by simp)
  | start hstage =>
    unfold Recorded at h
    rw [hstage] at h
    exact .opening h rfl rfl
  | forced _ hstage | entered hstage | refused hstage | dropPass hstage | torn hstage =>
    unfold Recorded at h
    rw [hstage] at h
    exact .routine h h (by rw [hstage]; rfl) rfl fun e he => absurd he (by simp)
  | neverPolled hstage =>
    -- no close record: nothing is reported
    unfold Recorded at h
    rw [hstage] at h
    exact .silent rfl fun hopened => absurd (h.symm.trans hopened) (by simp)
  | closeBooks hstage =>
    unfold Recorded at h
    rw [hstage] at h
    exact .closing h h (by rw [hstage]; rfl) rfl rfl
  | releaseSlot hstage | exit hstage =>
    refine .silent rfl fun _ => ⟨?_, fun _ => rfl⟩
    rw [hstage]
    rfl

-- ---------------------------------------------------------------------------
-- One connection
-- ---------------------------------------------------------------------------

/-- The reports of a connection: none before the opening, then routine, and the
final report once the close record is gone. -/
def Booked (c : Connection) (events : List MetricEvent) : Prop :=
  if c.opened then
    ∃ routine : List MetricEvent, (∀ e ∈ routine, e.routine = true) ∧
      events = .connectionOpened :: routine ++ if c.stage.filed then c.closingEvents else []
  else events = []

/-- The books after one more event. -/
theorem Booked.step {before events : List MetricEvent} (h : c.Booked before)
    (hreported : Reported c c' events) : c'.Booked (before ++ events) := by
  unfold Booked at *
  cases hreported with
  | opening hbefore hafter hopen =>
    rw [hbefore, if_neg (by simp)] at h
    rw [hafter, if_pos rfl, hopen, if_neg (by simp), h]
    exact ⟨[], by simp, rfl⟩
  | closing hopened hsame hopen hfiled hreport =>
    rw [hopened, if_pos rfl, hopen, if_neg (by simp)] at h
    obtain ⟨routine, hroutine, rfl⟩ := h
    rw [hsame, if_pos rfl, hfiled, if_pos rfl, ← hreport, List.append_nil]
    exact ⟨routine, hroutine, rfl⟩
  | routine hopened hsame hopen hopen' hroutine' =>
    rw [hopened, if_pos rfl, hopen, if_neg (by simp)] at h
    obtain ⟨routine, hroutine, rfl⟩ := h
    rw [hsame, if_pos rfl, hopen', if_neg (by simp)]
    refine ⟨routine ++ events, ?_, by simp⟩
    intro e he
    rcases List.mem_append.mp he with he | he
    · exact hroutine e he
    · exact hroutine' e he
  | silent hsame hfiled =>
    rw [List.append_nil, hsame]
    by_cases hopened : c.opened = true
    · rw [if_pos hopened] at h ⊢
      obtain ⟨hsame', hreport⟩ := hfiled hopened
      obtain ⟨routine, hroutine, rfl⟩ := h
      refine ⟨routine, hroutine, ?_⟩
      rw [hsame']
      by_cases hf : c.stage.filed = true
      · rw [if_pos hf, if_pos hf, hreport hf]
      · rw [if_neg hf, if_neg hf]
    · rw [if_neg hopened] at h ⊢
      exact h

/-- A connection closes once. -/
theorem closes_closingEvents (c : Connection) :
    c.closingEvents.countP MetricEvent.closes = 1 ∧
      c.closingEvents.countP MetricEvent.opens = 0 := by
  unfold closingEvents
  split_ifs <;> exact ⟨rfl, rfl⟩

/-- An opening or a close is reported as the connection opens or closes. -/
theorem Reported.counts {events : List MetricEvent} (h : Reported c c' events) :
    (if c'.opened then 1 else 0) = (if c.opened then 1 else 0) + events.countP MetricEvent.opens ∧
      (if c'.filed then 1 else 0) =
        (if c.filed then 1 else 0) + events.countP MetricEvent.closes := by
  unfold filed
  cases h with
  | opening hbefore hafter hopen =>
    simp [hbefore, hafter, hopen, MetricEvent.opens, MetricEvent.closes]
  | closing hopened hsame hopen hfiled =>
    obtain ⟨hcloses, hopens⟩ := closes_closingEvents c
    simp [hopened, hsame, hopen, hfiled, hcloses, hopens]
  | routine hopened hsame hopen hopen' hroutine =>
    obtain ⟨hopens, hcloses⟩ := MetricEvent.not_of_routine hroutine
    simp [hopened, hsame, hopen, hopen', hcloses, hopens]
  | silent hsame hfiled =>
    rw [hsame]
    by_cases hopened : c.opened = true
    · simp [hopened, (hfiled hopened).1]
    · simp [hopened]

end Connection

-- ---------------------------------------------------------------------------
-- All connections
-- ---------------------------------------------------------------------------

/-- The books of all connections, and what they add up to. -/
structure NetBooks (s : Net) : Prop where
  recorded : s.Forall Connection.Recorded
  booked   : ∀ (i : Nat) c, s.conns[i]? = some c → c.Booked (reports i s.metrics)
  absent   : ∀ i, s.conns[i]? = none → reports i s.metrics = []
  opened   : s.metrics.countP (fun report => report.2.opens) =
    s.conns.countP Connection.opened
  closed   : s.metrics.countP (fun report => report.2.closes) =
    s.conns.countP Connection.filed

theorem NetBooks.step {config : RouterConfig} {event : NetEvent} {s s' : Net} (h : NetBooks s)
    (hstep : Net.step config event s = some s') : NetBooks s' := by
  obtain ⟨hrecorded, hbooked, habsent, hopened, hclosed⟩ := h
  have hrecorded' := hrecorded.step (fun _ => rfl) (fun hc hstep => hstep.recorded hc) hstep
  cases Net.step_cases hstep with
  | accept =>
    refine ⟨hrecorded', ?_, ?_, ?_, ?_⟩
    · intro i c hc
      rcases lookup_append_cases hc with ⟨hi, rfl⟩ | hold
      · exact habsent i (List.getElem?_eq_none (by omega))
      · exact hbooked i c hold
    · intro i hi
      rw [lookup_append] at hi
      split_ifs at hi
      exact habsent i hi
    · rw [List.countP_append]
      exact hopened
    · rw [List.countP_append]
      exact hclosed
  | @conn j event c c' gate events hconn hmove =>
    have hreported := hmove.reported (hrecorded _ c hconn)
    obtain ⟨hopens, hcloses⟩ := hreported.counts
    refine ⟨hrecorded', ?_, ?_, ?_, ?_⟩
    · intro i d hd
      rw [lookup_set hconn] at hd
      rw [reports_append, reports_of]
      split_ifs at hd ⊢ with hij
      · injection hd with hd
        subst hd hij
        exact (hbooked _ c hconn).step hreported
      · rw [List.append_nil]
        exact hbooked i d hd
    · intro i hi
      rw [lookup_set hconn] at hi
      split_ifs at hi with hij
      rw [reports_append, reports_of, if_neg hij, List.append_nil]
      exact habsent i hi
    · have hcount := countP_set Connection.opened hconn c'
      rw [List.countP_append, List.countP_map]
      show _ + events.countP MetricEvent.opens = (s.conns.set j c').countP _
      omega
    · have hcount := countP_set Connection.filed hconn c'
      rw [List.countP_append, List.countP_map]
      show _ + events.countP MetricEvent.closes = (s.conns.set j c').countP _
      omega
  | close | force => exact ⟨hrecorded', hbooked, habsent, hopened, hclosed⟩

/-- The books are right in every reachable state. -/
theorem netMachine_books {config : RouterConfig} {s : Net} (h : (netMachine config).Reachable s) :
    NetBooks s := by
  have hinit : ∀ {s}, (netMachine config).init s → NetBooks s := by
    intro s hinit
    rw [show s = .new from hinit]
    exact ⟨fun i c hc => absurd hc (by simp [Net.new]), fun i c hc => absurd hc (by simp [Net.new]),
      fun _ _ => rfl, rfl, rfl⟩
  have hstep : ∀ {event s s'}, NetBooks s → (netMachine config).step event s = some s' →
      NetBooks s' := fun hs h => hs.step h
  exact h.invariant hinit hstep

end SniRouter
