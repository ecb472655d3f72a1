import SniRouter.Delivery.Control

/-!
# SniRouter — what the backend sees

Bytes of the client pass through the hello buffer, the replay and a pipe or
buffer of the copy. At every stage what the backend has, what is on its way and
what is unread add up to what the client sends.

* `Dial.Carries` / `Connection.Carries` — where the bytes are, stage by stage.
* `Carries.forwarded` — at every stage the backend has a prefix.
* `Connection.Faithful` — with the byte counters and the choice of the backend.
* `backend_sees_client` — over every run.
-/

namespace SniRouter

open Framing Table

/-- The outcomes of a connection whose hello, lookup or route failed. -/
def ConnectionOutcome.beforeConnect : ConnectionOutcome → Bool
  | .clientClosed | .helloTimeout | .invalidHello | .missingSni | .unknownHost
  | .lookupFailed | .lookupTimeout => true
  | _ => false

/-- The backend has received all the client sends, and its write side was shut
down. -/
def Complete (backend : Option Backend) (sockets : Sockets) : Prop :=
  ∃ upstream, sockets.upstreams = [upstream] ∧ backend = some upstream.backend ∧
    upstream.received = sockets.client ∧ upstream.shutdown = true

/-- What the outcome of a connection says about its streams: none was opened
before a backend was found, and all was sent where the proxy stage ended well. -/
structure Settled (backend : Option Backend) (sockets : Sockets)
    (outcome : Option ConnectionOutcome) : Prop where
  forwarded : Forwarded backend sockets
  untouched : ∀ o, outcome = some o → o.beforeConnect = true → sockets.upstreams = []
  complete  : outcome = some .proxied → Complete backend sockets

/-- What was forwarded when a connection fails is settled. -/
theorem Settled.of_forwarded {backend : Option Backend} {sockets : Sockets}
    {outcome : Option ConnectionOutcome} (h : Forwarded backend sockets)
    (houtcome : ∀ o, outcome = some o → o.beforeConnect = false ∧ o ≠ .proxied) :
    Settled backend sockets outcome := by
  refine ⟨h, ?_, ?_⟩
  · intro o ho hbefore
    rw [(houtcome o ho).1] at hbefore
    exact absurd hbefore (by simp)
  · intro ho
    exact absurd rfl (houtcome _ ho).2

/-- What was forwarded is settled under such an outcome. -/
theorem Settled.of_outcome {backend : Option Backend} {sockets : Sockets}
    {outcome : ConnectionOutcome} (h : Forwarded backend sockets)
    (houtcome : outcome.beforeConnect = false ∧ outcome ≠ .proxied) :
    Settled backend sockets (some outcome) := by
  refine .of_forwarded h ?_
  intro o ho
  injection ho with ho
  exact ho ▸ houtcome

-- ---------------------------------------------------------------------------
-- Connecting and replaying
-- ---------------------------------------------------------------------------

/-- Nothing is sent before a stream is open; then the buffered bytes go first. -/
def Dial.Carries (backend : Backend) (buffered : Bytes) (sockets : Sockets) : Dial → Prop
  | .resolving | .connecting _ =>
    sockets.upstreams = [] ∧ buffered ++ sockets.unread = sockets.client
  | .replaying written => Relays backend (buffered.drop written) sockets

/-- Without a backend nothing is forwarded. -/
theorem Forwarded.of_none {backend : Option Backend} {sockets : Sockets}
    (h : sockets.upstreams = []) : Forwarded backend sockets := by
  refine ⟨by rw [h]; exact Nat.zero_le _, ?_⟩
  intro upstream hmem
  rw [h] at hmem
  exact absurd hmem (by simp)

/-- What a dial carries is forwarded. -/
theorem Dial.Carries.forwarded {backend : Backend} {buffered : Bytes} {sockets : Sockets}
    {dial : Dial} (h : dial.Carries backend buffered sockets) :
    Forwarded (some backend) sockets := by
  cases dial with
  | resolving => exact .of_none h.1
  | connecting addrs => exact .of_none h.1
  | replaying written => exact Relays.forwarded h

theorem Dial.Carries.start {backend : Backend} {buffered : Bytes} {sockets : Sockets}
    (hnone : sockets.upstreams = []) (hsplit : buffered ++ sockets.unread = sockets.client) :
    (Dial.start backend).Carries backend buffered sockets := by
  unfold Dial.start
  split
  · exact ⟨hnone, hsplit⟩
  · exact ⟨hnone, hsplit⟩

/-- An address is tried with everything buffered. -/
theorem Dial.Carries.connectAny {backend : Backend} {buffered : Bytes} {sockets : Sockets}
    {addrs : List SocketAddr} {dial : Dial} (hnone : sockets.upstreams = [])
    (hsplit : buffered ++ sockets.unread = sockets.client)
    (h : Dial.connectAny addrs = some dial) : dial.Carries backend buffered sockets := by
  cases addrs with
  | nil => exact absurd h (by simp [Dial.connectAny])
  | cons addr addrs =>
    injection h with h
    rw [← h]
    exact ⟨hnone, hsplit⟩

/-- The first address that connects gets the buffered bytes from the start, and
every write goes on where the last one stopped. -/
theorem Dial.step_carries {backend : Backend} {buffered : Bytes} {event : DialEvent}
    {dial : Dial} {dial' : Option Dial} {sockets sockets' : Sockets}
    (h : dial.step backend buffered event sockets = some (dial', sockets'))
    (hcarries : dial.Carries backend buffered sockets) :
    Forwarded (some backend) sockets' ∧
      ∀ d, dial' = some d → d.Carries backend buffered sockets' := by
  unfold step at h
  split at h
  · -- resolving failed
    cases h
    exact ⟨hcarries.forwarded, fun d hd => absurd hd (by simp)⟩
  · cases h
    exact ⟨hcarries.forwarded, fun d hd => .connectAny hcarries.1 hcarries.2 hd⟩
  · -- connected: the one stream, with nothing in it
    next addr addrs =>
    cases h
    have hrelays : Relays backend buffered (sockets.connect backend addr) := by
      obtain ⟨hnone, hsplit⟩ := hcarries
      refine ⟨⟨backend, addr, [], false⟩, ?_, rfl, hsplit, rfl⟩
      show sockets.upstreams ++ _ = _
      rw [hnone]
      rfl
    refine ⟨hrelays.forwarded, ?_⟩
    intro d hd
    injection hd with hd
    rw [← hd]
    exact hrelays
  · -- the next address
    cases h
    exact ⟨hcarries.forwarded, fun d hd => .connectAny hcarries.1 hcarries.2 hd⟩
  · next n written =>
    split_ifs at h with hroom
    cases h
    have hrelays := Relays.writeUpstream n (show Relays backend (buffered.drop written) sockets
      from hcarries)
    rw [List.drop_drop] at hrelays
    refine ⟨hrelays.forwarded, ?_⟩
    intro d hd
    injection hd with hd
    rw [← hd]
    exact hrelays
  · cases h
    exact ⟨hcarries.forwarded, fun d hd => absurd hd (by simp)⟩
  · exact absurd h (by simp)

/-- Connecting and replaying leave the client socket alone. -/
theorem Dial.step_client {backend : Backend} {buffered : Bytes} {event : DialEvent}
    {dial : Dial} {dial' : Option Dial} {sockets sockets' : Sockets}
    (h : dial.step backend buffered event sockets = some (dial', sockets')) :
    sockets'.client = sockets.client ∧ (sockets.Metered → sockets'.Metered) := by
  unfold step at h
  split at h
  · cases h
    exact ⟨rfl, id⟩
  · cases h
    exact ⟨rfl, id⟩
  · cases h
    exact ⟨rfl, id⟩
  · cases h
    exact ⟨rfl, id⟩
  · split_ifs at h
    cases h
    exact ⟨rfl, id⟩
  · cases h
    exact ⟨rfl, id⟩
  · exact absurd h (by simp)

-- ---------------------------------------------------------------------------
-- The whole connection
-- ---------------------------------------------------------------------------

namespace Connection

/-- Where the bytes of the client are, by stage. -/
def Carries (limits : HelloLimits) (c : Connection) : Prop :=
  match c.stage with
  | .spawned =>
    c.sockets.upstreams = [] ∧ c.sockets.unread = c.sockets.client ∧ c.backend = none
  | .hello reader =>
    c.sockets.upstreams = [] ∧ c.backend = none ∧
      (reader.Ok limits c.sockets.client c.sockets.unread ∨ reader = .done (.error .io))
  | .alert _ _ => c.sockets.upstreams = []
  | .lookup buffered host =>
    c.sockets.upstreams = [] ∧ buffered ++ c.sockets.unread = c.sockets.client ∧
      c.sni = some host
  | .connect buffered backend dial =>
    c.backend = some backend ∧ dial.Carries backend buffered c.sockets
  | .entering | .proxying none =>
    ∃ backend, c.backend = some backend ∧ Relays backend [] c.sockets
  | .proxying (some copy) =>
    ∃ backend, c.backend = some backend ∧ copy.toUpstream.Sends backend c.sockets
  | .leaving outcome => Settled c.backend c.sockets outcome
  | .returned | .closed | .released | .gone => Settled c.backend c.sockets c.outcome

variable {config : RouterConfig} {limits : HelloLimits} {gate gate' : ProxyGate} {force : Bool}
  {c c' : Connection}

/-- At every stage the backend has a prefix of what the client sends. -/
theorem Carries.forwarded (h : c.Carries limits) : Forwarded c.backend c.sockets := by
  unfold Carries at h
  cases hstage : c.stage with
  | spawned | hello _ | lookup _ _ =>
    rw [hstage] at h
    exact .of_none h.1
  | alert _ _ =>
    rw [hstage] at h
    exact .of_none h
  | connect buffered backend dial =>
    rw [hstage] at h
    rw [h.1]
    exact h.2.forwarded
  | entering =>
    rw [hstage] at h
    obtain ⟨backend, hbackend, hrelays⟩ := h
    rw [hbackend]
    exact hrelays.forwarded
  | proxying copy =>
    cases copy with
    | none =>
      rw [hstage] at h
      obtain ⟨backend, hbackend, hrelays⟩ := h
      rw [hbackend]
      exact hrelays.forwarded
    | some copy =>
      rw [hstage] at h
      obtain ⟨backend, hbackend, hsends⟩ := h
      rw [hbackend]
      exact hsends.forwarded
  | leaving _ | returned | closed | released | gone =>
    rw [hstage] at h
    exact h.forwarded

/-- `run` returns with no stream opened. -/
theorem Carries.finish_untouched (hnone : c.sockets.upstreams = []) {outcome : ConnectionOutcome}
    (houtcome : outcome.beforeGate = true) : (c.finish outcome).Carries limits := by
  refine ⟨.of_none hnone, fun _ _ _ => hnone, ?_⟩
  intro ho
  injection ho with ho
  rw [ho] at houtcome
  exact absurd houtcome (by decide)

/-- `run` returns for a reason that says nothing about streams. -/
theorem Carries.settled (h : c.Carries limits) {outcome : ConnectionOutcome}
    (houtcome : outcome.beforeConnect = false ∧ outcome ≠ .proxied) :
    Settled c.backend c.sockets (some outcome) :=
  .of_outcome h.forwarded houtcome

/-- `run` is dropped. -/
theorem Carries.dropped (h : c.Carries limits) : Settled c.backend c.sockets none :=
  .of_forwarded h.forwarded fun _ ho => absurd ho (by simp)

/-- Work keeps the buffered bytes in front of the unread ones. -/
theorem Carries.worked {event : WorkEvent} {events : List MetricEvent} (hcontrol : c.Control)
    (h : c.Carries config.helloLimits) (hwork : Worked config c event c' events) :
    c'.Carries config.helloLimits := by
  have hsettled : ∀ {outcome}, outcome.beforeConnect = false ∧ outcome ≠ .proxied →
      Settled c.backend c.sockets (some outcome) := fun houtcome => h.settled houtcome
  unfold Carries at h
  cases hwork with
  | read hstage hread =>
    rw [hstage] at h
    obtain ⟨hnone, hbackend, hreader⟩ := h
    obtain ⟨buf, rfl, ⟨hroom, hn, hzero⟩, rfl⟩ := HelloSession.read_eq_some_iff.mp hread
    refine ⟨hnone, hbackend, .inl ?_⟩
    rcases hreader with hok | hio
    · exact HelloReader.afterRead_ok hok hroom hzero hn
    · exact absurd hio (by simp)
  | readError hstage =>
    rw [hstage] at h
    exact ⟨h.1, h.2.1, .inr rfl⟩
  | rejected hstage houtcome | lookupFailed hstage houtcome =>
    rw [hstage] at h
    exact .finish_untouched h.1 (by rcases houtcome with rfl | rfl <;> rfl)
  | helloTimeout hstage =>
    rw [hstage] at h
    exact .finish_untouched h.1 rfl
  | alertEnd hstage =>
    unfold Control at hcontrol
    rw [hstage] at h hcontrol
    exact .finish_untouched h hcontrol.2.2
  | noSni hstage | notFound hstage =>
    rw [hstage] at h
    exact h.1
  | named hstage =>
    -- the buffer may hold bytes past the hello: they stay in front of the unread ones
    rw [hstage] at h
    obtain ⟨hnone, -, hreader⟩ := h
    rcases hreader with hok | hio
    · exact ⟨hnone, (HelloVerdict.ok_inv hok).1, rfl⟩
    · exact absurd hio (by simp)
  | alertWrite hstage =>
    rw [hstage] at h
    exact h
  | routed hstage =>
    rw [hstage] at h
    exact ⟨rfl, .start h.1 h.2.1⟩
  | dialled hstage hdial =>
    rw [hstage] at h
    exact ⟨h.1, (Dial.step_carries hdial h.2).2 _ rfl⟩
  | @dialFailed _ _ _ _ sockets hstage hdial =>
    rw [hstage] at h
    have hforwarded : Forwarded c.backend sockets := by
      rw [h.1]
      exact (Dial.step_carries hdial h.2).1
    exact .of_outcome hforwarded ⟨rfl, by simp⟩
  | upstreamTimeout => exact hsettled ⟨rfl, by simp⟩
  | connected hstage =>
    rw [hstage] at h
    obtain ⟨hbackend, hrelays⟩ := h
    refine ⟨_, hbackend, ?_⟩
    rw [← List.drop_length]
    exact hrelays
  | setup hstage copy hcopy =>
    rw [hstage] at h
    obtain ⟨backend, hbackend, hrelays⟩ := h
    have hstart : copy.toUpstream = .start := by
      rw [hcopy]
      unfold Copy.setup
      split <;> rfl
    refine ⟨backend, hbackend, ?_⟩
    rw [hstart]
    exact ⟨fun heof => absurd heof (by simp [CopyDirection.start]), hrelays⟩
  | copied hstage hcopy =>
    rw [hstage] at h
    obtain ⟨backend, hbackend, hsends⟩ := h
    exact ⟨backend, hbackend, Copy.step_sends hcopy hsends⟩
  | idle | error => exact hsettled ⟨rfl, by simp⟩
  | finished hstage hfinished =>
    -- the direction to the backend has ended, with everything sent
    have hforwarded := Carries.forwarded (show c.Carries config.helloLimits from h)
    rw [hstage] at h
    obtain ⟨backend, hbackend, -, hsends⟩ := h
    rw [if_pos (Bool.and_eq_true_iff.mp hfinished).1] at hsends
    obtain ⟨-, -, upstream, hone, hto, hall, hshut⟩ := hsends
    refine ⟨hforwarded, ?_, fun _ => ⟨upstream, hone, ?_, hall, hshut⟩⟩
    · intro o ho hbefore
      injection ho with ho
      rw [← ho] at hbefore
      exact absurd hbefore (by decide)
    · show c.backend = _
      rw [hbackend, hto]

/-- Every event of the task keeps the bytes where the stage says. -/
theorem Carries.step {event : ConnectionEvent} {events : List MetricEvent} (hcontrol : c.Control)
    (h : c.Carries config.helloLimits)
    (hstep : Stepped config gate force c event c' gate' events) :
    c'.Carries config.helloLimits := by
  cases hstep with
  | checked | pending => exact h
  | work _ hwork => exact h.worked hcontrol hwork
  | start hstage =>
    unfold Carries at h
    rw [hstage] at h
    obtain ⟨hnone, hunread, hbackend⟩ := h
    refine ⟨hnone, hbackend, .inl ?_⟩
    exact HelloReader.loopTop_ok hunread (parseClientHello_nil _) (Nat.zero_le _)
      (Nat.min_le_right ..)
  | @cancelled outcome _ hcancel =>
    rcases (Stage.onCancel_eq hcancel).2 with rfl | ⟨unsent, hstage⟩
    · exact h.settled ⟨rfl, by simp⟩
    · unfold Carries at h
      rw [hstage] at h
      exact .finish_untouched h (hcontrol.onCancel hcancel).2.2
  | forced | refused => exact h.settled ⟨rfl, by simp⟩
  | torn => exact h.dropped
  | entered hstage | closeBooks hstage | releaseSlot hstage | exit hstage | dropPass hstage =>
    unfold Carries at h
    rw [hstage] at h
    exact h
  | neverPolled hstage =>
    unfold Control at hcontrol
    rw [hstage] at hcontrol
    show Settled c.backend c.sockets c.outcome
    rw [hcontrol.2]
    exact h.dropped
  | abandoned hstage =>
    show Settled c.backend c.sockets c.outcome
    rw [(hcontrol.handshaking hstage).2]
    exact h.dropped

-- ---------------------------------------------------------------------------
-- Counters, hostname and backend
-- ---------------------------------------------------------------------------

/-- The client socket: what it carries is not changed, and it is counted. -/
theorem Worked.client {event : WorkEvent} {events : List MetricEvent}
    (hwork : Worked config c event c' events) :
    c'.sockets.client = c.sockets.client ∧ (c.sockets.Metered → c'.sockets.Metered) := by
  cases hwork with
  | read _ hread =>
    obtain ⟨-, -, ⟨-, hn, -⟩, -⟩ := HelloSession.read_eq_some_iff.mp hread
    exact ⟨rfl, fun hmetered => hmetered.readClient hn⟩
  | alertWrite => exact ⟨rfl, fun hmetered => hmetered.writeClient _⟩
  | dialled _ hdial | dialFailed _ hdial => exact Dial.step_client hdial
  | copied _ hcopy => exact Copy.step_client hcopy
  | _ => exact ⟨rfl, id⟩

/-- An event leaves alone what the client sends. -/
theorem Stepped.client {event : ConnectionEvent} {events : List MetricEvent}
    (hstep : Stepped config gate force c event c' gate' events) :
    c'.sockets.client = c.sockets.client ∧ (c.sockets.Metered → c'.sockets.Metered) := by
  cases hstep with
  | work _ hwork => exact hwork.client
  | _ => exact ⟨rfl, id⟩

/-- The hostname is the one in the hello that the client's stream begins with. -/
def Named (limits : HelloLimits) (c : Connection) : Prop :=
  ∀ host, c.sni = some host → ∃ hello,
    parseClientHello (c.sockets.client.take limits.maxWireBytes) limits = .ok hello ∧
      hello.sni = some host

/-- The name stays that of the client's bytes. -/
theorem Named.of_same (h : c.Named limits) (hclient : c'.sockets.client = c.sockets.client)
    (hsni : c'.sni = c.sni) : c'.Named limits := by
  intro host hhost
  rw [hclient]
  exact h host (hsni ▸ hhost)

/-- The backend is the one that the store's answer for the hostname gives. -/
def Routed (c : Connection) : Prop :=
  ∀ backend, c.backend = some backend → ∃ host ended route, c.sni = some host ∧
    resolveRoute (fun _ => ended) host = .ok route ∧ route.backend = backend

/-- Everything about the bytes of a connection. -/
structure Faithful (config : RouterConfig) (c : Connection) : Prop where
  control : c.Control
  carries : c.Carries config.helloLimits
  metered : c.sockets.Metered
  named   : c.Named config.helloLimits
  routed  : c.Routed

theorem Faithful.spawn (config : RouterConfig) (client : Bytes) :
    (Connection.spawn client).Faithful config where
  control := .spawn client
  carries := ⟨rfl, rfl, rfl⟩
  metered := ⟨Nat.zero_add _, rfl⟩
  named _ h := absurd h (by simp [Connection.spawn])
  routed _ h := absurd h (by simp [Connection.spawn])

/-- The hostname changes when the hello is parsed, the backend when the store's
answer comes. -/
theorem Worked.choices {event : WorkEvent} {events : List MetricEvent}
    (h : c.Faithful config) (hwork : Worked config c event c' events) :
    c'.Named config.helloLimits ∧ c'.Routed := by
  have hclient := hwork.client.1
  have hcarries := h.carries
  unfold Carries at hcarries
  cases hwork with
  | named hstage hsni =>
    rw [hstage] at hcarries
    obtain ⟨-, hbackend, hreader⟩ := hcarries
    refine ⟨?_, fun backend hb => absurd (hbackend.symm.trans hb) (by simp)⟩
    intro host hhost
    injection hhost with hhost
    subst hhost
    rcases hreader with hok | hio
    · exact ⟨_, (HelloVerdict.ok_inv hok).2, hsni⟩
    · exact absurd hio (by simp)
  | routed hstage hroute =>
    rw [hstage] at hcarries
    refine ⟨h.named, ?_⟩
    intro backend hb
    injection hb with hb
    exact ⟨_, _, _, hcarries.2.2, hroute, hb⟩
  | _ => exact ⟨h.named.of_same hclient rfl, h.routed⟩

theorem Faithful.step {event : ConnectionEvent} {events : List MetricEvent}
    (h : c.Faithful config) (hstep : Stepped config gate force c event c' gate' events) :
    c'.Faithful config := by
  refine ⟨h.control.step hstep, h.carries.step h.control hstep, hstep.client.2 h.metered, ?_, ?_⟩
  · cases hstep with
    | work _ hwork => exact (hwork.choices h).1
    | _ => exact h.named
  · cases hstep with
    | work _ hwork => exact (hwork.choices h).2
    | _ => exact h.routed

/-- A connection with an outcome is what the outcome says. -/
theorem Faithful.settled (h : c.Faithful config) {o : ConnectionOutcome}
    (ho : c.outcome = some o) : Settled c.backend c.sockets c.outcome := by
  have hover := h.control.over_of_outcome ho
  have hcarries := h.carries
  unfold Carries at hcarries
  cases hstage : c.stage with
  | returned | closed | released | gone =>
    rw [hstage] at hcarries
    exact hcarries
  | _ =>
    rw [hstage] at hover
    exact absurd hover (by simp [Stage.over])

end Connection

theorem netMachine_faithful {config : RouterConfig} {s : Net}
    (h : (netMachine config).Reachable s) : s.Forall (Connection.Faithful config) :=
  netMachine_forall (Connection.Faithful.spawn config) (fun hc hstep => hc.step hstep) h

-- ---------------------------------------------------------------------------
-- Every run
-- ---------------------------------------------------------------------------

/-- What the clients send, in the order in which they are accepted. -/
def clientStreams : List NetEvent → List Bytes
  | [] => []
  | .accept client :: es => client :: clientStreams es
  | _ :: es => clientStreams es

/-- What the clients of a run send. -/
theorem clientStreams_run {config : RouterConfig} {es : List NetEvent} {s s' : Net}
    (h : (netMachine config).run es s = some s') :
    s'.conns.map (·.sockets.client) = s.conns.map (·.sockets.client) ++ clientStreams es := by
  induction es generalizing s with
  | nil =>
    cases h
    exact (List.append_nil _).symm
  | cons e es ih =>
    obtain ⟨s₁, he, hes⟩ := ((netMachine config).run_cons).mp h
    rw [ih hes]
    cases Net.step_cases he with
    | accept =>
      rw [List.map_append, List.append_assoc]
      rfl
    | conn hconn hstep =>
      rw [map_set_same hconn hstep.client.1]
      rfl
    | close | force => rfl

/-- What was forwarded of what the clients send. -/
structure Delivered (config : RouterConfig) (es : List NetEvent) (s : Net) : Prop where
  /-- Connection `i` is about the stream of the `i`-th client. -/
  client    : ∀ (i : Nat) c, s.conns[i]? = some c → (clientStreams es)[i]? = some c.sockets.client
  /-- At most one stream is opened, to the selected backend; it has received a
  prefix of the client's stream, and all of it once its write side is shut
  down. -/
  forwarded : ∀ (i : Nat) c, s.conns[i]? = some c → Forwarded c.backend c.sockets
  /-- The selected backend is what the store's answer for the hostname in the
  client's hello gives. -/
  selected  : ∀ (i : Nat) c backend, s.conns[i]? = some c → c.backend = some backend →
    ∃ hello host ended route,
      parseClientHello (c.sockets.client.take config.helloLimits.maxWireBytes)
        config.helloLimits = .ok hello ∧ hello.sni = some host ∧
      resolveRoute (fun _ => ended) host = .ok route ∧ route.backend = backend
  /-- While the connection proxies nothing is lost: what the backend has, what
  the copy holds and what is unread are the client's stream. -/
  relayed   : ∀ (i : Nat) c copy, s.conns[i]? = some c → c.stage = .proxying (some copy) →
    copy.toUpstream.finished = false → ∃ backend, c.backend = some backend ∧
      Relays backend copy.toUpstream.held c.sockets
  /-- When the direction to the backend has ended well, the backend has received
  the client's stream, and its write side is shut down. -/
  finished  : ∀ (i : Nat) c copy, s.conns[i]? = some c → c.stage = .proxying (some copy) →
    copy.toUpstream.finished = true → Complete c.backend c.sockets
  proxied   : ∀ (i : Nat) c, s.conns[i]? = some c → c.outcome = some .proxied →
    Complete c.backend c.sockets
  /-- Where the hello, the lookup or the route failed, no stream was opened. -/
  failed    : ∀ (i : Nat) c o, s.conns[i]? = some c → c.decided = some o →
    o.beforeConnect = true → c.sockets.upstreams = []

/-- **The backend sees exactly what the client sent.** In every run of any
number of connections, for every stream, every segmentation of the reads, every
partial write and every way to end. -/
theorem backend_sees_client {config : RouterConfig} {es : List NetEvent} {s : Net}
    (hrun : (netMachine config).run es .new = some s) : Delivered config es s := by
  have hfaithful := netMachine_faithful ⟨.new, es, rfl, hrun⟩
  refine ⟨?_, ?_, ?_, ?_, ?_, ?_, ?_⟩
  · intro i c hc
    rw [← List.nil_append (clientStreams es), ← show List.map _ Net.new.conns = [] from rfl,
      ← clientStreams_run hrun, List.getElem?_map, hc]
    rfl
  · intro i c hc
    exact (hfaithful i c hc).carries.forwarded
  · intro i c backend hc hbackend
    obtain ⟨host, ended, route, hsni, hroute, hto⟩ := (hfaithful i c hc).routed backend hbackend
    obtain ⟨hello, hparse, hhello⟩ := (hfaithful i c hc).named host hsni
    exact ⟨hello, host, ended, route, hparse, hhello, hroute, hto⟩
  · intro i c copy hc hstage hgoing
    have hcarries := (hfaithful i c hc).carries
    unfold Connection.Carries at hcarries
    rw [hstage] at hcarries
    obtain ⟨backend, hbackend, -, hsends⟩ := hcarries
    rw [hgoing, if_neg (by simp)] at hsends
    exact ⟨backend, hbackend, hsends⟩
  · intro i c copy hc hstage hended
    have hcarries := (hfaithful i c hc).carries
    unfold Connection.Carries at hcarries
    rw [hstage] at hcarries
    obtain ⟨backend, hbackend, -, hsends⟩ := hcarries
    rw [if_pos hended] at hsends
    obtain ⟨-, -, upstream, hone, hto, hall, hshut⟩ := hsends
    exact ⟨upstream, hone, by rw [hbackend, hto], hall, hshut⟩
  · intro i c hc hproxied
    exact ((hfaithful i c hc).settled hproxied).complete hproxied
  · intro i c o hc hdecided hbefore
    rcases Connection.decided_cases hdecided with ⟨unsent, hstage⟩ | houtcome
    · have hcarries := (hfaithful i c hc).carries
      unfold Connection.Carries at hcarries
      rw [hstage] at hcarries
      exact hcarries
    · exact ((hfaithful i c hc).settled houtcome).untouched o houtcome hbefore

/-- A hello read with two bytes past it, replayed in two writes, and the rest
copied in two more until the client is done. -/
theorem backend_sees_client_at :
    ∃ (es : List NetEvent) (s : Net) (client : Bytes),
      (netMachine .default).run es .new = some s ∧ clientStreams es = [client] ∧
      s.conns.map (fun c => c.sockets.upstreams.map Upstream.received) = [[client]] ∧
      s.conns.map Connection.outcome = [some .proxied] ∧ Delivered .default es s := by
  let hello : List UInt8 := [22, 3, 1, 0, 59, 1, 0, 0, 55, 3, 3] ++ List.replicate 32 0 ++
    [0, 0, 2, 19, 1, 1, 0, 0, 12, 0, 0, 0, 8, 0, 6, 0, 0, 3, 97, 46, 120]
  let client : Bytes := hello ++ [1, 2, 3, 4, 5]
  let backend : Backend := ⟨.ip (.v4 ⟨[10, 0, 0, 1]⟩), ⟨443, by decide⟩⟩
  let es : List NetEvent := [.accept client] ++ [.start,
    .poll, .work (.read 66), .work .parsed,
    .poll, .work (.lookup (.answered (.ok [(⟨[97, 46, 120], false⟩, backend)]))),
    .poll, .work (.dial (.attempt true)), .work (.dial (.write 60)), .pending,
    .poll, .work (.dial (.write 6)), .work .connected, .enter,
    .poll, .work (.setup none), .work (.copy (.readClient 3)), .work (.copy (.writeUpstream 1)),
    .work (.copy (.writeUpstream 2)), .work (.copy (.readClient 0)),
    .work (.copy .finishToUpstream), .work (.copy (.readUpstream [])),
    .work (.copy .finishToClient), .work .finished, .dropPass].map (NetEvent.conn 0)
  obtain ⟨s, hrun, hends⟩ : ∃ s, (netMachine .default).run es .new = some s ∧
      (s.conns.map (fun c => c.sockets.upstreams.map Upstream.received),
        s.conns.map Connection.outcome) = ([[client]], [some .proxied]) :=
    Option.map_eq_some_iff.mp (by decide +kernel)
  injection hends with hreceived houtcomes
  exact ⟨es, s, client, hrun, rfl, hreceived, houtcomes, backend_sees_client hrun⟩

end SniRouter
