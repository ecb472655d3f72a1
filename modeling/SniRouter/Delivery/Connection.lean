import SniRouter.Delivery.Copy
import SniRouter.Delivery.HelloReader
import SniRouter.Platform.Time
import SniRouter.Routing.SelectRoute

/-!
# SniRouter — one connection

The pipeline of a connection as a state machine: ClientHello, route, upstream
connect and replay, proxy gate, proxy, and what happens when the task's future
is done or dropped. One event is what the task does between two moments at
which another task can be observed; timers, reads, writes and the store answer
whenever they like.

Every pre-proxy stage is polled by a biased select that looks at the handshake
token first: `poll` is that look, and what the stage does afterwards in the
same poll is `work`. A poll under way when the token is cancelled may go on.

* `ProxyGate` — the single point where a connection commits to the proxy stage.
* `Stage` / `Connection` — where `run` is, and what it has done.
* `Connection.work` — the futures of the stages.
* `Connection.step` — one event of the task.
* `Connection.Worked` / `Stepped` — all that one event can do.
-/

namespace SniRouter

open Framing

-- ---------------------------------------------------------------------------
-- The gate
-- ---------------------------------------------------------------------------

/-- `enter`, `close` and the drop of a pass run under one mutex. `close` cancels
the handshake token before it gives the mutex back, and whoever looks at the token
without the mutex sees it before or after that moment; so `close` is one step. -/
structure ProxyGate where
  closed    : Bool
  proxying  : Nat
  /-- The token that every pre-proxy await observes. -/
  cancelled : Bool

namespace ProxyGate

/-- An open gate that nobody has passed. -/
def new : ProxyGate := ⟨false, 0, false⟩

/-- The gate after granting a pass, or none if shutdown has already started. -/
def enter (gate : ProxyGate) : Option ProxyGate :=
  if gate.closed then none else some { gate with proxying := gate.proxying + 1 }

/-- How many connections are proxying, and the closed gate. -/
def close (gate : ProxyGate) : Nat × ProxyGate :=
  (gate.proxying, { gate with closed := true, cancelled := true })

/-- A pass is dropped. -/
def dropPass (gate : ProxyGate) : ProxyGate :=
  { gate with proxying := gate.proxying - 1 }

end ProxyGate

-- ---------------------------------------------------------------------------
-- What a connection reports
-- ---------------------------------------------------------------------------

/-- How a connection ended. -/
inductive ConnectionOutcome where
  | proxied
  | proxyError
  | clientClosed
  | helloTimeout
  | invalidHello
  | missingSni
  | unknownHost
  | lookupFailed
  | lookupTimeout
  | upstreamConnectFailed
  | upstreamTimeout
  | idleTimeout
  | shutdownCancelled
  | shutdownForced
  | aborted
deriving DecidableEq, Repr

/-- How a route lookup ended. -/
inductive LookupOutcome where
  | found
  | notFound
  | error
  | timeout
deriving DecidableEq, Repr

/-- What a connection reports. -/
inductive MetricEvent where
  | connectionOpened
  | bytesRead (bytes : Nat)
  | bytesWritten (bytes : Nat)
  | connectionClosed (outcome : ConnectionOutcome)
  | routeLookup (outcome : LookupOutcome)
  | upstreamConnect (ok : Bool)
deriving DecidableEq, Repr

/-- The configuration as far as it decides what can happen. -/
structure RouterConfig where
  idleTimeout    : Option Nat
  helloLimits    : HelloLimits
  maxConnections : Nat
  copyBufferSize : Nat

/-- `RouterConfig::default`, as far as it is read here. -/
def RouterConfig.default : RouterConfig where
  idleTimeout := some (30 * 60 * nanosPerSec)
  helloLimits := .default
  maxConnections := 10000
  copyBufferSize := 32 * 1024

/-- Smallest copy buffer used, whatever the config says. -/
def minCopyBuffer : Nat := 512

/-- `UNRECOGNIZED_NAME_ALERT`. -/
def unrecognizedNameAlert : Bytes := [0x15, 0x03, 0x03, 0x00, 0x02, 0x02, 0x70]

-- ---------------------------------------------------------------------------
-- Connecting and replaying
-- ---------------------------------------------------------------------------

/-- Where `connect_and_replay` is. -/
inductive Dial where
  | resolving
  /-- The first address is being tried. -/
  | connecting (addrs : List SocketAddr)
  /-- This much of the buffered bytes has been written. -/
  | replaying (written : Nat)

/-- What happens while the backend is dialed. -/
inductive DialEvent where
  | resolve (result : Option (List SocketAddr))
  | attempt (connected : Bool)
  | write (n : Nat)
  | fail

namespace Dial

/-- An address needs no resolver. -/
def start (backend : Backend) : Dial :=
  match backend.host with
  | .ip ip => .connecting [⟨ip, backend.port⟩]
  | .dns _ => .resolving

/-- `connect_any` on the addresses left, or its error. -/
def connectAny : List SocketAddr → Option Dial
  | [] => none
  | addr :: addrs => some (.connecting (addr :: addrs))

/-- One event; the new state is none if `connect_and_replay` fails. -/
def step (backend : Backend) (buffered : Bytes) (event : DialEvent) (dial : Dial)
    (sockets : Sockets) : Option (Option Dial × Sockets) :=
  match event, dial with
  | .resolve none, .resolving => some (none, sockets)
  | .resolve (some addrs), .resolving => some (connectAny addrs, sockets)
  | .attempt true, .connecting (addr :: _) =>
    some (some (.replaying 0), sockets.connect backend addr)
  | .attempt false, .connecting (_ :: addrs) => some (connectAny addrs, sockets)
  | .write n, .replaying written =>
    if 0 < n ∧ written + n ≤ buffered.length then
      some (some (.replaying (written + n)),
        sockets.writeUpstream ((buffered.drop written).take n))
    else none
  | .fail, .replaying _ => some (none, sockets)
  | _, _ => none

end Dial

-- ---------------------------------------------------------------------------
-- The pipeline
-- ---------------------------------------------------------------------------

/-- Where the task of a connection is. -/
inductive Stage where
  /-- Not polled yet. -/
  | spawned
  | hello (reader : HelloReader)
  /-- In `reject_unrecognized_name`, to return `outcome`. -/
  | alert (outcome : ConnectionOutcome) (unsent : Bytes)
  | lookup (buffered : Bytes) (host : Hostname)
  | connect (buffered : Bytes) (backend : Backend) (dial : Dial)
  /-- About to enter the gate. -/
  | entering
  /-- In `proxy`; `copy` chooses its mechanism at its first poll. -/
  | proxying (copy : Option Copy)
  /-- Out of `proxy` with the pass still held; no outcome if `run` is being
  dropped. -/
  | leaving (outcome : Option ConnectionOutcome)
  /-- `run` has returned or was dropped; the close record is still there. -/
  | returned
  /-- The close record is gone, the slot is still held. -/
  | closed
  /-- The slot is back, the task is still tracked. -/
  | released
  | gone

/-- What the stage comes to when its `cancellable` finds the token cancelled. -/
def Stage.onCancel : Stage → Option ConnectionOutcome
  | .hello _ | .lookup _ _ | .connect _ _ _ => some .shutdownCancelled
  | .alert outcome _ => some outcome
  | _ => none

/-- The stages of `run` before the gate. -/
def Stage.handshaking : Stage → Bool
  | .hello _ | .alert _ _ | .lookup _ _ | .connect _ _ _ | .entering => true
  | _ => false

/-- A connection with its sockets and what was decided about it. -/
structure Connection where
  stage    : Stage
  /-- A poll is under way that found no cancellation. -/
  checked  : Bool
  sockets  : Sockets
  sni      : Option Hostname
  backend  : Option Backend
  /-- What `run` returned. -/
  outcome  : Option ConnectionOutcome
  /-- Ghost: there is or was a close record. -/
  opened   : Bool
  /-- Ghost: the gate granted a pass. -/
  proxied  : Bool

/-- What the future of a stage does in a poll. -/
inductive WorkEvent where
  | read (n : Nat)
  | readError
  | parsed
  | elapsed
  | alertWrite (n : Nat)
  | alertEnd
  | lookup (ended : LookupEnd)
  | dial (event : DialEvent)
  | connected
  | setup (pipes : Option (Nat × Nat))
  | copy (event : CopyEvent)
  | idle
  | finished
  | error

/-- What happens to a connection. -/
inductive ConnectionEvent where
  | start
  | poll
  | pending
  | work (event : WorkEvent)
  | enter
  | dropPass
  /-- The task panics or is aborted. -/
  | abort
  | closeBooks
  | releaseSlot
  | exit

/-- How a lookup's result is counted. -/
def lookupOutcome : Except RouteError RouteMatch → LookupOutcome
  | .ok _ => .found
  | .error .notFound => .notFound
  | .error (.lookup _) => .error
  | .error .timeout => .timeout

namespace Connection

/-- A connection just accepted. -/
def spawn (client : Bytes) : Connection :=
  ⟨.spawned, false, .accepted client, none, none, none, false, false⟩

/-- On to another stage, whose future has not been polled. -/
def goto (stage : Stage) (c : Connection) : Connection :=
  { c with stage := stage, checked := false }

/-- `run` returns without a pass. -/
def finish (outcome : ConnectionOutcome) (c : Connection) : Connection :=
  { c with stage := .returned, checked := false, outcome := some outcome }

/-- What comes after the hello is read. -/
def afterHello (c : Connection) :
    Except HelloReadError (Bytes × ClientHelloInfo) → Connection
  | .error (.parse _) => c.finish .invalidHello
  | .error .closed => c.finish .clientClosed
  | .error .io => c.finish .clientClosed
  | .ok (buffered, hello) =>
    match hello.sni with
    | none => c.goto (.alert .missingSni unrecognizedNameAlert)
    | some host => { c with sni := some host }.goto (.lookup buffered host)

/-- What comes after the lookup. -/
def afterLookup (c : Connection) (buffered : Bytes) :
    Except RouteError RouteMatch → Connection
  | .ok route =>
    { c with backend := some route.backend }.goto
      (.connect buffered route.backend (.start route.backend))
  | .error .notFound => c.goto (.alert .unknownHost unrecognizedNameAlert)
  | .error (.lookup _) => c.finish .lookupFailed
  | .error .timeout => c.finish .lookupTimeout

/-- One event of the future of the current stage. -/
def work (config : RouterConfig) (event : WorkEvent) (c : Connection) :
    Option (Connection × List MetricEvent) :=
  match event, c.stage with
  | .read n, .hello reader =>
    (HelloSession.read config.helloLimits n ⟨reader, c.sockets.unread⟩).map fun session =>
      ({ c with stage := .hello session.reader, sockets := c.sockets.readClient n }, [])
  | .readError, .hello (.reading _) => some ({ c with stage := .hello (.done (.error .io)) }, [])
  | .parsed, .hello (.done outcome) => some (c.afterHello outcome, [])
  | .elapsed, .hello (.reading _) => some (c.finish .helloTimeout, [])
  | .alertWrite n, .alert outcome unsent =>
    if 0 < n ∧ n ≤ unsent.length then
      some ({ c with
        stage := .alert outcome (unsent.drop n)
        sockets := c.sockets.writeClient n }, [])
    else none
  -- sent and shut down, failed or timed out
  | .alertEnd, .alert outcome _ => some (c.finish outcome, [])
  | .lookup ended, .lookup buffered host =>
    let resolved := resolveRoute (fun _ => ended) host
    some (c.afterLookup buffered resolved, [.routeLookup (lookupOutcome resolved)])
  | .dial event, .connect buffered backend dial =>
    (dial.step backend buffered event c.sockets).map fun (dial, sockets) =>
      match dial with
      | some dial => ({ c with stage := .connect buffered backend dial, sockets := sockets }, [])
      | none =>
        ({ c with sockets := sockets }.finish .upstreamConnectFailed, [.upstreamConnect false])
  | .elapsed, .connect _ _ _ => some (c.finish .upstreamTimeout, [.upstreamConnect false])
  | .connected, .connect buffered _ (.replaying written) =>
    if written = buffered.length then some (c.goto .entering, [.upstreamConnect true]) else none
  | .setup pipes, .proxying none =>
    let bufferSize := max config.copyBufferSize minCopyBuffer
    some ({ c with stage := .proxying (some (.setup bufferSize pipes)) }, [])
  | .copy event, .proxying (some copy) =>
    (copy.step event c.sockets).map fun (copy, sockets) =>
      ({ c with stage := .proxying (some copy), sockets := sockets }, [])
  | .idle, .proxying _ =>
    if config.idleTimeout.isSome then some (c.goto (.leaving (some .idleTimeout)), []) else none
  | .finished, .proxying (some copy) =>
    if copy.finished then some (c.goto (.leaving (some .proxied)), []) else none
  | .error, .proxying (some _) => some (c.goto (.leaving (some .proxyError)), [])
  | _, _ => none

/-- What the close record reports when it is dropped. -/
def closingEvents (c : Connection) : List MetricEvent :=
  (if c.sockets.counters.read > 0 then [.bytesRead c.sockets.counters.read] else []) ++
    (if c.sockets.counters.written > 0 then [.bytesWritten c.sockets.counters.written] else []) ++
    [.connectionClosed (c.outcome.getD .aborted)]

/-- One event of the task, with the gate and the metrics after it. -/
def step (config : RouterConfig) (gate : ProxyGate) (force : Bool) (event : ConnectionEvent)
    (c : Connection) : Option (Connection × ProxyGate × List MetricEvent) :=
  match event, c.stage with
  | .start, .spawned =>
    some ({ c with stage := .hello (.start config.helloLimits), opened := true }, gate,
      [.connectionOpened])
  | .poll, .proxying _ =>
    if c.checked then none
    else if force then some (c.goto (.leaving (some .shutdownForced)), gate, [])
    else some ({ c with checked := true }, gate, [])
  | .poll, stage =>
    if c.checked then none
    else
      stage.onCancel.map fun outcome =>
        if gate.cancelled then (c.finish outcome, gate, [])
        else ({ c with checked := true }, gate, [])
  | .pending, _ => if c.checked then some ({ c with checked := false }, gate, []) else none
  | .work event, _ =>
    if c.checked then (c.work config event).map fun (c, events) => (c, gate, events) else none
  | .enter, .entering =>
    match gate.enter with
    | some gate => some ({ c with stage := .proxying none, proxied := true }, gate, [])
    | none => some (c.finish .shutdownCancelled, gate, [])
  | .dropPass, .leaving outcome =>
    some ({ c with stage := .returned, outcome := outcome }, gate.dropPass, [])
  -- unwinding and dropping the future run the same drops in the same order
  | .abort, .spawned => some (c.goto .closed, gate, [])
  | .abort, .proxying _ => some (c.goto (.leaving none), gate, [])
  | .abort, stage => if stage.handshaking then some (c.goto .returned, gate, []) else none
  | .closeBooks, .returned => some (c.goto .closed, gate, c.closingEvents)
  | .releaseSlot, .closed => some (c.goto .released, gate, [])
  | .exit, .released => some (c.goto .gone, gate, [])
  | _, _ => none

-- ---------------------------------------------------------------------------
-- All that one event can do
-- ---------------------------------------------------------------------------

/-- What the future of a stage can do in one event. -/
inductive Worked (config : RouterConfig) (c : Connection) :
    WorkEvent → Connection → List MetricEvent → Prop where
  | read {n reader session} (hstage : c.stage = .hello reader)
      (hread : HelloSession.read config.helloLimits n ⟨reader, c.sockets.unread⟩ = some session) :
      Worked config c (.read n)
        { c with stage := .hello session.reader, sockets := c.sockets.readClient n } []
  | readError {buf} (hstage : c.stage = .hello (.reading buf)) :
      Worked config c .readError { c with stage := .hello (.done (.error .io)) } []
  | rejected {error outcome} (hstage : c.stage = .hello (.done (.error error)))
      (houtcome : outcome = .invalidHello ∨ outcome = .clientClosed) :
      Worked config c .parsed (c.finish outcome) []
  | noSni {buffered hello} (hstage : c.stage = .hello (.done (.ok (buffered, hello)))) :
      Worked config c .parsed (c.goto (.alert .missingSni unrecognizedNameAlert)) []
  | named {buffered hello host} (hstage : c.stage = .hello (.done (.ok (buffered, hello))))
      (hsni : hello.sni = some host) :
      Worked config c .parsed ({ c with sni := some host }.goto (.lookup buffered host)) []
  | helloTimeout {buf} (hstage : c.stage = .hello (.reading buf)) :
      Worked config c .elapsed (c.finish .helloTimeout) []
  | alertWrite {outcome unsent n} (hstage : c.stage = .alert outcome unsent) :
      Worked config c (.alertWrite n)
        { c with stage := .alert outcome (unsent.drop n), sockets := c.sockets.writeClient n } []
  | alertEnd {outcome unsent} (hstage : c.stage = .alert outcome unsent) :
      Worked config c .alertEnd (c.finish outcome) []
  | routed {buffered host ended} {route : RouteMatch} (hstage : c.stage = .lookup buffered host)
      (hroute : resolveRoute (fun _ => ended) host = .ok route) (looked) :
      Worked config c (.lookup ended)
        ({ c with backend := some route.backend }.goto
          (.connect buffered route.backend (.start route.backend))) [.routeLookup looked]
  | notFound {buffered host ended} (hstage : c.stage = .lookup buffered host) (looked) :
      Worked config c (.lookup ended) (c.goto (.alert .unknownHost unrecognizedNameAlert))
        [.routeLookup looked]
  | lookupFailed {buffered host ended outcome} (hstage : c.stage = .lookup buffered host)
      (houtcome : outcome = .lookupFailed ∨ outcome = .lookupTimeout) (looked) :
      Worked config c (.lookup ended) (c.finish outcome) [.routeLookup looked]
  | dialled {buffered backend dial event dial' sockets}
      (hstage : c.stage = .connect buffered backend dial)
      (hdial : dial.step backend buffered event c.sockets = some (some dial', sockets)) :
      Worked config c (.dial event)
        { c with stage := .connect buffered backend dial', sockets := sockets } []
  | dialFailed {buffered backend dial event sockets}
      (hstage : c.stage = .connect buffered backend dial)
      (hdial : dial.step backend buffered event c.sockets = some (none, sockets)) :
      Worked config c (.dial event)
        ({ c with sockets := sockets }.finish .upstreamConnectFailed) [.upstreamConnect false]
  | upstreamTimeout {buffered backend dial} (hstage : c.stage = .connect buffered backend dial) :
      Worked config c .elapsed (c.finish .upstreamTimeout) [.upstreamConnect false]
  | connected {buffered backend}
      (hstage : c.stage = .connect buffered backend (.replaying buffered.length)) :
      Worked config c .connected (c.goto .entering) [.upstreamConnect true]
  | setup {pipes} (hstage : c.stage = .proxying none) (copy)
      (hcopy : copy = Copy.setup (max config.copyBufferSize minCopyBuffer) pipes) :
      Worked config c (.setup pipes) { c with stage := .proxying (some copy) } []
  | copied {copy event copy' sockets} (hstage : c.stage = .proxying (some copy))
      (hcopy : copy.step event c.sockets = some (copy', sockets)) :
      Worked config c (.copy event)
        { c with stage := .proxying (some copy'), sockets := sockets } []
  | idle {copy} (hstage : c.stage = .proxying copy) :
      Worked config c .idle (c.goto (.leaving (some .idleTimeout))) []
  | finished {copy} (hstage : c.stage = .proxying (some copy)) (hfinished : copy.finished = true) :
      Worked config c .finished (c.goto (.leaving (some .proxied))) []
  | error {copy} (hstage : c.stage = .proxying (some copy)) :
      Worked config c .error (c.goto (.leaving (some .proxyError))) []

/-- The work of a connection, case by case. -/
theorem work_cases {config : RouterConfig} {event : WorkEvent} {c c' : Connection}
    {events : List MetricEvent} (h : c.work config event = some (c', events)) :
    Worked config c event c' events := by
  unfold work at h
  split at h
  · next n reader hstage =>
    obtain ⟨session, hread, h⟩ := Option.map_eq_some_iff.mp h
    cases h
    exact .read hstage hread
  · next hstage =>
    cases h
    exact .readError hstage
  · next outcome hstage =>
    cases h
    unfold afterHello
    split
    · exact .rejected hstage (.inl rfl)
    · exact .rejected hstage (.inr rfl)
    · exact .rejected hstage (.inr rfl)
    · split
      · exact .noSni hstage
      · next hsni => exact .named hstage hsni
  · next hstage =>
    cases h
    exact .helloTimeout hstage
  · next hstage =>
    split_ifs at h
    cases h
    exact .alertWrite hstage
  · next hstage =>
    cases h
    exact .alertEnd hstage
  · next ended buffered host hstage =>
    cases h
    unfold afterLookup
    split
    · next hroute => exact .routed hstage hroute _
    · exact .notFound hstage _
    · exact .lookupFailed hstage (.inl rfl) _
    · exact .lookupFailed hstage (.inr rfl) _
  · next event buffered backend dial hstage =>
    obtain ⟨⟨dial', sockets⟩, hdial, h⟩ := Option.map_eq_some_iff.mp h
    cases dial' with
    | some dial' =>
      cases h
      exact .dialled hstage hdial
    | none =>
      cases h
      exact .dialFailed hstage hdial
  · next hstage =>
    cases h
    exact .upstreamTimeout hstage
  · next hstage =>
    split_ifs at h with hall
    cases h
    exact .connected (hall ▸ hstage)
  · next hstage =>
    cases h
    exact .setup hstage _ rfl
  · next event copy hstage =>
    obtain ⟨⟨copy', sockets⟩, hcopy, h⟩ := Option.map_eq_some_iff.mp h
    cases h
    exact .copied hstage hcopy
  · next hstage =>
    split_ifs at h
    cases h
    exact .idle hstage
  · next copy hstage =>
    split_ifs at h with hfinished
    cases h
    exact .finished hstage hfinished
  · next hstage =>
    cases h
    exact .error hstage
  · exact absurd h (by simp)

/-- What the task of a connection can do in one event. -/
inductive Stepped (config : RouterConfig) (gate : ProxyGate) (force : Bool) (c : Connection) :
    ConnectionEvent → Connection → ProxyGate → List MetricEvent → Prop where
  | start (hstage : c.stage = .spawned) :
      Stepped config gate force c .start
        { c with stage := .hello (.start config.helloLimits), opened := true } gate
        [.connectionOpened]
  | cancelled {outcome} (hunchecked : c.checked = false)
      (hcancel : c.stage.onCancel = some outcome) (hgate : gate.cancelled = true) :
      Stepped config gate force c .poll (c.finish outcome) gate []
  | forced {copy} (hunchecked : c.checked = false) (hstage : c.stage = .proxying copy)
      (hforce : force = true) :
      Stepped config gate force c .poll (c.goto (.leaving (some .shutdownForced))) gate []
  | checked (hunchecked : c.checked = false)
      (hpass :
        c.stage.onCancel.isSome ∧ gate.cancelled = false ∨ ∃ copy, c.stage = .proxying copy) :
      Stepped config gate force c .poll { c with checked := true } gate []
  | pending (hchecked : c.checked = true) :
      Stepped config gate force c .pending { c with checked := false } gate []
  | work {event c' events} (hchecked : c.checked = true) (hwork : Worked config c event c' events) :
      Stepped config gate force c (.work event) c' gate events
  | entered {gate'} (hstage : c.stage = .entering) (henter : gate.enter = some gate') :
      Stepped config gate force c .enter
        { c with stage := .proxying none, proxied := true } gate' []
  | refused (hstage : c.stage = .entering) (henter : gate.enter = none) :
      Stepped config gate force c .enter (c.finish .shutdownCancelled) gate []
  | dropPass {outcome} (hstage : c.stage = .leaving outcome) :
      Stepped config gate force c .dropPass
        { c with stage := .returned, outcome := outcome } gate.dropPass []
  | neverPolled (hstage : c.stage = .spawned) :
      Stepped config gate force c .abort (c.goto .closed) gate []
  | abandoned (hstage : c.stage.handshaking = true) :
      Stepped config gate force c .abort (c.goto .returned) gate []
  | torn {copy} (hstage : c.stage = .proxying copy) :
      Stepped config gate force c .abort (c.goto (.leaving none)) gate []
  | closeBooks (hstage : c.stage = .returned) :
      Stepped config gate force c .closeBooks (c.goto .closed) gate c.closingEvents
  | releaseSlot (hstage : c.stage = .closed) :
      Stepped config gate force c .releaseSlot (c.goto .released) gate []
  | exit (hstage : c.stage = .released) :
      Stepped config gate force c .exit (c.goto .gone) gate []

/-- An event that happens, case by case. -/
theorem step_cases {config : RouterConfig} {gate gate' : ProxyGate} {force : Bool}
    {event : ConnectionEvent} {c c' : Connection} {events : List MetricEvent}
    (h : c.step config gate force event = some (c', gate', events)) :
    Stepped config gate force c event c' gate' events := by
  unfold step at h
  split at h
  · next hstage =>
    cases h
    exact .start hstage
  · next hstage =>
    split_ifs at h with hchecked hforce
    · cases h
      exact .forced (Bool.eq_false_iff.mpr hchecked) hstage hforce
    · cases h
      exact .checked (Bool.eq_false_iff.mpr hchecked) (.inr ⟨_, hstage⟩)
  · split_ifs at h with hchecked hgate
    · obtain ⟨outcome, hcancel, h⟩ := Option.map_eq_some_iff.mp h
      cases h
      exact .cancelled (Bool.eq_false_iff.mpr hchecked) hcancel hgate
    · obtain ⟨outcome, hcancel, h⟩ := Option.map_eq_some_iff.mp h
      cases h
      refine .checked (Bool.eq_false_iff.mpr hchecked) (.inl ⟨?_, Bool.eq_false_iff.mpr hgate⟩)
      rw [hcancel]
      rfl
  · split_ifs at h with hchecked
    cases h
    exact .pending hchecked
  · split_ifs at h with hchecked
    obtain ⟨⟨c'', events'⟩, hwork, h⟩ := Option.map_eq_some_iff.mp h
    cases h
    exact .work hchecked (work_cases hwork)
  · next hstage =>
    split at h
    · next henter =>
      cases h
      exact .entered hstage henter
    · next henter =>
      cases h
      exact .refused hstage henter
  · next hstage =>
    cases h
    exact .dropPass hstage
  · next hstage =>
    cases h
    exact .neverPolled hstage
  · next hstage =>
    cases h
    exact .torn hstage
  · next stage hspawned hproxying =>
    split_ifs at h with hstage
    cases h
    exact .abandoned hstage
  · next hstage =>
    cases h
    exact .closeBooks hstage
  · next hstage =>
    cases h
    exact .releaseSlot hstage
  · next hstage =>
    cases h
    exact .exit hstage
  · exact absurd h (by simp)

end Connection

end SniRouter
