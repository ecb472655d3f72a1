import SniRouter.Lib.Machine
import SniRouter.Resolver.State

/-!
# SniRouter — the DNS resolver at work

Calls of `resolve`, lookup tasks, the blocking calls under them and the clock
as one machine. Each section under the lock is one event; so is everything a
party does between two awaits outside it.

* `DnsLookup` — a lookup task, the blocking call it waits for, its channel.
* `ResolveCall` — a call of `resolve`.
* `resolverMachine` — the machine; a run is any interleaving.
* `Resolver.step_cases` — all that one event can do.
-/

namespace SniRouter

open Text

-- ---------------------------------------------------------------------------
-- Lookup tasks
-- ---------------------------------------------------------------------------

/-- Where a lookup task is. -/
inductive DnsTask where
  /-- Before it has a permit. -/
  | queued
  /-- The blocking call was handed to its own thread. -/
  | awaiting
  /-- There will be no permit. -/
  | refused
  /-- After the locked section, before the outcome is sent. -/
  | publishing (outcome : Outcome)
  | done
  /-- Dropped, or unwound by a panic, before its locked section. -/
  | died
  /-- The locked section panicked, after it had removed the slot. -/
  | unwinding
  /-- That panic has dropped the sender. -/
  | panicked
deriving DecidableEq

/-- The blocking call has the permit from when it is handed over until it
returns, or is dropped unrun. -/
inductive BlockingCall where
  | idle
  /-- Handed over when there was no thread: left in the queue of the pool. -/
  | queued
  | running
  | returned (result : DnsResult)
deriving DecidableEq

/-- A lookup: its task, the blocking call under it, and its channel. -/
structure DnsLookup where
  key   : ResolverKey
  task  : DnsTask
  call  : BlockingCall
  /-- The value on the watch channel. -/
  value : Option Outcome
  /-- Ghost: the result that was recorded, and when. -/
  stored : Option (DnsResult × Nat)

/-- How a blocking call ends. -/
inductive CallEnd where
  | returned (result : DnsResult)
  | panicked (error : Str)

/-- What a call to the system gives, a panic being an error. -/
def CallEnd.dnsResult : CallEnd → DnsResult
  | .returned result => result
  | .panicked error => .error ⟨.other, ascii "resolver task failed: " ++ error⟩

/-- The error of a semaphore that is closed. -/
def resolverClosed : IoError := ⟨.other, ascii "resolver closed"⟩
/-- The error of a channel without a result. -/
def closed : IoError := ⟨.other, ascii "resolver lookup ended without a result"⟩

/-- What a lookup does outside the lock. -/
inductive DnsEvent where
  /-- It gets a permit and starts the blocking call. -/
  | permit
  /-- It gets a permit, and the operating system no thread: the task unwinds,
  and the call with its permit stays queued. -/
  | noThread
  | refuse
  /-- A thread that was started for another call takes a queued one. -/
  | callStarts
  /-- The runtime drops a queued call. -/
  | callDropped
  | callEnds (callEnd : CallEnd)
  | die
  | publish
  | unwind

/-- What becomes of the blocking call, and of its permit. -/
def BlockingCall.advance (event : DnsEvent) (permits : Nat) (call : BlockingCall) :
    Option (Nat × BlockingCall) :=
  match event, call with
  | .callStarts, .queued => some (permits, .running)
  | .callDropped, .queued => some (permits + 1, .idle)
  | .callEnds callEnd, .running => some (permits + 1, .returned callEnd.dnsResult)
  | _, _ => none

namespace DnsLookup

/-- A lookup whose task has just been spawned. -/
def spawn (key : ResolverKey) : DnsLookup := ⟨key, .queued, .idle, none, none⟩

/-- One event of a lookup, with the permits that are free before and after. -/
def advance (event : DnsEvent) (permits : Nat) (lookup : DnsLookup) : Option (Nat × DnsLookup) :=
  match event, lookup.task with
  | .permit, .queued =>
    if permits = 0 then none
    else some (permits - 1, { lookup with task := .awaiting, call := .running })
  | .noThread, .queued =>
    if permits = 0 then none
    else some (permits - 1, { lookup with task := .died, call := .queued })
  | .refuse, .queued => some (permits, { lookup with task := .refused })
  -- the call goes on when its task is gone
  | .callStarts, _ | .callDropped, _ | .callEnds _, _ =>
    (lookup.call.advance event permits).map fun (permits, call) =>
      (permits, { lookup with call := call })
  | .die, .queued => some (permits, { lookup with task := .died })
  | .die, .awaiting => some (permits, { lookup with task := .died })
  | .publish, .publishing outcome =>
    some (permits, { lookup with task := .done, value := some outcome })
  | .unwind, .unwinding => some (permits, { lookup with task := .panicked })
  | _, _ => none

/-- The result with which a task comes to its locked section. -/
def ready (lookup : DnsLookup) : Option DnsResult :=
  match lookup.task, lookup.call with
  | .awaiting, .returned result => some result
  | .refused, _ => some (.error resolverClosed)
  | _, _ => none

/-- Registered: the locked section has not run. -/
def unrecorded (lookup : DnsLookup) : Bool :=
  match lookup.task with
  | .publishing _ | .done | .unwinding | .panicked => false
  | _ => true

/-- The task is over, in whatever way. -/
def ended (lookup : DnsLookup) : Bool :=
  match lookup.task with
  | .done | .died | .panicked => true
  | _ => false

/-- After its locked section at `now`: with the outcome to publish, or unwinding
without one. -/
def recorded (lookup : DnsLookup) (now : Nat) (result : DnsResult) :
    Option Outcome → DnsLookup
  | some outcome =>
    { lookup with task := .publishing outcome, stored := some (result, now) }
  | none => { lookup with task := .unwinding }

/-- What a receiver waiting for a value gets, once there is something to get. -/
def received (lookup : DnsLookup) : Option Outcome :=
  match lookup.value with
  | some outcome => some outcome
  | none => if lookup.ended then some (.error closed) else none

end DnsLookup

-- ---------------------------------------------------------------------------
-- Calls
-- ---------------------------------------------------------------------------

/-- What became of a call. -/
inductive ResolvePhase where
  | begun
  | waiting (channel : Nat)
  | returned (result : DnsResult)
  | cancelled
deriving DecidableEq

/-- A call of `resolve`. -/
structure ResolveCall where
  key     : ResolverKey
  started : Nat
  phase   : ResolvePhase

/-- Ghost: a call that got addresses, with the rotation it got them by. -/
structure Turn where
  key      : ResolverKey
  started  : Nat
  rotation : UInt64
  answer   : Addresses
  result   : List SocketAddr

-- ---------------------------------------------------------------------------
-- The machine
-- ---------------------------------------------------------------------------

/-- The resolver with its clock, its permits, its lookups and its calls. -/
structure ResolverSystem where
  clock    : Nat
  state    : ResolverState
  rotation : UInt64
  permits  : Nat
  lookups  : List DnsLookup
  calls    : List ResolveCall
  turns    : List Turn

/-- The passage of time, a step of a call or of a lookup task. -/
inductive ResolverStep where
  | tick (duration : Nat)
  | begin (key : ResolverKey)
  | locked (c : Nat)
  | wake (c : Nat)
  | cancel (c : Nat)
  | lookup (p : Nat) (event : DnsEvent)
  | record (p : Nat)

namespace Resolver

/-- An empty resolver; the configuration sets at least one permit. -/
def start (config : ResolverConfig) : ResolverSystem :=
  ⟨0, ⟨∅, ∅⟩, 0, max config.maxConcurrent 1, [], [], []⟩

/-- A call changes its phase. -/
def setPhase (s : ResolverSystem) (c : Nat) (call : ResolveCall) (phase : ResolvePhase) :
    ResolverSystem :=
  { s with calls := s.calls.set c { call with phase := phase } }

/-- A call gets its outcome; addresses are rotated. -/
def answer (s : ResolverSystem) (c : Nat) (call : ResolveCall) (outcome : Outcome) :
    ResolverSystem :=
  match outcome with
  | .error error => setPhase s c call (.returned (.error error))
  | .ok addrs =>
    let result := rotated s.rotation addrs.addrs
    setPhase { s with
      rotation := s.rotation + 1
      turns := s.turns ++ [⟨call.key, call.started, s.rotation, addrs, result⟩] } c call
      (.returned (.ok result))

/-- The locked section of `resolve`. -/
def lock (s : ResolverSystem) (c : Nat) (call : ResolveCall) : ResolverSystem :=
  match fresh s.state.cache s.clock call.key with
  | some cached => answer s c call cached
  | none =>
    match s.state.inflight.lookup call.key with
    | some channel => setPhase s c call (.waiting channel)
    | none =>
      let p := s.lookups.length
      setPhase { s with
        state := { s.state with inflight := s.state.inflight.insert call.key p }
        lookups := s.lookups ++ [.spawn call.key] } c call (.waiting p)

/-- The locked section of a lookup. The slot goes before `store` may panic. -/
def recordSection (config : ResolverConfig) (s : ResolverSystem) (p : Nat) (lookup : DnsLookup)
    (result : DnsResult) : ResolverSystem :=
  let (outcome, cache) := store config s.clock s.state.cache lookup.key p result
  { s with
    state := ⟨cache, s.state.inflight.erase lookup.key⟩
    lookups := s.lookups.set p (lookup.recorded s.clock result outcome) }

/-- The step relation; `none` is an event that cannot happen. -/
def step (config : ResolverConfig) (event : ResolverStep) (s : ResolverSystem) :
    Option ResolverSystem :=
  match event with
  | .tick duration =>
    if s.clock + duration ≤ maxInstant then some { s with clock := s.clock + duration } else none
  | .begin key => some { s with calls := s.calls ++ [⟨key, s.clock, .begun⟩] }
  | .locked c =>
    (s.calls[c]?).bind fun call =>
      match call.phase with
      | .begun => some (lock s c call)
      | _ => none
  | .wake c =>
    (s.calls[c]?).bind fun call =>
      match call.phase with
      | .waiting channel =>
        ((s.lookups[channel]?).bind DnsLookup.received).map (answer s c call)
      | _ => none
  | .cancel c =>
    (s.calls[c]?).bind fun call =>
      match call.phase with
      | .waiting _ => some (setPhase s c call .cancelled)
      | _ => none
  | .lookup p event =>
    (s.lookups[p]?).bind fun lookup =>
      (lookup.advance event s.permits).map fun (permits, lookup) =>
        { s with permits := permits, lookups := s.lookups.set p lookup }
  | .record p =>
    (s.lookups[p]?).bind fun lookup => lookup.ready.map (recordSection config s p lookup)

/-- All that one event can do. -/
inductive Stepped (config : ResolverConfig) (s : ResolverSystem) :
    ResolverStep → ResolverSystem → Prop where
  | tick {duration} (hclock : s.clock + duration ≤ maxInstant) :
      Stepped config s (.tick duration) { s with clock := s.clock + duration }
  | begin {key} :
      Stepped config s (.begin key) { s with calls := s.calls ++ [⟨key, s.clock, .begun⟩] }
  | fresh {c call outcome} (hcall : s.calls[c]? = some call) (hphase : call.phase = .begun)
      (hfresh : Resolver.fresh s.state.cache s.clock call.key = some outcome) :
      Stepped config s (.locked c) (answer s c call outcome)
  | join {c call channel} (hcall : s.calls[c]? = some call) (hphase : call.phase = .begun)
      (hfresh : Resolver.fresh s.state.cache s.clock call.key = none)
      (hslot : s.state.inflight.lookup call.key = some channel) :
      Stepped config s (.locked c) (setPhase s c call (.waiting channel))
  | spawn {c call} (hcall : s.calls[c]? = some call) (hphase : call.phase = .begun)
      (hfresh : Resolver.fresh s.state.cache s.clock call.key = none)
      (hslot : s.state.inflight.lookup call.key = none) :
      Stepped config s (.locked c) (setPhase { s with
        state := { s.state with inflight := s.state.inflight.insert call.key s.lookups.length }
        lookups := s.lookups ++ [.spawn call.key] } c call (.waiting s.lookups.length))
  | wake {c call channel lookup outcome} (hcall : s.calls[c]? = some call)
      (hphase : call.phase = .waiting channel) (hlookup : s.lookups[channel]? = some lookup)
      (hreceived : lookup.received = some outcome) :
      Stepped config s (.wake c) (answer s c call outcome)
  | cancel {c call channel} (hcall : s.calls[c]? = some call)
      (hphase : call.phase = .waiting channel) :
      Stepped config s (.cancel c) (setPhase s c call .cancelled)
  | lookup {p event lookup permits lookup'} (hlookup : s.lookups[p]? = some lookup)
      (hadvance : lookup.advance event s.permits = some (permits, lookup')) :
      Stepped config s (.lookup p event)
        { s with permits := permits, lookups := s.lookups.set p lookup' }
  | record {p lookup result} (hlookup : s.lookups[p]? = some lookup)
      (hready : lookup.ready = some result) :
      Stepped config s (.record p) (recordSection config s p lookup result)

/-- An event that happens, case by case. -/
theorem step_cases {config : ResolverConfig} {event : ResolverStep} {s s' : ResolverSystem}
    (h : step config event s = some s') : Stepped config s event s' := by
  cases event with
  | tick duration =>
    unfold step at h
    dsimp only at h
    split_ifs at h with hclock
    injection h with h
    exact h ▸ .tick hclock
  | begin key =>
    injection h with h
    exact h ▸ .begin
  | locked c =>
    obtain ⟨call, hcall, h⟩ := Option.bind_eq_some_iff.mp h
    split at h
    · next hphase =>
      injection h with h
      subst h
      unfold lock
      cases hfresh : fresh s.state.cache s.clock call.key with
      | some outcome => exact .fresh hcall hphase hfresh
      | none =>
        dsimp only
        cases hslot : s.state.inflight.lookup call.key with
        | some channel => exact .join hcall hphase hfresh hslot
        | none => exact .spawn hcall hphase hfresh hslot
    · exact absurd h (by simp)
  | wake c =>
    obtain ⟨call, hcall, h⟩ := Option.bind_eq_some_iff.mp h
    split at h
    · next channel hphase =>
      obtain ⟨outcome, houtcome, rfl⟩ := Option.map_eq_some_iff.mp h
      obtain ⟨lookup, hlookup, hreceived⟩ := Option.bind_eq_some_iff.mp houtcome
      exact .wake hcall hphase hlookup hreceived
    · exact absurd h (by simp)
  | cancel c =>
    obtain ⟨call, hcall, h⟩ := Option.bind_eq_some_iff.mp h
    split at h
    · next hphase =>
      injection h with h
      exact h ▸ .cancel hcall hphase
    · exact absurd h (by simp)
  | lookup p event =>
    obtain ⟨lookup, hlookup, h⟩ := Option.bind_eq_some_iff.mp h
    obtain ⟨⟨permits, lookup'⟩, hadvance, rfl⟩ := Option.map_eq_some_iff.mp h
    exact .lookup hlookup hadvance
  | record p =>
    obtain ⟨lookup, hlookup, h⟩ := Option.bind_eq_some_iff.mp h
    obtain ⟨result, hready, rfl⟩ := Option.map_eq_some_iff.mp h
    exact .record hlookup hready

end Resolver

/-- The resolver with its calls and lookups. -/
def resolverMachine (config : ResolverConfig) : Machine ResolverSystem ResolverStep where
  init s := s = Resolver.start config
  step   := Resolver.step config

end SniRouter
