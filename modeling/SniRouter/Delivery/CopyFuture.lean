import SniRouter.Delivery.Splice
import SniRouter.Platform.Text

/-!
# SniRouter — the copy of a connection, and what it holds

`copy` with the permit and the pipes it takes. One event is what it does
between two moments at which another connection can be observed: a system call,
a permit taken or put back, one descriptor closed. The future may be dropped at
any await; unwinding runs the same drops.

* `Pipe` / `Leg` — a pipe with its open ends, and the direction that owns it.
* `Admission` — the permits of the process, from the descriptor limit.
* `CopyFuture.step` — one event of `copy`.
* `CopyFuture.Stepped` — all that one event can do.
* `CopyFuture.Held` — a permit is held around every pipe, and by nobody else.
-/

namespace SniRouter

open Framing Text

-- ---------------------------------------------------------------------------
-- Pipes
-- ---------------------------------------------------------------------------

/-- A pipe, with its ends open or closed. -/
structure Pipe where
  read     : Bool
  write    : Bool
  capacity : Nat

namespace Pipe

/-- `Pipe::new` where `pipe2` succeeds; `size` is what `F_GETPIPE_SZ` returns. -/
def new (bufferSize : Nat) (size : Int) : Pipe where
  read := true
  write := true
  capacity := if size > 0 then size.toNat else bufferSize

/-- The descriptors that are open. -/
def fds (pipe : Pipe) : Nat := pipe.read.toNat + pipe.write.toNat

/-- Dropping a pipe closes its read end, then its write end. -/
def closeEnd (pipe : Pipe) : Option Pipe :=
  if pipe.read then some { pipe with read := false }
  else if pipe.write then some { pipe with write := false }
  else none

/-- Pipes are dropped one after the other. -/
def closeNext : List Pipe → Option (List Pipe)
  | [] => none
  | pipe :: pipes =>
    match pipe.closeEnd with
    | some pipe => some (pipe :: pipes)
    | none => (closeNext pipes).map (pipe :: ·)

/-- The descriptors of all of them. -/
def fdsOf (pipes : List Pipe) : Nat := (pipes.map fds).sum

end Pipe

/-- A direction in `copy_bidirectional`, with the pipe it owns. -/
structure Leg where
  direction : SpliceDirection
  pipe      : Pipe

namespace Leg

/-- A leg with its pipe. -/
def start (pipe : Pipe) (source : Bytes) : Leg := ⟨.start pipe.capacity source, pipe⟩

/-- A system call of `splice_direction`. -/
def call (event : SpliceEvent) (leg : Leg) : Option Leg :=
  (leg.direction.step event).map fun direction => { leg with direction := direction }

/-- What `splice_direction` has returned. -/
def returned (leg : Leg) : Option (Except IoErrorKind Unit) :=
  match leg.direction.point with
  | .returned result => some result
  | _ => none

/-- Its pipe is dropped when it returns. -/
def closeEnd (leg : Leg) : Option Leg :=
  if leg.returned.isSome then leg.pipe.closeEnd.map fun pipe => { leg with pipe := pipe } else none

/-- Its future is ready: it has returned and dropped its pipe. -/
def ready (leg : Leg) : Option (Except IoErrorKind Unit) :=
  if leg.pipe.closeEnd.isNone then leg.returned else none

end Leg

-- ---------------------------------------------------------------------------
-- Admission
-- ---------------------------------------------------------------------------

/-- `MAX_SPLICE_FD_SHARE`. -/
def maxSpliceFdShare : Nat := 2
/-- `FDS_PER_SPLICE_CONNECTION`. -/
def fdsPerSpliceConnection : Nat := 4

/-- What `Admission::new` finds. -/
structure SpliceEnv where
  /-- `SNI_ROUTER_MAX_SPLICE_CONNECTIONS`, where it is set to a string. -/
  maxSpliceConnections : Option Str
  /-- `nofile_soft_limit()` -/
  nofileSoftLimit      : Option Nat

/-- `splice_permits`. -/
def splicePermits (nofileLimit : Nat) : Nat :=
  nofileLimit / maxSpliceFdShare / fdsPerSpliceConnection

/-- `admission_capacity`: the override if it is a number. -/
def admissionCapacity (overrideValue : Option Str) (nofileLimit : Nat) : Nat :=
  match overrideValue.bind parseUsize with
  | some permits => permits
  | none => splicePermits nofileLimit

/-- `Semaphore::MAX_PERMITS`; `Semaphore::new` panics above. -/
def maxPermits : Nat := (2 ^ 64 - 1) / 8

/-- The free permits of the process. -/
structure Admission where
  permits : Nat

namespace Admission

/-- The capacity that the process's environment gives. -/
def capacity (env : SpliceEnv) : Nat :=
  admissionCapacity env.maxSpliceConnections (env.nofileSoftLimit.getD 0)

/-- None if it panics. -/
def new (env : SpliceEnv) : Option Admission :=
  if capacity env ≤ maxPermits then some ⟨capacity env⟩ else none

/-- `try_acquire`. -/
def tryAcquire (admission : Admission) : Option Admission :=
  if admission.permits = 0 then none else some ⟨admission.permits - 1⟩

/-- A permit is dropped. -/
def release (admission : Admission) : Admission := ⟨admission.permits + 1⟩

end Admission

-- ---------------------------------------------------------------------------
-- The copy
-- ---------------------------------------------------------------------------

/-- How the future of `copy` ends. -/
inductive CopyEnd where
  | finished
  | error
  | dropped
deriving DecidableEq

/-- Where `copy` is. -/
inductive CopyPoint where
  /-- Not polled yet. -/
  | created
  /-- Splicing is available. -/
  | admitting
  /-- In `prepare`. -/
  | preparing
  | preparingSecond (toUpstream : Pipe)
  /-- In `copy_bidirectional`. -/
  | splicing (toUpstream toClient : Leg)
  /-- Pipes are dropped, then the permit: `prepare` has failed, or the future
  ends. -/
  | parting (pipes : List Pipe) (ended : Option CopyEnd)
  /-- In the portable copy. -/
  | portable
  | gone (ended : CopyEnd)

/-- The pipes that are there. -/
def CopyPoint.pipes : CopyPoint → List Pipe
  | .preparingSecond toUpstream => [toUpstream]
  | .splicing toUpstream toClient => [toUpstream.pipe, toClient.pipe]
  | .parting pipes _ => pipes
  | .created | .admitting | .preparing | .portable | .gone _ => []

/-- The future is being dropped, or is gone. -/
def CopyPoint.leaving : CopyPoint → Bool
  | .parting _ _ | .gone _ => true
  | _ => false

/-- `copy` of one connection. -/
structure CopyFuture where
  bufferSize : Nat
  /-- What the client and the upstream are still to send. -/
  sources    : Bytes × Bytes
  point      : CopyPoint
  /-- It holds a permit. -/
  permit     : Bool

/-- What happens to a copy. -/
inductive CopyFutureEvent where
  /-- The first poll, and what `available` finds. -/
  | poll (available : Bool)
  | tryAcquire
  /-- `Pipe::new`, none if `pipe2` fails. -/
  | pipe (size : Option Int)
  | toUpstream (event : SpliceEvent)
  | toClient (event : SpliceEvent)
  /-- A direction that has returned closes an end of its pipe. -/
  | closeToUpstream
  | closeToClient
  /-- `try_join` is ready. -/
  | joined
  /-- An end of a pipe that is being dropped is closed. -/
  | close
  /-- The permit goes, or there was none. -/
  | release
  /-- The portable copy has returned. -/
  | ended (ok : Bool)
  /-- The future is dropped, or unwinds. -/
  | drop

/-- What `try_join` comes to. -/
def tryJoin : Option (Except IoErrorKind Unit) → Option (Except IoErrorKind Unit) → Option CopyEnd
  | some (.error _), _ => some .error
  | _, some (.error _) => some .error
  | some (.ok ()), some (.ok ()) => some .finished
  | _, _ => none

namespace CopyFuture

/-- A copy that was not polled yet. -/
def new (bufferSize : Nat) (client upstream : Bytes) : CopyFuture :=
  ⟨bufferSize, (client, upstream), .created, false⟩

/-- The copy goes on to another point. -/
def goto (point : CopyPoint) (copy : CopyFuture) : CopyFuture := { copy with point := point }

/-- The pipe descriptors it holds. -/
def fds (copy : CopyFuture) : Nat := Pipe.fdsOf copy.point.pipes

/-- `admission().try_acquire()`; the first caller sets up the `OnceLock`. -/
def tryAcquire (env : SpliceEnv) (admission : Option Admission) (copy : CopyFuture) :
    Option Admission × CopyFuture :=
  match admission <|> Admission.new env with
  | none => (none, copy.goto (.parting [] (some .dropped)))
  | some admission =>
    match admission.tryAcquire with
    | none => (some admission, copy.goto .portable)
    | some admission => (some admission, { copy with point := .preparing, permit := true })

/-- `Pipe::new` in `prepare`. -/
def pipe (size : Option Int) (copy : CopyFuture) : Option CopyFuture :=
  match copy.point, size with
  | .preparing, some size => some (copy.goto (.preparingSecond (.new copy.bufferSize size)))
  | .preparingSecond toUpstream, some size =>
    some (copy.goto (.splicing (.start toUpstream copy.sources.1)
      (.start (.new copy.bufferSize size) copy.sources.2)))
  | .preparing, none | .preparingSecond _, none => some (copy.goto (.parting copy.point.pipes none))
  | _, _ => none

/-- The permit is dropped, and `copy` goes on or is over. -/
def release (ended : Option CopyEnd) (admission : Option Admission) (copy : CopyFuture) :
    Option Admission × CopyFuture :=
  (if copy.permit then admission.map .release else admission,
    { copy with
      point := match ended with
        | none => .portable
        | some ended => .gone ended
      permit := false })

/-- One event of `copy`, with the permits of the process. -/
def step (env : SpliceEnv) (event : CopyFutureEvent) (admission : Option Admission)
    (copy : CopyFuture) : Option (Option Admission × CopyFuture) :=
  match event, copy.point with
  | .poll available, .created =>
    some (admission, copy.goto (if available then .admitting else .portable))
  | .tryAcquire, .admitting => some (copy.tryAcquire env admission)
  | .pipe size, _ => (copy.pipe size).map fun copy => (admission, copy)
  | .toUpstream event, .splicing toUpstream toClient =>
    (toUpstream.call event).map fun leg => (admission, copy.goto (.splicing leg toClient))
  | .toClient event, .splicing toUpstream toClient =>
    (toClient.call event).map fun leg => (admission, copy.goto (.splicing toUpstream leg))
  | .closeToUpstream, .splicing toUpstream toClient =>
    toUpstream.closeEnd.map fun leg => (admission, copy.goto (.splicing leg toClient))
  | .closeToClient, .splicing toUpstream toClient =>
    toClient.closeEnd.map fun leg => (admission, copy.goto (.splicing toUpstream leg))
  | .joined, .splicing toUpstream toClient =>
    (tryJoin toUpstream.ready toClient.ready).map fun ended =>
      (admission, copy.goto (.parting copy.point.pipes (some ended)))
  | .close, .parting pipes ended =>
    (Pipe.closeNext pipes).map fun pipes => (admission, copy.goto (.parting pipes ended))
  | .release, .parting pipes ended =>
    if (Pipe.closeNext pipes).isNone then some (copy.release ended admission) else none
  | .ended ok, .portable =>
    some (admission, copy.goto (.gone (if ok then .finished else .error)))
  | .drop, point =>
    if point.leaving then none
    else some (admission, copy.goto (.parting point.pipes (some .dropped)))
  | _, _ => none

/-- All that one event can do. -/
inductive Stepped (env : SpliceEnv) (admission : Option Admission) (copy : CopyFuture) :
    CopyFutureEvent → Option Admission → CopyFuture → Prop where
  | polled (available : Bool) (hpoint : copy.point = .created) :
      Stepped env admission copy (.poll available) admission
        (copy.goto (if available then .admitting else .portable))
  | panicked (hpoint : copy.point = .admitting) (hnone : (admission <|> Admission.new env) = none) :
      Stepped env admission copy .tryAcquire none (copy.goto (.parting [] (some .dropped)))
  | exhausted {found : Admission} (hpoint : copy.point = .admitting)
      (hfound : (admission <|> Admission.new env) = some found) (hfree : found.permits = 0) :
      Stepped env admission copy .tryAcquire (some found) (copy.goto .portable)
  | admitted {found : Admission} (hpoint : copy.point = .admitting)
      (hfound : (admission <|> Admission.new env) = some found) (hfree : found.permits ≠ 0) :
      Stepped env admission copy .tryAcquire (some ⟨found.permits - 1⟩)
        { copy with point := .preparing, permit := true }
  | firstPipe (size : Int) (hpoint : copy.point = .preparing) :
      Stepped env admission copy (.pipe (some size)) admission
        (copy.goto (.preparingSecond (.new copy.bufferSize size)))
  | secondPipe {toUpstream : Pipe} (size : Int)
      (hpoint : copy.point = .preparingSecond toUpstream) :
      Stepped env admission copy (.pipe (some size)) admission
        (copy.goto (.splicing (.start toUpstream copy.sources.1)
          (.start (.new copy.bufferSize size) copy.sources.2)))
  | refused (hpoint : copy.point = .preparing ∨ ∃ first, copy.point = .preparingSecond first) :
      Stepped env admission copy (.pipe none) admission
        (copy.goto (.parting copy.point.pipes none))
  | calledToUpstream {toUpstream toClient leg : Leg} {event : SpliceEvent}
      (hpoint : copy.point = .splicing toUpstream toClient)
      (hcall : toUpstream.call event = some leg) :
      Stepped env admission copy (.toUpstream event) admission (copy.goto (.splicing leg toClient))
  | calledToClient {toUpstream toClient leg : Leg} {event : SpliceEvent}
      (hpoint : copy.point = .splicing toUpstream toClient)
      (hcall : toClient.call event = some leg) :
      Stepped env admission copy (.toClient event) admission (copy.goto (.splicing toUpstream leg))
  | closedToUpstream {toUpstream toClient leg : Leg}
      (hpoint : copy.point = .splicing toUpstream toClient)
      (hclose : toUpstream.closeEnd = some leg) :
      Stepped env admission copy .closeToUpstream admission (copy.goto (.splicing leg toClient))
  | closedToClient {toUpstream toClient leg : Leg}
      (hpoint : copy.point = .splicing toUpstream toClient)
      (hclose : toClient.closeEnd = some leg) :
      Stepped env admission copy .closeToClient admission (copy.goto (.splicing toUpstream leg))
  | joined {toUpstream toClient : Leg} {ended : CopyEnd}
      (hpoint : copy.point = .splicing toUpstream toClient)
      (hjoin : tryJoin toUpstream.ready toClient.ready = some ended) :
      Stepped env admission copy .joined admission
        (copy.goto (.parting copy.point.pipes (some ended)))
  | closed {pipes pipes' : List Pipe} {ended : Option CopyEnd}
      (hpoint : copy.point = .parting pipes ended) (hclose : Pipe.closeNext pipes = some pipes') :
      Stepped env admission copy .close admission (copy.goto (.parting pipes' ended))
  | released {pipes : List Pipe} {ended : Option CopyEnd}
      (hpoint : copy.point = .parting pipes ended) (hclosed : Pipe.closeNext pipes = none) :
      Stepped env admission copy .release (copy.release ended admission).1
        (copy.release ended admission).2
  | ended (ok : Bool) (hpoint : copy.point = .portable) :
      Stepped env admission copy (.ended ok) admission
        (copy.goto (.gone (if ok then .finished else .error)))
  | dropped (hpoint : copy.point.leaving = false) :
      Stepped env admission copy .drop admission
        (copy.goto (.parting copy.point.pipes (some .dropped)))

variable {env : SpliceEnv} {admission admission' : Option Admission} {copy copy' : CopyFuture}
  {event : CopyFutureEvent}

/-- What asking for a permit leads to. -/
theorem tryAcquire_cases (hpoint : copy.point = .admitting) :
    Stepped env admission copy .tryAcquire (copy.tryAcquire env admission).1
      (copy.tryAcquire env admission).2 := by
  unfold tryAcquire
  cases hfound : admission <|> Admission.new env with
  | none => exact .panicked hpoint hfound
  | some found =>
    unfold Admission.tryAcquire
    by_cases hfree : found.permits = 0
    · dsimp only
      rw [if_pos hfree]
      exact .exhausted hpoint hfound hfree
    · dsimp only
      rw [if_neg hfree]
      exact .admitted hpoint hfound hfree

/-- What making a pipe leads to. -/
theorem pipe_cases {size : Option Int} (h : copy.pipe size = some copy') :
    Stepped env admission copy (.pipe size) admission copy' := by
  unfold pipe at h
  split at h
  · next size hpoint =>
    cases h
    exact .firstPipe size hpoint
  · next size hpoint =>
    cases h
    exact .secondPipe size hpoint
  · next hpoint =>
    cases h
    exact .refused (.inl hpoint)
  · next hpoint =>
    cases h
    exact .refused (.inr ⟨_, hpoint⟩)
  · exact absurd h (by simp)

/-- A step that happens, case by case. -/
theorem step_cases (h : copy.step env event admission = some (admission', copy')) :
    Stepped env admission copy event admission' copy' := by
  unfold step at h
  split at h
  · next available hpoint =>
    cases h
    exact .polled available hpoint
  · next hpoint =>
    obtain ⟨rfl, rfl⟩ := Prod.ext_iff.mp (Option.some.inj h)
    exact tryAcquire_cases hpoint
  · obtain ⟨copy', hpipe, h⟩ := Option.map_eq_some_iff.mp h
    cases h
    exact pipe_cases hpipe
  · next hpoint =>
    obtain ⟨leg, hcall, h⟩ := Option.map_eq_some_iff.mp h
    cases h
    exact .calledToUpstream hpoint hcall
  · next hpoint =>
    obtain ⟨leg, hcall, h⟩ := Option.map_eq_some_iff.mp h
    cases h
    exact .calledToClient hpoint hcall
  · next hpoint =>
    obtain ⟨leg, hclose, h⟩ := Option.map_eq_some_iff.mp h
    cases h
    exact .closedToUpstream hpoint hclose
  · next hpoint =>
    obtain ⟨leg, hclose, h⟩ := Option.map_eq_some_iff.mp h
    cases h
    exact .closedToClient hpoint hclose
  · next hpoint =>
    obtain ⟨ended, hjoin, h⟩ := Option.map_eq_some_iff.mp h
    cases h
    exact .joined hpoint hjoin
  · next hpoint =>
    obtain ⟨pipes, hclose, h⟩ := Option.map_eq_some_iff.mp h
    cases h
    exact .closed hpoint hclose
  · next hpoint =>
    split_ifs at h with hclosed
    cases h
    exact .released hpoint (Option.isNone_iff_eq_none.mp hclosed)
  · next ok hpoint =>
    cases h
    exact .ended ok hpoint
  · split_ifs at h with hleaving
    cases h
    exact .dropped (Bool.eq_false_of_not_eq_true hleaving)
  · exact absurd h (by simp)

end CopyFuture

-- ---------------------------------------------------------------------------
-- Pipes that are dropped
-- ---------------------------------------------------------------------------

namespace Pipe

theorem fds_le (pipe : Pipe) : pipe.fds ≤ 2 := by
  have hread := Bool.toNat_le pipe.read
  have hwrite := Bool.toNat_le pipe.write
  unfold fds
  omega

/-- A pipe holds something, as the buffer would. -/
theorem new_capacity_pos {bufferSize : Nat} (h : 0 < bufferSize) (size : Int) :
    0 < (Pipe.new bufferSize size).capacity := by
  unfold Pipe.new
  dsimp only
  split_ifs <;> omega

theorem fdsOf_cons (pipe : Pipe) (pipes : List Pipe) :
    fdsOf (pipe :: pipes) = pipe.fds + fdsOf pipes := by
  unfold fdsOf
  rw [List.map_cons, List.sum_cons]

theorem fdsOf_le (pipes : List Pipe) : fdsOf pipes ≤ 2 * pipes.length := by
  induction pipes with
  | nil => exact Nat.zero_le _
  | cons pipe pipes ih =>
    have hpipe := pipe.fds_le
    rw [fdsOf_cons, List.length_cons]
    omega

/-- Closing an end leaves one descriptor less. -/
theorem closeEnd_some {pipe pipe' : Pipe} (h : pipe.closeEnd = some pipe') :
    pipe'.fds + 1 = pipe.fds := by
  unfold closeEnd at h
  unfold fds
  split_ifs at h with hread hwrite
  · cases h
    rw [hread]
    show 0 + pipe.write.toNat + 1 = 1 + pipe.write.toNat
    omega
  · cases h
    rw [hwrite, Bool.eq_false_of_not_eq_true hread]
    rfl

/-- There is no end to close when both are closed. -/
theorem closeEnd_none_iff {pipe : Pipe} : pipe.closeEnd = none ↔ pipe.fds = 0 := by
  obtain ⟨read, write, capacity⟩ := pipe
  cases read <;> cases write <;> simp [closeEnd, fds]

/-- Closing an end closes one descriptor. -/
theorem closeNext_some {pipes pipes' : List Pipe} (h : closeNext pipes = some pipes') :
    fdsOf pipes' + 1 = fdsOf pipes ∧ pipes'.length = pipes.length := by
  induction pipes generalizing pipes' with
  | nil => exact absurd h (by simp [closeNext])
  | cons pipe pipes ih =>
    unfold closeNext at h
    split at h
    · next closed hclose =>
      cases h
      have hone := closeEnd_some hclose
      rw [fdsOf_cons, fdsOf_cons]
      exact ⟨by omega, rfl⟩
    · obtain ⟨rest, hrest, rfl⟩ := Option.map_eq_some_iff.mp h
      obtain ⟨hfds, hlen⟩ := ih hrest
      rw [fdsOf_cons, fdsOf_cons, List.length_cons, List.length_cons, hlen]
      exact ⟨by omega, rfl⟩

/-- Nothing is left to close when no descriptor is open. -/
theorem closeNext_none_iff {pipes : List Pipe} : closeNext pipes = none ↔ fdsOf pipes = 0 := by
  induction pipes with
  | nil => exact ⟨fun _ => rfl, fun _ => rfl⟩
  | cons pipe pipes ih =>
    rw [fdsOf_cons, Nat.add_eq_zero_iff, ← closeEnd_none_iff, ← ih, closeNext]
    cases pipe.closeEnd with
    | none => simp
    | some closed => simp

end Pipe

/-- Copying leaves the pipe as it is. -/
theorem Leg.call_pipe {leg leg' : Leg} {event : SpliceEvent} (h : leg.call event = some leg') :
    leg'.pipe = leg.pipe := by
  obtain ⟨direction, -, rfl⟩ := Option.map_eq_some_iff.mp h
  rfl

-- ---------------------------------------------------------------------------
-- Who holds a permit
-- ---------------------------------------------------------------------------

/-- A permit is held here: in `prepare`, and around every pipe. -/
def CopyPoint.guarded : CopyPoint → Bool
  | .preparing | .preparingSecond _ | .splicing _ _ => true
  | .parting pipes _ => !pipes.isEmpty
  | .created | .admitting | .portable | .gone _ => false

/-- None is held here: before admission, in the portable copy and at the end. -/
def CopyPoint.unguarded : CopyPoint → Bool
  | .created | .admitting | .portable | .gone _ => true
  | _ => false

/-- Where there are pipes, the guard is on. -/
theorem CopyPoint.guarded_of_pipes {point : CopyPoint} (h : (!point.pipes.isEmpty) = true) :
    point.guarded = true := by
  cases point with
  | preparing | preparingSecond | splicing => rfl
  | parting => exact h
  | created | admitting | portable | gone => exact absurd h (by simp [CopyPoint.pipes])

namespace CopyFuture

/-- The permit is around the pipes, and there are two pipes at most. -/
structure Held (copy : CopyFuture) : Prop where
  guarded   : copy.point.guarded = true → copy.permit = true
  unguarded : copy.point.unguarded = true → copy.permit = false
  pipes_le  : copy.point.pipes.length ≤ 2

variable {env : SpliceEnv} {admission admission' : Option Admission} {copy copy' : CopyFuture}
  {event : CopyFutureEvent}

theorem Held.new (bufferSize : Nat) (client upstream : Bytes) :
    (new bufferSize client upstream).Held where
  guarded := fun h => absurd h (by simp [CopyFuture.new, CopyPoint.guarded])
  unguarded := fun _ => rfl
  pipes_le := Nat.zero_le _

/-- The permit stays where it is. -/
theorem Held.goto {point : CopyPoint}
    (hguarded : point.guarded = true → copy.permit = true)
    (hunguarded : point.unguarded = true → copy.permit = false) (hpipes : point.pipes.length ≤ 2) :
    (copy.goto point).Held :=
  ⟨hguarded, hunguarded, hpipes⟩

/-- Whatever is there is dropped before the permit. -/
theorem Held.part (h : copy.Held) (ended : Option CopyEnd) :
    (copy.goto (.parting copy.point.pipes ended)).Held :=
  .goto (fun hpipes => h.guarded (CopyPoint.guarded_of_pipes hpipes))
    (fun hunguarded => absurd hunguarded (by simp [CopyPoint.unguarded])) h.pipes_le

/-- Nothing is held here any more, or not yet. -/
theorem Held.bare (hpermit : copy.permit = false) {point : CopyPoint}
    (hpoint : point.unguarded = true) : (copy.goto point).Held := by
  cases point with
  | created | admitting | portable | gone =>
    exact .goto (fun h => absurd h (by simp [CopyPoint.guarded])) (fun _ => hpermit) (Nat.zero_le _)
  | preparing | preparingSecond | splicing | parting =>
    exact absurd hpoint (by simp [CopyPoint.unguarded])

/-- On with the permit in hand. -/
theorem Held.go (hpermit : copy.permit = true) {point : CopyPoint}
    (hpoint : point.unguarded = false) (hpipes : point.pipes.length ≤ 2) :
    (copy.goto point).Held :=
  .goto (fun _ => hpermit) (fun h => absurd (hpoint.symm.trans h) (by simp)) hpipes

theorem Held.step (h : copy.Held)
    (hstep : Stepped env admission copy event admission' copy') : copy'.Held := by
  cases hstep with
  | polled available hpoint =>
    refine .bare (h.unguarded (by rw [hpoint]; rfl)) ?_
    cases available <;> rfl
  | panicked hpoint =>
    refine .goto (fun h => absurd h (by simp [CopyPoint.guarded])) (fun h => absurd h ?_)
      (Nat.zero_le _)
    simp [CopyPoint.unguarded]
  | exhausted hpoint => exact .bare (h.unguarded (by rw [hpoint]; rfl)) rfl
  | admitted hpoint =>
    exact ⟨fun _ => rfl, fun h => absurd h (by simp [CopyPoint.unguarded]), Nat.zero_le _⟩
  | firstPipe size hpoint =>
    exact .go (h.guarded (by rw [hpoint]; rfl)) rfl (Nat.le_succ 1)
  | secondPipe size hpoint =>
    exact .go (h.guarded (by rw [hpoint]; rfl)) rfl (Nat.le_refl 2)
  | refused | joined | dropped => exact h.part _
  | calledToUpstream hpoint | calledToClient hpoint | closedToUpstream hpoint
  | closedToClient hpoint =>
    exact .go (h.guarded (by rw [hpoint]; rfl)) rfl (Nat.le_refl 2)
  | @closed pipes pipes' ended hpoint hclose =>
    obtain ⟨hguarded, -, hpipes⟩ := h
    rw [hpoint] at hguarded hpipes
    have hlen := (Pipe.closeNext_some hclose).2
    refine .goto (fun hsome => hguarded ?_) (fun h => absurd h (by simp [CopyPoint.unguarded]))
      (hlen.trans_le hpipes)
    -- as many pipes as before
    cases pipes with
    | nil => exact absurd hclose (by simp [Pipe.closeNext])
    | cons => rfl
  | @released pipes ended hpoint hclosed =>
    have hgone : ({ copy with permit := false } : CopyFuture).permit = false := rfl
    cases ended with
    | none => exact .bare hgone rfl
    | some ended => exact .bare hgone rfl
  | ended ok hpoint => exact .bare (h.unguarded (by rw [hpoint]; rfl)) rfl

/-- A pipe is never held without a permit, and two of them have four ends. -/
theorem Held.fds_le (h : copy.Held) : copy.fds ≤ if copy.permit then 4 else 0 := by
  have hfds := Pipe.fdsOf_le copy.point.pipes
  have hpipes := h.pipes_le
  unfold fds
  split_ifs with hpermit
  · omega
  · have hnil : copy.point.pipes = [] := by
      by_contra hsome
      refine hpermit (h.guarded (CopyPoint.guarded_of_pipes ?_))
      simpa using hsome
    rw [hnil]
    exact Nat.le_refl _

/-- A copy that parts has the descriptors of its pipes. -/
theorem fds_of_parting {pipes : List Pipe} {ended : Option CopyEnd}
    (hpoint : copy.point = .parting pipes ended) : copy.fds = Pipe.fdsOf pipes := by
  unfold fds
  rw [hpoint]
  rfl

/-- The buffer size does not change. -/
theorem Stepped.bufferSize_eq (hstep : Stepped env admission copy event admission' copy') :
    copy'.bufferSize = copy.bufferSize := by
  cases hstep <;> rfl

/-- Without a permit no descriptor is open. -/
theorem Held.fds_eq_zero (h : copy.Held) (hpermit : copy.permit = false) : copy.fds = 0 := by
  have hle := h.fds_le
  rw [hpermit, if_neg (by simp)] at hle
  exact Nat.le_zero.mp hle

/-- A permit goes behind the last descriptor. -/
theorem Stepped.fds_of_release (hstep : Stepped env admission copy event admission' copy')
    (hpermit : copy.permit = true) (hgone : copy'.permit = false) : copy.fds = 0 := by
  cases hstep with
  | released hpoint hclosed =>
    exact (fds_of_parting hpoint).trans (Pipe.closeNext_none_iff.mp hclosed)
  | admitted => exact absurd hgone (by simp)
  | polled | panicked | exhausted | firstPipe | secondPipe | refused | calledToUpstream
  | calledToClient | closedToUpstream | closedToClient | joined | closed | ended | dropped =>
    exact absurd (hpermit.symm.trans hgone) (by simp)

end CopyFuture

end SniRouter
