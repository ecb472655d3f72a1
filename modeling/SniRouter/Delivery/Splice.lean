import SniRouter.Delivery.Copy
import SniRouter.Lib.Machine

/-!
# SniRouter — one direction of the splice path

`splice_direction` moves a socket's bytes through a pipe with two nested loops.
Each event is the result of the system call it waits for; the code then runs to
the next call. Every interleaving of partial transfers and failures is a list
of events.

* `SpliceDirection.step` — the code, from one system call to the next.
* `SpliceDirection.Faithful` — where the bytes are, at every call.
* `spliceDirection_faithful` — over every run.
* `SpliceDirection.step_refines` — the direction is one of `Copy` with its pipe
  drained before every read.
-/

namespace SniRouter

open Framing

/-- `io::ErrorKind`, as far as the code looks at it. -/
inductive IoErrorKind where
  | interrupted
  | wouldBlock
  | notConnected
  | writeZero
  | other
deriving DecidableEq

/-- The call that `splice_direction` waits for, or what it has returned. -/
inductive SplicePoint where
  | splicingIn
  /-- `remaining` bytes are to be spliced out. -/
  | splicingOut (remaining : Nat)
  | shuttingDown
  | returned (result : Except IoErrorKind Unit)

/-- `while remaining > 0`, then the next round. -/
def SplicePoint.drain (remaining : Nat) : SplicePoint :=
  if remaining > 0 then .splicingOut remaining else .splicingIn

/-- The sockets and the pipe, as the kernel has them. -/
structure SpliceIo where
  /-- What the source has still to yield. -/
  source   : Bytes
  /-- What was taken off the source. -/
  pulled   : Bytes
  pipe     : Bytes
  /-- What has reached the destination. -/
  landed   : Bytes
  /-- The destination's write side is shut down. -/
  shutdown : Bool

namespace SpliceIo

/-- `n` bytes move from the source into the pipe. -/
def spliceIn (n : Nat) (io : SpliceIo) : SpliceIo :=
  { io with
    source := io.source.drop n
    pulled := io.pulled ++ io.source.take n
    pipe := io.pipe ++ io.source.take n }

/-- `n` bytes move from the pipe to the destination. -/
def spliceOut (n : Nat) (io : SpliceIo) : SpliceIo :=
  { io with
    pipe := io.pipe.drop n
    landed := io.landed ++ io.pipe.take n }

end SpliceIo

/-- `splice_direction`, with the amounts it has reported to its callbacks. -/
structure SpliceDirection where
  /-- `pipe.capacity`, the most one call splices in. -/
  chunk     : Nat
  point     : SplicePoint
  io        : SpliceIo
  onRead    : List Nat
  onWritten : List Nat

/-- What a system call returns. -/
inductive SpliceEvent where
  | spliceIn (result : Except IoErrorKind Nat)
  | spliceOut (result : Except IoErrorKind Nat)
  | shutdown (result : Except IoErrorKind Unit)

namespace SpliceDirection

/-- The direction before its first splice. -/
def start (chunk : Nat) (source : Bytes) : SpliceDirection :=
  ⟨chunk, .splicingIn, ⟨source, [], [], [], false⟩, [], []⟩

/-- `retry_eintr` and the wait of `async_io` make the same call again. -/
def retried (error : IoErrorKind) : Bool :=
  error == .interrupted || error == .wouldBlock

/-- An error of a splice. -/
def fail (error : IoErrorKind) (direction : SpliceDirection) : SpliceDirection :=
  if retried error then direction else { direction with point := .returned (.error error) }

/-- `shutdown_write`: an already closed connection is no error. -/
def shutdownWrite (result : Except IoErrorKind Unit) (direction : SpliceDirection) :
    SpliceDirection :=
  match result with
  | .error .interrupted => direction
  | .error .notConnected => { direction with point := .returned (.ok ()) }
  | .error error => { direction with point := .returned (.error error) }
  | .ok () => { direction with io.shutdown := true, point := .returned (.ok ()) }

/-- The code from one system call to the next. A call splices in at most
`chunk` bytes, and none only at the end of the source; it splices out at most
`remaining`. -/
def step (event : SpliceEvent) (direction : SpliceDirection) : Option SpliceDirection :=
  match direction.point, event with
  | .splicingIn, .spliceIn (.error error) => some (direction.fail error)
  | .splicingIn, .spliceIn (.ok read) =>
    if read ≤ direction.chunk ∧ read ≤ direction.io.source.length ∧
        (read = 0 → direction.io.source = []) then
      if read = 0 then some { direction with point := .shuttingDown }
      else some { direction with
        io := direction.io.spliceIn read
        onRead := direction.onRead ++ [read]
        point := .drain read }
    else none
  | .splicingOut _, .spliceOut (.error error) => some (direction.fail error)
  | .splicingOut remaining, .spliceOut (.ok written) =>
    if written ≤ remaining then
      if written = 0 then some { direction with point := .returned (.error .writeZero) }
      else some { direction with
        io := direction.io.spliceOut written
        onWritten := direction.onWritten ++ [written]
        point := .drain (remaining - written) }
    else none
  | .shuttingDown, .shutdown result => some (direction.shutdownWrite result)
  | _, _ => none

/-- All that one system call can do. -/
inductive Called (direction : SpliceDirection) : SpliceDirection → Prop where
  | inFailed (error : IoErrorKind) (hin : direction.point = .splicingIn) :
      Called direction (direction.fail error)
  | sourceEnded (hin : direction.point = .splicingIn) (hend : direction.io.source = []) :
      Called direction { direction with point := .shuttingDown }
  | splicedIn (read : Nat) (hin : direction.point = .splicingIn) (hchunk : read ≤ direction.chunk)
      (hread : read ≤ direction.io.source.length) (hpos : read ≠ 0) :
      Called direction { direction with
        io := direction.io.spliceIn read
        onRead := direction.onRead ++ [read]
        point := .drain read }
  | outFailed {remaining : Nat} (error : IoErrorKind)
      (hout : direction.point = .splicingOut remaining) :
      Called direction (direction.fail error)
  | stuck {remaining : Nat} (hout : direction.point = .splicingOut remaining) :
      Called direction { direction with point := .returned (.error .writeZero) }
  | splicedOut {remaining : Nat} (written : Nat) (hout : direction.point = .splicingOut remaining)
      (hwritten : written ≤ remaining) (hpos : written ≠ 0) :
      Called direction { direction with
        io := direction.io.spliceOut written
        onWritten := direction.onWritten ++ [written]
        point := .drain (remaining - written) }
  | shutdown (result : Except IoErrorKind Unit) (hshut : direction.point = .shuttingDown) :
      Called direction (direction.shutdownWrite result)

/-- Every step is one of the call's. -/
theorem step_called {event : SpliceEvent} {direction direction' : SpliceDirection}
    (h : direction.step event = some direction') : direction.Called direction' := by
  unfold step at h
  split at h
  · next hin =>
    injection h with h
    exact h ▸ .inFailed _ hin
  · next hin =>
    split_ifs at h with hcall hzero
    · injection h with h
      exact h ▸ .sourceEnded hin (hcall.2.2 hzero)
    · injection h with h
      exact h ▸ .splicedIn _ hin hcall.1 hcall.2.1 hzero
  · next hout =>
    injection h with h
    exact h ▸ .outFailed _ hout
  · next hout =>
    split_ifs at h with hcall hzero
    · injection h with h
      exact h ▸ .stuck hout
    · injection h with h
      exact h ▸ .splicedOut _ hout hcall hzero
  · next hshut =>
    injection h with h
    exact h ▸ .shutdown _ hshut
  · exact absurd h (by simp)

end SpliceDirection

/-- The direction over one source. -/
def spliceMachine (chunk : Nat) (source : Bytes) :
    Machine SpliceDirection SpliceEvent where
  init direction := direction = .start chunk source
  step := SpliceDirection.step

-- ---------------------------------------------------------------------------
-- Where the bytes are
-- ---------------------------------------------------------------------------

namespace SpliceDirection

/-- What the next call finds in the pipe, and what has happened before the
destination is shut down. -/
def AtPoint (io : SpliceIo) : SplicePoint → Prop
  | .splicingIn => io.pipe = [] ∧ io.shutdown = false
  | .splicingOut remaining => io.pipe.length = remaining ∧ 0 < remaining ∧ io.shutdown = false
  | .shuttingDown => io.source = [] ∧ io.pipe = [] ∧ io.shutdown = false
  | .returned (.ok ()) => io.source = [] ∧ io.pipe = []
  | .returned (.error _) => io.shutdown = false

/-- The stream is forwarded faithfully: nothing is lost, repeated or reordered
on its way, everything is reported, and the end comes last. -/
structure Faithful (chunk : Nat) (source : Bytes) (direction : SpliceDirection) : Prop where
  chunk_eq   : direction.chunk = chunk
  pulled_eq  : direction.io.pulled ++ direction.io.source = source
  landed_eq  : direction.io.landed ++ direction.io.pipe = direction.io.pulled
  pipe_le    : direction.io.pipe.length ≤ chunk
  on_read    : direction.onRead.sum = direction.io.pulled.length
  on_written : direction.onWritten.sum = direction.io.landed.length
  at_point   : AtPoint direction.io direction.point

theorem faithful_start (chunk : Nat) (source : Bytes) :
    (start chunk source).Faithful chunk source where
  chunk_eq   := rfl
  pulled_eq  := rfl
  landed_eq  := rfl
  pipe_le    := Nat.zero_le _
  on_read    := rfl
  on_written := rfl
  at_point   := ⟨rfl, rfl⟩

variable {chunk : Nat} {source : Bytes} {direction direction' : SpliceDirection}

/-- The inner loop runs as long as the pipe holds something. -/
theorem atPoint_drain {io : SpliceIo} {remaining : Nat} (hpipe : io.pipe.length = remaining)
    (hopen : io.shutdown = false) : AtPoint io (.drain remaining) := by
  unfold SplicePoint.drain
  split_ifs with hmore
  · exact ⟨hpipe, hmore, hopen⟩
  · exact ⟨List.length_eq_zero_iff.mp (by omega), hopen⟩

/-- Where the code stops changes no byte. -/
theorem Faithful.moveTo {point : SplicePoint} (h : direction.Faithful chunk source)
    (hpoint : AtPoint direction.io point) :
    Faithful chunk source { direction with point := point } :=
  ⟨h.chunk_eq, h.pulled_eq, h.landed_eq, h.pipe_le, h.on_read, h.on_written, hpoint⟩

/-- A failed call leaves everything where it is. -/
theorem Faithful.fail (h : direction.Faithful chunk source)
    (hopen : direction.io.shutdown = false) (error : IoErrorKind) :
    (direction.fail error).Faithful chunk source := by
  unfold SpliceDirection.fail
  split_ifs
  · exact h
  · exact h.moveTo hopen

/-- A fresh chunk goes into the empty pipe. -/
theorem Faithful.spliceIn {read : Nat} (h : direction.Faithful chunk source)
    (hempty : direction.io.pipe = []) (hopen : direction.io.shutdown = false)
    (hread : read ≤ direction.io.source.length) (hchunk : read ≤ direction.chunk) :
    Faithful chunk source { direction with
      io := direction.io.spliceIn read
      onRead := direction.onRead ++ [read]
      point := .drain read } := by
  have htake : (direction.io.source.take read).length = read := by
    rw [List.length_take]
    omega
  have hpipe : (direction.io.spliceIn read).pipe = direction.io.source.take read := by
    show direction.io.pipe ++ _ = _
    rw [hempty, List.nil_append]
  refine ⟨h.chunk_eq, ?_, ?_, ?_, ?_, h.on_written, atPoint_drain (hpipe ▸ htake) hopen⟩
  · show direction.io.pulled ++ direction.io.source.take read ++ direction.io.source.drop read =
      source
    rw [List.append_assoc, List.take_append_drop, h.pulled_eq]
  · show direction.io.landed ++ (direction.io.pipe ++ direction.io.source.take read) =
      direction.io.pulled ++ direction.io.source.take read
    rw [← List.append_assoc, h.landed_eq]
  · rw [hpipe, htake, ← h.chunk_eq]
    exact hchunk
  · show (direction.onRead ++ [read]).sum =
      (direction.io.pulled ++ direction.io.source.take read).length
    rw [List.sum_append, List.sum_singleton, h.on_read, List.length_append, htake]

/-- The first bytes of the pipe land; the last of them empty it. -/
theorem Faithful.spliceOut {remaining written : Nat} (h : direction.Faithful chunk source)
    (hpipe : direction.io.pipe.length = remaining) (hopen : direction.io.shutdown = false)
    (hwritten : written ≤ remaining) :
    Faithful chunk source { direction with
      io := direction.io.spliceOut written
      onWritten := direction.onWritten ++ [written]
      point := .drain (remaining - written) } := by
  have hleft : (direction.io.spliceOut written).pipe.length = remaining - written := by
    show (direction.io.pipe.drop written).length = _
    rw [List.length_drop, hpipe]
  have hle := h.pipe_le
  refine ⟨h.chunk_eq, h.pulled_eq, ?_, by rw [hleft]; omega, h.on_read, ?_,
    atPoint_drain hleft hopen⟩
  · show direction.io.landed ++ direction.io.pipe.take written ++ direction.io.pipe.drop written =
      direction.io.pulled
    rw [List.append_assoc, List.take_append_drop, h.landed_eq]
  · show (direction.onWritten ++ [written]).sum =
      (direction.io.landed ++ direction.io.pipe.take written).length
    rw [List.sum_append, List.sum_singleton, h.on_written, List.length_append, List.length_take]
    omega

/-- The end of the direction. -/
theorem Faithful.shutdownWrite (h : direction.Faithful chunk source)
    (hsource : direction.io.source = []) (hempty : direction.io.pipe = [])
    (hopen : direction.io.shutdown = false) (result : Except IoErrorKind Unit) :
    (direction.shutdownWrite result).Faithful chunk source := by
  unfold SpliceDirection.shutdownWrite
  split
  · exact h
  · exact h.moveTo ⟨hsource, hempty⟩
  · exact h.moveTo hopen
  · exact ⟨h.chunk_eq, h.pulled_eq, h.landed_eq, h.pipe_le, h.on_read, h.on_written, hsource,
      hempty⟩

/-- One system call keeps the stream faithful. -/
theorem step_faithful {event : SpliceEvent} (h : direction.Faithful chunk source)
    (hstep : direction.step event = some direction') : direction'.Faithful chunk source := by
  have hpoint := h.at_point
  cases step_called hstep with
  | inFailed error hin =>
    rw [hin] at hpoint
    exact h.fail hpoint.2 error
  | sourceEnded hin hend =>
    rw [hin] at hpoint
    exact h.moveTo ⟨hend, hpoint.1, hpoint.2⟩
  | splicedIn read hin hchunk hread hpos =>
    rw [hin] at hpoint
    exact h.spliceIn hpoint.1 hpoint.2 hread hchunk
  | outFailed error hout =>
    rw [hout] at hpoint
    exact h.fail hpoint.2.2 error
  | stuck hout =>
    rw [hout] at hpoint
    exact h.moveTo hpoint.2.2
  | splicedOut written hout hwritten hpos =>
    rw [hout] at hpoint
    exact h.spliceOut hpoint.1 hpoint.2.2 hwritten
  | shutdown result hshut =>
    rw [hshut] at hpoint
    exact h.shutdownWrite hpoint.1 hpoint.2.1 hpoint.2.2 result

/-- Where the source has ended and the pipe is empty, everything has landed. -/
theorem Faithful.complete (h : direction.Faithful chunk source)
    (hsource : direction.io.source = []) (hempty : direction.io.pipe = []) :
    direction.io.landed = source := by
  have hpulled := h.pulled_eq
  have hlanded := h.landed_eq
  rw [hsource, List.append_nil] at hpulled
  rw [hempty, List.append_nil] at hlanded
  rw [hlanded, hpulled]

/-- The destination is shut down, or about to be, only behind the last byte. -/
theorem Faithful.ended (h : direction.Faithful chunk source)
    (hend : direction.point = .shuttingDown ∨ direction.io.shutdown = true ∨
      direction.point = .returned (.ok ())) :
    direction.io.source = [] ∧ direction.io.landed = source := by
  have hpoint := h.at_point
  have hdone : direction.io.source = [] ∧ direction.io.pipe = [] := by
    rcases hend with hcall | hshutdown | hok
    · rw [hcall] at hpoint
      exact ⟨hpoint.1, hpoint.2.1⟩
    · -- only a direction that has returned leaves the write side shut down
      cases hp : direction.point with
      | returned result =>
        cases result with
        | ok u =>
          rw [hp] at hpoint
          exact hpoint
        | error e =>
          rw [hp] at hpoint
          exact absurd (hshutdown.symm.trans hpoint) (by simp)
      | splicingIn =>
        rw [hp] at hpoint
        exact absurd (hshutdown.symm.trans hpoint.2) (by simp)
      | splicingOut | shuttingDown =>
        rw [hp] at hpoint
        exact absurd (hshutdown.symm.trans hpoint.2.2) (by simp)
    · rw [hok] at hpoint
      exact hpoint
  exact ⟨hdone.1, h.complete hdone.1 hdone.2⟩

/-- A splice-out that moves nothing is the end, with an error. -/
theorem step_spliceOut_zero {remaining : Nat} (hpoint : direction.point = .splicingOut remaining) :
    direction.step (.spliceOut (.ok 0)) =
      some { direction with point := .returned (.error .writeZero) } := by
  unfold step
  rw [hpoint]
  simp

/-- What has returned makes no more calls. -/
theorem step_returned {result : Except IoErrorKind Unit}
    (hpoint : direction.point = .returned result) (event : SpliceEvent) :
    direction.step event = none := by
  unfold step
  rw [hpoint]

end SpliceDirection

/-- **A splice direction forwards its source faithfully.** Over every source and
every sequence of results of the system calls: the pipe is empty at every
splice-in and never holds more than a chunk; what has landed, then the pipe, is
what was pulled, in order; the callbacks have been told exactly that; the
destination is shut down, and `Ok` returned, only behind the last byte; and a
splice-out of nothing with bytes pending ends in an error. -/
theorem spliceDirection_faithful (chunk : Nat) (source : Bytes) (direction : SpliceDirection)
    (h : (spliceMachine chunk source).Reachable direction) :
    (direction.point = .splicingIn → direction.io.pipe = []) ∧
    direction.io.pipe.length ≤ chunk ∧
    direction.io.landed ++ direction.io.pipe = direction.io.pulled ∧
    direction.io.pulled ++ direction.io.source = source ∧
    direction.onRead.sum = direction.io.pulled.length ∧
    direction.onWritten.sum = direction.io.landed.length ∧
    (direction.point = .shuttingDown ∨ direction.io.shutdown = true ∨
      direction.point = .returned (.ok ()) →
      direction.io.source = [] ∧ direction.io.landed = source) ∧
    (∀ remaining, direction.point = .splicingOut remaining →
      0 < remaining ∧ direction.io.pipe.length = remaining ∧
      direction.step (.spliceOut (.ok 0)) =
        some { direction with point := .returned (.error .writeZero) }) ∧
    ∀ result, direction.point = .returned result → ∀ event, direction.step event = none := by
  have hfaithful : direction.Faithful chunk source :=
    h.invariant (fun hinit => hinit ▸ SpliceDirection.faithful_start chunk source)
      SpliceDirection.step_faithful
  have hpoint := hfaithful.at_point
  refine ⟨?_, hfaithful.pipe_le, hfaithful.landed_eq, hfaithful.pulled_eq, hfaithful.on_read,
    hfaithful.on_written, hfaithful.ended, ?_, ?_⟩
  · intro hin
    rw [hin] at hpoint
    exact hpoint.1
  · intro remaining hout
    rw [hout] at hpoint
    exact ⟨hpoint.2.1, hpoint.1, SpliceDirection.step_spliceOut_zero hout⟩
  · intro result hreturned event
    exact SpliceDirection.step_returned hreturned event

/-- Three bytes through a pipe of two, with an interrupted call, a destination
that is not writable at first and a partial splice-out. -/
theorem spliceDirection_faithful_at : ∃ direction,
    (spliceMachine 2 [1, 2, 3]).Reachable direction ∧
      direction.io.shutdown = true ∧ direction.io.landed = [1, 2, 3] := by
  obtain ⟨direction, hrun, hshutdown⟩ : ∃ direction, (spliceMachine 2 [1, 2, 3]).run
      [.spliceIn (.error .interrupted), .spliceIn (.ok 2), .spliceOut (.error .wouldBlock),
        .spliceOut (.ok 1), .spliceOut (.ok 1), .spliceIn (.ok 1), .spliceOut (.ok 1),
        .spliceIn (.ok 0), .shutdown (.ok ())] (.start 2 [1, 2, 3]) = some direction ∧
      direction.io.shutdown = true :=
    Option.map_eq_some_iff.mp (by decide)
  have hreachable : (spliceMachine 2 [1, 2, 3]).Reachable direction := ⟨_, _, rfl, hrun⟩
  exact ⟨direction, hreachable, hshutdown,
    ((spliceDirection_faithful 2 [1, 2, 3] direction hreachable).2.2.2.2.2.2.1
      (.inr (.inl hshutdown))).2⟩

-- ---------------------------------------------------------------------------
-- The direction as one of a copy
-- ---------------------------------------------------------------------------

namespace SpliceDirection

variable {chunk : Nat} {source : Bytes} {direction direction' : SpliceDirection}

/-- The direction as a copy sees it: the pipe is all that is on its way. -/
def view (direction : SpliceDirection) : CopyDirection :=
  match direction.point with
  | .splicingIn | .splicingOut _ | .returned (.error _) => ⟨direction.io.pipe, false, false⟩
  | .shuttingDown => ⟨direction.io.pipe, true, false⟩
  | .returned (.ok ()) => ⟨direction.io.pipe, true, true⟩

/-- What a system call does to a drained direction and its source. -/
inductive Moves (chunk : Nat) : CopyDirection → Bytes → CopyDirection → Bytes → Prop where
  | again (copy : CopyDirection) (source : Bytes) : Moves chunk copy source copy source
  | read {copy : CopyDirection} {source : Bytes} (n : Nat)
      (hread : copy.mayRead true chunk n = true) (hn : n ≤ source.length)
      (hzero : n = 0 → source = []) :
      Moves chunk copy source (copy.read (source.take n)) (source.drop n)
  | write {copy : CopyDirection} (source : Bytes) (n : Nat) (hwrite : copy.mayWrite n = true) :
      Moves chunk copy source { copy with held := copy.held.drop n } source
  | finish {copy : CopyDirection} (source : Bytes) (hfinish : copy.mayFinish = true) :
      Moves chunk copy source { copy with finished := true } source

/-- The inner loop and the outer one look the same from outside. -/
theorem view_drain (remaining : Nat) (io : SpliceIo) (onRead onWritten : List Nat) :
    (SpliceDirection.mk chunk (.drain remaining) io onRead onWritten).view =
      ⟨io.pipe, false, false⟩ := by
  unfold view SplicePoint.drain
  dsimp only
  split_ifs <;> rfl

/-- A chunk read into an empty pipe. -/
theorem Moves.pull {n : Nat} (hpos : n ≠ 0) (hle : n ≤ chunk) (hn : n ≤ source.length) :
    Moves chunk ⟨[], false, false⟩ source ⟨source.take n, false, false⟩ (source.drop n) := by
  have hmay : CopyDirection.mayRead true chunk n ⟨[], false, false⟩ = true :=
    CopyDirection.mayRead_iff.mpr ⟨⟨rfl, fun _ => rfl⟩, show 0 < chunk by omega,
      show 0 + n ≤ chunk by omega⟩
  have hdata : source.take n ≠ [] := by
    intro hnil
    have hlen := congrArg List.length hnil
    rw [List.length_take, List.length_nil] at hlen
    omega
  have hmove := Moves.read n hmay hn fun hzero => absurd hzero hpos
  rw [CopyDirection.read, if_neg hdata] at hmove
  exact hmove

/-- The end of the source, found with an empty pipe. -/
theorem Moves.eof (hchunk : 0 < chunk) :
    Moves chunk ⟨[], false, false⟩ [] ⟨[], true, false⟩ [] :=
  .read 0 (CopyDirection.mayRead_iff.mpr ⟨⟨rfl, fun _ => rfl⟩, hchunk, Nat.zero_le _⟩)
    (Nat.le_refl _) fun _ => rfl

/-- A call that failed for good is seen in the point. -/
theorem fail_going {error : IoErrorKind}
    (hgoing : ∀ e, (direction.fail error).point ≠ .returned (.error e)) :
    direction.fail error = direction := by
  unfold fail at hgoing ⊢
  split_ifs with hretried
  · rfl
  · rw [if_neg hretried] at hgoing
    exact absurd rfl (hgoing error)

/-- A call of a direction that does not fail is a read, a write or the end of a
drained direction, or it is made again. -/
theorem step_refines {event : SpliceEvent} (hchunk : 0 < chunk)
    (h : direction.Faithful chunk source) (hstep : direction.step event = some direction')
    (hgoing : ∀ error, direction'.point ≠ .returned (.error error)) :
    Moves chunk direction.view direction.io.source direction'.view direction'.io.source := by
  have hpoint := h.at_point
  have hview : ∀ {point}, direction.point = point →
      direction.view = { direction with point := point }.view := by
    rintro _ rfl
    rfl
  cases step_called hstep with
  | inFailed error | outFailed error =>
    rw [fail_going hgoing]
    exact .again _ _
  | sourceEnded hin hend =>
    rw [hin] at hpoint
    rw [hview hin, hend]
    show Moves chunk ⟨direction.io.pipe, false, false⟩ [] ⟨direction.io.pipe, true, false⟩ []
    rw [hpoint.1]
    exact .eof hchunk
  | splicedIn read hin hle hread hpos =>
    rw [hin] at hpoint
    rw [hview hin, view_drain]
    show Moves chunk ⟨direction.io.pipe, false, false⟩ direction.io.source
      ⟨direction.io.pipe ++ _, false, false⟩ _
    rw [hpoint.1, List.nil_append]
    exact .pull hpos (h.chunk_eq ▸ hle) hread
  | stuck hout => exact absurd rfl (hgoing .writeZero)
  | splicedOut written hout hwritten hpos =>
    rw [hout] at hpoint
    rw [hview hout, view_drain]
    refine .write _ _ (CopyDirection.mayWrite_iff.mpr ⟨Nat.pos_of_ne_zero hpos, ?_⟩)
    show written ≤ direction.io.pipe.length
    rw [hpoint.1]
    exact hwritten
  | shutdown result hshut =>
    rw [hshut] at hpoint
    have hfinish : Moves chunk ⟨direction.io.pipe, true, false⟩ direction.io.source
        ⟨direction.io.pipe, true, true⟩ direction.io.source := by
      rw [hpoint.2.1]
      exact .finish _ rfl
    unfold shutdownWrite at hgoing ⊢
    rw [hview hshut]
    split at hgoing
    · rw [hview hshut]
      exact .again _ _
    · exact hfinish
    · next error _ _ => exact absurd rfl (hgoing error)
    · exact hfinish

end SpliceDirection

/-- Every such move of the client's direction is a step of the copy. -/
theorem SpliceDirection.Moves.toUpstream {chunk : Nat} {direction : CopyDirection} {source : Bytes}
    {copy : Copy} {sockets : Sockets}
    (h : Moves chunk copy.toUpstream sockets.unread direction source)
    (hdraining : copy.draining = true) (hcapacity : copy.capacity.1 = chunk) :
    (direction = copy.toUpstream ∧ source = sockets.unread) ∨
      ∃ event sockets', copy.step event sockets =
          some ({ copy with toUpstream := direction }, sockets') ∧
        sockets'.unread = source := by
  generalize htoUpstream : copy.toUpstream = before at h
  generalize hunread : sockets.unread = unread at h
  cases h with
  | again => exact .inl ⟨rfl, rfl⟩
  | read n hread hn hzero =>
    subst htoUpstream hunread
    refine .inr ⟨.readClient n, sockets.readClient n, ?_, rfl⟩
    rw [Copy.step, hdraining, hcapacity, if_pos ⟨hread, hn, hzero⟩]
  | write n hwrite =>
    subst htoUpstream hunread
    refine .inr ⟨.writeUpstream n, sockets.writeUpstream (copy.toUpstream.held.take n), ?_, rfl⟩
    rw [Copy.step, if_pos hwrite]
  | finish hfinish =>
    subst htoUpstream hunread
    refine .inr ⟨.finishToUpstream, sockets.shutdownUpstream, ?_, rfl⟩
    rw [Copy.step, if_pos hfinish]

/-- Every such move of the backend's direction is a step of the copy. -/
theorem SpliceDirection.Moves.toClient {chunk : Nat} {direction : CopyDirection}
    {source source' : Bytes} {copy : Copy} (sockets : Sockets)
    (h : Moves chunk copy.toClient source direction source')
    (hdraining : copy.draining = true) (hcapacity : copy.capacity.2 = chunk) :
    direction = copy.toClient ∨
      ∃ event sockets', copy.step event sockets =
          some ({ copy with toClient := direction }, sockets') ∧
        sockets'.unread = sockets.unread := by
  generalize htoClient : copy.toClient = before at h
  cases h with
  | again => exact .inl rfl
  | read n hread hn hzero =>
    subst htoClient
    refine .inr ⟨.readUpstream (source.take n), sockets, ?_, rfl⟩
    have hlen : (source.take n).length = n := by
      rw [List.length_take]
      omega
    rw [Copy.step, hdraining, hcapacity, hlen, if_pos hread]
  | write n hwrite =>
    subst htoClient
    refine .inr ⟨.writeClient n, sockets.writeClient n, ?_, rfl⟩
    rw [Copy.step, if_pos hwrite]
  | finish hfinish =>
    subst htoClient
    refine .inr ⟨.finishToClient, sockets, ?_, rfl⟩
    rw [Copy.step, if_pos hfinish]

end SniRouter
