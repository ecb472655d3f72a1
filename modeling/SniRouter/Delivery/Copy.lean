import SniRouter.Lookup.Types
import SniRouter.Protocol.Basic

/-!
# SniRouter — the sockets of a connection and the copy between them

The client socket with its byte counters, the TCP streams opened to backends,
and the two directions of a proxied connection.

* `Sockets` — what the client sends and every stream to a backend has received.
* `CopyDirection` — one direction: the buffer or pipe between two sockets.
* `Copy` — both directions; `Copy.step` is one system call of either.
* `Relays` — what a backend has received, what is on its way to it and what is
  still unread add up to what the client sends.
* `Copy.step_sends` — no system call loses, repeats or reorders a byte.
-/

namespace SniRouter

open Framing

/-- An address and a port to connect to. -/
structure SocketAddr where
  ip   : IpAddr
  port : Port
deriving DecidableEq

/-- Client byte totals. -/
structure ByteCounters where
  read    : Nat
  written : Nat
deriving DecidableEq

/-- A TCP stream opened to a backend, with what was written to it. -/
structure Upstream where
  backend  : Backend
  addr     : SocketAddr
  received : Bytes
  /-- Its write side was shut down. -/
  shutdown : Bool
deriving DecidableEq

/-- The sockets of one connection. -/
structure Sockets where
  /-- All the client ever sends. -/
  client    : Bytes
  unread    : Bytes
  /-- How much was written to the client. -/
  delivered : Nat
  counters  : ByteCounters
  /-- Every stream the connection has opened, the last one in use. -/
  upstreams : List Upstream

namespace Sockets

/-- The sockets of a connection just accepted. -/
def accepted (client : Bytes) : Sockets := ⟨client, client, 0, ⟨0, 0⟩, []⟩

/-- `n` bytes are read from the client. -/
def readClient (n : Nat) (sockets : Sockets) : Sockets :=
  { sockets with
    unread := sockets.unread.drop n
    counters.read := sockets.counters.read + n }

/-- `n` bytes are written to the client. -/
def writeClient (n : Nat) (sockets : Sockets) : Sockets :=
  { sockets with
    delivered := sockets.delivered + n
    counters.written := sockets.counters.written + n }

/-- A connection to the backend is made. -/
def connect (backend : Backend) (addr : SocketAddr) (sockets : Sockets) : Sockets :=
  { sockets with upstreams := sockets.upstreams ++ [⟨backend, addr, [], false⟩] }

/-- `data` is written to the stream in use. -/
def writeUpstream (data : Bytes) (sockets : Sockets) : Sockets :=
  { sockets with upstreams := sockets.upstreams.modifyLast fun upstream =>
      { upstream with received := upstream.received ++ data } }

/-- The write side of the stream in use is shut down. -/
def shutdownUpstream (sockets : Sockets) : Sockets :=
  { sockets with upstreams := sockets.upstreams.modifyLast fun upstream =>
      { upstream with shutdown := true } }

end Sockets

-- ---------------------------------------------------------------------------
-- Copying
-- ---------------------------------------------------------------------------

/-- One direction of a proxied connection: what was read from the source and
not yet written to the destination, in a buffer or a pipe. -/
structure CopyDirection where
  held     : Bytes
  /-- The source is at its end. -/
  eof      : Bool
  /-- The direction has ended well: the destination's write side is shut
  down. -/
  finished : Bool

namespace CopyDirection

/-- Nothing read yet. -/
def start : CopyDirection := ⟨[], false, false⟩

/-- A read of `data` from the source; no data is the end. -/
def read (data : Bytes) (direction : CopyDirection) : CopyDirection :=
  if data = [] then { direction with eof := true }
  else { direction with held := direction.held ++ data }

/-- May the direction read `n` bytes? A pipe is always drained first; a buffer
is filled while it has room. -/
def mayRead (draining : Bool) (capacity n : Nat) (direction : CopyDirection) : Bool :=
  !direction.eof && (!draining || direction.held.isEmpty) &&
    decide (direction.held.length < capacity ∧ direction.held.length + n ≤ capacity)

/-- Some of what is held is written. -/
def mayWrite (n : Nat) (direction : CopyDirection) : Bool :=
  decide (0 < n) && decide (n ≤ direction.held.length)

/-- The end of the input is passed on once everything is written. -/
def mayFinish (direction : CopyDirection) : Bool :=
  direction.eof && direction.held.isEmpty && !direction.finished

end CopyDirection

/-- Both directions, through `splice(2)` pipes or userspace buffers. -/
structure Copy where
  /-- The pipes of the splice path are drained before every read. -/
  draining   : Bool
  capacity   : Nat × Nat
  toUpstream : CopyDirection
  toClient   : CopyDirection

/-- What a copy does on its two sockets. -/
inductive CopyEvent where
  | readClient (n : Nat)
  | writeUpstream (n : Nat)
  | finishToUpstream
  | readUpstream (data : Bytes)
  | writeClient (n : Nat)
  | finishToClient

namespace Copy

/-- Two pipes where splicing is available, admitted and set up; else two
buffers. -/
def setup (bufferSize : Nat) (pipes : Option (Nat × Nat)) : Copy :=
  match pipes with
  | some capacity => ⟨true, capacity, .start, .start⟩
  | none => ⟨false, (bufferSize, bufferSize), .start, .start⟩

/-- One system call of either direction. -/
def step (event : CopyEvent) (copy : Copy) (sockets : Sockets) : Option (Copy × Sockets) :=
  match event with
  | .readClient n =>
    if copy.toUpstream.mayRead copy.draining copy.capacity.1 n ∧ n ≤ sockets.unread.length ∧
        (n = 0 → sockets.unread = []) then
      some ({ copy with toUpstream := copy.toUpstream.read (sockets.unread.take n) },
        sockets.readClient n)
    else none
  | .writeUpstream n =>
    if copy.toUpstream.mayWrite n then
      some ({ copy with toUpstream.held := copy.toUpstream.held.drop n },
        sockets.writeUpstream (copy.toUpstream.held.take n))
    else none
  | .finishToUpstream =>
    if copy.toUpstream.mayFinish then
      some ({ copy with toUpstream.finished := true }, sockets.shutdownUpstream)
    else none
  | .readUpstream data =>
    if copy.toClient.mayRead copy.draining copy.capacity.2 data.length then
      some ({ copy with toClient := copy.toClient.read data }, sockets)
    else none
  | .writeClient n =>
    if copy.toClient.mayWrite n then
      some ({ copy with toClient.held := copy.toClient.held.drop n }, sockets.writeClient n)
    else none
  | .finishToClient =>
    if copy.toClient.mayFinish then some ({ copy with toClient.finished := true }, sockets)
    else none

/-- Both directions have ended well. -/
def finished (copy : Copy) : Bool :=
  copy.toUpstream.finished && copy.toClient.finished

end Copy

-- ---------------------------------------------------------------------------
-- What has been forwarded
-- ---------------------------------------------------------------------------

/-- The one stream of the connection goes to `backend`, and what it received,
then `held`, then what is unread, is all the client sends. -/
def Relays (backend : Backend) (held : Bytes) (sockets : Sockets) : Prop :=
  ∃ upstream, sockets.upstreams = [upstream] ∧ upstream.backend = backend ∧
    upstream.received ++ held ++ sockets.unread = sockets.client ∧ upstream.shutdown = false

/-- The client-to-upstream direction at work, or ended with everything sent. -/
def CopyDirection.Sends (backend : Backend) (direction : CopyDirection) (sockets : Sockets) :
    Prop :=
  (direction.eof = true → sockets.unread = []) ∧
    if direction.finished then
      direction.eof = true ∧ direction.held = [] ∧
        ∃ upstream, sockets.upstreams = [upstream] ∧ upstream.backend = backend ∧
          upstream.received = sockets.client ∧ upstream.shutdown = true
    else Relays backend direction.held sockets

/-- Every stream of the connection goes to `backend` and has received a prefix
of what the client sends, all of it where the write side was shut down. -/
def Forwarded (backend : Option Backend) (sockets : Sockets) : Prop :=
  sockets.upstreams.length ≤ 1 ∧ ∀ upstream ∈ sockets.upstreams,
    backend = some upstream.backend ∧ upstream.received <+: sockets.client ∧
      (upstream.shutdown = true → upstream.received = sockets.client)

/-- The byte counters count what the client socket carried. -/
def Sockets.Metered (sockets : Sockets) : Prop :=
  sockets.counters.read + sockets.unread.length = sockets.client.length ∧
    sockets.counters.written = sockets.delivered

/-- What is relayed is forwarded. -/
theorem Relays.forwarded {backend : Backend} {held : Bytes} {sockets : Sockets}
    (h : Relays backend held sockets) : Forwarded (some backend) sockets := by
  obtain ⟨upstream, hone, rfl, hall, hopen⟩ := h
  refine ⟨by rw [hone]; rfl, ?_⟩
  intro upstream' hmem
  rw [hone, List.mem_singleton] at hmem
  subst hmem
  refine ⟨rfl, ⟨held ++ sockets.unread, ?_⟩, ?_⟩
  · rw [← List.append_assoc, hall]
  · intro hshut
    rw [hopen] at hshut
    exact absurd hshut (by simp)

/-- What a direction sent is forwarded. -/
theorem CopyDirection.Sends.forwarded {backend : Backend} {direction : CopyDirection}
    {sockets : Sockets} (h : direction.Sends backend sockets) :
    Forwarded (some backend) sockets := by
  obtain ⟨-, h⟩ := h
  split_ifs at h
  · obtain ⟨-, -, upstream, hone, rfl, hall, -⟩ := h
    refine ⟨by rw [hone]; rfl, ?_⟩
    intro upstream' hmem
    rw [hone, List.mem_singleton] at hmem
    subst hmem
    exact ⟨rfl, hall ▸ List.prefix_refl _, fun _ => hall⟩
  · exact h.forwarded

/-- Reading from the client keeps the counters. -/
theorem Sockets.Metered.readClient {sockets : Sockets} {n : Nat} (h : sockets.Metered)
    (hn : n ≤ sockets.unread.length) : (sockets.readClient n).Metered := by
  refine ⟨?_, h.2⟩
  show sockets.counters.read + n + (sockets.unread.drop n).length = sockets.client.length
  rw [List.length_drop, ← h.1]
  omega

/-- Writing to the client keeps the counters. -/
theorem Sockets.Metered.writeClient {sockets : Sockets} (h : sockets.Metered) (n : Nat) :
    (sockets.writeClient n).Metered :=
  ⟨h.1, congrArg (· + n) h.2⟩

/-- A read puts what is taken off the client socket on its way. -/
theorem Relays.readClient {backend : Backend} {held : Bytes} {sockets : Sockets} (n : Nat)
    (h : Relays backend held sockets) :
    Relays backend (held ++ sockets.unread.take n) (sockets.readClient n) := by
  obtain ⟨upstream, hone, hbackend, hall, hopen⟩ := h
  refine ⟨upstream, hone, hbackend, ?_, hopen⟩
  show upstream.received ++ (held ++ sockets.unread.take n) ++ sockets.unread.drop n =
    sockets.client
  rw [← hall, List.append_assoc, List.append_assoc, List.take_append_drop, List.append_assoc]

/-- A write hands over the first bytes that are on their way. -/
theorem Relays.writeUpstream {backend : Backend} {held : Bytes} {sockets : Sockets} (n : Nat)
    (h : Relays backend held sockets) :
    Relays backend (held.drop n) (sockets.writeUpstream (held.take n)) := by
  obtain ⟨upstream, hone, hbackend, hall, hopen⟩ := h
  refine ⟨{ upstream with received := upstream.received ++ held.take n }, ?_, hbackend, ?_, hopen⟩
  · show sockets.upstreams.modifyLast _ = _
    rw [hone]
    rfl
  · show upstream.received ++ held.take n ++ held.drop n ++ sockets.unread = sockets.client
    rw [List.append_assoc upstream.received, List.take_append_drop, hall]

/-- What a read allowed by `mayRead` finds. -/
theorem CopyDirection.mayRead_iff {draining : Bool} {capacity n : Nat}
    {direction : CopyDirection} :
    direction.mayRead draining capacity n = true ↔
      (direction.eof = false ∧ (draining = true → direction.held = [])) ∧
        direction.held.length < capacity ∧ direction.held.length + n ≤ capacity := by
  cases draining <;> simp [mayRead]

/-- When a write is possible. -/
theorem CopyDirection.mayWrite_iff {n : Nat} {direction : CopyDirection} :
    direction.mayWrite n = true ↔ 0 < n ∧ n ≤ direction.held.length := by
  simp [mayWrite]

/-- When the end is passed on. -/
theorem CopyDirection.mayFinish_iff {direction : CopyDirection} :
    direction.mayFinish = true ↔
      (direction.eof = true ∧ direction.held = []) ∧ direction.finished = false := by
  simp [mayFinish]

/-- A read of the client socket, or its end. -/
theorem CopyDirection.Sends.readClient {backend : Backend} {direction : CopyDirection}
    {sockets : Sockets} {n : Nat} (h : direction.Sends backend sockets)
    (hopen : direction.eof = false) (hzero : n = 0 → sockets.unread = []) :
    (direction.read (sockets.unread.take n)).Sends backend (sockets.readClient n) := by
  obtain ⟨-, hheld⟩ := h
  have hgoing : direction.finished = false := by
    by_contra hfinished
    rw [if_pos (Bool.eq_true_of_not_eq_false hfinished), hopen] at hheld
    exact absurd hheld.1 (by simp)
  rw [hgoing, if_neg (by simp)] at hheld
  have hrelays := hheld.readClient n
  unfold read
  split_ifs with hdata
  · -- nothing came: the client is at its end
    have hunread : sockets.unread = [] := by
      rcases List.take_eq_nil_iff.mp hdata with hn | hunread
      · exact hzero hn
      · exact hunread
    refine ⟨fun _ => ?_, ?_⟩
    · show sockets.unread.drop n = []
      rw [hunread, List.drop_nil]
    · rw [hdata, List.append_nil] at hrelays
      rw [hgoing, if_neg (by simp)]
      exact hrelays
  · refine ⟨fun heof => ?_, ?_⟩
    · rw [hopen] at heof
      exact absurd heof (by simp)
    · rw [hgoing, if_neg (by simp)]
      exact hrelays

/-- A write to the backend. -/
theorem CopyDirection.Sends.writeUpstream {backend : Backend} {direction : CopyDirection}
    {sockets : Sockets} {n : Nat} (h : direction.Sends backend sockets)
    (hmay : 0 < n ∧ n ≤ direction.held.length) :
    CopyDirection.Sends backend { direction with held := direction.held.drop n }
      (sockets.writeUpstream (direction.held.take n)) := by
  obtain ⟨heof, hheld⟩ := h
  have hgoing : direction.finished = false := by
    by_contra hfinished
    rw [if_pos (Bool.eq_true_of_not_eq_false hfinished)] at hheld
    rw [hheld.2.1, List.length_nil] at hmay
    omega
  rw [hgoing, if_neg (by simp)] at hheld
  refine ⟨heof, ?_⟩
  rw [hgoing, if_neg (by simp)]
  exact hheld.writeUpstream n

/-- The end of the direction: everything has been handed over. -/
theorem CopyDirection.Sends.finish {backend : Backend} {direction : CopyDirection}
    {sockets : Sockets} (h : direction.Sends backend sockets)
    (hmay : direction.mayFinish = true) :
    CopyDirection.Sends backend { direction with finished := true } sockets.shutdownUpstream := by
  obtain ⟨⟨heof, hempty⟩, hgoing⟩ := CopyDirection.mayFinish_iff.mp hmay
  obtain ⟨hunread, hheld⟩ := h
  rw [hgoing, if_neg (by simp)] at hheld
  obtain ⟨upstream, hone, hbackend, hall, -⟩ := hheld
  refine ⟨hunread, ?_⟩
  rw [if_pos rfl]
  refine ⟨heof, hempty, { upstream with shutdown := true }, ?_, hbackend, ?_, rfl⟩
  · show sockets.upstreams.modifyLast _ = _
    rw [hone]
    rfl
  · rw [hempty, hunread heof, List.append_nil, List.append_nil] at hall
    exact hall

/-- One system call of a copy loses, repeats or reorders nothing on its way to
the backend. -/
theorem Copy.step_sends {event : CopyEvent} {copy copy' : Copy} {sockets sockets' : Sockets}
    {backend : Backend} (h : copy.step event sockets = some (copy', sockets'))
    (hsends : copy.toUpstream.Sends backend sockets) :
    copy'.toUpstream.Sends backend sockets' := by
  unfold step at h
  cases event with
  | readClient n =>
    dsimp only at h
    split_ifs at h with hmay
    obtain ⟨hread, -, hzero⟩ := hmay
    obtain ⟨rfl, rfl⟩ := Prod.mk.inj (Option.some.inj h)
    exact hsends.readClient (CopyDirection.mayRead_iff.mp hread).1.1 hzero
  | writeUpstream n =>
    dsimp only at h
    split_ifs at h with hmay
    obtain ⟨rfl, rfl⟩ := Prod.mk.inj (Option.some.inj h)
    exact hsends.writeUpstream (CopyDirection.mayWrite_iff.mp hmay)
  | finishToUpstream =>
    dsimp only at h
    split_ifs at h with hmay
    obtain ⟨rfl, rfl⟩ := Prod.mk.inj (Option.some.inj h)
    exact hsends.finish hmay
  | readUpstream | writeClient | finishToClient =>
    -- the other direction
    dsimp only at h
    split_ifs at h
    obtain ⟨rfl, rfl⟩ := Prod.mk.inj (Option.some.inj h)
    exact hsends

/-- What the client sends is not the router's to change, and what is read from
and written to its socket is counted. -/
theorem Copy.step_client {event : CopyEvent} {copy copy' : Copy} {sockets sockets' : Sockets}
    (h : copy.step event sockets = some (copy', sockets')) :
    sockets'.client = sockets.client ∧ (sockets.Metered → sockets'.Metered) := by
  unfold step at h
  cases event with
  | readClient n =>
    dsimp only at h
    split_ifs at h with hmay
    obtain ⟨-, rfl⟩ := Prod.mk.inj (Option.some.inj h)
    exact ⟨rfl, fun hmetered => hmetered.readClient hmay.2.1⟩
  | writeClient n =>
    dsimp only at h
    split_ifs at h
    obtain ⟨-, rfl⟩ := Prod.mk.inj (Option.some.inj h)
    exact ⟨rfl, fun hmetered => hmetered.writeClient n⟩
  | writeUpstream | finishToUpstream | readUpstream | finishToClient =>
    dsimp only at h
    split_ifs at h
    obtain ⟨-, rfl⟩ := Prod.mk.inj (Option.some.inj h)
    exact ⟨rfl, id⟩

end SniRouter
