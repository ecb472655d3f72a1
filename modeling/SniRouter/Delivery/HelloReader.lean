import SniRouter.Lib.Machine
import SniRouter.Protocol.Stability

/-!
# SniRouter — reading until a complete ClientHello is buffered

`read_client_hello` as a state machine: it waits for a read, and an event is
the number of bytes the read returned. Every segmentation of the client's
stream is one list of events.

* `HelloReader` — where the loop is; `loopTop` and `afterRead` are the two
  halves of an iteration, around the await.
* `HelloSession` — the reader and the bytes of the stream it has not read.
* `HelloVerdict` — what one-shot parsing says the reader must answer.
* `readClientHello_segmentation` — every segmentation gets that answer.
-/

namespace SniRouter

open Framing

/-- `READ_CHUNK`. -/
def readChunk : Nat := 4096

/-- The growing buffer and the capacity reserved for it. -/
structure HelloBuffer where
  bytes    : Bytes
  capacity : Nat

/-- Room for `additional` more bytes, without over-allocating. -/
def HelloBuffer.reserveExact (buf : HelloBuffer) (additional : Nat) : HelloBuffer :=
  if buf.capacity - buf.bytes.length < additional then ⟨buf.bytes, buf.bytes.length + additional⟩
  else buf

/-- Why no hello was read. -/
inductive HelloReadError where
  | closed
  | io
  | parse (error : ParseError)
deriving DecidableEq

/-- What the read loop is doing: waiting for a read into the buffer, or
returned. -/
inductive HelloReader where
  | reading (buf : HelloBuffer)
  | done (outcome : Except HelloReadError (Bytes × ClientHelloInfo))

namespace HelloReader

/-- The loop up to the read. -/
def loopTop (limits : HelloLimits) (buf : HelloBuffer) : HelloReader :=
  let remaining := limits.maxWireBytes - buf.bytes.length
  if remaining = 0 then .done (.error (.parse .tooLarge))
  else .reading (buf.reserveExact (min readChunk remaining))

/-- The reader before its first read. -/
def start (limits : HelloLimits) : HelloReader :=
  loopTop limits ⟨[], min readChunk limits.maxWireBytes⟩

/-- The most bytes the read may return. -/
def readRoom (limits : HelloLimits) (buf : HelloBuffer) : Nat :=
  min (limits.maxWireBytes - buf.bytes.length) (buf.capacity - buf.bytes.length)

/-- The loop after the read: no data means the client has closed. -/
def afterRead (limits : HelloLimits) (buf : HelloBuffer) (data : Bytes) : HelloReader :=
  if data = [] then .done (.error .closed)
  else
    let buf := { buf with bytes := buf.bytes ++ data }
    match parseClientHello buf.bytes limits with
    | .ok info => .done (.ok (buf.bytes, info))
    | .error .incomplete => loopTop limits buf
    | .error error => .done (.error (.parse error))

end HelloReader

/-- The reader at work on a client stream. -/
structure HelloSession where
  reader : HelloReader
  unread : Bytes

/-- A read of `n` bytes: as many as fit and are there, none only at the end. -/
def HelloSession.read (limits : HelloLimits) (n : Nat) (s : HelloSession) : Option HelloSession :=
  match s.reader with
  | .done _ => none
  | .reading buf =>
    if n ≤ HelloReader.readRoom limits buf ∧ n ≤ s.unread.length ∧ (n = 0 → s.unread = []) then
      some ⟨.afterRead limits buf (s.unread.take n), s.unread.drop n⟩
    else none

/-- Reading the client stream `stream`, one event a read. -/
def helloMachine (limits : HelloLimits) (stream : Bytes) : Machine HelloSession Nat where
  init s := s = ⟨.start limits, stream⟩
  step   := HelloSession.read limits

-- ---------------------------------------------------------------------------
-- The answer
-- ---------------------------------------------------------------------------

/-- The answer that one-shot parsing of the stream, cut to the wire limit,
prescribes when `unread` is what was not read. -/
structure HelloVerdict (limits : HelloLimits) (stream unread : Bytes)
    (outcome : Except HelloReadError (Bytes × ClientHelloInfo)) : Prop where
  ok : ∀ info, parseClientHello (stream.take limits.maxWireBytes) limits = .ok info →
    ∃ buf, outcome = .ok (buf, info) ∧ buf ++ unread = stream ∧ info.consumed ≤ buf.length ∧
      buf.length ≤ limits.maxWireBytes
  error : ∀ e, parseClientHello (stream.take limits.maxWireBytes) limits = .error e →
    e ≠ .incomplete → outcome = .error (.parse e)
  incomplete : parseClientHello (stream.take limits.maxWireBytes) limits = .error .incomplete →
    outcome = if limits.maxWireBytes ≤ stream.length then .error (.parse .tooLarge)
      else .error .closed

/-- A hello in the answer is that of one-shot parsing, and the buffer ends where
the unread rest begins. -/
theorem HelloVerdict.ok_inv {limits : HelloLimits} {stream unread buf : Bytes}
    {info : ClientHelloInfo} (h : HelloVerdict limits stream unread (.ok (buf, info))) :
    buf ++ unread = stream ∧
      parseClientHello (stream.take limits.maxWireBytes) limits = .ok info := by
  cases hparse : parseClientHello (stream.take limits.maxWireBytes) limits with
  | ok info' =>
    obtain ⟨buf', heq, hsplit, -, -⟩ := h.ok info' hparse
    injection heq with heq
    obtain ⟨rfl, rfl⟩ := Prod.mk.inj heq
    exact ⟨hsplit, rfl⟩
  | error e =>
    by_cases he : e = .incomplete
    · have heq := h.incomplete (he ▸ hparse)
      split_ifs at heq
    · exact absurd (h.error e hparse he) (by simp)

/-- The buffer of a waiting reader: what was read, undecided, within bounds and
with room for at least one byte. -/
structure Waiting (limits : HelloLimits) (stream unread : Bytes) (buf : HelloBuffer) : Prop where
  split        : buf.bytes ++ unread = stream
  undecided    : IsIncomplete (parseClientHello buf.bytes limits)
  room         : buf.bytes.length < buf.capacity
  capacity_le  : buf.capacity ≤ limits.maxWireBytes

/-- What holds of the reader in every state. -/
def HelloReader.Ok (limits : HelloLimits) (stream unread : Bytes) : HelloReader → Prop
  | .reading buf => Waiting limits stream unread buf
  | .done outcome => HelloVerdict limits stream unread outcome

/-- The reader is right about the bytes of the stream. -/
def HelloSession.Ok (limits : HelloLimits) (stream : Bytes) (s : HelloSession) : Prop :=
  s.reader.Ok limits stream s.unread

theorem parseClientHello_nil (limits : HelloLimits) :
    parseClientHello [] limits = .error .incomplete := by
  have hwalk : assemble limits [] 0 0 [] = .error .incomplete := by
    rw [assemble]
    rfl
  rw [parseClientHello_eq, hwalk]
  rfl

/-- The answer where one-shot parsing is undecided. -/
theorem HelloVerdict.of_incomplete {limits : HelloLimits} {stream unread : Bytes}
    {outcome : Except HelloReadError (Bytes × ClientHelloInfo)}
    (hundecided : IsIncomplete (parseClientHello (stream.take limits.maxWireBytes) limits))
    (houtcome : outcome = if limits.maxWireBytes ≤ stream.length then .error (.parse .tooLarge)
      else .error .closed) :
    HelloVerdict limits stream unread outcome := by
  refine ⟨?_, ?_, fun _ => houtcome⟩
  · intro info hinfo
    rw [hundecided] at hinfo
    exact absurd hinfo (by simp)
  · intro e he hne
    rw [hundecided] at he
    injection he with he
    exact absurd he.symm hne

/-- Making room keeps the capacity within the wire limit. -/
theorem HelloBuffer.reserveExact_spec (buf : HelloBuffer) {additional max : Nat}
    (hpos : 0 < additional) (hfit : buf.bytes.length + additional ≤ max)
    (hcap : buf.capacity ≤ max) :
    (buf.reserveExact additional).bytes = buf.bytes ∧
      buf.bytes.length < (buf.reserveExact additional).capacity ∧
      (buf.reserveExact additional).capacity ≤ max := by
  unfold reserveExact
  split_ifs with h
  · refine ⟨rfl, ?_, hfit⟩
    show buf.bytes.length < buf.bytes.length + additional
    omega
  · exact ⟨rfl, by omega, hcap⟩

/-- The top of the loop, with everything read so far undecided. -/
theorem HelloReader.loopTop_ok {limits : HelloLimits} {stream unread : Bytes} {buf : HelloBuffer}
    (hsplit : buf.bytes ++ unread = stream)
    (hundecided : IsIncomplete (parseClientHello buf.bytes limits))
    (hlen : buf.bytes.length ≤ limits.maxWireBytes)
    (hcap : buf.capacity ≤ limits.maxWireBytes) :
    HelloReader.Ok limits stream unread (loopTop limits buf) := by
  unfold loopTop
  dsimp only
  split_ifs with hfull
  · -- the whole budget is read and undecided
    have hcut : stream.take limits.maxWireBytes = buf.bytes := by
      rw [← hsplit]
      exact List.take_left' (by omega)
    refine .of_incomplete (hcut.symm ▸ hundecided) (if_pos ?_).symm
    rw [← hsplit, List.length_append]
    omega
  · have hpos : 0 < min readChunk (limits.maxWireBytes - buf.bytes.length) := by
      unfold readChunk
      omega
    obtain ⟨hbytes, hroom, hle⟩ :=
      buf.reserveExact_spec hpos (show _ ≤ limits.maxWireBytes by omega) hcap
    refine ⟨?_, ?_, ?_, hle⟩
    · rw [hbytes, hsplit]
    · rw [hbytes]
      exact hundecided
    · rw [hbytes]
      exact hroom

/-- A verdict settled on what was read is the answer. -/
theorem settled_prefix {limits : HelloLimits} {stream unread read : Bytes}
    (hsplit : read ++ unread = stream) (hlen : read.length ≤ limits.maxWireBytes)
    (hsettled : ¬ IsIncomplete (parseClientHello read limits)) :
    parseClientHello (stream.take limits.maxWireBytes) limits = parseClientHello read limits := by
  have hpre : read <+: stream.take limits.maxWireBytes := by
    rw [← hsplit, List.take_append, List.take_of_length_le hlen]
    exact List.prefix_append ..
  exact (parseClientHello_isStable limits).settled hpre hsettled

/-- The loop after a read the machine allows. -/
theorem HelloReader.afterRead_ok {limits : HelloLimits} {stream unread : Bytes}
    {buf : HelloBuffer} {n : Nat} (hwait : Waiting limits stream unread buf)
    (hroom : n ≤ readRoom limits buf) (hzero : n = 0 → unread = []) (hn : n ≤ unread.length) :
    HelloReader.Ok limits stream (unread.drop n) (afterRead limits buf (unread.take n)) := by
  obtain ⟨hsplit, hundecided, hspare, hcap⟩ := hwait
  unfold readRoom at hroom
  unfold afterRead
  split_ifs with hdata
  · -- end of the stream, which is then all that was read
    have hunread : unread = [] := by
      have hlen := congrArg List.length hdata
      rw [List.length_take, List.length_nil] at hlen
      by_cases hz : n = 0
      · exact hzero hz
      · omega
    have hstream : buf.bytes = stream := by
      rw [← hsplit, hunread, List.append_nil]
    have hcut : stream.take limits.maxWireBytes = buf.bytes := by
      rw [← hstream]
      exact List.take_of_length_le (by omega)
    refine .of_incomplete (hcut.symm ▸ hundecided) (if_neg ?_).symm
    rw [← hstream]
    omega
  · have hsplit' : (buf.bytes ++ unread.take n) ++ unread.drop n = stream := by
      rw [List.append_assoc, List.take_append_drop, hsplit]
    have hlen' : (buf.bytes ++ unread.take n).length ≤ limits.maxWireBytes := by
      rw [List.length_append, List.length_take]
      omega
    dsimp only
    split
    · next info hverdict =>
      have hcut := settled_prefix hsplit' hlen' (by rw [hverdict]; exact nofun)
      rw [hverdict] at hcut
      refine ⟨?_, ?_, ?_⟩
      · intro info' hinfo
        rw [hcut] at hinfo
        injection hinfo with hinfo
        subst hinfo
        exact ⟨_, rfl, hsplit', parseClientHello_consumed_le hverdict, hlen'⟩
      · intro e he _
        exact absurd (hcut.symm.trans he) (by simp)
      · intro he
        exact absurd (hcut.symm.trans he) (by simp)
    · next hverdict => exact loopTop_ok hsplit' hverdict hlen' hcap
    · next e hne hverdict =>
      have hcut := settled_prefix hsplit' hlen' (by
        rw [hverdict]
        intro hincomplete
        injection hincomplete with hincomplete
        exact hne hincomplete)
      rw [hverdict] at hcut
      refine ⟨?_, ?_, ?_⟩
      · intro info hinfo
        exact absurd (hcut.symm.trans hinfo) (by simp)
      · intro e' he _
        rw [hcut] at he
        injection he with he
        rw [he]
      · intro he
        rw [hcut] at he
        injection he with he
        exact absurd he hne

-- ---------------------------------------------------------------------------
-- Every run
-- ---------------------------------------------------------------------------

/-- When a read of `n` bytes is possible, and what it leads to. -/
theorem HelloSession.read_eq_some_iff {limits : HelloLimits} {n : Nat} {s s' : HelloSession} :
    s.read limits n = some s' ↔ ∃ buf, s.reader = .reading buf ∧
      (n ≤ HelloReader.readRoom limits buf ∧ n ≤ s.unread.length ∧ (n = 0 → s.unread = [])) ∧
      s' = ⟨.afterRead limits buf (s.unread.take n), s.unread.drop n⟩ := by
  unfold read
  cases s.reader with
  | done outcome => simp
  | reading buf =>
    simp only [Option.ite_none_right_eq_some, Option.some.injEq, HelloReader.reading.injEq,
      exists_eq_left', eq_comm (a := s')]

/-- The reader is as it should be in every state of every run. -/
theorem helloMachine_ok {limits : HelloLimits} {stream : Bytes} {s : HelloSession}
    (hr : (helloMachine limits stream).Reachable s) :
    s.Ok limits stream := by
  refine hr.invariant ?_ ?_
  · intro s hs
    rw [show s = _ from hs]
    exact HelloReader.loopTop_ok rfl (parseClientHello_nil limits) (Nat.zero_le _)
      (Nat.min_le_right ..)
  · intro n s s' hok hstep
    obtain ⟨buf, hreader, ⟨hroom, hn, hzero⟩, rfl⟩ := HelloSession.read_eq_some_iff.mp hstep
    unfold HelloSession.Ok at hok
    rw [hreader] at hok
    exact HelloReader.afterRead_ok hok hroom hzero hn

/-- Unread bytes, and one more while the reader waits: every read lowers it. -/
def HelloSession.measure (s : HelloSession) : Nat :=
  match s.reader with
  | .reading _ => s.unread.length + 1
  | .done _ => s.unread.length

/-- A read leaves fewer bytes to come, or ends. -/
theorem HelloSession.measure_read {limits : HelloLimits} {n : Nat} {s s' : HelloSession}
    (h : s.read limits n = some s') : s'.measure < s.measure := by
  obtain ⟨buf, hreader, ⟨hroom, hn, hzero⟩, rfl⟩ := read_eq_some_iff.mp h
  have hbefore : s.measure = s.unread.length + 1 := by
    unfold measure
    rw [hreader]
  by_cases hz : n = 0
  · -- a read of nothing ends the loop
    subst hz
    rw [hbefore]
    show s.unread.length < s.unread.length + 1
    omega
  · have hafter : ∀ reader, measure ⟨reader, s.unread.drop n⟩ ≤ (s.unread.drop n).length + 1 := by
      intro reader
      unfold measure
      dsimp only
      split <;> omega
    refine Nat.lt_of_le_of_lt (hafter _) ?_
    rw [hbefore, List.length_drop]
    omega

/-- **The reader agrees with one-shot parsing for every segmentation.** While
it reads, the buffer is what was read and stays within the wire limit, and it
never gets stuck; every run is at most one read longer than the stream; and
what it returns is what one-shot parsing of the cut stream prescribes. -/
theorem readClientHello_segmentation (limits : HelloLimits) (stream : Bytes) :
    (∀ s, (helloMachine limits stream).Reachable s → ∀ buf, s.reader = .reading buf →
      buf.bytes ++ s.unread = stream ∧ buf.bytes.length ≤ limits.maxWireBytes ∧
      buf.capacity ≤ limits.maxWireBytes ∧
      1 ≤ HelloReader.readRoom limits buf ∧
      ∀ n, (n = 0 ∧ s.unread = []) ∨
        (1 ≤ n ∧ n ≤ HelloReader.readRoom limits buf ∧ n ≤ s.unread.length) →
        ∃ s', (helloMachine limits stream).step n s = some s') ∧
    (∀ ns s, (helloMachine limits stream).run ns ⟨.start limits, stream⟩ = some s →
      ns.length ≤ stream.length + 1) ∧
    ∀ s outcome, (helloMachine limits stream).Reachable s → s.reader = .done outcome →
      HelloVerdict limits stream s.unread outcome := by
  refine ⟨?_, ?_, ?_⟩
  · intro s hr buf hreader
    have hok := helloMachine_ok hr
    unfold HelloSession.Ok at hok
    rw [hreader] at hok
    obtain ⟨hsplit, hundecided, hroom, hcap⟩ := hok
    refine ⟨hsplit, by omega, hcap, ?_, ?_⟩
    · unfold HelloReader.readRoom
      omega
    · intro n hn
      refine ⟨_, HelloSession.read_eq_some_iff.mpr ⟨buf, hreader, ?_, rfl⟩⟩
      rcases hn with ⟨rfl, hunread⟩ | ⟨hpos, hfits, hthere⟩
      · exact ⟨Nat.zero_le _, Nat.zero_le _, fun _ => hunread⟩
      · refine ⟨hfits, hthere, ?_⟩
        intro hz
        omega
  · intro ns s hrun
    have hle := Machine.run_length_le HelloSession.measure_read hrun
    have hstart : HelloSession.measure ⟨.start limits, stream⟩ ≤ stream.length + 1 := by
      unfold HelloSession.measure
      split <;> simp
    omega
  · intro s outcome hr hdone
    have hok := helloMachine_ok hr
    unfold HelloSession.Ok at hok
    rw [hdone] at hok
    exact hok

end SniRouter
