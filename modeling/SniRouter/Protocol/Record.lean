import SniRouter.Protocol.Hello

/-!
# SniRouter — TLS record walking and handshake reassembly

`scanRecords` walks record headers over the whole buffer without copying
payloads: it keeps their ranges, and `parseClientHello` cuts the handshake
message out of the buffer, copying only when it spans several records.
-/

namespace SniRouter

open Framing

def contentTypeHandshake : UInt8 := 0x16
def handshakeTypeClientHello : UInt8 := 0x01
def recordVersionMajor : UInt8 := 0x03
def inlineRecords : Nat := 4

/-- Payload ranges, start inclusive and end exclusive. -/
abbrev Payloads := SmallVec (Nat × Nat) inlineRecords

/-- Where a complete ClientHello's handshake bytes sit in the wire buffer. -/
structure RecordLayout where
  payloads     : Payloads
  handshakeLen : Nat
  consumed     : Nat

/-- Validates whatever prefix of a record header has arrived. -/
def checkPartialRecordHeader (header : Bytes) (firstRecord : Bool) : Except ParseError Unit :=
  match header with
  | [] => .ok ()
  | contentType :: rest =>
    if contentType ≠ contentTypeHandshake then
      .error (if firstRecord then .notHandshake else .invalidRecord)
    else
      match rest with
      | [] => .ok ()
      | major :: _ => rejectIf (major ≠ recordVersionMajor) .invalidRecord

/-- Validates a full record header and returns its payload length. -/
def checkRecordHeader (header : Bytes) (firstRecord : Bool) : Except ParseError Nat := do
  checkPartialRecordHeader header firstRecord
  let len := beNat [header[3]!, header[4]!]
  rejectIf (len = 0 ∨ len > maxRecordPayload) .invalidRecord
  return len

/-- Accumulates the 4-byte handshake header, which may be split across
records. -/
structure HandshakeHeader where
  bytes : Vector UInt8 handshakeHeaderLen
  known : Nat

namespace HandshakeHeader

/-- No byte of the header is known. -/
def default : HandshakeHeader := ⟨Vector.replicate handshakeHeaderLen 0, 0⟩

/-- The byte loop of `observe`. -/
def note (header : HandshakeHeader) (byte : UInt8) : HandshakeHeader :=
  ⟨header.bytes.setIfInBounds header.known byte, header.known + 1⟩

/-- Feeds the next record's payload. Returns the declared body length once all
four bytes are known. -/
def observe (header : HandshakeHeader) (payload : Bytes) (limits : HelloLimits) :
    Except ParseError (Option Nat × HandshakeHeader) :=
  let header := (payload.take (handshakeHeaderLen - header.known)).foldl note header
  if header.known ≥ 1 ∧ header.bytes[0] ≠ handshakeTypeClientHello then .error .notClientHello
  else if header.known < handshakeHeaderLen then .ok (none, header)
  else
    let high := header.bytes[1].toNat
    let mid := header.bytes[2].toNat
    let low := header.bytes[3].toNat
    let len := high <<< 16 ||| mid <<< 8 ||| low
    if len > limits.maxHandshakeBytes then .error .tooLarge
    else .ok (some len, header)

end HandshakeHeader

/-- A record that passes has a payload of an allowed length. -/
theorem checkRecordHeader_bounds {header : Bytes} {firstRecord : Bool} {len : Nat}
    (h : checkRecordHeader header firstRecord = .ok len) :
    1 ≤ len ∧ len ≤ maxRecordPayload := by
  unfold checkRecordHeader at h
  simp only [bind_eq_ok_iff, rejectIf_eq_ok_iff, exists_const] at h
  obtain ⟨_, _, hbounds, heq⟩ := h
  injection heq with heq
  omega

/-- A complete record header moves the walk forward within the buffer. -/
theorem record_advances {buf header : Bytes} {firstRecord : Bool} {offset len : Nat}
    (hrest : ¬ (buf.drop offset).length < recordHeaderLen)
    (hlen : checkRecordHeader header firstRecord = .ok len) :
    buf.length - (offset + recordHeaderLen + len) < buf.length - offset := by
  have hbounds := checkRecordHeader_bounds hlen
  rw [List.length_drop] at hrest
  unfold recordHeaderLen at *
  omega

/-- The record loop of `scan_records`. -/
def scanLoop (buf : Bytes) (limits : HelloLimits) (offset : Nat) (payloads : Payloads)
    (header : HandshakeHeader) (payloadTotal : Nat) : Except ParseError RecordLayout :=
  let rest := buf.drop offset
  if hshort : rest.length < recordHeaderLen then
    match checkPartialRecordHeader rest (offset == 0) with
    | .error e => .error e
    | .ok () => .error .incomplete
  else
    match hcheck : checkRecordHeader (rest.take recordHeaderLen) (offset == 0) with
    | .error e => .error e
    | .ok payloadLen =>
      if payloads.len = limits.maxRecords then .error .tooLarge
      else
        let payloadStart := offset + recordHeaderLen
        let payloadEnd := payloadStart + payloadLen
        let available := slice buf payloadStart (min payloadEnd buf.length)
        match header.observe available limits with
        | .error e => .error e
        | .ok (handshakeLen, header) =>
          if available.length < payloadLen then .error .incomplete
          else
            let payloads := payloads.push (payloadStart, payloadEnd)
            let payloadTotal := payloadTotal + payloadLen
            match handshakeLen.filter (handshakeHeaderLen + · ≤ payloadTotal) with
            | some handshakeLen => .ok ⟨payloads, handshakeLen, payloadEnd⟩
            | none =>
              have := record_advances hshort hcheck
              scanLoop buf limits payloadEnd payloads header payloadTotal
termination_by buf.length - offset

/-- The loop on a record header that passes the check. -/
theorem scanLoop_header {buf : Bytes} {limits : HelloLimits} {offset payloadTotal payloadLen : Nat}
    {payloads : Payloads} {header : HandshakeHeader}
    (hshort : ¬ (buf.drop offset).length < recordHeaderLen)
    (hcheck : checkRecordHeader ((buf.drop offset).take recordHeaderLen) (offset == 0) =
      .ok payloadLen) :
    scanLoop buf limits offset payloads header payloadTotal =
      if payloads.len = limits.maxRecords then .error .tooLarge
      else
        let payloadStart := offset + recordHeaderLen
        let payloadEnd := payloadStart + payloadLen
        let available := slice buf payloadStart (min payloadEnd buf.length)
        match header.observe available limits with
        | .error e => .error e
        | .ok (handshakeLen, header) =>
          if available.length < payloadLen then .error .incomplete
          else
            let payloads := payloads.push (payloadStart, payloadEnd)
            let payloadTotal := payloadTotal + payloadLen
            match handshakeLen.filter (handshakeHeaderLen + · ≤ payloadTotal) with
            | some handshakeLen => .ok ⟨payloads, handshakeLen, payloadEnd⟩
            | none => scanLoop buf limits payloadEnd payloads header payloadTotal := by
  rw [scanLoop]
  dsimp only
  rw [dif_neg hshort]
  split
  · next e he => rw [he] at hcheck; exact absurd hcheck (by simp)
  · next len hlen =>
    rw [hlen] at hcheck
    injection hcheck with heq
    subst heq
    rfl

/-- The loop on a record header that does not. -/
theorem scanLoop_header_error {buf : Bytes} {limits : HelloLimits} {offset payloadTotal : Nat}
    {payloads : Payloads} {header : HandshakeHeader} {error : ParseError}
    (hshort : ¬ (buf.drop offset).length < recordHeaderLen)
    (hcheck : checkRecordHeader ((buf.drop offset).take recordHeaderLen) (offset == 0) =
      .error error) :
    scanLoop buf limits offset payloads header payloadTotal = .error error := by
  rw [scanLoop]
  dsimp only
  rw [dif_neg hshort]
  split
  · next e he =>
    rw [he] at hcheck
    injection hcheck with heq
    rw [heq]
  · next len hlen => rw [hlen] at hcheck; exact absurd hcheck (by simp)

/-- `scan_records`. -/
def scanRecords (buf : Bytes) (limits : HelloLimits) : Except ParseError RecordLayout :=
  scanLoop buf limits 0 (SmallVec.new (0, 0)) .default 0

/-- The copy of a message that spans several records. -/
def copyFragments (buf : Bytes) (messageLen : Nat) (fragments : List (Nat × Nat)) : Bytes :=
  fragments.foldl (fun message fragment =>
    let take := min (messageLen - message.length) (fragment.2 - fragment.1)
    message ++ slice buf fragment.1 (fragment.1 + take)) []

/-- Parses the message at a layout. -/
def parseMessage (buf : Bytes) (layout : RecordLayout) : Except ParseError (Option Hostname) :=
  let messageLen := handshakeHeaderLen + layout.handshakeLen
  match layout.payloads.asSlice with
  -- the whole ClientHello is in one record: no copy
  | [only] => parseClientHelloBody (slice buf (only.1 + handshakeHeaderLen) (only.1 + messageLen))
  | fragments =>
    parseClientHelloBody ((copyFragments buf messageLen fragments).drop handshakeHeaderLen)

/-- Parses a ClientHello from the start of a connection's byte stream. -/
def parseClientHello (buf : Bytes) (limits : HelloLimits) : Except ParseError ClientHelloInfo := do
  let layout ← scanRecords buf limits
  let sni ← parseMessage buf layout
  return ⟨sni, layout.consumed⟩

end SniRouter
