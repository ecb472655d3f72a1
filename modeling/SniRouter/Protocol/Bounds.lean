import SniRouter.Lib.MayPanic
import SniRouter.Protocol.RecordScan

/-!
# SniRouter — the parser stays in bounds

The parser once more, now with every index, range and subtraction of the code
checked, and the record loop cut into rounds. Each function runs to its
unchecked counterpart, so no check ever fails:

* `Checked.parseClientHelloBody_runs` — the body, which reads through `Reader`;
* `Checked.scanRound_runs` — one round of the record loop, from a state that is
  `InBounds`, advances by six bytes at least and stays in bounds;
* `Checked.parseMessage_runs` — the message, from ranges that another function
  recorded.
-/

namespace SniRouter

open Framing

namespace Checked

open MayPanic

-- ---------------------------------------------------------------------------
-- The reader
-- ---------------------------------------------------------------------------

/-- `split_at` checks its position. -/
def bytes (reader : Reader) (len : Nat) : Option (Option (Bytes × Reader)) :=
  if reader.remaining.length < len then return none
  else do
    let head ← range reader.remaining 0 len
    let tail ← range reader.remaining len reader.remaining.length
    return some (head, ⟨tail⟩)

/-- `index` checks the first byte. -/
def u8 (reader : Reader) : Option (Option (UInt8 × Reader)) := do
  match ← bytes reader 1 with
  | none => return none
  | some (b, reader) => return some (← index b 0, reader)

/-- Two checked bytes, big-endian. -/
def u16 (reader : Reader) : Option (Option (Nat × Reader)) := do
  match ← bytes reader 2 with
  | none => return none
  | some (b, reader) => return some (beNat [← index b 0, ← index b 1], reader)

/-- A checked length byte and the vector. -/
def vec8 (reader : Reader) : Option (Option (Bytes × Reader)) := do
  match ← u8 reader with
  | none => return none
  | some (len, reader) => bytes reader len.toNat

/-- A checked two-byte length and the vector. -/
def vec16 (reader : Reader) : Option (Option (Bytes × Reader)) := do
  match ← u16 reader with
  | none => return none
  | some (len, reader) => bytes reader len

/-- `bytes` asks for the length first, so its splits are in range. -/
theorem bytes_eq (reader : Reader) (len : Nat) : bytes reader len = some (reader.bytes len) := by
  unfold bytes Reader.bytes
  by_cases hshort : reader.remaining.length < len
  · rw [if_pos hshort, if_pos hshort]
    rfl
  · rw [if_neg hshort, if_neg hshort, range_eq_some (Nat.zero_le _) (by omega),
      range_eq_some (by omega) (Nat.le_refl _), List.take_length]
    rfl

/-- The byte read is there. -/
theorem u8_eq (reader : Reader) : u8 reader = some reader.u8 := by
  unfold u8 Reader.u8
  rw [bytes_eq]
  cases hread : reader.bytes 1 with
  | none => rfl
  | some p =>
    obtain ⟨b, rest⟩ := p
    obtain ⟨hlen, _⟩ := Reader.bytes_eq_some_iff.mp hread
    obtain ⟨byte, rfl⟩ := List.length_eq_one_iff.mp hlen
    rfl

/-- Both bytes read are there. -/
theorem u16_eq (reader : Reader) : u16 reader = some reader.u16 := by
  unfold u16 Reader.u16
  rw [bytes_eq]
  cases hread : reader.bytes 2 with
  | none => rfl
  | some p =>
    obtain ⟨b, rest⟩ := p
    obtain ⟨hlen, _⟩ := Reader.bytes_eq_some_iff.mp hread
    obtain ⟨high, low, rfl⟩ := List.length_eq_two.mp hlen
    rfl

/-- A one-byte vector is read without a panic. -/
theorem vec8_eq (reader : Reader) : vec8 reader = some reader.vec8 := by
  unfold vec8 Reader.vec8
  rw [u8_eq]
  cases reader.u8 with
  | none => rfl
  | some p => exact bytes_eq p.2 p.1.toNat

/-- A two-byte vector is read without a panic. -/
theorem vec16_eq (reader : Reader) : vec16 reader = some reader.vec16 := by
  unfold vec16 Reader.vec16
  rw [u16_eq]
  cases reader.u16 with
  | none => rfl
  | some p => exact bytes_eq p.2 p.1

/-- `.ok_or(error)?` on what a read returns. -/
def readOr {α : Type} (read : Option (Option α)) (error : ParseError) : MayPanic ParseError α := do
  lift (okOr (← check read) error)

/-- A read that does not panic runs to its value or the error. -/
theorem readOr_runs {α : Type} {read : Option (Option α)} {value : Option α} {error : ParseError}
    (hread : read = some value) : RunsTo (readOr read error) (okOr value error) :=
  .check hread (.lift _)

-- ---------------------------------------------------------------------------
-- The ClientHello body
-- ---------------------------------------------------------------------------

/-- One entry of the list, each read checked. -/
def readServerName (bs : Bytes) : MayPanic ParseError (ServerName × Bytes) := do
  let (nameType, reader) ← readOr (u8 (Reader.new bs)) (.malformed "truncated server name type")
  let (name, reader) ← readOr (vec16 reader) (.malformed "truncated server name")
  return (⟨nameType, name⟩, reader.remaining)

/-- One extension, each read checked. -/
def readExtension (bs : Bytes) : MayPanic ParseError (Extension × Bytes) := do
  let (type, reader) ← readOr (u16 (Reader.new bs)) (.malformed "truncated extension type")
  let (data, reader) ← readOr (vec16 reader) (.malformed "truncated extension data")
  return (⟨type, data⟩, reader.remaining)

/-- The loop over `server_name_list` with every read checked. -/
def parseServerName (data : Bytes) : MayPanic ParseError (Option Hostname) := do
  let (list, outer) ←
    readOr (vec16 (Reader.new data)) (.malformed "truncated server_name_list")
  lift (rejectIf (outer.isEmpty = false) (.malformed "trailing bytes after server_name_list"))
  lift (rejectIf (list.isEmpty = true) (.malformed "empty server_name_list"))
  MayPanic.forEach readServerName (fun name entry => lift (addServerName name entry))
    (list.length + 1) none list

/-- The push of the type is checked. -/
def addExtension (state : SeenTypes × Option Hostname) (extension : Extension) :
    MayPanic ParseError (SeenTypes × Option Hostname) := do
  let seenTypes ← check (push extension.type state.1)
  if extension.type = extensionServerName then
    let sni ← parseServerName extension.data
    return (seenTypes, sni)
  else return (seenTypes, state.2)

/-- `windows(2)`. -/
def windows : List Nat → List (List Nat)
  | a :: b :: rest => [a, b] :: windows (b :: rest)
  | _ => []

/-- `any(|pair| pair[0] == pair[1])`. -/
def anyAdjacentEqual (pairs : List (List Nat)) : Option Bool :=
  pairs.anyM fun pair => return (← index pair 0) == (← index pair 1)

/-- Sorting, windows and all, with every access checked. -/
def parseExtensions (extensions : Bytes) : MayPanic ParseError (Option Hostname) := do
  let (seenTypes, sni) ← MayPanic.forEach readExtension addExtension (extensions.length + 1)
    (SmallVec.new 0, none) extensions
  let types ← check (asSlice seenTypes)
  let duplicate ← check (anyAdjacentEqual (windows (types.insertionSort (· ≤ ·))))
  lift (rejectIf (duplicate = true) (.malformed "duplicate extension type"))
  return sni

/-- The optional extensions and the check that nothing follows. -/
def parseTail (reader : Reader) : MayPanic ParseError (Option Hostname) :=
  if reader.isEmpty then return none
  else do
    let (extensions, reader) ← readOr (vec16 reader) (.malformed "truncated extensions")
    lift (rejectIf (reader.isEmpty = false) (.malformed "trailing bytes after extensions"))
    parseExtensions extensions

/-- The fields of the body in order, every read checked. -/
def parseClientHelloBody (body : Bytes) : MayPanic ParseError (Option Hostname) := do
  let reader := Reader.new body
  let (version, reader) ← readOr (u16 reader) (.malformed "truncated legacy_version")
  lift (rejectIf (version >>> 8 ≠ 0x03) (.malformed "unsupported legacy_version"))
  let (_, reader) ← readOr (bytes reader randomLen) (.malformed "truncated random")
  let (sessionId, reader) ← readOr (vec8 reader) (.malformed "truncated legacy_session_id")
  lift (rejectIf (sessionId.length > maxSessionIdLen)
    (.malformed "legacy_session_id longer than 32 bytes"))
  let (cipherSuites, reader) ← readOr (vec16 reader) (.malformed "truncated cipher_suites")
  lift (rejectIf (cipherSuites.isEmpty = true ∨ cipherSuites.length % 2 ≠ 0)
    (.malformed "cipher_suites length is empty or odd"))
  let (compression, reader) ←
    readOr (vec8 reader) (.malformed "truncated legacy_compression_methods")
  lift (rejectIf (compression.isEmpty = true) (.malformed "empty legacy_compression_methods"))
  parseTail reader

/-- A server name is read without a panic. -/
theorem readServerName_runs (bs : Bytes) :
    RunsTo (readServerName bs) (SniRouter.readServerName bs) :=
  .bind (readOr_runs (u8_eq _)) fun _ _ =>
    .bind (readOr_runs (vec16_eq _)) fun _ _ => .pure _

/-- An extension is read without a panic. -/
theorem readExtension_runs (bs : Bytes) :
    RunsTo (readExtension bs) (SniRouter.readExtension bs) :=
  .bind (readOr_runs (u16_eq _)) fun _ _ =>
    .bind (readOr_runs (vec16_eq _)) fun _ _ => .pure _

/-- The list of server names is parsed without a panic. -/
theorem parseServerName_runs (data : Bytes) :
    RunsTo (parseServerName data) (SniRouter.parseServerName data) :=
  .bind (readOr_runs (vec16_eq _)) fun _ _ =>
    .bind (.lift _) fun _ _ =>
    .bind (.lift _) fun _ _ =>
    .forEach readServerName_exact.shrinks readServerName_runs (fun _ _ => .lift _)
      (Nat.lt_succ_self _)

/-- An extension is recorded without a panic. -/
theorem addExtension_runs (state : SeenTypes × Option Hostname) (extension : Extension) :
    RunsTo (addExtension state extension) (SniRouter.addExtension state extension) :=
  .check (push_eq _ _)
    (.ite (fun _ => .bind (parseServerName_runs _) fun _ _ => .pure _) fun _ => .pure _)

/-- Windows of two have two items. -/
theorem anyAdjacentEqual_windows (types : List Nat) :
    anyAdjacentEqual (windows types) = some (SniRouter.anyAdjacentEqual types) := by
  induction types with
  | nil => rfl
  | cons a rest ih =>
    cases rest with
    | nil => rfl
    | cons b rest =>
      show (match a == b with
        | true => some true
        | false => anyAdjacentEqual (windows (b :: rest))) =
        some (a == b || SniRouter.anyAdjacentEqual (b :: rest))
      rw [ih]
      cases a == b <;> rfl

/-- The extensions are parsed without a panic. -/
theorem parseExtensions_runs (extensions : Bytes) :
    RunsTo (parseExtensions extensions) (SniRouter.parseExtensions extensions) :=
  .bind (.forEach readExtension_exact.shrinks readExtension_runs addExtension_runs
      (Nat.lt_succ_self _)) fun _ _ =>
    .check (asSlice_eq _) <|
    .check (anyAdjacentEqual_windows _) <|
    .bind (.lift _) fun _ _ => .pure _

/-- The end of the body is parsed without a panic. -/
theorem parseTail_runs (reader : Reader) :
    RunsTo (parseTail reader) (SniRouter.parseTail reader) :=
  .ite (fun _ => .pure _) fun _ =>
    .bind (readOr_runs (vec16_eq _)) fun _ _ =>
    .bind (.lift _) fun _ _ => parseExtensions_runs _

/-- The body parser checks nothing that fails, on any bytes. -/
theorem parseClientHelloBody_runs (body : Bytes) :
    RunsTo (parseClientHelloBody body) (SniRouter.parseClientHelloBody body) :=
  .bind (readOr_runs (u16_eq _)) fun _ _ =>
    .bind (.lift _) fun _ _ =>
    .bind (readOr_runs (bytes_eq _ _)) fun _ _ =>
    .bind (readOr_runs (vec8_eq _)) fun _ _ =>
    .bind (.lift _) fun _ _ =>
    .bind (readOr_runs (vec16_eq _)) fun _ _ =>
    .bind (.lift _) fun _ _ =>
    .bind (readOr_runs (vec8_eq _)) fun _ _ =>
    .bind (.lift _) fun _ _ => parseTail_runs _

-- ---------------------------------------------------------------------------
-- The record loop
-- ---------------------------------------------------------------------------

/-- The length bytes of the header are indexed. -/
def checkRecordHeader (header : Bytes) (firstRecord : Bool) : MayPanic ParseError Nat := do
  lift (checkPartialRecordHeader header firstRecord)
  let high ← check (index header 3)
  let low ← check (index header 4)
  let len := beNat [high, low]
  lift (rejectIf (len = 0 ∨ len > maxRecordPayload) .invalidRecord)
  return len

/-- The store into the four header bytes is checked. -/
def note (header : HandshakeHeader) (byte : UInt8) : Option HandshakeHeader := do
  let bytes ← set header.bytes header.known byte
  return ⟨bytes, header.known + 1⟩

/-- The subtraction and the stores are checked. -/
def observe (header : HandshakeHeader) (payload : Bytes) (limits : HelloLimits) :
    MayPanic ParseError (Option Nat × HandshakeHeader) := do
  let room ← check (sub handshakeHeaderLen header.known)
  let header ← check ((payload.take room).foldlM note header)
  lift <|
    if header.known ≥ 1 ∧ header.bytes.get (0 : Fin 4) ≠ handshakeTypeClientHello then
      .error .notClientHello
    else if header.known < handshakeHeaderLen then .ok (none, header)
    else
      let high := (header.bytes.get (1 : Fin 4)).toNat
      let mid := (header.bytes.get (2 : Fin 4)).toNat
      let low := (header.bytes.get (3 : Fin 4)).toNat
      let len := high <<< 16 ||| mid <<< 8 ||| low
      if len > limits.maxHandshakeBytes then .error .tooLarge
      else .ok (some len, header)

/-- The variables of the record loop. -/
structure Scan where
  offset       : Nat
  payloads     : Payloads
  header       : HandshakeHeader
  payloadTotal : Nat

/-- The loop begins at the first byte with nothing seen. -/
def Scan.start : Scan := ⟨0, SmallVec.new (0, 0), .default, 0⟩

/-- What a round without an error leads to. -/
inductive Round where
  | done (layout : RecordLayout)
  | next (scan : Scan)

/-- One round of the loop of `scan_records`. -/
def scanRound (buf : Bytes) (limits : HelloLimits) (scan : Scan) : MayPanic ParseError Round := do
  let rest ← check (range buf scan.offset buf.length)
  if rest.length < recordHeaderLen then
    lift (checkPartialRecordHeader rest (scan.offset == 0))
    throw .incomplete
  else
    let payloadLen ← checkRecordHeader (rest.take recordHeaderLen) (scan.offset == 0)
    if scan.payloads.len = limits.maxRecords then throw .tooLarge
    else
      let payloadStart := scan.offset + recordHeaderLen
      let payloadEnd := payloadStart + payloadLen
      let available ← check (range buf payloadStart (min payloadEnd buf.length))
      let (handshakeLen, header) ← observe scan.header available limits
      if available.length < payloadLen then throw .incomplete
      else
        let payloads ← check (push (payloadStart, payloadEnd) scan.payloads)
        let payloadTotal := scan.payloadTotal + payloadLen
        match handshakeLen.filter (handshakeHeaderLen + · ≤ payloadTotal) with
        | some handshakeLen => return .done ⟨payloads, handshakeLen, payloadEnd⟩
        | none => return .next ⟨payloadEnd, payloads, header, payloadTotal⟩

/-- The loop, which panics when its rounds run out. -/
def scanRounds (buf : Bytes) (limits : HelloLimits) :
    Nat → Scan → MayPanic ParseError RecordLayout
  | 0, _ => check none
  | rounds + 1, scan => do
    match ← scanRound buf limits scan with
    | .done layout => return layout
    | .next scan => scanRounds buf limits rounds scan

/-- The record loop, with a round for every six bytes of the buffer. -/
def scanRecords (buf : Bytes) (limits : HelloLimits) : MayPanic ParseError RecordLayout :=
  scanRounds buf limits (buf.length / 6 + 1) .start

/-- A whole header has the bytes that are indexed. -/
theorem checkRecordHeader_runs {header : Bytes} {firstRecord : Bool}
    (hheader : header.length = recordHeaderLen) :
    RunsTo (checkRecordHeader header firstRecord)
      (SniRouter.checkRecordHeader header firstRecord) := by
  match header, hheader with
  | [type, major, minor, high, low], _ =>
    exact .bind (.lift _) fun _ _ =>
      .check (a := high) rfl <|
      .check (a := low) rfl <|
      .bind (.lift _) fun _ _ => .pure _

/-- The bytes of the message header that a payload adds fit its array. -/
theorem foldlM_note {header : HandshakeHeader} {payload : Bytes}
    (hfit : header.known + payload.length ≤ handshakeHeaderLen) :
    payload.foldlM note header = some (payload.foldl HandshakeHeader.note header) := by
  induction payload generalizing header with
  | nil => rfl
  | cons byte payload ih =>
    rw [List.length_cons] at hfit
    have hnote : note header byte = some (header.note byte) := by
      rw [note, set_eq_some (by omega)]
      rfl
    rw [List.foldlM_cons, hnote, List.foldl_cons]
    refine ih ?_
    show header.known + 1 + payload.length ≤ _
    omega

/-- Noting bytes counts them. -/
theorem known_foldl_note (header : HandshakeHeader) (payload : Bytes) :
    (payload.foldl HandshakeHeader.note header).known = header.known + payload.length := by
  induction payload generalizing header with
  | nil => rfl
  | cons byte payload ih =>
    rw [List.foldl_cons, ih, List.length_cons]
    show header.known + 1 + payload.length = _
    omega

/-- The header never takes more than the four bytes it has room for. -/
theorem observe_runs {header : HandshakeHeader} (payload : Bytes) (limits : HelloLimits)
    (hknown : header.known ≤ handshakeHeaderLen) :
    RunsTo (observe header payload limits) (header.observe payload limits) := by
  refine .check (sub_eq_some hknown) (.check (foldlM_note ?_) (.lift _))
  rw [List.length_take]
  omega

/-- At most the four bytes of the message header are ever known. -/
theorem observe_known {header header' : HandshakeHeader} {payload : Bytes} {limits : HelloLimits}
    {len : Option Nat} (hknown : header.known ≤ handshakeHeaderLen)
    (h : header.observe payload limits = .ok (len, header')) :
    header'.known ≤ handshakeHeaderLen := by
  have hsame : header' = (payload.take (handshakeHeaderLen - header.known)).foldl
      HandshakeHeader.note header := by
    unfold HandshakeHeader.observe at h
    dsimp only at h
    split_ifs at h
    · injection h with h
      exact (Prod.mk.inj h).2.symm
    · injection h with h
      exact (Prod.mk.inj h).2.symm
  rw [hsame, known_foldl_note, List.length_take]
  omega

/-- A round without its checks. -/
def uncheckedRound (buf : Bytes) (limits : HelloLimits) (scan : Scan) : Except ParseError Round :=
  let rest := buf.drop scan.offset
  if rest.length < recordHeaderLen then do
    checkPartialRecordHeader rest (scan.offset == 0)
    throw .incomplete
  else do
    let payloadLen ←
      SniRouter.checkRecordHeader (rest.take recordHeaderLen) (scan.offset == 0)
    if scan.payloads.len = limits.maxRecords then throw .tooLarge
    else
      let payloadStart := scan.offset + recordHeaderLen
      let payloadEnd := payloadStart + payloadLen
      let available := slice buf payloadStart (min payloadEnd buf.length)
      let (handshakeLen, header) ← scan.header.observe available limits
      if available.length < payloadLen then throw .incomplete
      else
        let payloads := scan.payloads.push (payloadStart, payloadEnd)
        let payloadTotal := scan.payloadTotal + payloadLen
        match handshakeLen.filter (handshakeHeaderLen + · ≤ payloadTotal) with
        | some handshakeLen => return .done ⟨payloads, handshakeLen, payloadEnd⟩
        | none => return .next ⟨payloadEnd, payloads, header, payloadTotal⟩

/-- The loop from a state of it. -/
def Scan.loop (buf : Bytes) (limits : HelloLimits) (scan : Scan) : Except ParseError RecordLayout :=
  scanLoop buf limits scan.offset scan.payloads scan.header scan.payloadTotal

/-- The loop is its first round, then the loop from where that leads. -/
theorem loop_eq (buf : Bytes) (limits : HelloLimits) (scan : Scan) :
    scan.loop buf limits = (do
      match ← uncheckedRound buf limits scan with
      | .done layout => return layout
      | .next scan => scan.loop buf limits) := by
  unfold Scan.loop uncheckedRound
  dsimp only
  by_cases hshort : (buf.drop scan.offset).length < recordHeaderLen
  · rw [scanLoop]
    dsimp only
    rw [dif_pos hshort, if_pos hshort]
    cases checkPartialRecordHeader (buf.drop scan.offset) (scan.offset == 0) <;> rfl
  · rw [if_neg hshort]
    cases hcheck : SniRouter.checkRecordHeader ((buf.drop scan.offset).take recordHeaderLen)
        (scan.offset == 0) with
    | error e => exact scanLoop_header_error hshort hcheck
    | ok len =>
      rw [scanLoop_header hshort hcheck]
      dsimp only [bind, Except.bind]
      by_cases hroom : scan.payloads.len = limits.maxRecords
      · rw [if_pos hroom, if_pos hroom]
        rfl
      · rw [if_neg hroom, if_neg hroom]
        cases scan.header.observe (slice buf (scan.offset + recordHeaderLen)
            (min (scan.offset + recordHeaderLen + len) buf.length)) limits with
        | error e => rfl
        | ok p =>
          dsimp only
          by_cases hcut : (slice buf (scan.offset + recordHeaderLen)
              (min (scan.offset + recordHeaderLen + len) buf.length)).length < len
          · rw [if_pos hcut, if_pos hcut]
            rfl
          · rw [if_neg hcut, if_neg hcut]
            cases p.1.filter (handshakeHeaderLen + · ≤ scan.payloadTotal + len) <;> rfl

/-- The states of the loop in which a round stays in bounds. -/
structure InBounds (buf : Bytes) (scan : Scan) : Prop where
  offset_le : scan.offset ≤ buf.length
  known_le  : scan.header.known ≤ handshakeHeaderLen

theorem inBounds_start (buf : Bytes) : InBounds buf .start :=
  ⟨Nat.zero_le _, Nat.zero_le _⟩

/-- In bounds, no check of a round fails. -/
theorem scanRound_runs {buf : Bytes} {scan : Scan} (limits : HelloLimits)
    (hin : InBounds buf scan) :
    RunsTo (scanRound buf limits scan) (uncheckedRound buf limits scan) := by
  have hoffset := hin.offset_le
  have hrest : range buf scan.offset buf.length = some (buf.drop scan.offset) := by
    rw [range_eq_some hoffset (Nat.le_refl _), List.take_length]
  unfold scanRound uncheckedRound
  refine .check hrest (.ite (fun _ => ?_) fun hshort => ?_)
  · exact .bind (.lift _) fun _ _ => .throw _
  · have hlen : ((buf.drop scan.offset).take recordHeaderLen).length = recordHeaderLen := by
      rw [List.length_take]
      omega
    rw [List.length_drop] at hshort
    refine .bind (checkRecordHeader_runs hlen) fun len _ => .ite (fun _ => .throw _) fun _ => ?_
    -- the header is inside the buffer, so the payload starts inside it
    refine .check (range_eq_some (by omega) (Nat.min_le_right _ _)) ?_
    refine .bind (observe_runs _ limits hin.known_le) fun p _ =>
      .ite (fun _ => .throw _) fun _ => ?_
    refine .check (push_eq _ _) ?_
    dsimp only
    cases p.1.filter (handshakeHeaderLen + · ≤ scan.payloadTotal + len) <;> exact .pure _

/-- A round that goes on has read a record: six bytes at least, all of them in
the buffer. -/
theorem uncheckedRound_next {buf : Bytes} {limits : HelloLimits} {scan scan' : Scan}
    (hin : InBounds buf scan) (h : uncheckedRound buf limits scan = .ok (.next scan')) :
    scan.offset + 6 ≤ scan'.offset ∧ InBounds buf scan' := by
  have hoffset := hin.offset_le
  unfold uncheckedRound at h
  dsimp only at h
  by_cases hshort : (buf.drop scan.offset).length < recordHeaderLen
  · rw [if_pos hshort, bind_eq_ok_iff] at h
    obtain ⟨_, _, h⟩ := h
    exact absurd h (by simp [throw, throwThe, MonadExceptOf.throw])
  · rw [if_neg hshort, bind_eq_ok_iff] at h
    obtain ⟨len, hcheck, h⟩ := h
    have hpos := (checkRecordHeader_bounds hcheck).1
    split at h
    · exact absurd h (by simp [throw, throwThe, MonadExceptOf.throw])
    · obtain ⟨⟨declared, header⟩, hobserve, h⟩ := bind_eq_ok_iff.mp h
      dsimp only at h
      split at h
      · exact absurd h (by simp [throw, throwThe, MonadExceptOf.throw])
      · next hfull =>
        split at h
        · exact absurd h (by simp [pure, Except.pure])
        · -- the whole payload is there, so the next round starts in the buffer
          injection h with h
          injection h with h
          subst h
          rw [length_slice, List.length_drop] at *
          unfold recordHeaderLen at *
          refine ⟨?_, ?_, observe_known hin.known_le hobserve⟩
          · show scan.offset + 6 ≤ scan.offset + 5 + len
            omega
          · show scan.offset + 5 + len ≤ buf.length
            omega

/-- A round for every six bytes that are left suffices. -/
theorem scanRounds_runs {buf : Bytes} {limits : HelloLimits} {scan : Scan} {rounds : Nat}
    (hin : InBounds buf scan) (hrounds : (buf.length - scan.offset) / 6 < rounds) :
    RunsTo (scanRounds buf limits rounds scan) (scan.loop buf limits) := by
  induction rounds generalizing scan with
  | zero => exact absurd hrounds (Nat.not_lt_zero _)
  | succ rounds ih =>
    rw [scanRounds, loop_eq]
    refine .bind (scanRound_runs limits hin) fun round hround => ?_
    cases round with
    | done layout => exact .pure layout
    | next scan' =>
      obtain ⟨hadvance, hin'⟩ := uncheckedRound_next hin hround
      have hoffset := hin'.offset_le
      exact ih hin' (by omega)

/-- The record loop runs without a panic, and its rounds suffice. -/
theorem scanRecords_runs (buf : Bytes) (limits : HelloLimits) :
    RunsTo (scanRecords buf limits) (SniRouter.scanRecords buf limits) := by
  have hruns : RunsTo (scanRounds buf limits (buf.length / 6 + 1) .start)
      (Scan.start.loop buf limits) :=
    scanRounds_runs (inBounds_start buf) (Nat.lt_succ_self _)
  exact hruns

-- ---------------------------------------------------------------------------
-- The message
-- ---------------------------------------------------------------------------

/-- The copy of a message that spans several records. -/
def copyFragments (buf : Bytes) (messageLen : Nat) (fragments : List (Nat × Nat)) : Option Bytes :=
  fragments.foldlM (fun message fragment => do
    let left ← sub messageLen message.length
    let take := min left (fragment.2 - fragment.1)
    let part ← range buf fragment.1 (fragment.1 + take)
    return message ++ part) []

/-- One fragment is parsed in place, several are copied. -/
def parseMessage (buf : Bytes) (layout : RecordLayout) : MayPanic ParseError (Option Hostname) := do
  let messageLen := handshakeHeaderLen + layout.handshakeLen
  match ← check (asSlice layout.payloads) with
  | [only] =>
    let body ← check (range buf (only.1 + handshakeHeaderLen) (only.1 + messageLen))
    parseClientHelloBody body
  | fragments =>
    let message ← check (copyFragments buf messageLen fragments)
    let body ← check (range message handshakeHeaderLen message.length)
    parseClientHelloBody body

/-- The entry point with every access checked. -/
def parseClientHello (buf : Bytes) (limits : HelloLimits) :
    MayPanic ParseError ClientHelloInfo := do
  let layout ← scanRecords buf limits
  let sni ← parseMessage buf layout
  return ⟨sni, layout.consumed⟩

/-- The copy stays in the buffer and never copies more than the message. -/
theorem copyFragments_runs {buf : Bytes} {messageLen : Nat} {ranges : List (Nat × Nat)}
    (hin : RangesIn buf ranges) :
    copyFragments buf messageLen ranges = some (SniRouter.copyFragments buf messageLen ranges) := by
  have hgen : ∀ message : Bytes, message.length ≤ messageLen →
      ranges.foldlM (fun message fragment => do
        let left ← sub messageLen message.length
        let take := min left (fragment.2 - fragment.1)
        let part ← range buf fragment.1 (fragment.1 + take)
        return message ++ part) message =
      some (ranges.foldl (fun message fragment =>
        let take := min (messageLen - message.length) (fragment.2 - fragment.1)
        message ++ slice buf fragment.1 (fragment.1 + take)) message) := by
    induction ranges with
    | nil => exact fun message _ => rfl
    | cons fragment ranges ih =>
      intro message hroom
      obtain ⟨hle, hbuf⟩ := hin fragment (List.mem_cons_self ..)
      have hpart : range buf fragment.1
          (fragment.1 + min (messageLen - message.length) (fragment.2 - fragment.1)) =
          some (slice buf fragment.1
            (fragment.1 + min (messageLen - message.length) (fragment.2 - fragment.1))) :=
        range_eq_some (by omega) (by omega)
      rw [List.foldlM_cons, sub_eq_some hroom, List.foldl_cons]
      dsimp only [bind, Option.bind]
      rw [hpart]
      refine ih (fun r hr => hin r (List.mem_cons_of_mem _ hr)) _ ?_
      rw [List.length_append, length_slice]
      omega
  exact hgen [] (Nat.zero_le _)

/-- A layout the scan returns stands for a message that is there. -/
theorem exists_layoutOf {buf : Bytes} {limits : HelloLimits} {layout : RecordLayout}
    (h : SniRouter.scanRecords buf limits = .ok layout) : ∃ found, LayoutOf buf layout found := by
  have hagrees : ScanAgrees buf (SniRouter.scanRecords buf limits) (assemble limits buf 0 0 []) :=
    scanLoop_assemble (walked_start buf)
  rw [h] at hagrees
  cases hfound : assemble limits buf 0 0 [] with
  | error e =>
    rw [hfound] at hagrees
    exact hagrees.elim
  | ok found =>
    rw [hfound] at hagrees
    exact ⟨found, hagrees⟩

/-- The copy gives the whole message. -/
theorem length_copyFragments {buf : Bytes} {layout : RecordLayout} {found : Assembled}
    (hlayout : LayoutOf buf layout found) :
    (SniRouter.copyFragments buf (handshakeHeaderLen + layout.handshakeLen)
      layout.payloads.asSlice).length = handshakeHeaderLen + layout.handshakeLen := by
  have hcomplete := hlayout.complete
  rw [copyFragments_eq hlayout.ranges, hlayout.bytes_eq, List.length_take, hlayout.len_eq]
  omega

/-- The message is sliced where its records lie. -/
theorem parseMessage_runs {buf : Bytes} {layout : RecordLayout} {found : Assembled}
    (hlayout : LayoutOf buf layout found) :
    RunsTo (parseMessage buf layout) (SniRouter.parseMessage buf layout) := by
  unfold parseMessage SniRouter.parseMessage
  refine .check (asSlice_eq _) ?_
  have hranges := hlayout.ranges
  have hlen := length_copyFragments hlayout
  have hcomplete := hlayout.complete
  rw [← hlayout.bytes_eq, ← hlayout.len_eq] at hcomplete
  generalize layout.payloads.asSlice = fragments at *
  match fragments with
  | [only] =>
    obtain ⟨hle, hbuf⟩ := hranges only (List.mem_singleton_self _)
    have hend : only.1 + (handshakeHeaderLen + layout.handshakeLen) ≤ only.2 := by
      simp only [bytesAt, List.flatMap_cons, List.flatMap_nil, List.append_nil, length_slice]
        at hcomplete
      omega
    exact .check (range_eq_some (by omega) (by omega)) (parseClientHelloBody_runs _)
  | [] | _ :: _ :: _ =>
    refine .check (copyFragments_runs hranges) ?_
    refine .check (range_eq_some (by omega) (Nat.le_refl _)) ?_
    rw [List.take_length]
    exact parseClientHelloBody_runs _

/-- The whole parse runs without a panic to the unchecked result. -/
theorem parseClientHello_runs (buf : Bytes) (limits : HelloLimits) :
    RunsTo (parseClientHello buf limits) (SniRouter.parseClientHello buf limits) := by
  refine .bind (scanRecords_runs buf limits) fun layout hscan => ?_
  obtain ⟨found, hlayout⟩ := exists_layoutOf hscan
  exact .bind (parseMessage_runs hlayout) fun _ _ => .pure _

-- ---------------------------------------------------------------------------
-- What the copy takes
-- ---------------------------------------------------------------------------

/-- The part of each fragment that a copy of `left` bytes takes. -/
def copiedRanges : Nat → List (Nat × Nat) → List (Nat × Nat)
  | _, [] => []
  | left, fragment :: fragments =>
    let take := min left (fragment.2 - fragment.1)
    (fragment.1, fragment.1 + take) :: copiedRanges (left - take) fragments

/-- `part` lies inside `range`. -/
def Inside (part range : Nat × Nat) : Prop :=
  range.1 ≤ part.1 ∧ part.1 ≤ part.2 ∧ part.2 ≤ range.2

/-- A copy never reads past a fragment. -/
theorem copiedRanges_inside {buf : Bytes} {ranges : List (Nat × Nat)} (hin : RangesIn buf ranges)
    (left : Nat) : List.Forall₂ Inside (copiedRanges left ranges) ranges := by
  induction ranges generalizing left with
  | nil => exact .nil
  | cons range ranges ih =>
    obtain ⟨hle, _⟩ := hin range (List.mem_cons_self ..)
    refine .cons ⟨Nat.le_refl _, Nat.le_add_right _ _, ?_⟩
      (ih (fun r hr => hin r (List.mem_cons_of_mem _ hr)) _)
    show range.1 + min left (range.2 - range.1) ≤ range.2
    omega

/-- The copy is the bytes at those parts. -/
theorem copyFragments_copiedRanges {buf : Bytes} {messageLen : Nat} {ranges : List (Nat × Nat)}
    (hin : RangesIn buf ranges) :
    SniRouter.copyFragments buf messageLen ranges =
      bytesAt buf (copiedRanges messageLen ranges) := by
  have hgen : ∀ message : Bytes,
      ranges.foldl (fun message fragment =>
        let take := min (messageLen - message.length) (fragment.2 - fragment.1)
        message ++ slice buf fragment.1 (fragment.1 + take)) message =
      message ++ bytesAt buf (copiedRanges (messageLen - message.length) ranges) := by
    induction ranges with
    | nil => exact fun message => (List.append_nil _).symm
    | cons range ranges ih =>
      intro message
      obtain ⟨hle, hbuf⟩ := hin range (List.mem_cons_self ..)
      have hleft : messageLen - (message ++ slice buf range.1
          (range.1 + min (messageLen - message.length) (range.2 - range.1))).length =
          messageLen - message.length -
            min (messageLen - message.length) (range.2 - range.1) := by
        rw [List.length_append, length_slice]
        omega
      rw [List.foldl_cons, ih fun r hr => hin r (List.mem_cons_of_mem _ hr)]
      dsimp only
      rw [hleft, List.append_assoc]
      rfl
  exact hgen []

end Checked

/-- **The parser stays in bounds.** On every buffer no index, range or
subtraction of the parser is out of bounds. A round of the record loop that
goes on has advanced by six bytes at least, within the buffer. After a
successful scan the copy gives exactly the message, and takes all of it from
inside the recorded ranges. -/
theorem parseClientHello_in_bounds (buf : Bytes) (limits : HelloLimits) :
    MayPanic.RunsTo (Checked.parseClientHello buf limits) (parseClientHello buf limits) ∧
    (Checked.InBounds buf .start ∧ ∀ scan scan', Checked.InBounds buf scan →
      MayPanic.RunsTo (Checked.scanRound buf limits scan) (.ok (.next scan')) →
      scan.offset + 6 ≤ scan'.offset ∧ Checked.InBounds buf scan') ∧
    ∀ layout, scanRecords buf limits = .ok layout →
      (copyFragments buf (handshakeHeaderLen + layout.handshakeLen)
        layout.payloads.asSlice).length = handshakeHeaderLen + layout.handshakeLen ∧
      copyFragments buf (handshakeHeaderLen + layout.handshakeLen) layout.payloads.asSlice =
        bytesAt buf (Checked.copiedRanges (handshakeHeaderLen + layout.handshakeLen)
          layout.payloads.asSlice) ∧
      List.Forall₂ Checked.Inside
        (Checked.copiedRanges (handshakeHeaderLen + layout.handshakeLen) layout.payloads.asSlice)
        layout.payloads.asSlice := by
  refine ⟨Checked.parseClientHello_runs buf limits, ⟨Checked.inBounds_start buf, ?_⟩, ?_⟩
  · intro scan scan' hin hround
    have hruns := Checked.scanRound_runs limits hin
    rw [MayPanic.RunsTo, hround] at hruns
    injection hruns with hnext
    exact Checked.uncheckedRound_next hin hnext.symm
  · intro layout hscan
    obtain ⟨found, hlayout⟩ := Checked.exists_layoutOf hscan
    exact ⟨Checked.length_copyFragments hlayout,
      Checked.copyFragments_copiedRanges hlayout.ranges,
      Checked.copiedRanges_inside hlayout.ranges _⟩

end SniRouter
