import SniRouter.Protocol.Record

/-!
# SniRouter — record reassembly

The walk over the buffer seen as a fold over records.

* `Record` — a well-formed handshake record and its wire form.
* `declaredLen` — what the payload bytes seen so far say about the message.
* `assemble` — the walk without buffer, offsets and ranges: it keeps the
  payload bytes themselves.
* `assemble_carries` / `carries_of_assemble` — it ends on exactly the records
  that carry a message.
-/

namespace SniRouter

open Framing

-- ---------------------------------------------------------------------------
-- Records
-- ---------------------------------------------------------------------------

/-- A handshake record: any minor version, 1 to 2^14 bytes of payload. -/
structure Record where
  minor      : UInt8
  payload    : Bytes
  payload_ne : payload ≠ []
  payload_le : payload.length ≤ maxRecordPayload

/-- The wire form of a record. -/
def Record.encode (record : Record) : Bytes :=
  contentTypeHandshake :: recordVersionMajor :: record.minor :: vec 2 record.payload

/-- The payloads of some records, joined. -/
def payloadsOf (records : List Record) : Bytes :=
  records.flatMap Record.payload

/-- The wire form of some records. -/
def wireOf (records : List Record) : Bytes :=
  records.flatMap Record.encode

/-- A record is its header and its payload. -/
@[simp] theorem Record.length_encode (record : Record) :
    record.encode.length = recordHeaderLen + record.payload.length := by
  simp only [Record.encode, List.length_cons, length_vec, recordHeaderLen]
  omega

-- ---------------------------------------------------------------------------
-- The message header
-- ---------------------------------------------------------------------------

/-- The body length the payload bytes seen so far declare, once four of them
are there. -/
def declaredLen (limits : HelloLimits) (seen : Bytes) : Except ParseError (Option Nat) :=
  if seen ≠ [] ∧ seen.head? ≠ some handshakeTypeClientHello then .error .notClientHello
  else if seen.length < handshakeHeaderLen then .ok none
  else
    let len := beNat ((seen.take handshakeHeaderLen).drop 1)
    if len > limits.maxHandshakeBytes then .error .tooLarge else .ok (some len)

-- ---------------------------------------------------------------------------
-- The walk
-- ---------------------------------------------------------------------------

/-- What a finished walk found: the payload bytes, the body length and the wire
bytes it covers. -/
structure Assembled where
  seen         : Bytes
  handshakeLen : Nat
  consumed     : Nat

theorem length_drop_record_lt {rest : Bytes} (n : Nat) (h : ¬ rest.length < recordHeaderLen) :
    (rest.drop (recordHeaderLen + n)).length < rest.length := by
  rw [List.length_drop]
  unfold recordHeaderLen at *
  omega

/-- The record walk over the bytes that are left, after `count` records of
`consumed` wire bytes whose payloads are `seen`. -/
def assemble (limits : HelloLimits) (rest : Bytes) (count consumed : Nat) (seen : Bytes) :
    Except ParseError Assembled :=
  if hshort : rest.length < recordHeaderLen then
    match checkPartialRecordHeader rest (count == 0) with
    | .error e => .error e
    | .ok () => .error .incomplete
  else
    match checkRecordHeader (rest.take recordHeaderLen) (count == 0) with
    | .error e => .error e
    | .ok payloadLen =>
      if count = limits.maxRecords then .error .tooLarge
      else
        let seen := seen ++ (rest.drop recordHeaderLen).take payloadLen
        match declaredLen limits seen with
        | .error e => .error e
        | .ok handshakeLen =>
          if (rest.drop recordHeaderLen).length < payloadLen then .error .incomplete
          else
            let consumed := consumed + recordHeaderLen + payloadLen
            match handshakeLen.filter (handshakeHeaderLen + · ≤ seen.length) with
            | some handshakeLen => .ok ⟨seen, handshakeLen, consumed⟩
            | none =>
              have := length_drop_record_lt payloadLen hshort
              assemble limits (rest.drop (recordHeaderLen + payloadLen)) (count + 1) consumed seen
termination_by rest.length
decreasing_by assumption

-- ---------------------------------------------------------------------------
-- Record headers
-- ---------------------------------------------------------------------------

/-- The partial check passes on what may become a record header. -/
theorem checkPartialRecordHeader_eq_ok_iff {type major : UInt8} {rest : Bytes}
    {firstRecord : Bool} {u : Unit} :
    checkPartialRecordHeader (type :: major :: rest) firstRecord = .ok u ↔
      type = contentTypeHandshake ∧ major = recordVersionMajor := by
  unfold checkPartialRecordHeader
  by_cases htype : type = contentTypeHandshake
  · simp [htype, rejectIf_eq_ok_iff]
  · simp [htype]

/-- The full header of a record: type, version and a length in range. -/
theorem checkRecordHeader_eq_ok_iff {header : Bytes} {firstRecord : Bool} {len : Nat}
    (hheader : header.length = recordHeaderLen) :
    checkRecordHeader header firstRecord = .ok len ↔
      ∃ minor, header = contentTypeHandshake :: recordVersionMajor :: minor :: beBytes 2 len ∧
        1 ≤ len ∧ len ≤ maxRecordPayload := by
  obtain ⟨type, major, minor, high, low, rfl⟩ :
      ∃ type major minor high low, header = [type, major, minor, high, low] := by
    match header, hheader with
    | [type, major, minor, high, low], _ => exact ⟨type, major, minor, high, low, rfl⟩
  have hspell : beBytes 2 (beNat [high, low]) = [high, low] := beBytes_beNat [high, low]
  unfold checkRecordHeader
  simp only [bind_eq_ok_iff, checkPartialRecordHeader_eq_ok_iff, rejectIf_eq_ok_iff,
    exists_const, pure, Except.pure, Except.ok.injEq]
  refine ⟨fun h => ?_, fun h => ?_⟩
  · obtain ⟨⟨rfl, rfl⟩, hbounds, rfl⟩ := h
    refine ⟨minor, ?_, by omega, by omega⟩
    show _ = contentTypeHandshake :: recordVersionMajor :: minor :: beBytes 2 (beNat [high, low])
    rw [hspell]
  · obtain ⟨minor', heq, hpos, hle⟩ := h
    simp only [List.cons.injEq] at heq
    obtain ⟨rfl, rfl, rfl, hlow⟩ := heq
    have hlen : beNat [high, low] = len := by
      rw [hlow]
      exact beNat_beBytes (by unfold maxRecordPayload at hle; omega)
    show (_ ∧ _) ∧ ¬ (beNat [high, low] = 0 ∨ beNat [high, low] > maxRecordPayload) ∧
      beNat [high, low] = len
    rw [hlen]
    exact ⟨⟨rfl, rfl⟩, by omega, rfl⟩

/-- The header of a record passes the check. -/
theorem checkRecordHeader_record (record : Record) (tail : Bytes) (firstRecord : Bool) :
    checkRecordHeader ((record.encode ++ tail).take recordHeaderLen) firstRecord =
      .ok record.payload.length := by
  have htake : (record.encode ++ tail).take recordHeaderLen =
      contentTypeHandshake :: recordVersionMajor :: record.minor ::
        beBytes 2 record.payload.length := by
    show (contentTypeHandshake :: recordVersionMajor :: record.minor ::
      (vec 2 record.payload ++ tail)).take (2 + 3) = _
    simp only [List.take_succ_cons, vec, List.append_assoc]
    rw [List.take_left' (length_beBytes ..)]
  rw [htake, checkRecordHeader_eq_ok_iff (by simp [recordHeaderLen])]
  exact ⟨record.minor, rfl, List.length_pos_iff.mpr record.payload_ne, record.payload_le⟩

/-- A header that passes the check and its whole payload are a record. -/
theorem exists_record {rest : Bytes} {firstRecord : Bool} {len : Nat}
    (hshort : ¬ rest.length < recordHeaderLen)
    (hcheck : checkRecordHeader (rest.take recordHeaderLen) firstRecord = .ok len)
    (hlen : ¬ (rest.drop recordHeaderLen).length < len) :
    ∃ (record : Record) (tail : Bytes), rest = record.encode ++ tail := by
  have htake : (rest.take recordHeaderLen).length = recordHeaderLen := by
    rw [List.length_take]
    omega
  obtain ⟨minor, hheader, hpos, hle⟩ := (checkRecordHeader_eq_ok_iff htake).mp hcheck
  obtain ⟨payload, tail, hsplit, rfl⟩ :
      ∃ payload tail, rest.drop recordHeaderLen = payload ++ tail ∧ payload.length = len := by
    refine ⟨_, _, (List.take_append_drop len _).symm, ?_⟩
    rw [List.length_take]
    omega
  refine ⟨⟨minor, payload, List.length_pos_iff.mp hpos, hle⟩, tail, ?_⟩
  calc rest = rest.take recordHeaderLen ++ rest.drop recordHeaderLen :=
        (List.take_append_drop ..).symm
    _ = contentTypeHandshake :: recordVersionMajor :: minor :: (vec 2 payload ++ tail) := by
        rw [hheader, hsplit]
        simp [vec]

/-- Every byte string is some records, then something that is not a record. -/
theorem exists_records (rest : Bytes) :
    ∃ (records : List Record) (tail : Bytes), rest = wireOf records ++ tail ∧
      ∀ (record : Record) (tail' : Bytes), tail ≠ record.encode ++ tail' := by
  induction hn : rest.length using Nat.strong_induction_on generalizing rest with
  | _ n ih =>
    by_cases hrec : ∃ (record : Record) (tail : Bytes), rest = record.encode ++ tail
    · obtain ⟨record, tail, rfl⟩ := hrec
      have hlt : tail.length < n := by
        rw [← hn, List.length_append, Record.length_encode]
        unfold recordHeaderLen
        omega
      obtain ⟨records, tail', rfl, hno⟩ := ih tail.length hlt tail rfl
      exact ⟨record :: records, tail', by simp [wireOf], hno⟩
    · refine ⟨[], rest, rfl, ?_⟩
      intro record tail heq
      exact hrec ⟨record, tail, heq⟩

-- ---------------------------------------------------------------------------
-- One record of the walk
-- ---------------------------------------------------------------------------

/-- The walk over a record, and what it does with the message so far. -/
theorem assemble_record {limits : HelloLimits} {record : Record} {tail : Bytes}
    {count consumed : Nat} {seen : Bytes} :
    assemble limits (record.encode ++ tail) count consumed seen =
      if count = limits.maxRecords then .error .tooLarge
      else
        match declaredLen limits (seen ++ record.payload) with
        | .error e => .error e
        | .ok handshakeLen =>
          match handshakeLen.filter
              (handshakeHeaderLen + · ≤ (seen ++ record.payload).length) with
          | some len => .ok ⟨seen ++ record.payload, len, consumed + record.encode.length⟩
          | none => assemble limits tail (count + 1) (consumed + record.encode.length)
              (seen ++ record.payload) := by
  have hshort : ¬ (record.encode ++ tail).length < recordHeaderLen := by
    rw [List.length_append, Record.length_encode]
    omega
  have hdrop : (record.encode ++ tail).drop recordHeaderLen = record.payload ++ tail := by
    show (contentTypeHandshake :: recordVersionMajor :: record.minor ::
      (vec 2 record.payload ++ tail)).drop (2 + 3) = _
    simp only [List.drop_succ_cons, vec, List.append_assoc]
    rw [List.drop_left' (length_beBytes ..)]
  have hrest : (record.encode ++ tail).drop (recordHeaderLen + record.payload.length) = tail := by
    rw [← List.drop_drop, hdrop, List.drop_left]
  rw [assemble, dif_neg hshort]
  split
  · next e hcheck =>
    rw [checkRecordHeader_record] at hcheck
    cases hcheck
  · next len hcheck =>
    rw [checkRecordHeader_record] at hcheck
    injection hcheck with hlen
    subst hlen
    have hfull : ¬ (record.payload ++ tail).length < record.payload.length := by simp
    simp only [hdrop, hrest, List.take_left, if_neg hfull, Record.length_encode, Nat.add_assoc]

-- ---------------------------------------------------------------------------
-- Errors of the record layer
-- ---------------------------------------------------------------------------

/-- The header check fails with errors of the record layer. -/
theorem checkPartialRecordHeader_error {header : Bytes} {firstRecord : Bool} {error : ParseError}
    (h : checkPartialRecordHeader header firstRecord = .error error) : error.IsRecordLayer := by
  unfold checkPartialRecordHeader at h
  split at h
  · exact absurd h (by simp)
  · split_ifs at h with _ hfirst
    · injection h with h
      exact h ▸ trivial
    · injection h with h
      exact h ▸ trivial
    · split at h
      · exact absurd h (by simp)
      · exact rejectIf_eq_error_iff.mp h |>.2 ▸ trivial

/-- The check of a whole header fails with errors of the record layer. -/
theorem checkRecordHeader_error {header : Bytes} {firstRecord : Bool} {error : ParseError}
    (h : checkRecordHeader header firstRecord = .error error) : error.IsRecordLayer := by
  unfold checkRecordHeader at h
  rcases bind_eq_error_iff.mp h with hpartial | ⟨_, _, h⟩
  · exact checkPartialRecordHeader_error hpartial
  · rcases bind_eq_error_iff.mp h with hreject | ⟨_, _, h⟩
    · exact (rejectIf_eq_error_iff.mp hreject).2 ▸ trivial
    · exact absurd h (by simp [pure, Except.pure])

/-- The handshake header fails with errors of the record layer. -/
theorem declaredLen_error {limits : HelloLimits} {seen : Bytes} {error : ParseError}
    (h : declaredLen limits seen = .error error) : error.IsRecordLayer := by
  unfold declaredLen at h
  dsimp only at h
  split_ifs at h
  · injection h with h
    exact h ▸ trivial
  · injection h with h
    exact h ▸ trivial

/-- Where no record starts the walk ends with an error of the record layer. -/
theorem assemble_no_record {limits : HelloLimits} {rest : Bytes} {count consumed : Nat}
    {seen : Bytes} (hno : ∀ (record : Record) (tail : Bytes), rest ≠ record.encode ++ tail) :
    ∃ error, assemble limits rest count consumed seen = .error error ∧ error.IsRecordLayer := by
  rw [assemble]
  split
  · split
    · next e hcheck => exact ⟨e, rfl, checkPartialRecordHeader_error hcheck⟩
    · exact ⟨_, rfl, trivial⟩
  · next hshort =>
    split
    · next e hcheck => exact ⟨e, rfl, checkRecordHeader_error hcheck⟩
    · next len hcheck =>
      split
      · exact ⟨_, rfl, trivial⟩
      · dsimp only
        split
        · next e hdeclared => exact ⟨e, rfl, declaredLen_error hdeclared⟩
        · -- the payload is cut short: otherwise a record would start here
          rw [if_pos ?_]
          · exact ⟨_, rfl, trivial⟩
          · by_contra hlen
            obtain ⟨record, tail, heq⟩ := exists_record hshort hcheck hlen
            exact hno record tail heq

/-- The walk only fails with errors of the record layer. -/
theorem assemble_error {limits : HelloLimits} {rest seen : Bytes} {count consumed : Nat}
    {error : ParseError} (h : assemble limits rest count consumed seen = .error error) :
    error.IsRecordLayer := by
  obtain ⟨records, tail, rfl, hno⟩ := exists_records rest
  induction records generalizing count consumed seen with
  | nil =>
    obtain ⟨e, herr, hlayer⟩ := assemble_no_record hno
    rw [show wireOf [] ++ tail = tail from rfl, herr] at h
    injection h with h
    exact h ▸ hlayer
  | cons record records ih =>
    rw [show wireOf (record :: records) = record.encode ++ wireOf records from rfl,
      List.append_assoc, assemble_record] at h
    split at h
    · injection h with h
      exact h ▸ trivial
    · split at h
      · next e hdeclared =>
        injection h with h
        exact h ▸ declaredLen_error hdeclared
      · split at h
        · exact absurd h (by simp)
        · exact ih h

-- ---------------------------------------------------------------------------
-- The message header as it grows
-- ---------------------------------------------------------------------------

/-- A ClientHello handshake message. -/
def handshakeMessage (body : Bytes) : Bytes :=
  handshakeTypeClientHello :: vec 3 body

@[simp] theorem length_handshakeMessage (body : Bytes) :
    (handshakeMessage body).length = handshakeHeaderLen + body.length := by
  simp only [handshakeMessage, List.length_cons, length_vec, handshakeHeaderLen]
  omega

/-- The length is known exactly when the header is complete, small enough and a
ClientHello's. -/
theorem declaredLen_eq_some_iff {limits : HelloLimits} {seen : Bytes} {len : Nat} :
    declaredLen limits seen = .ok (some len) ↔
      len < 256 ^ 3 ∧ len ≤ limits.maxHandshakeBytes ∧
        handshakeTypeClientHello :: beBytes 3 len <+: seen := by
  unfold declaredLen
  by_cases hlen : seen.length < handshakeHeaderLen
  · -- the header is not there yet
    rw [if_pos hlen]
    refine ⟨fun h => ?_, fun h => ?_⟩
    · split_ifs at h
      exact absurd h (by simp)
    · have hle := h.2.2.length_le
      rw [List.length_cons, length_beBytes] at hle
      unfold handshakeHeaderLen at hlen
      omega
  · obtain ⟨type, high, mid, low, rest, rfl⟩ :
        ∃ type high mid low rest, seen = type :: high :: mid :: low :: rest := by
      match seen, hlen with
      | type :: high :: mid :: low :: rest, _ => exact ⟨type, high, mid, low, rest, rfl⟩
      | [_, _, _], hlen | [_, _], hlen | [_], hlen | [], hlen =>
        exact absurd (by simp [handshakeHeaderLen]) hlen
    have hbound : beNat [high, mid, low] < 256 ^ 3 := beNat_lt [high, mid, low]
    have hspelled : len < 256 ^ 3 →
        (handshakeTypeClientHello :: beBytes 3 len <+: type :: high :: mid :: low :: rest ↔
          type = handshakeTypeClientHello ∧ beNat [high, mid, low] = len) := by
      intro hn
      rw [List.prefix_iff_eq_take, List.length_cons, length_beBytes,
        ← eq_beBytes_iff (k := 3) rfl hn]
      show handshakeTypeClientHello :: beBytes 3 len = [type, high, mid, low] ↔ _
      rw [List.cons_eq_cons, eq_comm (a := type), eq_comm (b := beBytes 3 len)]
    rw [if_neg hlen]
    show (if _ then _ else if beNat [high, mid, low] > limits.maxHandshakeBytes then _ else _) =
      _ ↔ _
    refine ⟨fun h => ?_, fun h => ?_⟩
    · split_ifs at h with htype hmax
      injection h with h
      injection h with h
      change beNat [high, mid, low] = len at h
      subst h
      refine ⟨hbound, by omega, (hspelled hbound).mpr ⟨?_, rfl⟩⟩
      simpa using htype
    · obtain ⟨hn, hle, hpre⟩ := h
      obtain ⟨rfl, rfl⟩ := (hspelled hn).mp hpre
      rw [if_neg (by simp), if_neg (by omega)]
      rfl

/-- Once a length is declared, every shorter prefix declared it too, or did
not have the header yet. -/
theorem declaredLen_prefix {limits : HelloLimits} {seen more : Bytes} {len : Nat}
    (h : declaredLen limits (seen ++ more) = .ok (some len)) :
    declaredLen limits seen =
      .ok (if seen.length < handshakeHeaderLen then none else some len) := by
  obtain ⟨hn, hle, hpre⟩ := declaredLen_eq_some_iff.mp h
  by_cases hlen : seen.length < handshakeHeaderLen
  · rw [if_pos hlen]
    unfold declaredLen
    rw [if_neg ?_, if_pos hlen]
    -- the first byte is already that of the message
    intro hbad
    obtain ⟨byte, seen, rfl⟩ := List.exists_cons_of_ne_nil hbad.1
    rw [List.cons_append, List.cons_prefix_cons] at hpre
    exact hbad.2 (congrArg some hpre.1.symm)
  · rw [if_neg hlen, declaredLen_eq_some_iff]
    refine ⟨hn, hle, List.prefix_of_prefix_length_le hpre (List.prefix_append ..) ?_⟩
    rw [List.length_cons, length_beBytes]
    unfold handshakeHeaderLen at hlen
    omega

/-- What a wire prefix carries: `records` frame the message with `body`, and
the last of them is needed for it. -/
structure Carries (limits : HelloLimits) (records : List Record) (seen body : Bytes) : Prop where
  records_ne  : records ≠ []
  body_lt     : body.length < 256 ^ 3
  body_le     : body.length ≤ limits.maxHandshakeBytes
  message     : handshakeMessage body <+: seen ++ payloadsOf records
  last_needed : (seen ++ payloadsOf records.dropLast).length < (handshakeMessage body).length

/-- The header of a message within the limit declares its length. -/
theorem declaredLen_of_message {limits : HelloLimits} {seen body : Bytes}
    (hlt : body.length < 256 ^ 3) (hle : body.length ≤ limits.maxHandshakeBytes)
    (hmsg : handshakeMessage body <+: seen) :
    declaredLen limits seen = .ok (some body.length) := by
  refine declaredLen_eq_some_iff.mpr ⟨hlt, hle, List.IsPrefix.trans ?_ hmsg⟩
  rw [handshakeMessage, vec, List.cons_prefix_cons]
  exact ⟨rfl, List.prefix_append ..⟩

/-- A complete message is one whose declared length is there. -/
theorem exists_message {limits : HelloLimits} {seen : Bytes} {len : Nat}
    (hdeclared : declaredLen limits seen = .ok (some len))
    (hcomplete : handshakeHeaderLen + len ≤ seen.length) :
    ∃ body, body.length = len ∧ len < 256 ^ 3 ∧ len ≤ limits.maxHandshakeBytes ∧
      handshakeMessage body <+: seen := by
  obtain ⟨hlt, hle, rest, rfl⟩ := declaredLen_eq_some_iff.mp hdeclared
  have hrest : len ≤ rest.length := by
    rw [List.length_append, List.length_cons, length_beBytes] at hcomplete
    unfold handshakeHeaderLen at hcomplete
    omega
  have hbody : (rest.take len).length = len := by
    rw [List.length_take]
    omega
  refine ⟨rest.take len, hbody, hlt, hle, rest.drop len, ?_⟩
  rw [handshakeMessage, vec, hbody]
  simp

-- ---------------------------------------------------------------------------
-- The walk over records
-- ---------------------------------------------------------------------------

theorem payloadsOf_cons (record : Record) (records : List Record) :
    payloadsOf (record :: records) = record.payload ++ payloadsOf records := rfl

theorem wireOf_cons (record : Record) (records : List Record) :
    wireOf (record :: records) = record.encode ++ wireOf records := rfl

/-- The walk stops exactly behind the record that completes the message. -/
theorem assemble_carries {limits : HelloLimits} {records : List Record} {tail seen body : Bytes}
    {count consumed : Nat} (hcarries : Carries limits records seen body)
    (hcount : count + records.length ≤ limits.maxRecords) :
    assemble limits (wireOf records ++ tail) count consumed seen =
      .ok ⟨seen ++ payloadsOf records, body.length, consumed + (wireOf records).length⟩ := by
  obtain ⟨hne, hlt, hle, hmsg, hlast⟩ := hcarries
  induction records generalizing count consumed seen with
  | nil => exact absurd rfl hne
  | cons record records ih =>
    rw [List.length_cons] at hcount
    have hroom : ¬ count = limits.maxRecords := by omega
    rw [wireOf_cons, List.append_assoc, assemble_record, if_neg hroom]
    rw [payloadsOf_cons, ← List.append_assoc] at hmsg
    cases records with
    | nil =>
      -- the last record: the message is complete
      have hmsg' : handshakeMessage body <+: seen ++ record.payload := by
        simpa [payloadsOf] using hmsg
      have hfull : handshakeHeaderLen + body.length ≤ (seen ++ record.payload).length := by
        have := hmsg'.length_le
        rwa [length_handshakeMessage] at this
      rw [declaredLen_of_message hlt hle hmsg']
      simp only [Option.filter_some, decide_eq_true hfull, if_true]
      simp [payloadsOf, wireOf]
    | cons next records =>
      rw [List.dropLast_cons_cons, payloadsOf_cons, ← List.append_assoc] at hlast
      -- not the last one: what is there is shorter than the message
      have hshort : ¬ handshakeHeaderLen + body.length ≤ (seen ++ record.payload).length := by
        rw [length_handshakeMessage, List.length_append] at hlast
        omega
      have hdeclared := declaredLen_prefix (declaredLen_of_message hlt hle hmsg)
      have hpending : Option.filter (handshakeHeaderLen + · ≤ (seen ++ record.payload).length)
          (if (seen ++ record.payload).length < handshakeHeaderLen then none
            else some body.length) = none := by
        split_ifs
        · rfl
        · simp only [Option.filter_some, decide_eq_false hshort, Bool.false_eq_true, if_false]
      rw [hdeclared]
      simp only [hpending]
      rw [ih (by omega) (List.cons_ne_nil _ _) hmsg hlast]
      simp only [payloadsOf_cons, wireOf_cons, List.length_append, List.append_assoc,
        Nat.add_assoc]

/-- One more record in front of those that carry the message. -/
theorem Carries.cons {limits : HelloLimits} {record : Record} {records : List Record}
    {seen body : Bytes} (h : Carries limits records (seen ++ record.payload) body) :
    Carries limits (record :: records) seen body where
  records_ne  := List.cons_ne_nil _ _
  body_lt     := h.body_lt
  body_le     := h.body_le
  message     := by
    rw [payloadsOf_cons, ← List.append_assoc]
    exact h.message
  last_needed := by
    rw [List.dropLast_cons_of_ne_nil h.records_ne, payloadsOf_cons, ← List.append_assoc]
    exact h.last_needed

/-- The payload bytes `seen` do not hold a complete message yet. -/
def Pending (limits : HelloLimits) (seen : Bytes) : Prop :=
  ∀ len, declaredLen limits seen = .ok (some len) → seen.length < handshakeHeaderLen + len

theorem pending_nil (limits : HelloLimits) : Pending limits [] := by
  intro len _
  unfold handshakeHeaderLen
  show 0 < _
  omega

/-- A walk that succeeds has seen records that carry a message. -/
theorem carries_of_assemble {limits : HelloLimits} {rest seen : Bytes} {count consumed : Nat}
    {found : Assembled} (hcount : count ≤ limits.maxRecords) (hpending : Pending limits seen)
    (h : assemble limits rest count consumed seen = .ok found) :
    ∃ records body, Carries limits records seen body ∧ wireOf records <+: rest ∧
      count + records.length ≤ limits.maxRecords := by
  obtain ⟨records, tail, rfl, hno⟩ := exists_records rest
  induction records generalizing count consumed seen with
  | nil =>
    obtain ⟨e, herr, _⟩ := assemble_no_record hno
    rw [show wireOf [] ++ tail = tail from rfl, herr] at h
    exact absurd h (by simp)
  | cons record records ih =>
    rw [wireOf_cons, List.append_assoc, assemble_record] at h
    split at h
    · exact absurd h (by simp)
    · next hroom =>
      split at h
      · exact absurd h (by simp)
      · next handshakeLen hdeclared =>
        split at h
        · -- this record completes the message
          next len hfilter =>
          obtain ⟨rfl, hfull⟩ := Option.filter_eq_some_iff.mp hfilter
          obtain ⟨body, rfl, hlt, hle, hmsg⟩ :=
            exists_message hdeclared (of_decide_eq_true hfull)
          refine ⟨[record], body, ⟨by simp, hlt, hle, ?_, ?_⟩, ?_, ?_⟩
          · simpa [payloadsOf] using hmsg
          · have hbefore := declaredLen_prefix hdeclared
            rw [length_handshakeMessage]
            show (seen ++ []).length < _
            rw [List.append_nil]
            by_cases hlen : seen.length < handshakeHeaderLen
            · omega
            · rw [if_neg hlen] at hbefore
              exact hpending _ hbefore
          · rw [wireOf_cons, wireOf_cons, List.append_assoc]
            exact (List.prefix_append_right_inj _).mpr (List.nil_prefix)
          · rw [List.length_singleton]
            omega
        · -- the message goes on in the next record
          next hfilter =>
          have hpending' : Pending limits (seen ++ record.payload) := by
            intro len hlen
            rw [hdeclared] at hlen
            injection hlen with hlen
            subst hlen
            simpa using hfilter
          obtain ⟨records', body, hcarries, hwire, hlen⟩ := ih (by omega) hpending' h
          refine ⟨record :: records', body, hcarries.cons, ?_, ?_⟩
          · rw [wireOf_cons, wireOf_cons, List.append_assoc]
            exact (List.prefix_append_right_inj _).mpr hwire
          · rw [List.length_cons]
            omega

end SniRouter
