import SniRouter.Protocol.Stability

/-!
# SniRouter — hostile input is rejected at its first visible byte

A buffer is some complete records, then the beginning of one more. Once the
records leave the message pending, the walk reaches that beginning with their
payloads in hand (`assemble_past_records`), and each check fires on the part
that has arrived:

* `assemble_bad_header` — the bytes of the record header, one by one;
* `assemble_visible_error` — the message header, from the payloads of all
  records and the part of the last one that is there.

`parseClientHello_rejects_early` collects the verdicts.
-/

namespace SniRouter

open Framing

-- ---------------------------------------------------------------------------
-- Past the complete records
-- ---------------------------------------------------------------------------

/-- The message header never asks for more by itself. -/
theorem declaredLen_ne_incomplete {limits : HelloLimits} {seen : Bytes} :
    declaredLen limits seen ≠ .error .incomplete := by
  intro h
  unfold declaredLen at h
  dsimp only at h
  split_ifs at h <;> exact absurd h (by simp)

/-- Records that leave the message pending do not stop the walk. -/
theorem assemble_past_records {limits : HelloLimits} {records : List Record} {seen : Bytes}
    {count consumed : Nat}
    (hpending : assemble limits (wireOf records) count consumed seen = .error .incomplete)
    (rest : Bytes) :
    assemble limits (wireOf records ++ rest) count consumed seen =
      assemble limits rest (count + records.length) (consumed + (wireOf records).length)
        (seen ++ payloadsOf records) := by
  induction records generalizing count consumed seen with
  | nil => simp [wireOf, payloadsOf]
  | cons record records ih =>
    rw [wireOf_cons, assemble_record] at hpending
    rw [wireOf_cons, List.append_assoc, assemble_record]
    split at hpending
    · -- a full layout is not pending
      exact absurd hpending (by simp)
    · next hroom =>
      rw [if_neg hroom]
      split at hpending
      · next e hdeclared =>
        injection hpending with he
        exact absurd (he ▸ hdeclared) declaredLen_ne_incomplete
      · split at hpending
        · exact absurd hpending (by simp)
        · rw [ih hpending, List.length_cons, List.length_append, payloadsOf_cons]
          simp only [List.append_assoc, Nat.add_assoc, Nat.add_comm 1]

/-- The parser waits exactly when the walk does. -/
theorem parseClientHello_incomplete_iff {buf : Bytes} {limits : HelloLimits} :
    parseClientHello buf limits = .error .incomplete ↔
      assemble limits buf 0 0 [] = .error .incomplete := by
  rw [parseClientHello_eq]
  refine ⟨fun h => ?_, fun h => by rw [h]; rfl⟩
  rcases bind_eq_error_iff.mp h with h | ⟨found, _, h⟩
  · exact h
  · -- the body parser has no such verdict
    rcases bind_eq_error_iff.mp h with h | ⟨sni, _, h⟩
    · exact absurd trivial (parseClientHelloBody_errors _ _ h)
    · exact absurd h (by simp [pure, Except.pure])

/-- A verdict of the walk on what follows pending records is that of the
parser. -/
theorem parseClientHello_past_records {limits : HelloLimits} {records : List Record}
    {rest : Bytes} {error : ParseError}
    (hpending : parseClientHello (wireOf records) limits = .error .incomplete)
    (hrest : assemble limits rest records.length (wireOf records).length (payloadsOf records) =
      .error error) :
    parseClientHello (wireOf records ++ rest) limits = .error error := by
  have hpast := assemble_past_records (parseClientHello_incomplete_iff.mp hpending) rest
  rw [Nat.zero_add, Nat.zero_add, List.nil_append, hrest] at hpast
  rw [parseClientHello_eq, hpast]
  rfl

-- ---------------------------------------------------------------------------
-- The record that is still arriving
-- ---------------------------------------------------------------------------

/-- The header of a handshake record of `len` payload bytes. -/
def recordHeader (minor : UInt8) (len : Nat) : Bytes :=
  contentTypeHandshake :: recordVersionMajor :: minor :: beBytes 2 len

@[simp] theorem length_recordHeader (minor : UInt8) (len : Nat) :
    (recordHeader minor len).length = recordHeaderLen := by
  simp [recordHeader, recordHeaderLen]

/-- The message header is checked on the payload bytes that have arrived. -/
theorem assemble_visible_error {limits : HelloLimits} {minor : UInt8} {len count consumed : Nat}
    {payload seen : Bytes} {error : ParseError} (hpos : 1 ≤ len) (hle : len ≤ maxRecordPayload)
    (hroom : count < limits.maxRecords)
    (hdeclared : declaredLen limits (seen ++ payload.take len) = .error error) :
    assemble limits (recordHeader minor len ++ payload) count consumed seen = .error error := by
  have hlong : ¬ (recordHeader minor len ++ payload).length < recordHeaderLen := by
    rw [List.length_append, length_recordHeader]
    omega
  have hheader : (recordHeader minor len ++ payload).take recordHeaderLen =
      recordHeader minor len :=
    List.take_left' (length_recordHeader minor len)
  have hpayload : (recordHeader minor len ++ payload).drop recordHeaderLen = payload :=
    List.drop_left' (length_recordHeader minor len)
  have hcheck : checkRecordHeader (recordHeader minor len) (count == 0) = .ok len :=
    (checkRecordHeader_eq_ok_iff (length_recordHeader minor len)).mpr ⟨minor, rfl, hpos, hle⟩
  rw [assemble, dif_neg hlong, hheader, hcheck]
  dsimp only
  rw [if_neg (by omega), hpayload, hdeclared]

/-- A first byte that is not that of a ClientHello is rejected, alone or not. -/
theorem declaredLen_notClientHello {limits : HelloLimits} {seen : Bytes} {type : UInt8}
    (hfirst : seen.head? = some type) (htype : type ≠ handshakeTypeClientHello) :
    declaredLen limits seen = .error .notClientHello := by
  have hbad : seen ≠ [] ∧ seen.head? ≠ some handshakeTypeClientHello := by
    refine ⟨?_, ?_⟩
    · intro hnil
      rw [hnil] at hfirst
      exact absurd hfirst (by simp)
    · rw [hfirst]
      simpa using htype
  exact if_pos hbad

/-- A declared length above the limit is rejected from its four bytes. -/
theorem declaredLen_tooLarge {limits : HelloLimits} {seen : Bytes} {high mid low : UInt8}
    (hheader : [handshakeTypeClientHello, high, mid, low] <+: seen)
    (hlen : limits.maxHandshakeBytes < beNat [high, mid, low]) :
    declaredLen limits seen = .error .tooLarge := by
  obtain ⟨more, rfl⟩ := hheader
  unfold declaredLen
  rw [if_neg (by simp), if_neg (by simp [handshakeHeaderLen])]
  exact if_pos hlen

-- ---------------------------------------------------------------------------
-- The verdicts
-- ---------------------------------------------------------------------------

/-- The first byte of the next record. -/
theorem checkPartialRecordHeader_type {type : UInt8} {more : Bytes} (firstRecord : Bool)
    (htype : type ≠ contentTypeHandshake) :
    checkPartialRecordHeader (type :: more) firstRecord =
      .error (if firstRecord then .notHandshake else .invalidRecord) := by
  simp [checkPartialRecordHeader, htype]

/-- The second one. -/
theorem checkPartialRecordHeader_major {major : UInt8} {more : Bytes} (firstRecord : Bool)
    (hmajor : major ≠ recordVersionMajor) :
    checkPartialRecordHeader (contentTypeHandshake :: major :: more) firstRecord =
      .error .invalidRecord := by
  simp [checkPartialRecordHeader, rejectIf, hmajor]

/-- **Hostile input is rejected at the earliest visible byte.** After any
complete records that leave the message pending, the type and the version of
the next record are rejected as soon as their byte is there; behind a valid
header, so are the message type and a declared length above the limit, however
their bytes are spread over the records. -/
theorem parseClientHello_rejects_early (limits : HelloLimits) (records : List Record)
    (hroom : records.length < limits.maxRecords)
    (hpending : parseClientHello (wireOf records) limits = .error .incomplete) :
    (∀ type more, type ≠ contentTypeHandshake →
      parseClientHello (wireOf records ++ type :: more) limits =
        .error (if records = [] then .notHandshake else .invalidRecord)) ∧
    (∀ major more, major ≠ recordVersionMajor →
      parseClientHello (wireOf records ++ contentTypeHandshake :: major :: more) limits =
        .error .invalidRecord) ∧
    ∀ minor len payload, 1 ≤ len → len ≤ maxRecordPayload →
      (∀ type, (payloadsOf records ++ payload.take len).head? = some type →
        type ≠ handshakeTypeClientHello →
        parseClientHello (wireOf records ++ (recordHeader minor len ++ payload)) limits =
          .error .notClientHello) ∧
      ∀ high mid low,
        [handshakeTypeClientHello, high, mid, low] <+: payloadsOf records ++ payload.take len →
        limits.maxHandshakeBytes < beNat [high, mid, low] →
        parseClientHello (wireOf records ++ (recordHeader minor len ++ payload)) limits =
          .error .tooLarge := by
  have hfirst : (records.length == 0) = decide (records = []) := by
    rw [Bool.eq_iff_iff, beq_iff_eq, decide_eq_true_iff, List.length_eq_zero_iff]
  refine ⟨?_, ?_, ?_⟩
  · intro type more htype
    refine parseClientHello_past_records hpending (assemble_bad_header ?_)
    rw [recordHeaderLen, List.take_succ_cons, checkPartialRecordHeader_type _ htype, hfirst]
    simp only [decide_eq_true_iff]
  · intro major more hmajor
    refine parseClientHello_past_records hpending (assemble_bad_header ?_)
    rw [recordHeaderLen, List.take_succ_cons, List.take_succ_cons]
    exact checkPartialRecordHeader_major _ hmajor
  · intro minor len payload hpos hle
    refine ⟨?_, ?_⟩
    · intro type hhead htype
      exact parseClientHello_past_records hpending
        (assemble_visible_error hpos hle hroom (declaredLen_notClientHello hhead htype))
    · intro high mid low hheader hlen
      exact parseClientHello_past_records hpending
        (assemble_visible_error hpos hle hroom (declaredLen_tooLarge hheader hlen))

/-- A first record with the type byte alone, then a length above the limit in
the part of the second one that is there. -/
theorem parseClientHello_rejects_early_at :
    parseClientHello ([0x16, 0x03, 0x01, 0x00, 0x01, 0x01] ++
      (recordHeader 0x03 100 ++ [0xff, 0xff, 0xff])) .default = .error .tooLarge := by
  have hpending : parseClientHello
      (wireOf [⟨0x01, [handshakeTypeClientHello], by simp, by simp [maxRecordPayload]⟩]) .default =
        .error .incomplete := by
    rw [parseClientHello_incomplete_iff, wireOf_cons, assemble_record]
    show assemble .default [] 1 _ _ = _
    rw [assemble]
    rfl
  exact ((parseClientHello_rejects_early .default
    [⟨0x01, [handshakeTypeClientHello], by simp, by simp [maxRecordPayload]⟩] (by decide)
    hpending).2.2 0x03 100 [0xff, 0xff, 0xff] (by decide) (by decide)).2 0xff 0xff 0xff
    (List.prefix_rfl) (by decide)

end SniRouter
