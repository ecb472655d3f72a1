import SniRouter.Protocol.Reassembly

/-!
# SniRouter — the record walk of the code

`scanLoop` works on the buffer with an offset, payload ranges and the four
header bytes; `assemble` works on the payload bytes. The two agree
(`scanLoop_assemble`), so that a ClientHello is recovered exactly, whatever its
fragmentation (`parseClientHello_reassembles`).
-/

namespace SniRouter

open Framing

-- ---------------------------------------------------------------------------
-- The walk of the code
-- ---------------------------------------------------------------------------

/-- The header bytes collected so far are the first of `seen`. -/
structure HandshakeHeader.Tracks (header : HandshakeHeader) (seen : Bytes) : Prop where
  known_eq : header.known = min handshakeHeaderLen seen.length
  bytes_eq : header.bytes.toList.take header.known = seen.take handshakeHeaderLen

/-- The empty header tracks nothing. -/
theorem HandshakeHeader.tracks_default : HandshakeHeader.default.Tracks [] := ⟨rfl, rfl⟩

/-- Noting bytes that fit appends them. -/
theorem HandshakeHeader.foldl_note {bytes : Bytes} {header : HandshakeHeader}
    (hfit : header.known + bytes.length ≤ handshakeHeaderLen) :
    (bytes.foldl note header).known = header.known + bytes.length ∧
      (bytes.foldl note header).bytes.toList.take (bytes.foldl note header).known =
        header.bytes.toList.take header.known ++ bytes := by
  induction bytes generalizing header with
  | nil => simp
  | cons byte bytes ih =>
    rw [List.length_cons] at hfit
    have hlen : header.known < header.bytes.toList.length := by
      rw [Vector.length_toList]
      omega
    have hfit' : (header.note byte).known + bytes.length ≤ handshakeHeaderLen := by
      show header.known + 1 + bytes.length ≤ _
      omega
    have hnote : (header.note byte).bytes.toList.take (header.note byte).known =
        header.bytes.toList.take header.known ++ [byte] := by
      show (header.bytes.setIfInBounds header.known byte).toList.take (header.known + 1) = _
      rw [Vector.toList_setIfInBounds, List.take_add_one, List.take_set_of_le (Nat.le_refl _),
        List.getElem?_set_self hlen]
      rfl
    obtain ⟨hknown, hbytes⟩ := ih hfit'
    rw [List.foldl_cons, hbytes, hknown, hnote, List.append_assoc, List.length_cons]
    refine ⟨?_, rfl⟩
    show header.known + 1 + bytes.length = _
    omega

/-- Three bytes shifted together are their big-endian number. -/
theorem shifts_eq_beNat (high mid low : UInt8) :
    high.toNat <<< 16 ||| mid.toNat <<< 8 ||| low.toNat = beNat [high, mid, low] := by
  have hmid := mid.toNat_lt
  have hlow := low.toNat_lt
  have hinner : mid.toNat <<< 8 < 2 ^ 16 := by
    rw [Nat.shiftLeft_eq]
    omega
  have hsum : high.toNat <<< 16 + mid.toNat <<< 8 = (high.toNat * 256 + mid.toNat) <<< 8 := by
    simp only [Nat.shiftLeft_eq]
    omega
  rw [← Nat.shiftLeft_add_eq_or_of_lt hinner, hsum, ← Nat.shiftLeft_add_eq_or_of_lt hlow,
    Nat.shiftLeft_eq]
  simp [beNat]

/-- The first byte collected is the first byte seen. -/
theorem HandshakeHeader.Tracks.first {header : HandshakeHeader} {byte : UInt8} {seen : Bytes}
    (htracks : header.Tracks (byte :: seen)) : header.bytes[0] = byte := by
  have hknown := htracks.known_eq
  rw [List.length_cons] at hknown
  have hpos : header.known ≠ 0 := by
    unfold handshakeHeaderLen at hknown
    omega
  have hhead := congrArg List.head? htracks.bytes_eq
  rw [List.head?_take, if_neg hpos, List.head?_eq_getElem?] at hhead
  have hbyte : header.bytes.toList[0]? = some header.bytes[0] := by
    rw [← Vector.getElem_toList (by rw [Vector.length_toList]; decide)]
    exact List.getElem?_eq_getElem _
  rw [hbyte] at hhead
  injection hhead with hhead

/-- A full header spells the length that the bytes seen declare. -/
theorem HandshakeHeader.Tracks.len_eq {header : HandshakeHeader} {seen : Bytes}
    (htracks : header.Tracks seen) (hfull : ¬ header.known < handshakeHeaderLen) :
    header.bytes[1].toNat <<< 16 ||| header.bytes[2].toNat <<< 8 ||| header.bytes[3].toNat =
      beNat ((seen.take handshakeHeaderLen).drop 1) := by
  have hbytes := htracks.bytes_eq
  rw [List.take_of_length_le (by rw [Vector.length_toList]; omega)] at hbytes
  have hlist : header.bytes.toList =
      [header.bytes[0], header.bytes[1], header.bytes[2], header.bytes[3]] := by
    refine List.ext_getElem (Vector.length_toList ..) ?_
    intro i hi hi'
    match i, hi' with
    | 0, _ | 1, _ | 2, _ | 3, _ => simp
  rw [shifts_eq_beNat, ← hbytes, hlist]
  rfl

/-- `observe` reports what the payload bytes seen so far declare. -/
theorem HandshakeHeader.observe_eq {header : HandshakeHeader} {seen : Bytes} (payload : Bytes)
    (limits : HelloLimits) (htracks : header.Tracks seen) :
    ∃ header' : HandshakeHeader, header'.Tracks (seen ++ payload) ∧
      header.observe payload limits =
        (declaredLen limits (seen ++ payload)).map fun len => (len, header') := by
  obtain ⟨hknown, hbytes⟩ := htracks
  have hfit : header.known + (payload.take (handshakeHeaderLen - header.known)).length ≤
      handshakeHeaderLen := by
    rw [List.length_take]
    omega
  obtain ⟨hknown', hbytes'⟩ := foldl_note hfit
  have htracks' : ((payload.take (handshakeHeaderLen - header.known)).foldl note header).Tracks
      (seen ++ payload) := by
    refine ⟨?_, ?_⟩
    · rw [hknown', List.length_take, List.length_append]
      omega
    · rw [hbytes', hbytes, List.take_append]
      congr 2
      omega
  refine ⟨_, htracks', ?_⟩
  unfold observe declaredLen
  generalize (payload.take (handshakeHeaderLen - header.known)).foldl note header = now at htracks'
  generalize seen ++ payload = all at htracks'
  have hnow := htracks'.known_eq
  have htype : (now.known ≥ 1 ∧ now.bytes[0] ≠ handshakeTypeClientHello) ↔
      (all ≠ [] ∧ all.head? ≠ some handshakeTypeClientHello) := by
    cases all with
    | nil => simp [show now.known = 0 from hnow]
    | cons byte rest =>
      have hone : now.known ≥ 1 := by
        rw [hnow, List.length_cons]
        unfold handshakeHeaderLen
        omega
      simp [hone, htracks'.first]
  have hshort : now.known < handshakeHeaderLen ↔ all.length < handshakeHeaderLen := by omega
  dsimp only
  by_cases hbad : all ≠ [] ∧ all.head? ≠ some handshakeTypeClientHello
  · rw [if_pos hbad, if_pos (htype.mpr hbad)]
    rfl
  · rw [if_neg hbad, if_neg (mt htype.mp hbad)]
    by_cases hlen : all.length < handshakeHeaderLen
    · rw [if_pos hlen, if_pos (hshort.mpr hlen)]
      rfl
    · rw [if_neg hlen, if_neg (mt hshort.mp hlen), htracks'.len_eq (mt hshort.mp hlen)]
      split_ifs <;> rfl

-- ---------------------------------------------------------------------------
-- Payload ranges
-- ---------------------------------------------------------------------------

/-- The bytes at some ranges of the buffer, joined. -/
def bytesAt (buf : Bytes) (ranges : List (Nat × Nat)) : Bytes :=
  ranges.flatMap fun range => slice buf range.1 range.2

/-- Ranges within the buffer. -/
def RangesIn (buf : Bytes) (ranges : List (Nat × Nat)) : Prop :=
  ∀ range ∈ ranges, range.1 ≤ range.2 ∧ range.2 ≤ buf.length

theorem bytesAt_append (buf : Bytes) (ranges more : List (Nat × Nat)) :
    bytesAt buf (ranges ++ more) = bytesAt buf ranges ++ bytesAt buf more :=
  List.flatMap_append

/-- The copy takes the first `messageLen` bytes of the joined ranges. -/
theorem copyFragments_eq {buf : Bytes} {messageLen : Nat} {ranges : List (Nat × Nat)}
    (hin : RangesIn buf ranges) :
    copyFragments buf messageLen ranges = (bytesAt buf ranges).take messageLen := by
  -- with `message` copied already, the rest of the budget goes to the ranges left
  have hgen : ∀ message : Bytes,
      ranges.foldl (fun message fragment =>
        let take := min (messageLen - message.length) (fragment.2 - fragment.1)
        message ++ slice buf fragment.1 (fragment.1 + take)) message =
      message ++ (bytesAt buf ranges).take (messageLen - message.length) := by
    induction ranges with
    | nil => simp [bytesAt]
    | cons range ranges ih =>
      intro message
      obtain ⟨hle, hbuf⟩ := hin range (List.mem_cons_self ..)
      have hlen : (slice buf range.1 range.2).length = range.2 - range.1 := by
        rw [length_slice]
        omega
      have hcut : slice buf range.1
          (range.1 + min (messageLen - message.length) (range.2 - range.1)) =
          (slice buf range.1 range.2).take (messageLen - message.length) := by
        have hend : range.2 = range.1 + (range.2 - range.1) := by omega
        rw [slice_eq_take_drop, hend, slice_eq_take_drop, List.take_take, Nat.add_sub_cancel_left]
      rw [List.foldl_cons, ih fun r hr => hin r (List.mem_cons_of_mem _ hr)]
      dsimp only
      rw [hcut, List.append_assoc]
      congr 1
      show _ = List.take _ (slice buf range.1 range.2 ++ bytesAt buf ranges)
      rw [List.take_append, List.length_append, List.length_take]
      congr 2
      omega
  exact hgen []

-- ---------------------------------------------------------------------------
-- The loop
-- ---------------------------------------------------------------------------

/-- The state of the loop of the code stands for `seen`. -/
structure Walked (buf : Bytes) (offset : Nat) (payloads : Payloads) (header : HandshakeHeader)
    (payloadTotal : Nat) (seen : Bytes) : Prop where
  first    : offset = 0 ↔ payloads.len = 0
  tracks   : header.Tracks seen
  total    : payloadTotal = seen.length
  ranges   : RangesIn buf payloads.asSlice
  bytes_eq : bytesAt buf payloads.asSlice = seen

/-- The layout the code found stands for `found`. -/
structure LayoutOf (buf : Bytes) (layout : RecordLayout) (found : Assembled) : Prop where
  len_eq      : layout.handshakeLen = found.handshakeLen
  consumed_eq : layout.consumed = found.consumed
  complete    : handshakeHeaderLen + found.handshakeLen ≤ found.seen.length
  ranges      : RangesIn buf layout.payloads.asSlice
  bytes_eq    : bytesAt buf layout.payloads.asSlice = found.seen

/-- Two results agree: the same error, or a layout for what was found. -/
def ScanAgrees (buf : Bytes) :
    Except ParseError RecordLayout → Except ParseError Assembled → Prop
  | .error e, .error e' => e = e'
  | .ok layout, .ok found => LayoutOf buf layout found
  | _, _ => False

theorem walked_start (buf : Bytes) :
    Walked buf 0 (SmallVec.new (0, 0)) .default 0 [] where
  first    := ⟨fun _ => rfl, fun _ => rfl⟩
  tracks   := HandshakeHeader.tracks_default
  total    := rfl
  ranges   := by
    intro range hmem
    exact absurd hmem (List.not_mem_nil)
  bytes_eq := rfl

/-- A complete record keeps the correspondence. -/
theorem Walked.step {buf : Bytes} {offset payloadTotal len : Nat} {payloads : Payloads}
    {header header' : HandshakeHeader} {seen : Bytes}
    (hwalked : Walked buf offset payloads header payloadTotal seen)
    (hpos : 1 ≤ len) (hfull : ¬ ((buf.drop offset).drop recordHeaderLen).length < len)
    (htracks : header'.Tracks (seen ++ ((buf.drop offset).drop recordHeaderLen).take len)) :
    Walked buf (offset + recordHeaderLen + len)
      (payloads.push (offset + recordHeaderLen, offset + recordHeaderLen + len)) header'
      (payloadTotal + len) (seen ++ ((buf.drop offset).drop recordHeaderLen).take len) := by
  have hlen : (((buf.drop offset).drop recordHeaderLen).take len).length = len := by
    rw [List.length_take]
    omega
  refine ⟨?_, htracks, ?_, ?_, ?_⟩
  · rw [SmallVec.len_push]
    unfold recordHeaderLen
    omega
  · rw [List.length_append, hlen, hwalked.total]
  · intro range hmem
    rw [SmallVec.asSlice_push, List.mem_append, List.mem_singleton] at hmem
    rcases hmem with hmem | rfl
    · exact hwalked.ranges range hmem
    · rw [List.length_drop, List.length_drop] at hfull
      refine ⟨by omega, ?_⟩
      show offset + recordHeaderLen + len ≤ buf.length
      omega
  · rw [SmallVec.asSlice_push, bytesAt_append, hwalked.bytes_eq]
    congr 1
    show slice buf (offset + recordHeaderLen) (offset + recordHeaderLen + len) ++ [] = _
    rw [List.append_nil, slice_eq_take_drop, List.drop_drop]

/-- The walk of the code agrees with `assemble` on what is left. -/
theorem scanLoop_assemble {buf : Bytes} {limits : HelloLimits} {offset payloadTotal : Nat}
    {payloads : Payloads} {header : HandshakeHeader} {seen : Bytes}
    (hwalked : Walked buf offset payloads header payloadTotal seen) :
    ScanAgrees buf (scanLoop buf limits offset payloads header payloadTotal)
      (assemble limits (buf.drop offset) payloads.len offset seen) := by
  induction hn : buf.length - offset using Nat.strong_induction_on
    generalizing offset payloads header payloadTotal seen with
  | _ n ih =>
    have hfirst : (offset == 0) = (payloads.len == 0) := by
      rw [Bool.eq_iff_iff, beq_iff_eq, beq_iff_eq]
      exact hwalked.first
    rw [assemble]
    by_cases hshort : (buf.drop offset).length < recordHeaderLen
    · rw [scanLoop]
      dsimp only
      rw [dif_pos hshort, dif_pos hshort, hfirst]
      cases checkPartialRecordHeader (buf.drop offset) (payloads.len == 0) <;> exact rfl
    · rw [dif_neg hshort]
      cases hcheck : checkRecordHeader ((buf.drop offset).take recordHeaderLen)
          (offset == 0) with
      | error e =>
        rw [scanLoop_header_error hshort hcheck, ← hfirst, hcheck]
        exact rfl
      | ok len =>
        rw [scanLoop_header hshort hcheck, ← hfirst, hcheck]
        dsimp only
        by_cases hroom : payloads.len = limits.maxRecords
        · rw [if_pos hroom, if_pos hroom]
          exact rfl
        · rw [if_neg hroom, if_neg hroom]
          have havailable : slice buf (offset + recordHeaderLen)
              (min (offset + recordHeaderLen + len) buf.length) =
              ((buf.drop offset).drop recordHeaderLen).take len := by
            rw [slice_min, slice_eq_take_drop, List.drop_drop]
          rw [havailable]
          obtain ⟨header', htracks', hobserve⟩ :=
            HandshakeHeader.observe_eq (((buf.drop offset).drop recordHeaderLen).take len) limits
              hwalked.tracks
          rw [hobserve]
          cases declaredLen limits (seen ++ ((buf.drop offset).drop recordHeaderLen).take len) with
          | error e => exact rfl
          | ok declared =>
            dsimp only [Except.map]
            rw [List.length_take]
            by_cases hfull : ((buf.drop offset).drop recordHeaderLen).length < len
            · rw [if_pos (by omega), if_pos hfull]
              exact rfl
            · rw [if_neg (by omega), if_neg hfull]
              have hstep := hwalked.step (checkRecordHeader_bounds hcheck).1 hfull htracks'
              rw [hstep.total]
              cases hdone : declared.filter (handshakeHeaderLen + · ≤
                (seen ++ ((buf.drop offset).drop recordHeaderLen).take len).length) with
              | some n =>
                have hcomplete := (Option.filter_eq_some_iff.mp hdone).2
                exact ⟨rfl, rfl, of_decide_eq_true hcomplete, hstep.ranges, hstep.bytes_eq⟩
              | none =>
                have hlt := record_advances hshort hcheck
                have hrest := ih _ (hn ▸ hlt) hstep rfl
                rw [SmallVec.len_push, ← List.drop_drop, ← List.drop_drop] at hrest
                rw [← List.drop_drop]
                rw [← hstep.total]
                exact hrest

-- ---------------------------------------------------------------------------
-- The parser
-- ---------------------------------------------------------------------------

/-- The message is cut out of the buffer the same way on both paths: the only
record of a message is sliced, several are copied. -/
theorem parseMessage_eq {buf : Bytes} {layout : RecordLayout} {found : Assembled}
    (hlayout : LayoutOf buf layout found) :
    parseMessage buf layout =
      parseClientHelloBody ((found.seen.take (handshakeHeaderLen + found.handshakeLen)).drop
        handshakeHeaderLen) := by
  have hcopy : copyFragments buf (handshakeHeaderLen + layout.handshakeLen)
      layout.payloads.asSlice = found.seen.take (handshakeHeaderLen + found.handshakeLen) := by
    rw [copyFragments_eq hlayout.ranges, hlayout.bytes_eq, hlayout.len_eq]
  unfold parseMessage
  dsimp only
  split
  · next only honly =>
    -- the range of the only record starts with the message
    have hseen : slice buf only.1 only.2 = found.seen := by
      rw [← hlayout.bytes_eq, honly]
      exact (List.append_nil _).symm
    have hin := hlayout.ranges only (by rw [honly]; exact List.mem_singleton_self _)
    have hlen : only.1 + (handshakeHeaderLen + found.handshakeLen) ≤ only.2 := by
      have hcomplete := hlayout.complete
      rw [← hseen, length_slice] at hcomplete
      unfold handshakeHeaderLen at *
      omega
    rw [hlayout.len_eq, ← hseen]
    congr 1
    have hend : only.2 = only.1 + (only.2 - only.1) := by omega
    rw [hend, slice_eq_take_drop, slice, List.take_take, List.drop_take, List.drop_take,
      List.drop_drop]
    congr 1
    omega
  · rw [hcopy]

/-- The parser is the walk followed by the body parser. -/
theorem parseClientHello_eq (buf : Bytes) (limits : HelloLimits) :
    parseClientHello buf limits = (do
      let found ← assemble limits buf 0 0 []
      let sni ← parseClientHelloBody
        ((found.seen.take (handshakeHeaderLen + found.handshakeLen)).drop handshakeHeaderLen)
      return ⟨sni, found.consumed⟩) := by
  have hagrees : ScanAgrees buf (scanRecords buf limits) (assemble limits buf 0 0 []) :=
    scanLoop_assemble (walked_start buf)
  unfold parseClientHello
  cases hscan : scanRecords buf limits with
  | error e =>
    cases hfound : assemble limits buf 0 0 [] with
    | error e' =>
      rw [hscan, hfound] at hagrees
      exact congrArg Except.error hagrees
    | ok found =>
      rw [hscan, hfound] at hagrees
      exact hagrees.elim
  | ok layout =>
    cases hfound : assemble limits buf 0 0 [] with
    | error e' =>
      rw [hscan, hfound] at hagrees
      exact hagrees.elim
    | ok found =>
      rw [hscan, hfound] at hagrees
      show (parseMessage buf layout >>= fun sni =>
        pure (ClientHelloInfo.mk sni layout.consumed)) = _
      rw [parseMessage_eq hagrees, hagrees.consumed_eq]
      rfl

/-- Records that carry a message give the verdict on its body. -/
theorem parseClientHello_carries {limits : HelloLimits} {records : List Record} {body : Bytes}
    (rest : Bytes) (hcount : records.length ≤ limits.maxRecords)
    (hcarries : Carries limits records [] body) :
    parseClientHello (wireOf records ++ rest) limits =
      (parseClientHelloBody body).map fun sni => ⟨sni, (wireOf records).length⟩ := by
  have hfound : assemble limits (wireOf records ++ rest) 0 0 [] =
      .ok ⟨payloadsOf records, body.length, (wireOf records).length⟩ := by
    rw [assemble_carries hcarries (by omega), Nat.zero_add]
    rfl
  have hbody : ((payloadsOf records).take (handshakeHeaderLen + body.length)).drop
      handshakeHeaderLen = body := by
    obtain ⟨extra, hextra⟩ := hcarries.message
    rw [← length_handshakeMessage, show payloadsOf records = _ from hextra.symm, List.take_left]
    exact List.drop_left' (length_beBytes ..)
  rw [parseClientHello_eq, hfound]
  show (parseClientHelloBody _ >>= fun sni => pure (ClientHelloInfo.mk sni _)) = _
  rw [hbody]
  cases parseClientHelloBody body <;> rfl

/-- A verdict that is not one of the record layer comes from records that carry
a message. -/
theorem exists_carries {buf : Bytes} {limits : HelloLimits}
    (h : ∀ error, parseClientHello buf limits = .error error → ¬ error.IsRecordLayer) :
    ∃ records rest body, buf = wireOf records ++ rest ∧ records.length ≤ limits.maxRecords ∧
      Carries limits records [] body := by
  cases hfound : assemble limits buf 0 0 [] with
  | error e =>
    -- a walk that fails is a verdict of the record layer
    have herror : parseClientHello buf limits = .error e := by
      rw [parseClientHello_eq, hfound]
      rfl
    exact absurd (assemble_error hfound) (h e herror)
  | ok found =>
    obtain ⟨records, body, hcarries, ⟨rest, hrest⟩, hcount⟩ :=
      carries_of_assemble (Nat.zero_le _) (pending_nil limits) hfound
    exact ⟨records, rest, body, hrest.symm, by omega, hcarries⟩

/-- **Reassembly is exact and independent of fragmentation.** The verdict comes
from the ClientHello body exactly when the buffer starts with records that
carry a message, and then it is the verdict on that body. -/
theorem parseClientHello_reassembles (buf : Bytes) (limits : HelloLimits) :
    ((∀ error, parseClientHello buf limits = .error error → ¬ error.IsRecordLayer) ↔
      ∃ records rest body, buf = wireOf records ++ rest ∧ records.length ≤ limits.maxRecords ∧
        Carries limits records [] body) ∧
    ∀ records rest body, buf = wireOf records ++ rest → records.length ≤ limits.maxRecords →
      Carries limits records [] body →
      parseClientHello buf limits =
        (parseClientHelloBody body).map fun sni => ⟨sni, (wireOf records).length⟩ := by
  refine ⟨⟨exists_carries, fun h => ?_⟩, ?_⟩
  · obtain ⟨records, rest, body, rfl, hcount, hcarries⟩ := h
    rw [parseClientHello_carries rest hcount hcarries]
    intro error herror
    cases hverdict : parseClientHelloBody body with
    | error e =>
      rw [hverdict] at herror
      injection herror with herror
      exact herror ▸ parseClientHelloBody_errors body e hverdict
    | ok sni =>
      rw [hverdict] at herror
      exact absurd herror (by simp [Except.map])
  · intro records rest body hbuf hcount hcarries
    rw [hbuf]
    exact parseClientHello_carries rest hcount hcarries

end SniRouter
