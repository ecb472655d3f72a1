import SniRouter.Protocol.RecordScan

/-!
# SniRouter — verdicts are stable

More input never changes a verdict other than `incomplete`
(`parseClientHello_isStable`). The walk is stable record by record; a record
that is cut short is already rejected at its first bad byte or still pending.
`parseClientHello_stable` adds where the verdict falls.
-/

namespace SniRouter

open Framing

/-- The verdict that waits for more input. -/
def IsIncomplete {α : Type} (verdict : Except ParseError α) : Prop :=
  verdict = .error .incomplete

/-- A bad byte in a record header stays where it is. -/
theorem checkPartialRecordHeader_append {header : Bytes} {firstRecord : Bool} {error : ParseError}
    (h : checkPartialRecordHeader header firstRecord = .error error) (more : Bytes) :
    checkPartialRecordHeader (header ++ more) firstRecord = .error error := by
  match header with
  | [] => exact absurd h (by simp [checkPartialRecordHeader])
  | [type] =>
    by_cases htype : type = contentTypeHandshake
    · exact absurd h (by simp [checkPartialRecordHeader, htype])
    · simpa [checkPartialRecordHeader, htype] using h
  | type :: major :: rest => exact h

/-- A full header fails where its beginning fails. -/
theorem checkRecordHeader_of_partial {header : Bytes} {firstRecord : Bool} {error : ParseError}
    (h : checkPartialRecordHeader header firstRecord = .error error) :
    checkRecordHeader header firstRecord = .error error := by
  unfold checkRecordHeader
  rw [h]
  rfl

/-- A message header that is rejected stays rejected. -/
theorem declaredLen_append_error {limits : HelloLimits} {seen : Bytes} {error : ParseError}
    (h : declaredLen limits seen = .error error) (more : Bytes) :
    declaredLen limits (seen ++ more) = .error error := by
  unfold declaredLen at h ⊢
  by_cases htype : seen ≠ [] ∧ seen.head? ≠ some handshakeTypeClientHello
  · obtain ⟨byte, rest, rfl⟩ := List.exists_cons_of_ne_nil htype.1
    rw [if_pos htype] at h
    rw [if_pos ⟨List.cons_ne_nil _ _, htype.2⟩, h]
  · rw [if_neg htype] at h
    by_cases hshort : seen.length < handshakeHeaderLen
    · rw [if_pos hshort] at h
      exact absurd h (by simp)
    · -- all four bytes are there: the same ones are read
      have hne : seen ≠ [] := by
        intro hnil
        rw [hnil] at hshort
        exact hshort (by decide)
      obtain ⟨byte, rest, rfl⟩ := List.exists_cons_of_ne_nil hne
      have htake : (byte :: rest ++ more).take handshakeHeaderLen =
          (byte :: rest).take handshakeHeaderLen :=
        List.take_append_of_le_length (by omega)
      rw [if_neg hshort] at h
      rw [if_neg (by simpa using htype), if_neg (by rw [List.length_append]; omega), htake]
      exact h

/-- A bad byte anywhere in the next record header ends the walk. -/
theorem assemble_bad_header {limits : HelloLimits} {rest seen : Bytes} {count consumed : Nat}
    {error : ParseError}
    (h : checkPartialRecordHeader (rest.take recordHeaderLen) (count == 0) = .error error) :
    assemble limits rest count consumed seen = .error error := by
  rw [assemble]
  by_cases hshort : rest.length < recordHeaderLen
  · rw [List.take_of_length_le (by omega)] at h
    rw [dif_pos hshort, h]
  · rw [dif_neg hshort, checkRecordHeader_of_partial h]

/-- The walk where no record is complete. -/
theorem assemble_append_no_record {limits : HelloLimits} {rest seen : Bytes}
    {count consumed : Nat}
    (hno : ∀ (record : Record) (tail : Bytes), rest ≠ record.encode ++ tail)
    (hsettled : ¬ IsIncomplete (assemble limits rest count consumed seen)) (more : Bytes) :
    assemble limits (rest ++ more) count consumed seen =
      assemble limits rest count consumed seen := by
  by_cases hshort : rest.length < recordHeaderLen
  · -- only a bad byte settles a partial header
    have hwhole : rest.take recordHeaderLen = rest := List.take_of_length_le (by omega)
    cases hpartial : checkPartialRecordHeader rest (count == 0) with
    | ok u =>
      refine absurd ?_ hsettled
      rw [assemble, dif_pos hshort, hpartial]
      rfl
    | error e =>
      have hbad : checkPartialRecordHeader ((rest ++ more).take recordHeaderLen) (count == 0) =
          .error e := by
        rw [List.take_append, hwhole]
        exact checkPartialRecordHeader_append hpartial _
      rw [assemble_bad_header hbad, assemble_bad_header (hwhole.symm ▸ hpartial)]
  · have hheader : (rest ++ more).take recordHeaderLen = rest.take recordHeaderLen :=
      List.take_append_of_le_length (by omega)
    have hshort' : ¬ (rest ++ more).length < recordHeaderLen := by
      rw [List.length_append]
      omega
    rw [assemble, dif_neg hshort] at hsettled
    rw [assemble, dif_neg hshort', hheader, assemble, dif_neg hshort]
    cases hcheck : checkRecordHeader (rest.take recordHeaderLen) (count == 0) with
    | error e => rfl
    | ok len =>
      rw [hcheck] at hsettled
      dsimp only at hsettled ⊢
      by_cases hroom : count = limits.maxRecords
      · rw [if_pos hroom, if_pos hroom]
      · -- the payload is cut short, so what is there must already be rejected
        have hcut : (rest.drop recordHeaderLen).length < len := by
          by_contra hlen
          obtain ⟨record, tail, heq⟩ := exists_record hshort hcheck hlen
          exact hno record tail heq
        have hdrop : (rest ++ more).drop recordHeaderLen = rest.drop recordHeaderLen ++ more :=
          List.drop_append_of_le_length (by omega)
        have htake : (rest.drop recordHeaderLen).take len = rest.drop recordHeaderLen :=
          List.take_of_length_le (by omega)
        rw [if_neg hroom, htake] at hsettled ⊢
        rw [if_neg hroom, hdrop, List.take_append, htake, ← List.append_assoc]
        cases hdeclared : declaredLen limits (seen ++ rest.drop recordHeaderLen) with
        | error e => rw [declaredLen_append_error hdeclared]
        | ok declared =>
          refine absurd ?_ hsettled
          rw [hdeclared]
          dsimp only
          rw [if_pos hcut]
          rfl

/-- The walk is stable. -/
theorem assemble_append {limits : HelloLimits} {rest seen : Bytes} {count consumed : Nat}
    (hsettled : ¬ IsIncomplete (assemble limits rest count consumed seen)) (more : Bytes) :
    assemble limits (rest ++ more) count consumed seen =
      assemble limits rest count consumed seen := by
  obtain ⟨records, tail, rfl, hno⟩ := exists_records rest
  induction records generalizing count consumed seen with
  | nil => exact assemble_append_no_record hno hsettled more
  | cons record records ih =>
    have hshort :
        wireOf (record :: records) ++ tail = record.encode ++ (wireOf records ++ tail) := by
      rw [wireOf_cons, List.append_assoc]
    have hlong : wireOf (record :: records) ++ tail ++ more =
        record.encode ++ (wireOf records ++ tail ++ more) := by
      rw [hshort, List.append_assoc]
    rw [hshort, assemble_record] at hsettled
    rw [hlong, hshort, assemble_record, assemble_record]
    split
    · rfl
    · next hroom =>
      rw [if_neg hroom] at hsettled
      split
      · rfl
      · next declared hdeclared =>
        rw [hdeclared] at hsettled
        dsimp only at hsettled
        split
        · rfl
        · next hnone =>
          rw [hnone] at hsettled
          exact ih hsettled

/-- Verdicts on a ClientHello are stable. -/
theorem parseClientHello_isStable (limits : HelloLimits) :
    Stable (fun buf => parseClientHello buf limits) IsIncomplete := by
  intro buf more hsettled
  have hwalk : ¬ IsIncomplete (assemble limits buf 0 0 []) := by
    intro hincomplete
    refine hsettled ?_
    dsimp only
    rw [parseClientHello_eq, hincomplete]
    rfl
  dsimp only
  rw [parseClientHello_eq, parseClientHello_eq, assemble_append hwalk]

/-- The parser consumes what it was given at most. -/
theorem parseClientHello_consumed_le {buf : Bytes} {limits : HelloLimits} {info : ClientHelloInfo}
    (h : parseClientHello buf limits = .ok info) : info.consumed ≤ buf.length := by
  obtain ⟨records, rest, body, rfl, hcount, hcarries⟩ :=
    exists_carries (fun error herror => absurd (h.symm.trans herror) (by simp))
  rw [parseClientHello_carries rest hcount hcarries] at h
  cases hverdict : parseClientHelloBody body with
  | error e => rw [hverdict] at h; exact absurd h (by simp [Except.map])
  | ok sni =>
    rw [hverdict] at h
    injection h with h
    rw [← h, List.length_append]
    exact Nat.le_add_right ..

/-- What an accepted ClientHello consumes is all that the parser needs. -/
theorem parseClientHello_cut {buf : Bytes} {limits : HelloLimits} {info : ClientHelloInfo}
    (h : parseClientHello buf limits = .ok info) :
    parseClientHello (buf.take info.consumed) limits = .ok info := by
  obtain ⟨records, rest, body, rfl, hcount, hcarries⟩ :=
    exists_carries (fun error herror => absurd (h.symm.trans herror) (by simp))
  have hverdict := h
  rw [parseClientHello_carries rest hcount hcarries] at hverdict
  have hconsumed : info.consumed = (wireOf records).length := by
    cases hbody : parseClientHelloBody body with
    | error e => rw [hbody] at hverdict; exact absurd hverdict (by simp [Except.map])
    | ok sni =>
      rw [hbody] at hverdict
      injection hverdict with hverdict
      rw [← hverdict]
  -- the records alone, with nothing after them
  have hcut := parseClientHello_carries [] hcount hcarries
  rw [List.append_nil] at hcut
  rw [hconsumed, List.take_left, hcut, hverdict]

/-- A prefix too short for what the whole consumes is undecided. -/
theorem parseClientHello_shorter {buf : Bytes} {limits : HelloLimits} {info : ClientHelloInfo}
    (h : parseClientHello buf limits = .ok info) {n : Nat} (hn : n < info.consumed) :
    parseClientHello (buf.take n) limits = .error .incomplete := by
  by_contra hsettled
  have hsame := (parseClientHello_isStable limits).settled (List.take_prefix n buf) hsettled
  have hle := parseClientHello_consumed_le (hsame.symm.trans h)
  rw [List.length_take] at hle
  omega

/-- **Verdicts are stable under more input.** Any verdict but `incomplete` is
the verdict on every longer buffer; an accepted ClientHello is accepted from
what it consumes on, and undecided before. -/
theorem parseClientHello_stable (buf : Bytes) (limits : HelloLimits) :
    (∀ ext, parseClientHello buf limits ≠ .error .incomplete →
      parseClientHello (buf ++ ext) limits = parseClientHello buf limits) ∧
    ∀ info, parseClientHello buf limits = .ok info →
      info.consumed ≤ buf.length ∧
      parseClientHello (buf.take info.consumed) limits = .ok info ∧
      ∀ n, n < info.consumed → parseClientHello (buf.take n) limits = .error .incomplete := by
  refine ⟨?_, ?_⟩
  · intro ext hsettled
    exact parseClientHello_isStable limits buf ext hsettled
  · intro info h
    exact ⟨parseClientHello_consumed_le h, parseClientHello_cut h,
      fun n hn => parseClientHello_shorter h hn⟩

end SniRouter
