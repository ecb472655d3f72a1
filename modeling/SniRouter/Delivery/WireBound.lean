import SniRouter.Delivery.HelloReader

/-!
# SniRouter — the wire limit of the reader and the limits of the parser

The parser takes the last record of a ClientHello whole, with whatever follows
the message in it; the reader buffers no more than `max_wire_bytes`, which
leaves no room for such bytes.

* `FitsWire` — what follows the ClientHello in its last record fits in what the
  limits leave unused.
* `WithinWire` — no accepted ClientHello is too large for the reader.
* `withinWire_iff_fitsWire` — the two are the same.
-/

namespace SniRouter

open Framing

/-- The bytes past the message in the record it ends in are no more than the
handshake bytes and the record headers that the limits leave unused. -/
def FitsWire (limits : HelloLimits) (buf : Bytes) : Prop :=
  ∀ records rest body sni, buf = wireOf records ++ rest → records.length ≤ limits.maxRecords →
    Carries limits records [] body → parseClientHelloBody body = .ok sni →
    (payloadsOf records).length - (handshakeMessage body).length ≤
      (limits.maxHandshakeBytes - body.length) +
        (limits.maxRecords - records.length) * recordHeaderLen

/-- An accepted ClientHello is within the wire limit, and no reader of a stream
that begins with it finds it too large. -/
structure WithinWire (limits : HelloLimits) (buf : Bytes) : Prop where
  consumed : ∀ info, parseClientHello buf limits = .ok info → info.consumed ≤ limits.maxWireBytes
  reader   : ∀ info, parseClientHello buf limits = .ok info → ∀ more s,
    (helloMachine limits (buf ++ more)).Reachable s →
    s.reader ≠ .done (.error (.parse .tooLarge))

theorem length_wireOf (records : List Record) :
    (wireOf records).length = records.length * recordHeaderLen + (payloadsOf records).length := by
  induction records with
  | nil => rfl
  | cons record records ih =>
    rw [wireOf_cons, payloadsOf_cons, List.length_append, List.length_append, ih,
      Record.length_encode, List.length_cons, Nat.add_mul]
    omega

/-- Where the message and its records are within the limits, the overhang
decides. -/
theorem overhang_iff {limits : HelloLimits} {records : List Record} {body : Bytes}
    (hmax : handshakeHeaderLen + limits.maxHandshakeBytes +
      limits.maxRecords * recordHeaderLen < 2 ^ 64)
    (hcount : records.length ≤ limits.maxRecords) (hcarries : Carries limits records [] body) :
    (wireOf records).length ≤ limits.maxWireBytes ↔
      (payloadsOf records).length - (handshakeMessage body).length ≤
        (limits.maxHandshakeBytes - body.length) +
          (limits.maxRecords - records.length) * recordHeaderLen := by
  have hbody := hcarries.body_le
  have hmessage : (handshakeMessage body).length ≤ (payloadsOf records).length :=
    hcarries.message.length_le
  rw [length_wireOf, HelloLimits.maxWireBytes, Nat.mod_eq_of_lt hmax]
  rw [length_handshakeMessage] at hmessage ⊢
  unfold recordHeaderLen handshakeHeaderLen at *
  omega

/-- An accepted ClientHello and the records that carry it. -/
theorem accepted_carries {buf : Bytes} {limits : HelloLimits} {info : ClientHelloInfo}
    (h : parseClientHello buf limits = .ok info) :
    ∃ records rest body, buf = wireOf records ++ rest ∧ records.length ≤ limits.maxRecords ∧
      Carries limits records [] body ∧ parseClientHelloBody body = .ok info.sni ∧
      info.consumed = (wireOf records).length := by
  obtain ⟨records, rest, body, rfl, hcount, hcarries⟩ :=
    exists_carries (fun error herror => absurd (h.symm.trans herror) (by simp))
  refine ⟨records, rest, body, rfl, hcount, hcarries, ?_⟩
  rw [parseClientHello_carries rest hcount hcarries] at h
  cases hbody : parseClientHelloBody body with
  | error e =>
    rw [hbody] at h
    exact absurd h (by simp [Except.map])
  | ok sni =>
    rw [hbody] at h
    injection h with h
    rw [← h]
    exact ⟨rfl, rfl⟩

/-- A ClientHello within the wire limit is whole before the buffer is full. -/
theorem reader_not_tooLarge {limits : HelloLimits} {buf more : Bytes} {info : ClientHelloInfo}
    {s : HelloSession} (h : parseClientHello buf limits = .ok info)
    (hle : info.consumed ≤ limits.maxWireBytes)
    (hr : (helloMachine limits (buf ++ more)).Reachable s) :
    s.reader ≠ .done (.error (.parse .tooLarge)) := by
  intro hdone
  have hok := helloMachine_ok hr
  unfold HelloSession.Ok at hok
  rw [hdone] at hok
  have hverdict : HelloVerdict limits (buf ++ more) s.unread (.error (.parse .tooLarge)) := hok
  -- what it consumes is a prefix of what the reader may buffer
  have hpre : buf.take info.consumed <+: (buf ++ more).take limits.maxWireBytes := by
    rw [← @List.take_append_of_le_length _ buf more _ (parseClientHello_consumed_le h)]
    exact List.take_prefix_take_left hle
  have hcut := parseClientHello_cut h
  have hwhole := (parseClientHello_isStable limits).settled hpre (by rw [hcut]; exact nofun)
  obtain ⟨buf', heq, -⟩ := hverdict.ok info (hwhole.trans hcut)
  exact absurd heq (by simp)

/-- **The wire limit bounds an accepted ClientHello exactly when what follows
it in its last record fits.** -/
theorem withinWire_iff_fitsWire {limits : HelloLimits} (buf : Bytes)
    (hmax : handshakeHeaderLen + limits.maxHandshakeBytes +
      limits.maxRecords * recordHeaderLen < 2 ^ 64) :
    WithinWire limits buf ↔ FitsWire limits buf := by
  constructor
  · intro hwithin records rest body sni hbuf hcount hcarries hbody
    have hparse : parseClientHello buf limits = .ok ⟨sni, (wireOf records).length⟩ := by
      rw [hbuf, parseClientHello_carries rest hcount hcarries, hbody]
      rfl
    exact (overhang_iff hmax hcount hcarries).mp (hwithin.consumed _ hparse)
  · intro hfits
    have hconsumed : ∀ info, parseClientHello buf limits = .ok info →
        info.consumed ≤ limits.maxWireBytes := by
      intro info hparse
      obtain ⟨records, rest, body, hbuf, hcount, hcarries, hbody, hlen⟩ := accepted_carries hparse
      rw [hlen]
      exact (overhang_iff hmax hcount hcarries).mpr
        (hfits records rest body info.sni hbuf hcount hcarries hbody)
    exact ⟨hconsumed, fun info hparse more s hr =>
      reader_not_tooLarge hparse (hconsumed info hparse) hr⟩

/-- The reader has given up on a ClientHello as too large. -/
def HelloReader.gaveUp : HelloReader → Bool
  | .done (.error (.parse .tooLarge)) => true
  | _ => false

/-- The reader gives up exactly with a hello too large. -/
theorem HelloReader.gaveUp_iff {reader : HelloReader} :
    reader.gaveUp = true ↔ reader = .done (.error (.parse .tooLarge)) := by
  constructor
  · intro h
    unfold gaveUp at h
    split at h
    · rfl
    · exact absurd h Bool.false_ne_true
  · rintro rfl
    rfl

/-- A ClientHello of 59 bytes, in a record with `extra` zero bytes after it. -/
def paddedHello (extra : Nat) : Bytes :=
  [22, 3, 1] ++ beBytes 2 (59 + extra) ++ [1, 0, 0, 55, 3, 3] ++ List.replicate 32 0 ++
    [0, 0, 2, 19, 1, 1, 0, 0, 12, 0, 0, 0, 8, 0, 6, 0, 0, 3, 97, 46, 120] ++
    List.replicate extra 0

/-- A hello without surplus bytes fits. -/
theorem withinWire_iff_fitsWire_at :
    (parseClientHello (paddedHello 0) ⟨1024, 1⟩).map ClientHelloInfo.consumed = .ok 64 ∧
      (WithinWire ⟨1024, 1⟩ (paddedHello 0) ↔ FitsWire ⟨1024, 1⟩ (paddedHello 0)) :=
  ⟨by decide +kernel, withinWire_iff_fitsWire (paddedHello 0) (by decide)⟩

/-- With a thousand bytes after the ClientHello in its record the parser takes
1064 bytes where the limit is 1033, and the reader gives up at 1033. -/
theorem wire_limit_exceeded :
    ∃ limits buf info,
      handshakeHeaderLen + limits.maxHandshakeBytes + limits.maxRecords * recordHeaderLen < 2 ^ 64 ∧
      parseClientHello buf limits = .ok info ∧ limits.maxWireBytes < info.consumed ∧
      ∃ s, (helloMachine limits buf).Reachable s ∧
        s.reader = .done (.error (.parse .tooLarge)) := by
  let limits : HelloLimits := ⟨1024, 1⟩
  let buf := paddedHello 1000
  have hconsumed : (parseClientHello buf limits).map ClientHelloInfo.consumed = .ok 1064 := by
    decide +kernel
  obtain ⟨info, hparse, hlen⟩ : ∃ info, parseClientHello buf limits = .ok info ∧
      info.consumed = 1064 := by
    cases hparse : parseClientHello buf limits with
    | error e =>
      rw [hparse] at hconsumed
      exact absurd hconsumed (by simp [Except.map])
    | ok info =>
      rw [hparse] at hconsumed
      injection hconsumed with hlen
      exact ⟨info, rfl, hlen⟩
  obtain ⟨s, hrun, hreader⟩ : ∃ s, (helloMachine limits buf).run [1033] ⟨.start limits, buf⟩ =
      some s ∧ s.reader.gaveUp = true :=
    Option.map_eq_some_iff.mp (by decide +kernel)
  refine ⟨limits, buf, info, by decide, hparse, ?_, s, ⟨_, [1033], rfl, hrun⟩, ?_⟩
  · rw [hlen]
    decide
  · exact HelloReader.gaveUp_iff.mp hreader

end SniRouter
