import SniRouter.Protocol.Basic

/-!
# SniRouter — the bounds-checked reader

A cursor over untrusted bytes. Each read is characterized by what the input
must look like for it to succeed.
-/

namespace SniRouter

open Framing

/-- `Reader`: the bytes not yet read. -/
structure Reader where
  remaining : Bytes
deriving DecidableEq

namespace Reader

/-- `Reader::new`. -/
def new (bytes : Bytes) : Reader := ⟨bytes⟩

/-- `Reader::is_empty`. -/
def isEmpty (reader : Reader) : Bool := reader.remaining.isEmpty

/-- `Reader::bytes`: the next `len` bytes, if there are as many. -/
def bytes (reader : Reader) (len : Nat) : Option (Bytes × Reader) :=
  if reader.remaining.length < len then none
  else some (reader.remaining.take len, ⟨reader.remaining.drop len⟩)

/-- `Reader::u8`. -/
def u8 (reader : Reader) : Option (UInt8 × Reader) :=
  (reader.bytes 1).map fun p => (p.1[0]!, p.2)

/-- `Reader::u16`, big-endian. -/
def u16 (reader : Reader) : Option (Nat × Reader) :=
  (reader.bytes 2).map fun p => (beNat p.1, p.2)

/-- A vector with a one-byte length prefix. -/
def vec8 (reader : Reader) : Option (Bytes × Reader) :=
  reader.u8.bind fun p => p.2.bytes p.1.toNat

/-- A vector with a two-byte length prefix. -/
def vec16 (reader : Reader) : Option (Bytes × Reader) :=
  reader.u16.bind fun p => p.2.bytes p.1

/-- `bytes` splits off its length. -/
theorem bytes_eq_some_iff {bs data rest : Bytes} {len : Nat} :
    (Reader.mk bs).bytes len = some (data, ⟨rest⟩) ↔ data.length = len ∧ bs = data ++ rest := by
  unfold bytes
  refine ⟨fun h => ?_, fun h => ?_⟩
  · split_ifs at h with hlen
    simp only [Option.some.injEq, Prod.mk.injEq, Reader.mk.injEq] at h
    obtain ⟨rfl, rfl⟩ := h
    refine ⟨?_, (List.take_append_drop ..).symm⟩
    rw [List.length_take]
    dsimp only at hlen
    omega
  · obtain ⟨rfl, rfl⟩ := h
    rw [if_neg (by simp), List.take_left, List.drop_left]

/-- `u8` splits off a byte. -/
theorem u8_eq_some_iff {bs rest : Bytes} {b : UInt8} :
    (Reader.mk bs).u8 = some (b, ⟨rest⟩) ↔ bs = b :: rest := by
  unfold u8
  rw [Option.map_eq_some_iff]
  refine ⟨fun h => ?_, fun h => ?_⟩
  · obtain ⟨⟨data, reader⟩, hread, heq⟩ := h
    simp only [Prod.mk.injEq] at heq
    obtain ⟨rfl, rfl⟩ := heq
    obtain ⟨hlen, rfl⟩ := bytes_eq_some_iff.mp hread
    obtain ⟨c, rfl⟩ := List.length_eq_one_iff.mp hlen
    rfl
  · exact ⟨([b], ⟨rest⟩), bytes_eq_some_iff.mpr ⟨rfl, h⟩, rfl⟩

/-- `u16` splits off a number written on two bytes. -/
theorem u16_eq_some_iff {bs rest : Bytes} {n : Nat} :
    (Reader.mk bs).u16 = some (n, ⟨rest⟩) ↔ n < 65536 ∧ bs = beBytes 2 n ++ rest := by
  unfold u16
  rw [Option.map_eq_some_iff]
  refine ⟨fun h => ?_, fun h => ?_⟩
  · obtain ⟨⟨data, reader⟩, hread, heq⟩ := h
    simp only [Prod.mk.injEq] at heq
    obtain ⟨rfl, rfl⟩ := heq
    obtain ⟨hlen, rfl⟩ := bytes_eq_some_iff.mp hread
    have hbound := beNat_lt data
    rw [hlen] at hbound
    exact ⟨hbound, by rw [← hlen, beBytes_beNat]⟩
  · exact ⟨(beBytes 2 n, ⟨rest⟩), bytes_eq_some_iff.mpr ⟨length_beBytes .., h.2⟩,
      by rw [beNat_beBytes h.1]⟩

/-- `vec8` splits off a vector with a one-byte length. -/
theorem vec8_eq_some_iff {bs data rest : Bytes} :
    (Reader.mk bs).vec8 = some (data, ⟨rest⟩) ↔ data.length < 256 ∧ bs = vec 1 data ++ rest := by
  unfold vec8
  rw [Option.bind_eq_some_iff]
  refine ⟨fun h => ?_, fun h => ?_⟩
  · obtain ⟨⟨len, ⟨tail⟩⟩, hlen, hdata⟩ := h
    obtain ⟨hdlen, rfl⟩ := bytes_eq_some_iff.mp hdata
    have hb : len.toNat < 256 := len.toNat_lt
    dsimp only at hdlen
    refine ⟨by omega, ?_⟩
    rw [u8_eq_some_iff.mp hlen, vec, hdlen]
    simp [beBytes]
  · obtain ⟨hlen, rfl⟩ := h
    refine ⟨(UInt8.ofNat data.length, ⟨data ++ rest⟩), ?_, ?_⟩
    · rw [u8_eq_some_iff]
      simp [vec, beBytes]
    · rw [bytes_eq_some_iff, UInt8.toNat_ofNat']
      exact ⟨by omega, rfl⟩

/-- `vec16` splits off a vector with a two-byte length. -/
theorem vec16_eq_some_iff {bs data rest : Bytes} :
    (Reader.mk bs).vec16 = some (data, ⟨rest⟩) ↔
      data.length < 65536 ∧ bs = vec 2 data ++ rest := by
  unfold vec16
  rw [Option.bind_eq_some_iff]
  refine ⟨fun h => ?_, fun h => ?_⟩
  · obtain ⟨⟨len, ⟨tail⟩⟩, hlen, hdata⟩ := h
    obtain ⟨hbound, rfl⟩ := u16_eq_some_iff.mp hlen
    obtain ⟨hdlen, rfl⟩ := bytes_eq_some_iff.mp hdata
    dsimp only at hdlen
    exact ⟨by omega, by rw [vec, hdlen, List.append_assoc]⟩
  · obtain ⟨hlen, rfl⟩ := h
    refine ⟨(data.length, ⟨data ++ rest⟩), ?_, bytes_eq_some_iff.mpr ⟨rfl, rfl⟩⟩
    rw [u16_eq_some_iff]
    exact ⟨hlen, by rw [vec, List.append_assoc]⟩

end Reader

end SniRouter
