import Mathlib.Data.List.Sort
import SniRouter.Lib.SmallVec
import SniRouter.Protocol.Reader

/-!
# SniRouter — ClientHello body and extension parsing

`parseClientHelloBody` returns the SNI host_name of a ClientHello body, if it
has one. The loops over extensions and over server names are `forEach`; the
reader of one entry and what is done with it are kept apart.
-/

namespace SniRouter

open Framing Text

def extensionServerName : Nat := 0
def nameTypeHostName : UInt8 := 0
def randomLen : Nat := 32
def maxSessionIdLen : Nat := 32
def inlineExtensions : Nat := 32

/-- One extension: its type and its data. -/
structure Extension where
  type : Nat
  data : Bytes
deriving DecidableEq

/-- One entry of a server_name_list. -/
structure ServerName where
  nameType : UInt8
  name     : Bytes
deriving DecidableEq

/-- Extension types seen so far, for duplicate detection. -/
abbrev SeenTypes := SmallVec Nat inlineExtensions

/-- Reads one entry of a server_name_list. -/
def readServerName (bs : Bytes) : Except ParseError (ServerName × Bytes) := do
  let (nameType, reader) ← okOr (Reader.new bs).u8 (.malformed "truncated server name type")
  let (name, reader) ← okOr reader.vec16 (.malformed "truncated server name")
  return (⟨nameType, name⟩, reader.remaining)

/-- Reads one extension. -/
def readExtension (bs : Bytes) : Except ParseError (Extension × Bytes) := do
  let (type, reader) ← okOr (Reader.new bs).u16 (.malformed "truncated extension type")
  let (data, reader) ← okOr reader.vec16 (.malformed "truncated extension data")
  return (⟨type, data⟩, reader.remaining)

-- ---------------------------------------------------------------------------
-- Wire form of the entries
-- ---------------------------------------------------------------------------

/-- A name that its length prefix can count. -/
def ServerName.Wf (entry : ServerName) : Prop := entry.name.length < 65536

/-- The wire form of an entry. -/
def ServerName.encode (entry : ServerName) : Bytes := entry.nameType :: vec 2 entry.name

/-- A type and data that their fields hold. -/
def Extension.Wf (extension : Extension) : Prop :=
  extension.type < 65536 ∧ extension.data.length < 65536

/-- The wire form of an extension. -/
def Extension.encode (extension : Extension) : Bytes :=
  beBytes 2 extension.type ++ vec 2 extension.data

/-- Reading an entry is exact for its wire form. -/
theorem readServerName_exact : Exact readServerName ServerName.encode ServerName.Wf where
  read_iff := by
    intro bs entry rest
    unfold readServerName Reader.new
    simp only [bind_eq_ok_iff, okOr_eq_ok_iff, Prod.exists, pure, Except.pure, Except.ok.injEq,
      Prod.mk.injEq]
    refine ⟨fun h => ?_, fun h => ?_⟩
    · obtain ⟨nameType, ⟨tail⟩, htype, name, ⟨rest⟩, hname, rfl, rfl⟩ := h
      obtain ⟨hlen, rfl⟩ := Reader.vec16_eq_some_iff.mp hname
      exact ⟨hlen, Reader.u8_eq_some_iff.mp htype⟩
    · obtain ⟨hwf, rfl⟩ := h
      exact ⟨entry.nameType, ⟨vec 2 entry.name ++ rest⟩, Reader.u8_eq_some_iff.mpr rfl, entry.name,
        ⟨rest⟩, Reader.vec16_eq_some_iff.mpr ⟨hwf, rfl⟩, rfl, rfl⟩
  nonempty := by
    intro entry _
    exact List.cons_ne_nil _ _

/-- Reading an extension is exact for its wire form. -/
theorem readExtension_exact : Exact readExtension Extension.encode Extension.Wf where
  read_iff := by
    intro bs extension rest
    unfold readExtension Reader.new
    simp only [bind_eq_ok_iff, okOr_eq_ok_iff, Prod.exists, pure, Except.pure, Except.ok.injEq,
      Prod.mk.injEq]
    refine ⟨fun h => ?_, fun h => ?_⟩
    · obtain ⟨type, ⟨tail⟩, htype, data, ⟨rest⟩, hdata, rfl, rfl⟩ := h
      obtain ⟨hlen, rfl⟩ := Reader.vec16_eq_some_iff.mp hdata
      obtain ⟨hbound, rfl⟩ := Reader.u16_eq_some_iff.mp htype
      exact ⟨⟨hbound, hlen⟩, by rw [Extension.encode, List.append_assoc]⟩
    · obtain ⟨hwf, rfl⟩ := h
      refine ⟨extension.type, ⟨vec 2 extension.data ++ rest⟩,
        Reader.u16_eq_some_iff.mpr ⟨hwf.1, ?_⟩, extension.data, ⟨rest⟩,
        Reader.vec16_eq_some_iff.mpr ⟨hwf.2, rfl⟩, rfl, rfl⟩
      rw [Extension.encode, List.append_assoc]
  nonempty := by
    intro extension _ h
    have := congrArg List.length h
    simp [Extension.encode] at this

-- ---------------------------------------------------------------------------
-- The parser
-- ---------------------------------------------------------------------------

/-- What is done with one server name; `hostName` is the one found so far. -/
def addServerName (hostName : Option Hostname) (entry : ServerName) :
    Except ParseError (Option Hostname) := do
  rejectIf (entry.name.isEmpty = true) (.malformed "empty server name")
  if entry.nameType ≠ nameTypeHostName then return hostName
  else do
    rejectIf (hostName.isSome = true) (.malformed "multiple host_name entries")
    let name ← okOr (fromUtf8 entry.name) (.invalidServerName .invalidCharacter)
    match Hostname.parse name with
    | .error error => .error (.invalidServerName error)
    | .ok host => return some host

/-- `parse_server_name`. -/
def parseServerName (data : Bytes) : Except ParseError (Option Hostname) := do
  let (list, outer) ← okOr (Reader.new data).vec16 (.malformed "truncated server_name_list")
  rejectIf (outer.isEmpty = false) (.malformed "trailing bytes after server_name_list")
  rejectIf (list.isEmpty = true) (.malformed "empty server_name_list")
  forEach readServerName readServerName_exact.shrinks addServerName none list

/-- What is done with one extension. -/
def addExtension (state : SeenTypes × Option Hostname) (extension : Extension) :
    Except ParseError (SeenTypes × Option Hostname) := do
  let seenTypes := state.1.push extension.type
  if extension.type = extensionServerName then
    let sni ← parseServerName extension.data
    return (seenTypes, sni)
  else return (seenTypes, state.2)

/-- `windows(2)` of a slice has a pair of equal items. -/
def anyAdjacentEqual : List Nat → Bool
  | a :: b :: rest => a == b || anyAdjacentEqual (b :: rest)
  | _ => false

/-- Sort-then-scan duplicate detection. -/
def hasDuplicate (types : List Nat) : Bool :=
  anyAdjacentEqual (types.insertionSort (· ≤ ·))

/-- `parse_extensions`. -/
def parseExtensions (extensions : Bytes) : Except ParseError (Option Hostname) := do
  let (seenTypes, sni) ←
    forEach readExtension readExtension_exact.shrinks addExtension (SmallVec.new 0, none) extensions
  rejectIf (hasDuplicate seenTypes.asSlice = true) (.malformed "duplicate extension type")
  return sni

/-- The end of the body, after the compression methods. -/
def parseTail (reader : Reader) : Except ParseError (Option Hostname) :=
  -- clients older than TLS 1.2 may omit extensions entirely
  if reader.isEmpty then .ok none
  else do
    let (extensions, reader) ← okOr reader.vec16 (.malformed "truncated extensions")
    rejectIf (reader.isEmpty = false) (.malformed "trailing bytes after extensions")
    parseExtensions extensions

/-- `parse_client_hello_body`. -/
def parseClientHelloBody (body : Bytes) : Except ParseError (Option Hostname) := do
  let reader := Reader.new body
  let (version, reader) ← okOr reader.u16 (.malformed "truncated legacy_version")
  rejectIf (version >>> 8 ≠ 0x03) (.malformed "unsupported legacy_version")
  let (_, reader) ← okOr (reader.bytes randomLen) (.malformed "truncated random")
  let (sessionId, reader) ← okOr reader.vec8 (.malformed "truncated legacy_session_id")
  rejectIf (sessionId.length > maxSessionIdLen)
    (.malformed "legacy_session_id longer than 32 bytes")
  let (cipherSuites, reader) ← okOr reader.vec16 (.malformed "truncated cipher_suites")
  rejectIf (cipherSuites.isEmpty = true ∨ cipherSuites.length % 2 ≠ 0)
    (.malformed "cipher_suites length is empty or odd")
  let (compression, reader) ←
    okOr reader.vec8 (.malformed "truncated legacy_compression_methods")
  rejectIf (compression.isEmpty = true) (.malformed "empty legacy_compression_methods")
  parseTail reader

-- ---------------------------------------------------------------------------
-- Duplicate detection
-- ---------------------------------------------------------------------------

/-- In a sorted list, equal items are neighbours. -/
theorem anyAdjacentEqual_iff {types : List Nat} (hs : types.Pairwise (· ≤ ·)) :
    anyAdjacentEqual types = true ↔ ¬ types.Nodup := by
  induction types with
  | nil => simp [anyAdjacentEqual]
  | cons a rest ih =>
    cases rest with
    | nil => simp [anyAdjacentEqual]
    | cons b rest =>
      have hle := (List.pairwise_cons.mp hs).1
      have htail := (List.pairwise_cons.mp hs).2
      rw [anyAdjacentEqual, Bool.or_eq_true, beq_iff_eq, ih htail, List.nodup_cons (a := a)]
      by_cases hab : a = b
      · simp [hab]
      · -- in sorted order an equal item further on would be next
        have hnot : a ∉ b :: rest := by
          intro hmem
          rcases List.mem_cons.mp hmem with h | h
          · exact hab h
          · have h1 := (List.pairwise_cons.mp htail).1 a h
            have h2 := hle b (List.mem_cons_self ..)
            omega
        simp [hab, hnot]

/-- After sorting, comparing neighbours finds every repetition. -/
theorem hasDuplicate_iff {types : List Nat} : hasDuplicate types = true ↔ ¬ types.Nodup := by
  unfold hasDuplicate
  rw [anyAdjacentEqual_iff (List.pairwise_insertionSort _ _),
    (List.perm_insertionSort (· ≤ ·) types).nodup_iff]

-- ---------------------------------------------------------------------------
-- Errors of the body
-- ---------------------------------------------------------------------------

/-- A computation that fails only with errors of the ClientHello body. -/
def BodyErrors {α : Type} (x : Except ParseError α) : Prop :=
  ∀ error, x = .error error → ¬ error.IsRecordLayer

/-- A success has no error. -/
theorem BodyErrors.ok {α : Type} (a : α) : BodyErrors (.ok a) := by
  intro error h
  exact absurd h (by simp)

/-- A missing value gives the error at hand. -/
theorem BodyErrors.okOr {α : Type} {value : Option α} {error : ParseError}
    (h : ¬ error.IsRecordLayer) : BodyErrors (okOr value error) := by
  intro e he
  cases value with
  | none =>
    injection he with he
    exact he ▸ h
  | some a => exact absurd he (by simp [SniRouter.okOr])

/-- A failed check gives the error at hand. -/
theorem BodyErrors.rejectIf {bad : Prop} [Decidable bad] {error : ParseError}
    (h : ¬ error.IsRecordLayer) : BodyErrors (rejectIf bad error) := by
  intro e he
  unfold SniRouter.rejectIf at he
  split_ifs at he
  injection he with he
  exact he ▸ h

/-- A sequence fails where one of its parts does. -/
theorem BodyErrors.bind {α β : Type} {x : Except ParseError α} {f : α → Except ParseError β}
    (hx : BodyErrors x) (hf : ∀ a, BodyErrors (f a)) : BodyErrors (x >>= f) := by
  intro e he
  cases x with
  | error e' =>
    injection he with he
    exact he ▸ hx e' rfl
  | ok a => exact hf a e he

/-- Malformed bytes are no matter of the record layer. -/
theorem malformed_not_recordLayer {what : String} : ¬ (ParseError.malformed what).IsRecordLayer :=
  fun h => h

/-- An invalid name is no matter of the record layer. -/
theorem invalidServerName_not_recordLayer {error : NameError} :
    ¬ (ParseError.invalidServerName error).IsRecordLayer :=
  fun h => h

theorem readServerName_errors (bs : Bytes) : BodyErrors (readServerName bs) :=
  .bind (.okOr malformed_not_recordLayer) fun _ =>
    .bind (.okOr malformed_not_recordLayer) fun _ => .ok _

theorem readExtension_errors (bs : Bytes) : BodyErrors (readExtension bs) :=
  .bind (.okOr malformed_not_recordLayer) fun _ =>
    .bind (.okOr malformed_not_recordLayer) fun _ => .ok _

theorem addServerName_errors (hostName : Option Hostname) (entry : ServerName) :
    BodyErrors (addServerName hostName entry) := by
  unfold addServerName
  refine .bind (.rejectIf malformed_not_recordLayer) fun _ => ?_
  split
  · exact .ok _
  · refine .bind (.rejectIf malformed_not_recordLayer) fun _ =>
      .bind (.okOr invalidServerName_not_recordLayer) fun name => ?_
    split
    · intro e he
      injection he with he
      exact he ▸ invalidServerName_not_recordLayer
    · exact .ok _

theorem parseServerName_errors (data : Bytes) : BodyErrors (parseServerName data) := by
  unfold parseServerName
  refine .bind (.okOr malformed_not_recordLayer) fun p => ?_
  refine .bind (.rejectIf malformed_not_recordLayer) fun _ =>
    .bind (.rejectIf malformed_not_recordLayer) fun _ => ?_
  intro e he
  exact forEach_error _ (readServerName_errors _ _) (addServerName_errors _ _ _) he

theorem addExtension_errors (state : SeenTypes × Option Hostname) (extension : Extension) :
    BodyErrors (addExtension state extension) := by
  unfold addExtension
  dsimp only
  split
  · exact .bind (parseServerName_errors _) fun _ => .ok _
  · exact .ok _

theorem parseExtensions_errors (extensions : Bytes) : BodyErrors (parseExtensions extensions) := by
  unfold parseExtensions
  refine .bind ?_ fun p => .bind (.rejectIf malformed_not_recordLayer) fun _ => .ok _
  intro e he
  exact forEach_error _ (readExtension_errors _ _) (addExtension_errors _ _ _) he

theorem parseTail_errors (reader : Reader) : BodyErrors (parseTail reader) := by
  unfold parseTail
  split
  · exact .ok _
  · exact .bind (.okOr malformed_not_recordLayer) fun _ =>
      .bind (.rejectIf malformed_not_recordLayer) fun _ => parseExtensions_errors _

/-- The body parser only reports what it finds in the body. -/
theorem parseClientHelloBody_errors (body : Bytes) : BodyErrors (parseClientHelloBody body) := by
  unfold parseClientHelloBody
  dsimp only
  exact .bind (.okOr malformed_not_recordLayer) fun _ =>
    .bind (.rejectIf malformed_not_recordLayer) fun _ =>
    .bind (.okOr malformed_not_recordLayer) fun _ =>
    .bind (.okOr malformed_not_recordLayer) fun _ =>
    .bind (.rejectIf malformed_not_recordLayer) fun _ =>
    .bind (.okOr malformed_not_recordLayer) fun _ =>
    .bind (.rejectIf malformed_not_recordLayer) fun _ =>
    .bind (.okOr malformed_not_recordLayer) fun _ =>
    .bind (.rejectIf malformed_not_recordLayer) fun _ => parseTail_errors _

end SniRouter
