import SniRouter.Protocol.Hello

/-!
# SniRouter — the ClientHello body grammar

`ClientHelloBody` is a well-formed body, `encode` its wire form and
`ServerNameIs` the SNI it names. `parseClientHelloBody_ok_iff` shows that the
parser accepts exactly the wire forms and returns exactly that SNI.

The argument follows the three nested loops from the inside out: a
server_name_list (`parseServerName_ok_iff`), an extensions block
(`parseExtensions_ok_iff`), the body.
-/

namespace SniRouter

open Framing Text

-- ---------------------------------------------------------------------------
-- The grammar
-- ---------------------------------------------------------------------------

/-- The host_name among the entries of a list: at most one, valid UTF-8 and a
hostname. -/
def HostNameIs (entries : List ServerName) (sni : Option Hostname) : Prop :=
  match entries.filter (·.nameType = nameTypeHostName) with
  | [] => sni = none
  | [entry] => ∃ name host, fromUtf8 entry.name = some name ∧
      Hostname.parse name = .ok host ∧ sni = some host
  | _ => False

/-- The data of a server_name extension: exactly one non-empty list of entries
with non-empty names. -/
def ServerNameDataIs (data : Bytes) (sni : Option Hostname) : Prop :=
  ∃ entries : List ServerName, entries ≠ [] ∧ (∀ entry ∈ entries, entry.Wf ∧ entry.name ≠ []) ∧
    (entries.flatMap ServerName.encode).length < 65536 ∧
    data = vec 2 (entries.flatMap ServerName.encode) ∧ HostNameIs entries sni

/-- The SNI an extensions block names. -/
def ExtensionsSniIs (extensions : List Extension) (sni : Option Hostname) : Prop :=
  (∀ extension ∈ extensions, extension.type = extensionServerName →
    ServerNameDataIs extension.data sni) ∧
  ((∀ extension ∈ extensions, extension.type ≠ extensionServerName) → sni = none)

/-- An extensions block: entries of pairwise distinct types. -/
structure ExtensionsBlock where
  extensions : List Extension
  wf         : ∀ extension ∈ extensions, extension.Wf
  nodup      : (extensions.map Extension.type).Nodup

/-- The wire form of the block. -/
def ExtensionsBlock.encode (block : ExtensionsBlock) : Bytes :=
  block.extensions.flatMap Extension.encode

/-- A well-formed ClientHello body. The major version byte is 3. -/
structure ClientHelloBody where
  versionMinor       : UInt8
  random             : Bytes
  sessionId          : Bytes
  cipherSuites       : Bytes
  compressionMethods : Bytes
  extensions         : Option ExtensionsBlock
  random_len         : random.length = randomLen
  sessionId_le       : sessionId.length ≤ maxSessionIdLen
  cipherSuites_ne    : cipherSuites ≠ []
  cipherSuites_even  : cipherSuites.length % 2 = 0
  cipherSuites_lt    : cipherSuites.length < 65536
  compression_ne     : compressionMethods ≠ []
  compression_lt     : compressionMethods.length < 256
  extensions_lt      : ∀ block, extensions = some block → block.encode.length < 65536

/-- The wire form of the body. -/
def ClientHelloBody.encode (hello : ClientHelloBody) : Bytes :=
  3 :: hello.versionMinor :: (hello.random ++ vec 1 hello.sessionId ++ vec 2 hello.cipherSuites ++
    vec 1 hello.compressionMethods ++ (hello.extensions.elim [] fun block => vec 2 block.encode))

/-- The SNI that a body carries. -/
def ClientHelloBody.ServerNameIs (hello : ClientHelloBody) (sni : Option Hostname) : Prop :=
  hello.extensions.elim (sni = none) fun block => ExtensionsSniIs block.extensions sni

-- ---------------------------------------------------------------------------
-- Server names
-- ---------------------------------------------------------------------------

/-- One round of the server name loop. -/
theorem addServerName_ok_iff {hostName sni : Option Hostname} {entry : ServerName} :
    addServerName hostName entry = .ok sni ↔ entry.name ≠ [] ∧
      if entry.nameType = nameTypeHostName then
        hostName = none ∧ ∃ name host, fromUtf8 entry.name = some name ∧
          Hostname.parse name = .ok host ∧ sni = some host
      else sni = hostName := by
  unfold addServerName
  simp only [bind_eq_ok_iff, rejectIf_eq_ok_iff, List.isEmpty_iff, exists_const]
  by_cases htype : entry.nameType = nameTypeHostName
  · simp only [htype, ne_eq, not_true_eq_false, if_false, if_true, bind_eq_ok_iff,
      rejectIf_eq_ok_iff, okOr_eq_ok_iff, exists_const]
    rw [Bool.not_eq_true, Option.isSome_eq_false_iff, Option.isNone_iff_eq_none]
    refine and_congr_right fun _ => and_congr_right fun _ => exists_congr fun name => ?_
    cases hparse : Hostname.parse name with
    | error e => simp
    | ok host => simp [pure, Except.pure, eq_comm]
  · simp [htype, pure, Except.pure, eq_comm]

/-- The fold of the loop from a state with a host_name: nothing more may come. -/
theorem foldlM_addServerName_some {entries : List ServerName} {host : Hostname}
    {sni : Option Hostname} :
    entries.foldlM addServerName (some host) = .ok sni ↔
      (∀ entry ∈ entries, entry.name ≠ []) ∧
        entries.filter (·.nameType = nameTypeHostName) = [] ∧ sni = some host := by
  induction entries with
  | nil => simp [pure, Except.pure, eq_comm]
  | cons entry entries ih =>
    rw [List.foldlM_cons, bind_eq_ok_iff]
    simp only [addServerName_ok_iff, List.forall_mem_cons, List.filter_cons]
    by_cases htype : entry.nameType = nameTypeHostName
    · simp [htype]
    · simp only [htype, if_false, decide_false, Bool.false_eq_true]
      simp only [and_assoc, exists_and_left, exists_eq_left, ih]

/-- The fold of the whole loop picks the only host_name. -/
theorem foldlM_addServerName_none {entries : List ServerName} {sni : Option Hostname} :
    entries.foldlM addServerName none = .ok sni ↔
      (∀ entry ∈ entries, entry.name ≠ []) ∧ HostNameIs entries sni := by
  induction entries with
  | nil => simp [HostNameIs, pure, Except.pure, eq_comm]
  | cons entry entries ih =>
    rw [List.foldlM_cons, bind_eq_ok_iff]
    simp only [addServerName_ok_iff, List.forall_mem_cons]
    by_cases htype : entry.nameType = nameTypeHostName
    · -- this entry is the host_name: the rest holds none
      simp only [htype, if_true, true_and, HostNameIs, List.filter_cons, decide_true]
      refine ⟨fun h => ?_, fun h => ?_⟩
      · obtain ⟨found, ⟨hne, name, host, hname, hparse, rfl⟩, hrest⟩ := h
        obtain ⟨hnes, hfilter, rfl⟩ := foldlM_addServerName_some.mp hrest
        rw [hfilter]
        exact ⟨⟨hne, hnes⟩, name, host, hname, hparse, rfl⟩
      · obtain ⟨⟨hne, hnes⟩, h⟩ := h
        cases hfilter : entries.filter (·.nameType = nameTypeHostName) with
        | nil =>
          rw [hfilter] at h
          obtain ⟨name, host, hname, hparse, rfl⟩ := h
          exact ⟨some host, ⟨hne, name, host, hname, hparse, rfl⟩,
            foldlM_addServerName_some.mpr ⟨hnes, hfilter, rfl⟩⟩
        | cons other others =>
          rw [hfilter] at h
          exact h.elim
    · have hskip : HostNameIs (entry :: entries) sni ↔ HostNameIs entries sni := by
        unfold HostNameIs
        rw [List.filter_cons_of_neg (by simpa using htype)]
      rw [hskip]
      simp only [htype, if_false, and_assoc, exists_and_left, exists_eq_left, ih]

/-- The extension parses to an SNI exactly when its data say it. -/
theorem parseServerName_ok_iff {data : Bytes} {sni : Option Hostname} :
    parseServerName data = .ok sni ↔ ServerNameDataIs data sni := by
  unfold parseServerName Reader.new ServerNameDataIs
  simp only [bind_eq_ok_iff, okOr_eq_ok_iff, rejectIf_eq_ok_iff, exists_const, Prod.exists,
    forEach_ok_iff readServerName_exact, foldlM_addServerName_none]
  simp only [Reader.isEmpty, Bool.not_eq_false, List.isEmpty_iff]
  refine ⟨fun h => ?_, fun h => ?_⟩
  · obtain ⟨list, ⟨rest⟩, hread, rfl, hne, entries, hwf, rfl, hnames, hhost⟩ := h
    obtain ⟨hlen, hdata⟩ := Reader.vec16_eq_some_iff.mp hread
    refine ⟨entries, ?_, fun entry he => ⟨hwf entry he, hnames entry he⟩, hlen, ?_, hhost⟩
    · intro hnil
      exact hne (by rw [hnil]; rfl)
    · rw [hdata, List.append_nil]
  · obtain ⟨entries, hne, hwf, hlen, rfl, hhost⟩ := h
    refine ⟨entries.flatMap ServerName.encode, ⟨[]⟩, ?_, rfl, ?_, entries,
      fun entry he => (hwf entry he).1, rfl, fun entry he => (hwf entry he).2, hhost⟩
    · exact Reader.vec16_eq_some_iff.mpr ⟨hlen, (List.append_nil _).symm⟩
    · intro hnil
      obtain ⟨entry, entries, rfl⟩ := List.exists_cons_of_ne_nil hne
      exact absurd hnil (by simp [ServerName.encode])

-- ---------------------------------------------------------------------------
-- Extensions
-- ---------------------------------------------------------------------------

/-- One round of the extension loop. -/
theorem addExtension_ok_iff {state state' : SeenTypes × Option Hostname} {extension : Extension} :
    addExtension state extension = .ok state' ↔ state'.1 = state.1.push extension.type ∧
      if extension.type = extensionServerName then ServerNameDataIs extension.data state'.2
      else state'.2 = state.2 := by
  obtain ⟨seen', sni'⟩ := state'
  unfold addExtension
  by_cases htype : extension.type = extensionServerName
  · simp only [htype, if_true, bind_eq_ok_iff, parseServerName_ok_iff, pure, Except.pure,
      Except.ok.injEq, Prod.mk.injEq]
    refine ⟨fun h => ?_, fun h => ?_⟩
    · obtain ⟨sni, hdata, rfl, rfl⟩ := h
      exact ⟨rfl, hdata⟩
    · exact ⟨sni', h.2, h.1.symm, rfl⟩
  · simp [htype, pure, Except.pure, eq_comm]

/-- The loop collects the types in order. -/
theorem foldlM_addExtension_types {extensions : List Extension}
    {state state' : SeenTypes × Option Hostname}
    (h : extensions.foldlM addExtension state = .ok state') :
    state'.1.asSlice = state.1.asSlice ++ extensions.map Extension.type := by
  induction extensions generalizing state with
  | nil =>
    injection h with h
    simp [h]
  | cons extension extensions ih =>
    obtain ⟨state₁, hadd, hrest⟩ := bind_eq_ok_iff.mp h
    rw [ih hrest, (addExtension_ok_iff.mp hadd).1, SmallVec.asSlice_push]
    simp

/-- Without a server_name extension the loop leaves the SNI alone. -/
theorem foldlM_addExtension_none {extensions : List Extension} {seen : SeenTypes}
    {sni : Option Hostname} {state' : SeenTypes × Option Hostname}
    (hno : ∀ extension ∈ extensions, extension.type ≠ extensionServerName) :
    extensions.foldlM addExtension (seen, sni) = .ok state' ↔
      state'.1 = extensions.foldl (fun s e => s.push e.type) seen ∧ state'.2 = sni := by
  induction extensions generalizing seen with
  | nil =>
    obtain ⟨seen', sni'⟩ := state'
    simp [pure, Except.pure, eq_comm]
  | cons extension extensions ih =>
    have hne := hno extension (List.mem_cons_self ..)
    have hrest := fun e he => hno e (List.mem_cons_of_mem _ he)
    rw [List.foldlM_cons, bind_eq_ok_iff, List.foldl_cons, ← ih hrest]
    simp only [addExtension_ok_iff, if_neg hne]
    refine ⟨fun h => ?_, fun h => ?_⟩
    · obtain ⟨⟨seen₁, sni₁⟩, ⟨rfl, rfl⟩, hfold⟩ := h
      exact hfold
    · exact ⟨_, ⟨rfl, rfl⟩, h⟩

/-- With pairwise distinct types the loop returns the SNI of the block. -/
theorem foldlM_addExtension_ok_iff {extensions : List Extension} {seen : SeenTypes}
    {state' : SeenTypes × Option Hostname} (hnodup : (extensions.map Extension.type).Nodup) :
    extensions.foldlM addExtension (seen, none) = .ok state' ↔
      state'.1 = extensions.foldl (fun s e => s.push e.type) seen ∧
        ExtensionsSniIs extensions state'.2 := by
  induction extensions generalizing seen with
  | nil => rw [foldlM_addExtension_none (by simp)]; simp [ExtensionsSniIs]
  | cons extension extensions ih =>
    rw [List.map_cons, List.nodup_cons] at hnodup
    rw [List.foldlM_cons, bind_eq_ok_iff, List.foldl_cons]
    by_cases htype : extension.type = extensionServerName
    · -- no later extension has this type
      have hno : ∀ e ∈ extensions, e.type ≠ extensionServerName := by
        intro e he heq
        exact hnodup.1 (List.mem_map.mpr ⟨e, he, heq.trans htype.symm⟩)
      have hsni : ExtensionsSniIs (extension :: extensions) state'.2 ↔
          ServerNameDataIs extension.data state'.2 := by
        refine ⟨fun h => h.1 extension (List.mem_cons_self ..) htype, fun h => ⟨?_, ?_⟩⟩
        · intro e he heq
          rcases List.mem_cons.mp he with rfl | he
          · exact h
          · exact absurd heq (hno e he)
        · intro hall
          exact absurd htype (hall extension (List.mem_cons_self ..))
      rw [hsni]
      simp only [addExtension_ok_iff, if_pos htype]
      refine ⟨fun h => ?_, fun h => ?_⟩
      · obtain ⟨⟨seen₁, sni₁⟩, ⟨rfl, hdata⟩, hfold⟩ := h
        obtain ⟨hseen, rfl⟩ := (foldlM_addExtension_none hno).mp hfold
        exact ⟨hseen, hdata⟩
      · exact ⟨(_, state'.2), ⟨rfl, h.2⟩, (foldlM_addExtension_none hno).mpr ⟨h.1, rfl⟩⟩
    · have hsni : ExtensionsSniIs (extension :: extensions) state'.2 ↔
          ExtensionsSniIs extensions state'.2 := by
        simp [ExtensionsSniIs, htype]
      rw [hsni, ← ih hnodup.2]
      simp only [addExtension_ok_iff, if_neg htype]
      refine ⟨fun h => ?_, fun h => ⟨_, ⟨rfl, rfl⟩, h⟩⟩
      obtain ⟨⟨seen₁, sni₁⟩, ⟨rfl, rfl⟩, hfold⟩ := h
      exact hfold

/-- The block parses to an SNI exactly when its extensions say it. -/
theorem parseExtensions_ok_iff {bs : Bytes} {sni : Option Hostname} :
    parseExtensions bs = .ok sni ↔
      ∃ block : ExtensionsBlock, bs = block.encode ∧ ExtensionsSniIs block.extensions sni := by
  unfold parseExtensions
  simp only [bind_eq_ok_iff, Prod.exists, forEach_ok_iff readExtension_exact, rejectIf_eq_ok_iff,
    hasDuplicate_iff, not_not, exists_const, pure, Except.pure, Except.ok.injEq]
  refine ⟨fun h => ?_, fun h => ?_⟩
  · obtain ⟨seen, sni', ⟨extensions, hwf, hbs, hfold⟩, hnodup, rfl⟩ := h
    rw [foldlM_addExtension_types hfold, SmallVec.asSlice_new, List.nil_append] at hnodup
    exact ⟨⟨extensions, hwf, hnodup⟩, hbs, ((foldlM_addExtension_ok_iff hnodup).mp hfold).2⟩
  · obtain ⟨⟨extensions, hwf, hnodup⟩, hbs, hsni⟩ := h
    have hfold : extensions.foldlM addExtension (SmallVec.new 0, none) =
        .ok (extensions.foldl (fun s e => s.push e.type) (SmallVec.new 0), sni) :=
      (foldlM_addExtension_ok_iff hnodup).mpr ⟨rfl, hsni⟩
    refine ⟨_, sni, ⟨extensions, hwf, hbs, hfold⟩, ?_, rfl⟩
    rw [foldlM_addExtension_types hfold, SmallVec.asSlice_new, List.nil_append]
    exact hnodup

-- ---------------------------------------------------------------------------
-- The body
-- ---------------------------------------------------------------------------

/-- A legacy_version is accepted when its first byte is 3. -/
theorem version_iff {version : Nat} (hlt : version < 65536) :
    version >>> 8 = 3 ↔ ∃ minor : UInt8, beBytes 2 version = [3, minor] := by
  have hspell : beBytes 2 version = [UInt8.ofNat (version / 256), UInt8.ofNat version] := rfl
  have hdiv : version / 256 < 256 := by omega
  rw [hspell, Nat.shiftRight_eq_div_pow]
  refine ⟨fun h => ⟨UInt8.ofNat version, ?_⟩, fun h => ?_⟩
  · rw [show version / 256 = 3 from h]
    rfl
  · obtain ⟨minor, heq⟩ := h
    have hfirst : UInt8.ofNat (version / 256) = 3 := (List.cons.inj heq).1
    have hnat := congrArg UInt8.toNat hfirst
    rw [UInt8.toNat_ofNat', Nat.mod_eq_of_lt hdiv] at hnat
    exact hnat

/-- What follows the compression methods: nothing, or one extensions block. -/
theorem parseTail_ok_iff {tail : Bytes} {sni : Option Hostname} :
    parseTail ⟨tail⟩ = .ok sni ↔
      ∃ extensions : Option ExtensionsBlock,
        (∀ block, extensions = some block → block.encode.length < 65536) ∧
        tail = (extensions.elim [] fun block => vec 2 block.encode) ∧
        extensions.elim (sni = none) fun block => ExtensionsSniIs block.extensions sni := by
  unfold parseTail
  by_cases hnil : tail = []
  · subst hnil
    rw [if_pos (show (Reader.mk []).isEmpty = true from rfl)]
    refine ⟨fun h => ?_, fun h => ?_⟩
    · injection h with h
      exact ⟨none, by simp, rfl, h.symm⟩
    · obtain ⟨extensions, _, htail, hsni⟩ := h
      cases extensions with
      | none => exact congrArg Except.ok hsni.symm
      | some block =>
        -- a length prefix is never empty
        have hlen : 0 = 2 + block.encode.length := by
          simpa using congrArg List.length htail
        omega
  · rw [if_neg (by simpa [Reader.isEmpty] using hnil)]
    simp only [bind_eq_ok_iff, okOr_eq_ok_iff, rejectIf_eq_ok_iff, exists_const, Prod.exists,
      parseExtensions_ok_iff]
    simp only [Reader.isEmpty, Bool.not_eq_false, List.isEmpty_iff]
    refine ⟨fun h => ?_, fun h => ?_⟩
    · obtain ⟨data, ⟨rest⟩, hread, rfl, block, rfl, hsni⟩ := h
      obtain ⟨hlen, htail⟩ := Reader.vec16_eq_some_iff.mp hread
      refine ⟨some block, ?_, by rw [htail, List.append_nil]; rfl, hsni⟩
      intro b hb
      injection hb with hb
      exact hb ▸ hlen
    · obtain ⟨extensions, hlen, htail, hsni⟩ := h
      cases extensions with
      | none => exact absurd htail hnil
      | some block =>
        refine ⟨block.encode, ⟨[]⟩, ?_, rfl, block, rfl, hsni⟩
        rw [Reader.vec16_eq_some_iff, List.append_nil]
        exact ⟨hlen block rfl, htail⟩

/-- **The body parser accepts exactly its grammar.** A body is accepted with
`sni` when it is the wire form of a well-formed ClientHello naming `sni`, and
only then. -/
theorem parseClientHelloBody_ok_iff {body : Bytes} {sni : Option Hostname} :
    parseClientHelloBody body = .ok sni ↔
      ∃ hello : ClientHelloBody, body = hello.encode ∧ hello.ServerNameIs sni := by
  unfold parseClientHelloBody Reader.new
  simp only [bind_eq_ok_iff, okOr_eq_ok_iff, rejectIf_eq_ok_iff, exists_const, Prod.exists]
  refine ⟨fun h => ?_, fun h => ?_⟩
  · obtain ⟨version, ⟨r₁⟩, hversion, hmajor, random, ⟨r₂⟩, hrandom, sessionId, ⟨r₃⟩, hsession,
      hsessionLe, cipherSuites, ⟨r₄⟩, hciphers, hcipherOk, compression, ⟨r₅⟩, hcompression,
      hcompressionNe, htail⟩ := h
    obtain ⟨hversionLt, rfl⟩ := Reader.u16_eq_some_iff.mp hversion
    obtain ⟨hrandomLen, rfl⟩ := Reader.bytes_eq_some_iff.mp hrandom
    obtain ⟨hsessionLt, rfl⟩ := Reader.vec8_eq_some_iff.mp hsession
    obtain ⟨hcipherLt, rfl⟩ := Reader.vec16_eq_some_iff.mp hciphers
    obtain ⟨hcompressionLt, rfl⟩ := Reader.vec8_eq_some_iff.mp hcompression
    obtain ⟨minor, hminor⟩ := (version_iff hversionLt).mp (not_not.mp hmajor)
    obtain ⟨extensions, hextLt, rfl, hsni⟩ := parseTail_ok_iff.mp htail
    obtain ⟨hcipherNe, hcipherEven⟩ := not_or.mp hcipherOk
    refine ⟨⟨minor, random, sessionId, cipherSuites, compression, extensions, hrandomLen,
      by omega, ?_, by omega, hcipherLt, ?_, hcompressionLt, hextLt⟩, ?_, hsni⟩
    · simpa using hcipherNe
    · simpa using hcompressionNe
    · rw [hminor]
      simp [ClientHelloBody.encode, List.append_assoc]
  · obtain ⟨hello, rfl, hsni⟩ := h
    have hminor := hello.versionMinor.toNat_lt
    have hversion : beBytes 2 (3 * 256 + hello.versionMinor.toNat) = [3, hello.versionMinor] :=
      beBytes_beNat [3, hello.versionMinor]
    have hversionLt : 3 * 256 + hello.versionMinor.toNat < 65536 := by omega
    have hencode : hello.encode = beBytes 2 (3 * 256 + hello.versionMinor.toNat) ++
        (hello.random ++ (vec 1 hello.sessionId ++ (vec 2 hello.cipherSuites ++
          (vec 1 hello.compressionMethods ++
            hello.extensions.elim [] fun block => vec 2 block.encode)))) := by
      rw [hversion]
      simp [ClientHelloBody.encode, List.append_assoc]
    refine ⟨3 * 256 + hello.versionMinor.toNat, ⟨_⟩,
      Reader.u16_eq_some_iff.mpr ⟨hversionLt, hencode⟩,
      not_not.mpr ((version_iff hversionLt).mpr ⟨_, hversion⟩),
      hello.random, ⟨_⟩, Reader.bytes_eq_some_iff.mpr ⟨hello.random_len, rfl⟩,
      hello.sessionId, ⟨_⟩, Reader.vec8_eq_some_iff.mpr ⟨?_, rfl⟩, ?_,
      hello.cipherSuites, ⟨_⟩, Reader.vec16_eq_some_iff.mpr ⟨hello.cipherSuites_lt, rfl⟩, ?_,
      hello.compressionMethods, ⟨_⟩, Reader.vec8_eq_some_iff.mpr ⟨hello.compression_lt, rfl⟩, ?_,
      parseTail_ok_iff.mpr ⟨hello.extensions, hello.extensions_lt, rfl, hsni⟩⟩
    · have hle := hello.sessionId_le
      unfold maxSessionIdLen at hle
      omega
    · have hle := hello.sessionId_le
      omega
    · have hne := hello.cipherSuites_ne
      have heven := hello.cipherSuites_even
      simp [hne, heven]
    · simpa using hello.compression_ne

end SniRouter
