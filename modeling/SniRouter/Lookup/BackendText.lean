import SniRouter.Platform.IpCase
import SniRouter.Platform.IpText
import SniRouter.Lookup.Types

/-!
# SniRouter — the text of a backend

A backend is written as `[ipv6]:port`, `a.b.c.d:port` or `name:port`, and the
three forms share the colon. A parsed backend is `Canonical`: its host is an
address the parser can return, or a lowercase name that is no IP literal. Such
a backend's text is cut where it was joined, so it parses to the backend
again, and two parsed backends are equal exactly when they are written alike.
-/

namespace SniRouter

open Text

/-- `Backend`'s `Display`. -/
def Backend.display (backend : Backend) : Str :=
  match backend.host with
  | .ip (.v6 ip) =>
    openBracket :: (ip.display ++ closeBracket :: colon :: numberText 10 backend.port)
  | .ip (.v4 ip) => ip.display ++ colon :: numberText 10 backend.port
  | .dns name => name ++ colon :: numberText 10 backend.port

-- ---------------------------------------------------------------------------
-- Ports
-- ---------------------------------------------------------------------------

/-- A decimal number is made of digits. -/
theorem isAsciiDigit_mem_numberText {n : Nat} {b : UInt8} (hb : b ∈ numberText 10 n) :
    isAsciiDigit b = true := by
  obtain ⟨digit, hdigit, rfl⟩ := mem_numberText (by omega) (by omega) hb
  have hkey : ∀ d : Fin 10, isAsciiDigit (digitByte d) = true := by decide +kernel
  exact hkey ⟨digit, hdigit⟩

/-- It holds no colon. -/
theorem colon_not_mem_numberText {n : Nat} : colon ∉ numberText 10 n := by
  intro hmem
  exact absurd (isAsciiDigit_mem_numberText hmem) (by decide)

/-- A `u16` is read back from its decimal text. -/
theorem parseU16_numberText {n : Nat} (h : n < 65536) : parseU16 (numberText 10 n) = some n := by
  have hsign : stripPrefix [plus] (numberText 10 n) = none := by
    cases hs : stripPrefix [plus] (numberText 10 n) with
    | none => rfl
    | some rest =>
      have hmem : plus ∈ numberText 10 n := by
        rw [stripPrefix_eq_some_iff.mp hs]
        exact List.mem_cons_self ..
      exact absurd (isAsciiDigit_mem_numberText hmem) (by decide)
  have hall : (numberText 10 n).all isAsciiDigit = true :=
    List.all_eq_true.mpr fun b hb => isAsciiDigit_mem_numberText hb
  have hvalue : (numberText 10 n).foldl (fun acc b => acc * 10 + (b.toNat - 0x30)) 0 = n := by
    have hkey : ∀ b, isAsciiDigit b = true →
        (IpParser.toDigit 10 b).getD 0 = b.toNat - 0x30 := forall_byte (by decide +kernel)
    have hstep : (numberText 10 n).foldl (fun acc b => acc * 10 + (b.toNat - 0x30)) 0 =
        (numberText 10 n).foldl (fun acc b => acc * 10 + (IpParser.toDigit 10 b).getD 0) 0 :=
      List.foldl_ext _ _ _ fun acc b hb => by rw [hkey b (isAsciiDigit_mem_numberText hb)]
    rw [hstep, foldl_numberText (by omega) (by omega)]
  unfold parseU16 parseUnsigned
  simp only [hsign, Option.getD_none, hall, hvalue]
  simp [numberText_ne_nil, h]

/-- A port is read back from its digits. -/
theorem parsePort_numberText (port : Port) : parsePort (numberText 10 port) = some port := by
  obtain ⟨n, hpos, hlt⟩ := port
  rw [parsePort, parseU16_numberText hlt]
  simp [hpos, hlt]

-- ---------------------------------------------------------------------------
-- Cutting host and port
-- ---------------------------------------------------------------------------

/-- `[host]:port` is cut at the bracket. -/
theorem splitHostPort_bracket {host port : Str} (hhost : closeBracket ∉ host)
    (hip : (Ipv6Addr.parse host).isNone = false) :
    splitHostPort (openBracket :: (host ++ closeBracket :: colon :: port)) = .ok (host, port) := by
  have hcut : splitOnce closeBracket (host ++ closeBracket :: colon :: port) =
      some (host, colon :: port) := splitOnce_eq_some_iff.mpr ⟨hhost, rfl⟩
  have hport : stripPrefix [colon] (colon :: port) = some port :=
    stripPrefix_eq_some_iff.mpr rfl
  unfold splitHostPort
  rw [stripPrefix_eq_some_iff.mpr (List.singleton_append ..).symm]
  simp only [hcut, hport, hip]
  simp

/-- `host:port` is cut at its only colon. -/
theorem splitHostPort_plain {host port : Str} (hopen : openBracket ∉ host)
    (hhost : colon ∉ host) (hport : colon ∉ port) :
    splitHostPort (host ++ colon :: port) = .ok (host, port) := by
  have hstrip : stripPrefix [openBracket] (host ++ colon :: port) = none := by
    cases hs : stripPrefix [openBracket] (host ++ colon :: port) with
    | none => rfl
    | some rest =>
      have htext := stripPrefix_eq_some_iff.mp hs
      cases host with
      | nil => exact absurd (List.head_eq_of_cons_eq htext) (by decide)
      | cons b host =>
        have hb : b = openBracket := List.head_eq_of_cons_eq htext
        exact absurd (hb ▸ List.mem_cons_self ..) hopen
  have hcut : rsplitOnce colon (host ++ colon :: port) = some (host, port) :=
    rsplitOnce_eq_some_iff.mpr ⟨hport, rfl⟩
  unfold splitHostPort
  rw [hstrip]
  simp [hcut, hhost]

-- ---------------------------------------------------------------------------
-- Canonical backends
-- ---------------------------------------------------------------------------

/-- What the host of a parsed backend can be. -/
def BackendHost.Canonical : BackendHost → Prop
  | .ip addr => addr.WellFormed
  | .dns name =>
    toAsciiLowercase name = name ∧ validateDnsName name = .ok () ∧ IpAddr.parse name = none

/-- A parsed host is in canonical form. -/
theorem parseBackendHost_canonical {host : Str} {parsed : BackendHost}
    (h : parseBackendHost host = .ok parsed) : parsed.Canonical := by
  unfold parseBackendHost at h
  split at h
  · next ip hip =>
    injection h with h
    subst h
    exact IpAddr.parse_wellFormed hip
  · next hip =>
    dsimp only at h
    split at h
    · exact absurd h (by simp)
    · next hvalid =>
      injection h with h
      subst h
      refine ⟨toAsciiLowercase_idem host, hvalid, ?_⟩
      rw [IpAddr.parse_toAsciiLowercase, hip]

/-- The three parts of a backend are parsed one by one. -/
theorem Backend.parse_eq_ok_iff {value : Str} {backend : Backend} :
    Backend.parse value = .ok backend ↔
      ∃ host port, splitHostPort value = .ok (host, port) ∧
        parsePort port = some backend.port ∧ parseBackendHost host = .ok backend.host := by
  obtain ⟨bhost, bport⟩ := backend
  unfold Backend.parse
  cases hsplit : splitHostPort value with
  | error e => simp [bind, Except.bind]
  | ok p =>
    obtain ⟨host, port⟩ := p
    cases hport : parsePort port with
    | none => simp [bind, Except.bind, hport]
    | some n =>
      cases hhost : parseBackendHost host with
      | error e => simp [bind, Except.bind, hport, hhost]
      | ok parsed => simp [bind, Except.bind, pure, Except.pure, hport, hhost, and_comm]

/-- A parsed name is read back as itself. -/
theorem parseBackendHost_dns {name : Str} (h : (BackendHost.dns name).Canonical) :
    parseBackendHost name = .ok (.dns name) := by
  obtain ⟨hlower, hvalid, hip⟩ := h
  unfold parseBackendHost
  simp only [hip, hlower, hvalid]

/-- A displayed backend is read back. -/
theorem Backend.parse_display {backend : Backend} (h : backend.host.Canonical) :
    Backend.parse backend.display = .ok backend := by
  obtain ⟨host, port⟩ := backend
  refine Backend.parse_eq_ok_iff.mpr ?_
  have hport := parsePort_numberText port
  cases host with
  | ip ip =>
    cases ip with
    | v4 ip =>
      have hbytes : ∀ b, ¬ (b = dot ∨ isAsciiDigit b = true) → b ∉ ip.display :=
        fun b hb hmem => hb (Ipv4Addr.mem_display hmem)
      refine ⟨ip.display, numberText 10 port, ?_, hport, ?_⟩
      · exact splitHostPort_plain (hbytes _ (by decide)) (hbytes _ (by decide))
          colon_not_mem_numberText
      · have hip : IpAddr.parse ip.display = some (.v4 ip) := @IpAddr.parse_display (.v4 ip) h
        simp only [parseBackendHost, hip]
    | v6 ip =>
      have hv6 : Ipv6Addr.parse ip.display = some ip := Ipv6Addr.parse_display h
      refine ⟨ip.display, numberText 10 port, ?_, hport, ?_⟩
      · exact splitHostPort_bracket ip.closeBracket_not_mem_display (by rw [hv6]; rfl)
      · simp only [parseBackendHost, IpAddr.parse_of_ipv6 hv6]
  | dns name =>
    have hbytes : ∀ b, ¬ (b = dot ∨ isLabelByte b = true) → b ∉ name :=
      fun b hb hmem => hb (mem_of_validateDnsName h.2.1 hmem)
    refine ⟨name, numberText 10 port, ?_, hport, parseBackendHost_dns h⟩
    exact splitHostPort_plain (hbytes _ (by decide)) (hbytes _ (by decide))
      colon_not_mem_numberText

-- ---------------------------------------------------------------------------
-- Case
-- ---------------------------------------------------------------------------

/-- Digits have no case, and a port with any other byte than a leading plus is
rejected either way. -/
theorem parseU16_toAsciiLowercase (s : Str) : parseU16 (toAsciiLowercase s) = parseU16 s := by
  have hplus : Caseless plus := forall_byte (by decide +kernel)
  have hdigits : (stripPrefix [plus] (toAsciiLowercase s)).getD (toAsciiLowercase s) =
      toAsciiLowercase ((stripPrefix [plus] s).getD s) := by
    rw [stripPrefix_toAsciiLowercase hplus]
    cases stripPrefix [plus] s <;> rfl
  have hdigit : ∀ b, isAsciiDigit (toAsciiLowercaseByte b) = isAsciiDigit b :=
    forall_byte (by decide +kernel)
  have hsame : ∀ b, isAsciiDigit b = true → toAsciiLowercaseByte b = b :=
    forall_byte (by decide +kernel)
  unfold parseU16 parseUnsigned
  simp only [hdigits]
  generalize (stripPrefix [plus] s).getD s = digits
  have hall : (toAsciiLowercase digits).all isAsciiDigit = digits.all isAsciiDigit := by
    simp [toAsciiLowercase, Function.comp_def, hdigit]
  by_cases hd : digits.all isAsciiDigit = true
  · have hlower : toAsciiLowercase digits = digits :=
      (List.map_congr_left fun b hb => hsame b (List.all_eq_true.mp hd b hb)).trans
        (List.map_id _)
    rw [hlower]
  · rw [Bool.not_eq_true] at hd
    simp [hall, hd]

theorem parseBackendHost_toAsciiLowercase (host : Str) :
    parseBackendHost (toAsciiLowercase host) = parseBackendHost host := by
  simp only [parseBackendHost, IpAddr.parse_toAsciiLowercase, toAsciiLowercase_idem]

/-- The separators have no case, so the cut is in the same place. -/
theorem splitHostPort_toAsciiLowercase (value : Str) :
    splitHostPort (toAsciiLowercase value) =
      (splitHostPort value).map fun p => (toAsciiLowercase p.1, toAsciiLowercase p.2) := by
  unfold splitHostPort
  rw [stripPrefix_toAsciiLowercase caseless_openBracket]
  cases stripPrefix [openBracket] value with
  | some rest =>
    simp only [Option.map_some, splitOnce_toAsciiLowercase caseless_closeBracket]
    cases splitOnce closeBracket rest with
    | none => rfl
    | some p =>
      simp only [Option.map_some, stripPrefix_toAsciiLowercase caseless_colon,
        Ipv6Addr.parse_toAsciiLowercase]
      cases stripPrefix [colon] p.2 with
      | none => rfl
      | some port =>
        dsimp only [Option.map_some]
        split_ifs <;> rfl
  | none =>
    simp only [Option.map_none, rsplitOnce_toAsciiLowercase caseless_colon]
    cases rsplitOnce colon value with
    | none => rfl
    | some p =>
      simp only [Option.map_some, List.contains_iff_mem, mem_toAsciiLowercase caseless_colon]
      split_ifs <;> rfl

theorem Backend.parse_toAsciiLowercase (value : Str) :
    Backend.parse (toAsciiLowercase value) = Backend.parse value := by
  unfold Backend.parse
  rw [splitHostPort_toAsciiLowercase]
  cases splitHostPort value with
  | error e => rfl
  | ok p =>
    simp only [Except.map, bind, Except.bind, parsePort, parseU16_toAsciiLowercase,
      parseBackendHost_toAsciiLowercase]

/-- **Backend text round-trips.** A parsed backend's text parses to the
backend; two parsed backends are equal exactly when their texts are; and
strings that differ in ASCII case only, in the name of a DNS host or anywhere
else, parse alike. -/
theorem backend_text_roundTrip :
    (∀ value backend, Backend.parse value = .ok backend →
      Backend.parse backend.display = .ok backend) ∧
    (∀ value value' backend backend', Backend.parse value = .ok backend →
      Backend.parse value' = .ok backend' →
      (backend = backend' ↔ backend.display = backend'.display)) ∧
    (∀ value value', toAsciiLowercase value' = toAsciiLowercase value →
      Backend.parse value' = Backend.parse value) := by
  have hround : ∀ value backend, Backend.parse value = .ok backend →
      Backend.parse backend.display = .ok backend := by
    intro value backend h
    obtain ⟨host, port, -, -, hhost⟩ := Backend.parse_eq_ok_iff.mp h
    exact Backend.parse_display (parseBackendHost_canonical hhost)
  refine ⟨hround, ?_, ?_⟩
  · intro value value' backend backend' h h'
    refine ⟨congrArg Backend.display, fun htext => ?_⟩
    have hself := hround value backend h
    rw [htext, hround value' backend' h'] at hself
    injection hself with hself
    exact hself.symm
  · intro value value' hcase
    rw [← Backend.parse_toAsciiLowercase value', hcase, Backend.parse_toAsciiLowercase]

end SniRouter
