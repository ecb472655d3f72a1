import SniRouter.Lookup.KeyText
import SniRouter.Routing.SelectRoute

/-!
# SniRouter — routes some name can reach

An accepted key is live when a table holding only that key resolves some
hostname to it. An exact key is its own hostname. A wildcard `*.P` is checked
through `P` alone, so `P` may use up the 253 bytes of a name; the names it
covers are a label and a dot longer.
-/

namespace SniRouter

open Text

/-- A table holding only `key`. -/
def tableOf (key : RouteKey) (backend : Backend) : InMemoryLookup :=
  (InMemoryLookup.new.insert key backend).1

/-- Some hostname is resolved to the key: the key itself, or for a wildcard a
one-label extension of its parent. -/
def RouteKey.Live (key : RouteKey) (backend : Backend) : Prop :=
  ∃ host : Hostname,
    resolveRoute (tableOf key backend).lookup host = .ok ⟨key, backend⟩ ∧
    if key.wildcard then
      RouteKey.wildcardFor host = some key ∧
        ∃ label parent, dot ∉ label ∧ key.text = wildcardPrefix ++ parent ∧
          host.text = label ++ dot :: parent
    else host.text = key.text

/-- A table of one route. -/
theorem tableOf_get (key : RouteKey) (backend : Backend) (k : RouteKey) :
    (tableOf key backend).get k = if k = key then some backend else none := by
  unfold tableOf InMemoryLookup.insert InMemoryLookup.get
  rw [Map.lookup_insert]
  split_ifs <;> rfl

/-- The exact key of a hostname is found under the hostname. -/
theorem resolveRoute_tableOf_exact (host : Hostname) (backend : Backend) :
    resolveRoute (tableOf (RouteKey.exact host) backend).lookup host =
      .ok ⟨RouteKey.exact host, backend⟩ := by
  rw [resolveRoute_eq_ok_iff, tableOf_get]
  simp

/-- A wildcard key is found under every hostname it is the wildcard of. -/
theorem resolveRoute_tableOf_wildcard {host : Hostname} {key : RouteKey}
    (h : RouteKey.wildcardFor host = some key) (backend : Backend) :
    resolveRoute (tableOf key backend).lookup host = .ok ⟨key, backend⟩ := by
  rw [resolveRoute_eq_ok_iff]
  refine ⟨by simp [tableOf_get], Or.inr ⟨?_, h⟩⟩
  -- the two keys differ in their flag
  have hne : RouteKey.exact host ≠ key := by
    obtain ⟨label, parent, -, -, -, rfl⟩ := RouteKey.wildcardFor_eq_some_iff.mp h
    simp [RouteKey.exact]
  rw [tableOf_get, if_neg hne]

/-- The byte of the label put before a parent: no digit of any radix an
address is read in. -/
def labelByte : UInt8 := 0x78

/-- A name that starts with the byte is no IP literal. -/
theorem parse_cons_labelByte (s : Str) : IpAddr.parse (labelByte :: s) = none := by
  have hnumber : ∀ radix maxDigits maxValue allowZeroPrefix,
      IpParser.toDigit radix labelByte = none →
      IpParser.readNumber radix maxDigits maxValue allowZeroPrefix (labelByte :: s) = none := by
    intro radix maxDigits maxValue allowZeroPrefix hdigit
    refine IpParser.readNumber_eq_none fun b hb => ?_
    obtain rfl := Option.some.inj hb
    exact hdigit
  have hv4 : IpParser.readIpv4Addr (labelByte :: s) = none := by
    rw [IpParser.readIpv4Addr, IpParser.readOctets, IpParser.readSeparator_zero,
      hnumber _ _ _ _ (by decide)]
    rfl
  have hgroups : IpParser.readGroups 8 0 (labelByte :: s) = ([], false, labelByte :: s) := by
    rw [IpParser.readGroups, IpParser.readSeparator_zero, IpParser.readSeparator_zero, hv4,
      hnumber _ _ _ _ (by decide)]
    simp
  have hcolon : IpParser.readGivenChar colon (labelByte :: s) = none := by
    rw [IpParser.readGivenChar, if_neg (by decide)]
  have hv6 : IpParser.readIpv6Addr (labelByte :: s) = none := by
    unfold IpParser.readIpv6Addr
    simp [hgroups, hcolon]
  unfold IpAddr.parse parseWith
  simp [hv4, hv6]

/-- A parent short enough has a one-label extension. -/
theorem exists_extension {parent : Str} (hvalid : validateDnsName parent = .ok ())
    (hlower : toAsciiLowercase parent = parent) (hlen : parent.length + 2 ≤ maxNameLen) :
    ∃ host : Hostname, host.text = [labelByte] ++ dot :: parent := by
  have hdot : dot ∉ [labelByte] := by decide
  refine ⟨⟨[labelByte] ++ dot :: parent, ?_, ?_, parse_cons_labelByte _⟩, rfl⟩
  · have hcut : [labelByte] ++ dot :: parent = [labelByte, dot] ++ parent := rfl
    rw [hcut, toAsciiLowercase_append, hlower]
    rfl
  · refine (validateDnsName_cons_label hdot).mpr ⟨by decide, hvalid, ?_⟩
    simp
    omega

/-- Nothing longer than a name is the wildcard of one. -/
theorem length_wildcardFor_le {host : Hostname} {key : RouteKey}
    (h : RouteKey.wildcardFor host = some key) : key.text.length ≤ maxNameLen := by
  obtain ⟨label, parent, hlabel, htext, -, rfl⟩ := RouteKey.wildcardFor_eq_some_iff.mp h
  obtain ⟨hok, -, hlen⟩ := (validateDnsName_cons_label hlabel).mp (htext ▸ host.valid)
  have hne : label ≠ [] := by
    rintro rfl
    exact absurd hok (by simp [validateLabel])
  have hpos := List.length_pos_iff.mpr hne
  simp [wildcardPrefix] at hlen ⊢
  omega

/-- **An accepted route is live exactly when it fits a name.** For every
accepted key: an exact key is resolved from itself, and a wildcard key from a
one-label extension of its parent, exactly when the wildcard's own text has
at most 253 bytes. -/
theorem accepted_route_live_iff {text : Str} {key : RouteKey} (h : RouteKey.parse text = .ok key)
    (backend : Backend) :
    key.Live backend ↔ (key.wildcard = true → key.text.length ≤ maxNameLen) := by
  cases hp : stripPrefix wildcardPrefix (toAsciiLowercase text) with
  | none =>
    obtain ⟨host, -, rfl⟩ := (RouteKey.parse_exact_iff hp).mp h
    refine ⟨fun _ hwild => absurd hwild (by simp [RouteKey.exact]), fun _ => ?_⟩
    exact ⟨host, resolveRoute_tableOf_exact host backend, rfl⟩
  | some parent =>
    obtain ⟨⟨parentHost, hparent, hdot⟩, rfl⟩ := (RouteKey.parse_wildcard_iff hp).mp h
    have htext : toAsciiLowercase text = wildcardPrefix ++ parent := stripPrefix_eq_some_iff.mp hp
    have hlower : toAsciiLowercase parent = parent := by
      have hidem := toAsciiLowercase_idem text
      rw [htext, toAsciiLowercase_append] at hidem
      exact List.append_cancel_left (hidem.trans rfl)
    have hhost : parentHost.text = parent := (Hostname.parse_eq_ok_iff.mp hparent).trans hlower
    refine ⟨fun hlive _ => ?_, fun hfits => ?_⟩
    · obtain ⟨host, -, hform⟩ := hlive
      exact length_wildcardFor_le hform.1
    · have hlen := hfits rfl
      rw [htext] at hlen
      obtain ⟨host, hext⟩ := exists_extension (hhost ▸ parentHost.valid) hlower
        (by simp [wildcardPrefix] at hlen; omega)
      have hlabel : dot ∉ [labelByte] := by decide
      have hwild : RouteKey.wildcardFor host = some ⟨toAsciiLowercase text, true⟩ := by
        rw [RouteKey.wildcardFor_eq_some_iff]
        exact ⟨[labelByte], parent, hlabel, hext, hhost ▸ hdot, by rw [htext]⟩
      exact ⟨host, resolveRoute_tableOf_wildcard hwild backend, hwild, [labelByte], parent, hlabel,
        htext, hext⟩

/-- At `*.example.com`. -/
theorem accepted_route_live_iff_at :
    ∃ key, RouteKey.parse (ascii "*.example.com") = .ok key ∧
      ∀ backend, key.Live backend ↔ (key.wildcard = true → key.text.length ≤ maxNameLen) :=
  have hparse : RouteKey.parse (ascii "*.example.com") = .ok ⟨ascii "*.example.com", true⟩ := rfl
  ⟨_, hparse, accepted_route_live_iff hparse⟩

/-- `*.P` for a parent of 252 bytes. -/
def longWildcard : Str :=
  wildcardPrefix ++ List.replicate 60 labelByte ++
    (List.replicate 3 (dot :: List.replicate 63 labelByte)).flatten

/-- It is accepted, and resolved from no hostname. -/
theorem longWildcard_not_live :
    ∃ key, RouteKey.parse longWildcard = .ok key ∧ ∀ backend host,
      resolveRoute (tableOf key backend).lookup host ≠ .ok ⟨key, backend⟩ := by
  have hparse : RouteKey.parse longWildcard = .ok ⟨longWildcard, true⟩ := by decide +kernel
  refine ⟨_, hparse, fun backend host h => ?_⟩
  obtain ⟨-, hexact | ⟨-, hwild⟩⟩ := resolveRoute_eq_ok_iff.mp h
  · exact absurd (congrArg RouteKey.wildcard hexact) (by simp [RouteKey.exact])
  · have hlong : ¬ longWildcard.length ≤ maxNameLen := by decide +kernel
    exact hlong (length_wildcardFor_le hwild)

end SniRouter
