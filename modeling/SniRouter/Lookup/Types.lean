import SniRouter.Platform.Ip

/-!
# SniRouter — hostnames, route keys and backends

The domain types of the lookup contract. A `Hostname` can only be built from a
string that `validateDnsName` accepts and that is not an IP literal, so it
carries both facts.
-/

namespace SniRouter

open Text

/-- The longest name, in bytes. -/
def maxNameLen : Nat := 253
/-- The longest label, in bytes. -/
def maxLabelLen : Nat := 63
/-- `WILDCARD_PREFIX`. -/
def wildcardPrefix : Str := [star, dot]

/-- Why a hostname, route key, or backend string was rejected. -/
inductive NameError where
  | empty
  | tooLong
  | emptyLabel
  | labelTooLong
  | invalidCharacter
  | ipLiteral
  | invalidWildcard
  | missingPort
  | invalidPort
  | invalidBackendHost
deriving DecidableEq, Repr

/-- A byte of the `[a-z0-9-_]` character set. -/
def isLabelByte (b : UInt8) : Bool :=
  isAsciiLowercase b || isAsciiDigit b || b == hyphen || b == underscore

/-- The checks of one label, in the loop of `validate_dns_name`. -/
def validateLabel (label : Str) : Except NameError Unit :=
  if label.isEmpty then .error .emptyLabel
  else if label.length > maxLabelLen then .error .labelTooLong
  else if !label.all isLabelByte then .error .invalidCharacter
  else .ok ()

/-- Length, label structure and character set of an already-lowercased name. -/
def validateDnsName (name : Str) : Except NameError Unit :=
  if name.isEmpty then .error .empty
  else if name.length > maxNameLen then .error .tooLong
  else (name.splitOn dot).forM validateLabel

/-- A validated, lowercase DNS hostname. -/
structure Hostname where
  text    : Str
  lowered : toAsciiLowercase text = text
  valid   : validateDnsName text = .ok ()
  notIp   : IpAddr.parse text = none
deriving DecidableEq

/-- The checks of `Hostname::parse` on a string that is already lowercase. -/
def Hostname.ofLowered (text : Str) (lowered : toAsciiLowercase text = text) :
    Except NameError Hostname :=
  match hv : validateDnsName text with
  | .error e => .error e
  | .ok () =>
    match hi : IpAddr.parse text with
    | some _ => .error .ipLiteral
    | none => .ok ⟨text, lowered, hv, hi⟩

/-- Validates and lowercases `name`. -/
def Hostname.parse (name : Str) : Except NameError Hostname :=
  Hostname.ofLowered (toAsciiLowercase name) (toAsciiLowercase_idem name)

/-- What follows the first label, if there is more than one. -/
def Hostname.parent (host : Hostname) : Option Str :=
  (splitOnce dot host.text).map Prod.snd

/-- A key a route is stored under: an exact hostname or a single-label
wildcard. -/
structure RouteKey where
  text     : Str
  wildcard : Bool
deriving DecidableEq, Repr

/-- The key that matches exactly `host`. -/
def RouteKey.exact (host : Hostname) : RouteKey :=
  ⟨host.text, false⟩

/-- Parses a stored route key. -/
def RouteKey.parse (key : Str) : Except NameError RouteKey :=
  let lowered := toAsciiLowercase key
  match stripPrefix wildcardPrefix lowered with
  | some parent =>
    match Hostname.parse parent with
    | .error .invalidCharacter => .error .invalidWildcard
    | .error e => .error e
    | .ok parent =>
      if !parent.text.contains dot then .error .invalidWildcard
      else .ok ⟨lowered, true⟩
  | none =>
    if lowered.contains star then .error .invalidWildcard
    else (Hostname.parse lowered).map RouteKey.exact

/-- The wildcard key that covers `host`; none when the parent would have fewer
than two labels. -/
def RouteKey.wildcardFor (host : Hostname) : Option RouteKey :=
  host.parent.bind fun parent =>
    if !parent.contains dot then none
    else some ⟨wildcardPrefix ++ parent, true⟩

/-- Where a backend lives: a literal IP, or a DNS name resolved at connect
time. -/
inductive BackendHost where
  | ip (ip : IpAddr)
  | dns (name : Str)
deriving DecidableEq, Repr

/-- `NonZeroU16`. -/
abbrev Port := { n : Nat // 0 < n ∧ n < 65536 }

/-- The port of HTTPS. -/
def Port.https : Port := ⟨443, by decide⟩

/-- A backend TCP endpoint a route forwards to. -/
structure Backend where
  host : BackendHost
  port : Port
deriving DecidableEq, Repr

/-- Cuts `host:port`, `a.b.c.d:port` or `[ipv6]:port`. -/
def splitHostPort (value : Str) : Except NameError (Str × Str) :=
  match stripPrefix [openBracket] value with
  | some rest =>
    match splitOnce closeBracket rest with
    | none => .error .invalidBackendHost
    | some (host, after) =>
      match stripPrefix [colon] after with
      | none => .error .missingPort
      | some port =>
        if (Ipv6Addr.parse host).isNone then .error .invalidBackendHost
        else .ok (host, port)
  | none =>
    match rsplitOnce colon value with
    | none => .error .missingPort
    | some (host, port) =>
      -- bare IPv6 without brackets is ambiguous with the port separator
      if host.contains colon then .error .invalidBackendHost
      else .ok (host, port)

/-- `parse_backend_host`: an address, or else a DNS name. -/
def parseBackendHost (host : Str) : Except NameError BackendHost :=
  match IpAddr.parse host with
  | some ip => .ok (.ip ip)
  | none =>
    let lowered := toAsciiLowercase host
    match validateDnsName lowered with
    | .error _ => .error .invalidBackendHost
    | .ok () => .ok (.dns lowered)

/-- `NonZeroU16::new` of a parsed `u16`. -/
def parsePort (port : Str) : Option Port :=
  (parseU16 port).bind fun n =>
    if h : 0 < n ∧ n < 65536 then some ⟨n, h⟩ else none

/-- `impl FromStr for Backend`. -/
def Backend.parse (value : Str) : Except NameError Backend := do
  let (host, port) ← splitHostPort value
  match parsePort port with
  | none => .error .invalidPort
  | some port => return ⟨← parseBackendHost host, port⟩

-- ---------------------------------------------------------------------------
-- Hostnames
-- ---------------------------------------------------------------------------

/-- Hostnames with the same text are equal. -/
theorem Hostname.ext {g h : Hostname} (htext : g.text = h.text) : g = h := by
  cases g
  cases h
  simpa using htext

/-- Parsing succeeds exactly on the strings whose lowercase form is the text
of a hostname, and returns that hostname. -/
theorem Hostname.parse_eq_ok_iff {name : Str} {host : Hostname} :
    Hostname.parse name = .ok host ↔ host.text = toAsciiLowercase name := by
  unfold Hostname.parse Hostname.ofLowered
  refine ⟨fun h => ?_, fun h => ?_⟩
  · split at h
    · exact absurd h (by simp)
    · split at h
      · exact absurd h (by simp)
      · injection h with h
        rw [← h]
  · have hvalid := h ▸ host.valid
    have hip := h ▸ host.notIp
    split
    · next e he =>
      rw [hvalid] at he
      exact absurd he (by simp)
    · split
      · next ip he =>
        rw [hip] at he
        exact absurd he (by simp)
      · exact congrArg Except.ok (Hostname.ext h.symm)

/-- A hostname's text parses to it. -/
theorem Hostname.parse_text (host : Hostname) : Hostname.parse host.text = .ok host :=
  Hostname.parse_eq_ok_iff.mpr host.lowered.symm

/-- Parsing only looks at the lowercase form. -/
theorem Hostname.parse_toAsciiLowercase (name : Str) :
    Hostname.parse (toAsciiLowercase name) = Hostname.parse name := by
  unfold Hostname.parse
  congr 1
  exact toAsciiLowercase_idem name

/-- A valid name consists of label bytes and dots. -/
theorem mem_of_validateDnsName {name : Str} (hv : validateDnsName name = .ok ()) {b : UInt8}
    (hb : b ∈ name) : b = dot ∨ isLabelByte b = true := by
  unfold validateDnsName at hv
  split_ifs at hv
  rcases mem_piece_of_mem dot hb with h | ⟨label, hlabel, hbl⟩
  · exact Or.inl h
  · right
    have hok := forM_ok_iff.mp hv label hlabel
    unfold validateLabel at hok
    split_ifs at hok with _ _ hall
    simp only [Bool.not_eq_true', Bool.not_eq_false] at hall
    exact List.all_eq_true.mp hall b hbl

/-- A hostname is made of dots and label bytes. -/
theorem Hostname.mem_text {host : Hostname} {b : UInt8} (hb : b ∈ host.text) :
    b = dot ∨ isLabelByte b = true :=
  mem_of_validateDnsName host.valid hb

/-- No hostname contains the wildcard character. -/
theorem Hostname.star_not_mem (host : Hostname) : star ∉ host.text := by
  intro h
  rcases Hostname.mem_text h with h | h
  · exact absurd h (by decide)
  · exact absurd h (by decide)

/-- So none starts with the wildcard prefix. -/
theorem Hostname.stripPrefix_wildcard (host : Hostname) :
    stripPrefix wildcardPrefix host.text = none := by
  cases h : stripPrefix wildcardPrefix host.text with
  | none => rfl
  | some rest =>
    have htext := stripPrefix_eq_some_iff.mp h
    exact absurd (htext ▸ List.mem_cons_self ..) host.star_not_mem

-- ---------------------------------------------------------------------------
-- Route keys
-- ---------------------------------------------------------------------------

/-- The wildcard key of a hostname replaces its first label, provided at least
two labels follow. -/
theorem RouteKey.wildcardFor_eq_some_iff {host : Hostname} {key : RouteKey} :
    RouteKey.wildcardFor host = some key ↔
      ∃ label parent, dot ∉ label ∧ host.text = label ++ dot :: parent ∧ dot ∈ parent ∧
        key = ⟨wildcardPrefix ++ parent, true⟩ := by
  unfold RouteKey.wildcardFor Hostname.parent
  rw [Option.bind_eq_some_iff]
  refine ⟨fun h => ?_, fun h => ?_⟩
  · obtain ⟨parent, hparent, hkey⟩ := h
    obtain ⟨⟨label, parent'⟩, hsplit, rfl⟩ := Option.map_eq_some_iff.mp hparent
    obtain ⟨hlabel, htext⟩ := splitOnce_eq_some_iff.mp hsplit
    split_ifs at hkey with hdot
    refine ⟨label, parent', hlabel, htext, by simpa using hdot, ?_⟩
    injection hkey with hkey
    exact hkey.symm
  · obtain ⟨label, parent, hlabel, htext, hdot, rfl⟩ := h
    refine ⟨parent, ?_, ?_⟩
    · rw [splitOnce_eq_some_iff.mpr ⟨hlabel, htext⟩]
      rfl
    · simp [hdot]

theorem RouteKey.parse_toAsciiLowercase (key : Str) :
    RouteKey.parse (toAsciiLowercase key) = RouteKey.parse key := by
  simp only [RouteKey.parse, toAsciiLowercase_idem]

/-- A key without the wildcard prefix is stored as the hostname it spells. -/
theorem RouteKey.parse_exact_iff {text : Str} {key : RouteKey}
    (h : stripPrefix wildcardPrefix (toAsciiLowercase text) = none) :
    RouteKey.parse text = .ok key ↔
      ∃ host, Hostname.parse text = .ok host ∧ key = RouteKey.exact host := by
  simp only [RouteKey.parse, h, Hostname.parse_toAsciiLowercase]
  split
  · next hstar =>
    refine ⟨fun hk => absurd hk (by simp), ?_⟩
    intro ⟨host, hhost, _⟩
    rw [← Hostname.parse_eq_ok_iff.mp hhost] at hstar
    exact absurd (by simpa using hstar) host.star_not_mem
  · cases Hostname.parse text with
    | error e => simp [Except.map]
    | ok host => simp [Except.map, eq_comm]

/-- A key with the wildcard prefix keeps its lowercase text; what follows the
prefix is a hostname of at least two labels. -/
theorem RouteKey.parse_wildcard_iff {text parent : Str} {key : RouteKey}
    (h : stripPrefix wildcardPrefix (toAsciiLowercase text) = some parent) :
    RouteKey.parse text = .ok key ↔
      (∃ host, Hostname.parse parent = .ok host ∧ dot ∈ host.text) ∧
        key = ⟨toAsciiLowercase text, true⟩ := by
  simp only [RouteKey.parse, h]
  split
  · next he => simp [he]
  · next e he hne => simp [hne]
  · next host he =>
    simp only [he, Except.ok.injEq, exists_eq_left']
    by_cases hdot : dot ∈ host.text
    · simp [hdot, eq_comm]
    · simp [hdot]

/-- A parsed key is the lowercase text, flagged by the wildcard prefix. -/
theorem RouteKey.parse_eq {text : Str} {key : RouteKey} (h : RouteKey.parse text = .ok key) :
    key = ⟨toAsciiLowercase text,
      (stripPrefix wildcardPrefix (toAsciiLowercase text)).isSome⟩ := by
  cases hp : stripPrefix wildcardPrefix (toAsciiLowercase text) with
  | none =>
    obtain ⟨host, hhost, rfl⟩ := (RouteKey.parse_exact_iff hp).mp h
    rw [RouteKey.exact, Hostname.parse_eq_ok_iff.mp hhost]
    rfl
  | some parent => exact ((RouteKey.parse_wildcard_iff hp).mp h).2

end SniRouter
