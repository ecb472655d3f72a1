import SniRouter.App.RouteTable
import SniRouter.Delivery.Connection
import SniRouter.Resolver.State

/-!
# SniRouter — the config file

`AppConfig.load` reads a file, parses it and validates its three parts in
order: `[server]`, `[admin]`, `[[routes]]`. The first fault rejects the whole
file. What the file system and the TOML parser do is given: `file` is what
reading the file returned, and `toml` the parser.

* `RawServer.validate`, `RawAdmin.validate` — the checks of the two sections.
* `RawServer.validate_ok` — what an accepted `[server]` section is.
* `AppConfig.load_ok` — an accepted file passed every check.
-/

namespace SniRouter

open Text

-- ---------------------------------------------------------------------------
-- Settings
-- ---------------------------------------------------------------------------

/-- `Duration::from_secs`. -/
def fromSecs (secs : Nat) : Nat := secs * nanosPerSec
/-- `Duration::from_millis`. -/
def fromMillis (millis : Nat) : Nat := millis * 1000000

deriving instance DecidableEq for RouterConfig

/-- All fields of `RouterConfig`, with those that the connections themselves
know nothing of. Durations in nanoseconds. -/
structure RouterSettings extends RouterConfig where
  clientHelloTimeout      : Nat
  lookupTimeout           : Nat
  upstreamTimeout         : Nat
  shutdownGrace           : Nat
  dnsCacheTtl             : Nat
  maxConcurrentDnsLookups : Nat
deriving DecidableEq

/-- `RouterConfig::default`, with what only the app reads of it. -/
def RouterSettings.default : RouterSettings where
  toRouterConfig := .default
  clientHelloTimeout := fromSecs 5
  lookupTimeout := fromSecs 2
  upstreamTimeout := fromSecs 5
  shutdownGrace := fromSecs 30
  dnsCacheTtl := fromSecs 30
  maxConcurrentDnsLookups := 64

/-- A `SocketAddr` as written in the file. Port 0 leaves the choice to the
system; `scopeId` is 0 for IPv4. -/
structure ListenAddr where
  ip      : IpAddr
  port    : UInt16
  scopeId : UInt32
deriving DecidableEq

/-- `[server]`: data-plane listeners and router limits. -/
structure ServerConfig where
  listen : List ListenAddr
  router : RouterSettings
deriving DecidableEq

/-- `[admin]`: the HTTP listener for metrics and health. -/
structure AdminConfig where
  listen     : ListenAddr
  healthPath : Str
deriving DecidableEq

/-- Why a config file was rejected: `ConfigError` in the source, where the
errors of single rows are constructors of the same type. -/
inductive LoadError where
  | read (path : Str) (error : IoError)
  | parse (error : Str)
  | noListenAddresses
  | duplicateListenAddress (addr : ListenAddr)
  | outOfRange (field : Str) (min max : Nat)
  | invalidHealthPath (path : Str)
  | route (error : ConfigError)
deriving DecidableEq

-- ---------------------------------------------------------------------------
-- [server]
-- ---------------------------------------------------------------------------

namespace Limits

def maxConnections : Nat := 1000000
def maxTimeoutMs : Nat := 3600000
def maxIdleTimeoutSecs : Nat := 30 * 24 * 3600
def maxShutdownGraceSecs : Nat := 3600
def minClientHelloBytes : Nat := 1024
def maxClientHelloBytes : Nat := 65536
def maxHelloRecords : Nat := 256
def maxDnsCacheTtlSecs : Nat := 24 * 3600
def maxConcurrentDnsLookups : Nat := 256
def minCopyBufferBytes : Nat := 1024
def maxCopyBufferBytes : Nat := 1024 * 1024

end Limits

/-- The `[server]` section as written. -/
structure RawServer where
  listen                  : List ListenAddr
  maxConnections          : Nat
  clientHelloTimeoutMs    : Nat
  lookupTimeoutMs         : Nat
  upstreamTimeoutMs       : Nat
  /-- 0 disables the idle timeout. -/
  idleTimeoutSecs         : Nat
  shutdownGraceSecs       : Nat
  maxClientHelloBytes     : Nat
  maxClientHelloRecords   : Nat
  /-- 0 resolves DNS backends on every connection. -/
  dnsCacheTtlSecs         : Nat
  maxConcurrentDnsLookups : Nat
  copyBufferBytes         : Nat

/-- `Duration::as_secs`. -/
def asSecs (duration : Nat) : Nat := duration / nanosPerSec
/-- `millis`: a duration in milliseconds, saturating. -/
def millis (duration : Nat) : Nat := min (duration / 1000000) (2 ^ 64 - 1)

/-- `impl Default for RawServer`. -/
def RawServer.default : RawServer where
  listen := [⟨.v4 ⟨[0, 0, 0, 0]⟩, 8080, 0⟩]
  maxConnections := RouterSettings.default.maxConnections
  clientHelloTimeoutMs := millis RouterSettings.default.clientHelloTimeout
  lookupTimeoutMs := millis RouterSettings.default.lookupTimeout
  upstreamTimeoutMs := millis RouterSettings.default.upstreamTimeout
  idleTimeoutSecs := (RouterSettings.default.idleTimeout.map asSecs).getD 0
  shutdownGraceSecs := asSecs RouterSettings.default.shutdownGrace
  maxClientHelloBytes := RouterSettings.default.helloLimits.maxHandshakeBytes
  maxClientHelloRecords := RouterSettings.default.helloLimits.maxRecords
  dnsCacheTtlSecs := asSecs RouterSettings.default.dnsCacheTtl
  maxConcurrentDnsLookups := RouterSettings.default.maxConcurrentDnsLookups
  copyBufferBytes := RouterSettings.default.copyBufferSize

/-- The first address that is also before it. -/
def firstDuplicate (seen : List ListenAddr) : List ListenAddr → Option ListenAddr
  | [] => none
  | addr :: addrs => if addr ∈ seen then some addr else firstDuplicate (addr :: seen) addrs

/-- `in_range`. -/
def inRange (value min max : Nat) (field : Str) : Except LoadError Nat :=
  if min ≤ value ∧ value ≤ max then .ok value else .error (.outOfRange field min max)

/-- `timeout_ms`. -/
def timeoutMs (value : Nat) (field : Str) : Except LoadError Nat :=
  (inRange value 1 Limits.maxTimeoutMs field).map fromMillis

/-- `RawServer::validate`. -/
def RawServer.validate (raw : RawServer) : Except LoadError ServerConfig :=
  if raw.listen.isEmpty then .error .noListenAddresses
  else match firstDuplicate [] raw.listen with
  | some duplicate => .error (.duplicateListenAddress duplicate)
  | none => do
    let maxConnections ←
      inRange raw.maxConnections 1 Limits.maxConnections (ascii "server.max_connections")
    let clientHelloTimeout ←
      timeoutMs raw.clientHelloTimeoutMs (ascii "server.client_hello_timeout_ms")
    let lookupTimeout ← timeoutMs raw.lookupTimeoutMs (ascii "server.lookup_timeout_ms")
    let upstreamTimeout ← timeoutMs raw.upstreamTimeoutMs (ascii "server.upstream_timeout_ms")
    let idleTimeoutSecs ←
      inRange raw.idleTimeoutSecs 0 Limits.maxIdleTimeoutSecs (ascii "server.idle_timeout_secs")
    let shutdownGraceSecs ← inRange raw.shutdownGraceSecs 0 Limits.maxShutdownGraceSecs
      (ascii "server.shutdown_grace_secs")
    let maxClientHelloBytes ← inRange raw.maxClientHelloBytes Limits.minClientHelloBytes
      Limits.maxClientHelloBytes (ascii "server.max_client_hello_bytes")
    let maxClientHelloRecords ← inRange raw.maxClientHelloRecords 1 Limits.maxHelloRecords
      (ascii "server.max_client_hello_records")
    let dnsCacheTtlSecs ← inRange raw.dnsCacheTtlSecs 0 Limits.maxDnsCacheTtlSecs
      (ascii "server.dns_cache_ttl_secs")
    let maxConcurrentDnsLookups ← inRange raw.maxConcurrentDnsLookups 1
      Limits.maxConcurrentDnsLookups (ascii "server.max_concurrent_dns_lookups")
    let copyBufferBytes ← inRange raw.copyBufferBytes Limits.minCopyBufferBytes
      Limits.maxCopyBufferBytes (ascii "server.copy_buffer_bytes")
    .ok {
      listen := raw.listen
      router := {
        clientHelloTimeout, lookupTimeout, upstreamTimeout
        idleTimeout := if idleTimeoutSecs > 0 then some (fromSecs idleTimeoutSecs) else none
        helloLimits := ⟨maxClientHelloBytes, maxClientHelloRecords⟩
        maxConnections
        shutdownGrace := fromSecs shutdownGraceSecs
        dnsCacheTtl := fromSecs dnsCacheTtlSecs
        maxConcurrentDnsLookups
        copyBufferSize := copyBufferBytes } }

/-- Changing the error changes no success. -/
theorem mapError_eq_ok_iff {ε ε' α : Type} {x : Except ε α} {f : ε → ε'} {a : α} :
    x.mapError f = .ok a ↔ x = .ok a := by
  cases x with
  | error error => simp [Except.mapError]
  | ok b => simp [Except.mapError]

/-- Changing the value changes no failure. -/
theorem map_eq_ok_iff {ε α β : Type} {x : Except ε α} {f : α → β} {b : β} :
    x.map f = .ok b ↔ ∃ a, x = .ok a ∧ f a = b := by
  cases x with
  | error error => simp [Except.map]
  | ok a => simp [Except.map]

/-- A number in range is kept. -/
theorem inRange_eq_ok_iff {value min max n : Nat} {field : Str} :
    inRange value min max field = .ok n ↔ (min ≤ value ∧ value ≤ max) ∧ value = n := by
  unfold inRange
  split_ifs with h
  · rw [Except.ok.injEq]
    exact ⟨fun heq => ⟨h, heq⟩, And.right⟩
  · exact ⟨fun heq => absurd heq (by simp), fun hin => absurd hin.1 h⟩

/-- No duplicate is found when there is none. -/
theorem firstDuplicate_eq_none_iff {seen addrs : List ListenAddr} :
    firstDuplicate seen addrs = none ↔ (∀ addr ∈ addrs, addr ∉ seen) ∧ addrs.Nodup := by
  induction addrs generalizing seen with
  | nil => simp [firstDuplicate]
  | cons addr addrs ih =>
    rw [firstDuplicate, List.forall_mem_cons, List.nodup_cons]
    by_cases hseen : addr ∈ seen
    · rw [if_pos hseen]
      simp [hseen]
    · rw [if_neg hseen, ih]
      simp only [List.mem_cons, not_or]
      constructor
      · rintro ⟨hnew, hnodup⟩
        exact ⟨⟨hseen, fun a ha => (hnew a ha).2⟩, fun hmem => (hnew addr hmem).1 rfl, hnodup⟩
      · rintro ⟨⟨-, hnew⟩, hfirst, hnodup⟩
        exact ⟨fun a ha => ⟨fun heq => hfirst (heq ▸ ha), hnew a ha⟩, hnodup⟩

/-- What `[server]` may hold. -/
structure RawServer.InRange (raw : RawServer) : Prop where
  listen                  : raw.listen ≠ []
  nodup                   : raw.listen.Nodup
  maxConnections          : 1 ≤ raw.maxConnections ∧ raw.maxConnections ≤ Limits.maxConnections
  clientHelloTimeoutMs    :
    1 ≤ raw.clientHelloTimeoutMs ∧ raw.clientHelloTimeoutMs ≤ Limits.maxTimeoutMs
  lookupTimeoutMs         : 1 ≤ raw.lookupTimeoutMs ∧ raw.lookupTimeoutMs ≤ Limits.maxTimeoutMs
  upstreamTimeoutMs       : 1 ≤ raw.upstreamTimeoutMs ∧ raw.upstreamTimeoutMs ≤ Limits.maxTimeoutMs
  idleTimeoutSecs         : raw.idleTimeoutSecs ≤ Limits.maxIdleTimeoutSecs
  shutdownGraceSecs       : raw.shutdownGraceSecs ≤ Limits.maxShutdownGraceSecs
  maxClientHelloBytes     : Limits.minClientHelloBytes ≤ raw.maxClientHelloBytes ∧
    raw.maxClientHelloBytes ≤ Limits.maxClientHelloBytes
  maxClientHelloRecords   :
    1 ≤ raw.maxClientHelloRecords ∧ raw.maxClientHelloRecords ≤ Limits.maxHelloRecords
  dnsCacheTtlSecs         : raw.dnsCacheTtlSecs ≤ Limits.maxDnsCacheTtlSecs
  maxConcurrentDnsLookups : 1 ≤ raw.maxConcurrentDnsLookups ∧
    raw.maxConcurrentDnsLookups ≤ Limits.maxConcurrentDnsLookups
  copyBufferBytes         : Limits.minCopyBufferBytes ≤ raw.copyBufferBytes ∧
    raw.copyBufferBytes ≤ Limits.maxCopyBufferBytes

/-- An accepted section is in range, and its addresses are the listen addresses. -/
theorem RawServer.validate_ok {raw : RawServer} {config : ServerConfig}
    (h : raw.validate = .ok config) : raw.InRange ∧ config.listen = raw.listen := by
  unfold validate at h
  split_ifs at h with hempty
  split at h
  · exact absurd h (by simp)
  · next hnodup =>
    simp only [bind_eq_ok_iff, timeoutMs, map_eq_ok_iff, inRange_eq_ok_iff] at h
    obtain ⟨_, ⟨hconnections, -⟩, _, ⟨_, ⟨hhello, -⟩, -⟩, _, ⟨_, ⟨hlookup, -⟩, -⟩,
      _, ⟨_, ⟨hupstream, -⟩, -⟩, _, ⟨hidle, -⟩, _, ⟨hgrace, -⟩, _, ⟨hbytes, -⟩, _, ⟨hrecords, -⟩,
      _, ⟨hdns, -⟩, _, ⟨hlookups, -⟩, _, ⟨hbuffer, -⟩, hconfig⟩ := h
    injection hconfig with hconfig
    have hlisten : raw.listen ≠ [] := fun hnil => hempty (List.isEmpty_iff.mpr hnil)
    refine ⟨⟨hlisten, (firstDuplicate_eq_none_iff.mp hnodup).2, hconnections, hhello, hlookup,
      hupstream, hidle.2, hgrace.2, hbytes, hrecords, hdns.2, hlookups, hbuffer⟩, ?_⟩
    rw [← hconfig]

/-- The defaults of the file are those of the router. -/
theorem RawServer.validate_default :
    RawServer.default.validate = .ok ⟨RawServer.default.listen, RouterSettings.default⟩ := by
  decide +kernel

-- ---------------------------------------------------------------------------
-- [admin]
-- ---------------------------------------------------------------------------

/-- The `[admin]` section as written. -/
structure RawAdmin where
  listen     : ListenAddr
  healthPath : Str

/-- `impl Default for RawAdmin`. -/
def RawAdmin.default : RawAdmin := ⟨⟨.v4 ⟨[127, 0, 0, 1]⟩, 8081, 0⟩, ascii "/health"⟩

/-- `char::is_whitespace` of the first character, on its UTF-8 bytes. -/
def startsWithWhitespace : Str → Bool
  | 0xc2 :: b :: _ => b == 0x85 || b == 0xa0
  | 0xe1 :: 0x9a :: b :: _ => b == 0x80
  | 0xe2 :: 0x80 :: b :: _ => (0x80 ≤ b && b ≤ 0x8a) || b == 0xa8 || b == 0xa9 || b == 0xaf
  | 0xe2 :: 0x81 :: b :: _ => b == 0x9f
  | 0xe3 :: 0x80 :: b :: _ => b == 0x80
  | b :: _ => (0x09 ≤ b && b ≤ 0x0d) || b == 0x20
  | [] => false

/-- `str::contains(char::is_whitespace)`. -/
def containsWhitespace : Str → Bool
  | [] => false
  | b :: rest => startsWithWhitespace (b :: rest) || containsWhitespace rest

/-- `RawAdmin::validate`. -/
def RawAdmin.validate (raw : RawAdmin) : Except LoadError AdminConfig :=
  if (stripPrefix (ascii "/") raw.healthPath).isNone || raw.healthPath == ascii "/metrics" ||
      containsWhitespace raw.healthPath then
    .error (.invalidHealthPath raw.healthPath)
  else .ok ⟨raw.listen, raw.healthPath⟩

/-- The default admin section is accepted. -/
theorem RawAdmin.validate_default :
    RawAdmin.default.validate = .ok ⟨RawAdmin.default.listen, RawAdmin.default.healthPath⟩ := by
  decide +kernel

-- ---------------------------------------------------------------------------
-- The file
-- ---------------------------------------------------------------------------

/-- The file as written. -/
structure RawConfig where
  server : RawServer
  admin  : RawAdmin
  routes : List RawRoute

/-- A validated config file. -/
structure AppConfig where
  server : ServerConfig
  admin  : AdminConfig
  routes : InMemoryLookup

namespace AppConfig

variable (toml : Str → Except Str RawConfig)

/-- `from_toml_str`: the first section that is not accepted decides. -/
def fromTomlStr (source : Str) : Except LoadError AppConfig := do
  let raw ← (toml source).mapError .parse
  let server ← raw.server.validate
  let admin ← raw.admin.validate
  let routes ← (buildRouteTable raw.routes).mapError .route
  .ok ⟨server, admin, routes⟩

/-- `load`: the file is read, then parsed. -/
def load (path : Str) (file : Except IoError Str) : Except LoadError AppConfig := do
  let source ← file.mapError (.read path)
  fromTomlStr toml source

variable {toml : Str → Except Str RawConfig} {path source : Str} {file : Except IoError Str}
  {config : AppConfig}

/-- A file is accepted when every part of it is. -/
theorem fromTomlStr_ok (h : fromTomlStr toml source = .ok config) :
    ∃ raw, toml source = .ok raw ∧ raw.server.validate = .ok config.server ∧
      raw.admin.validate = .ok config.admin ∧ buildRouteTable raw.routes = .ok config.routes := by
  unfold fromTomlStr at h
  simp only [bind_eq_ok_iff, mapError_eq_ok_iff] at h
  obtain ⟨raw, hraw, server, hserver, admin, hadmin, routes, hroutes, hconfig⟩ := h
  injection hconfig with hconfig
  subst hconfig
  exact ⟨raw, hraw, hserver, hadmin, hroutes⟩

/-- A configuration that loads comes from a file that could be read. -/
theorem load_ok (h : load toml path file = .ok config) :
    ∃ source, file = .ok source ∧ fromTomlStr toml source = .ok config := by
  unfold load at h
  simp only [bind_eq_ok_iff, mapError_eq_ok_iff] at h
  exact h

end AppConfig

end SniRouter
