import SniRouter.Platform.IpText
import SniRouter.Lookup.Routes

/-!
# SniRouter — the text of hostnames and route keys

A hostname is its text. A route key comes from one of three constructors:
`parse` checks the parent of a wildcard as a hostname of its own, `exact`
takes a hostname, and `wildcardFor` only strips a label from one. Stripping a
label keeps every check but one: what is left can be an IP literal.
-/

namespace SniRouter

open Text

-- ---------------------------------------------------------------------------
-- A label and its parent
-- ---------------------------------------------------------------------------

/-- A name is valid exactly when its first label is, what follows is, and the
whole fits. -/
theorem validateDnsName_cons_label {label parent : Str} (hlabel : dot ∉ label) :
    validateDnsName (label ++ dot :: parent) = .ok () ↔
      validateLabel label = .ok () ∧ validateDnsName parent = .ok () ∧
        (label ++ dot :: parent).length ≤ maxNameLen := by
  have hsplit : (label ++ dot :: parent).splitOn dot = label :: parent.splitOn dot :=
    List.splitOn_append_cons_self_of_not_mem hlabel parent
  have hlen : parent.length < (label ++ dot :: parent).length := by
    simp
    omega
  have hne : ¬ (label ++ dot :: parent).isEmpty = true := by simp
  unfold validateDnsName
  rw [if_neg hne, hsplit]
  by_cases hlong : (label ++ dot :: parent).length > maxNameLen
  · rw [if_pos hlong]
    refine ⟨fun h => absurd h (by simp), fun h => absurd h.2.2 (by omega)⟩
  · rw [if_neg hlong, if_neg (by omega : ¬ parent.length > maxNameLen), forM_ok_iff,
      List.forall_mem_cons]
    by_cases hempty : parent.isEmpty = true
    · -- nothing after the dot is an empty last label
      obtain rfl := List.isEmpty_iff.mp hempty
      refine ⟨fun h => ?_, fun h => absurd h.2.1 (by simp)⟩
      exact absurd (h.2 [] (by simp)) (by simp [validateLabel])
    · rw [if_neg hempty, forM_ok_iff]
      exact ⟨fun h => ⟨h.1, h.2, by omega⟩, fun h => ⟨h.1, h.2.1⟩⟩

/-- What follows the first label of a hostname is a valid lowercase name. -/
theorem Hostname.parent_valid {host : Hostname} {label parent : Str} (hlabel : dot ∉ label)
    (htext : host.text = label ++ dot :: parent) :
    validateDnsName parent = .ok () ∧ toAsciiLowercase parent = parent := by
  refine ⟨((validateDnsName_cons_label hlabel).mp (htext ▸ host.valid)).2.1, ?_⟩
  have hlower := host.lowered
  rw [htext, toAsciiLowercase_append] at hlower
  have hlen : (toAsciiLowercase label).length = label.length := List.length_map ..
  have := (List.append_inj hlower hlen).2
  exact (List.cons.inj this).2

-- ---------------------------------------------------------------------------
-- Keys
-- ---------------------------------------------------------------------------

/-- The keys the program can build. -/
inductive RouteKey.Built : RouteKey → Prop
  | parse {text : Str} {key : RouteKey} (h : RouteKey.parse text = .ok key) : Built key
  | exact (host : Hostname) : Built (RouteKey.exact host)
  | wildcardFor {host : Hostname} {key : RouteKey} (h : RouteKey.wildcardFor host = some key) :
      Built key

/-- The key is `*.P` and `P` is an IP literal. -/
def RouteKey.OverIpLiteral (key : RouteKey) : Prop :=
  ∃ parent, key.text = wildcardPrefix ++ parent ∧ IpAddr.parse parent ≠ none

/-- Parsing gives what its own text parses to. -/
theorem RouteKey.parse_text {text : Str} {key : RouteKey} (h : RouteKey.parse text = .ok key) :
    RouteKey.parse key.text = .ok key := by
  rw [RouteKey.parse_eq h, RouteKey.parse_toAsciiLowercase]
  rw [RouteKey.parse_eq h] at h
  exact h

/-- An exact key's text parses to the key. -/
theorem RouteKey.parse_exact (host : Hostname) :
    RouteKey.parse (RouteKey.exact host).text = .ok (RouteKey.exact host) := by
  have hstrip : stripPrefix wildcardPrefix (toAsciiLowercase host.text) = none := by
    rw [host.lowered, host.stripPrefix_wildcard]
  exact (RouteKey.parse_exact_iff hstrip).mpr ⟨host, host.parse_text, rfl⟩

/-- `parse` lets no wildcard over an IP literal pass. -/
theorem RouteKey.not_overIpLiteral_of_parse {key : RouteKey}
    (h : RouteKey.parse key.text = .ok key) : ¬ key.OverIpLiteral := by
  intro ⟨parent, htext, hip⟩
  have hlower : toAsciiLowercase key.text = key.text :=
    congrArg RouteKey.text (RouteKey.parse_eq h).symm
  have hstrip : stripPrefix wildcardPrefix (toAsciiLowercase key.text) = some parent := by
    rw [hlower, stripPrefix_eq_some_iff]
    exact htext
  obtain ⟨⟨host, hhost, -⟩, -⟩ := (RouteKey.parse_wildcard_iff hstrip).mp h
  have hparent : toAsciiLowercase parent = parent := by
    rw [htext, toAsciiLowercase_append] at hlower
    exact List.append_cancel_left (hlower.trans rfl)
  rw [Hostname.parse_eq_ok_iff, hparent] at hhost
  exact hip (hhost ▸ host.notIp)

/-- A stripped label leaves a parsable wildcard, unless it leaves an IP
literal. -/
theorem RouteKey.parse_wildcardFor {host : Hostname} {key : RouteKey}
    (h : RouteKey.wildcardFor host = some key) (hip : ¬ key.OverIpLiteral) :
    RouteKey.parse key.text = .ok key := by
  obtain ⟨label, parent, hlabel, htext, hdot, rfl⟩ := RouteKey.wildcardFor_eq_some_iff.mp h
  obtain ⟨hvalid, hlower⟩ := host.parent_valid hlabel htext
  have hnot : IpAddr.parse parent = none := by
    by_contra hsome
    exact hip ⟨parent, rfl, hsome⟩
  have hkey : toAsciiLowercase (wildcardPrefix ++ parent) = wildcardPrefix ++ parent := by
    rw [toAsciiLowercase_append, hlower]
    rfl
  have hstrip : stripPrefix wildcardPrefix (toAsciiLowercase (wildcardPrefix ++ parent)) =
      some parent := by
    rw [hkey, stripPrefix_eq_some_iff]
  refine (RouteKey.parse_wildcard_iff hstrip).mpr ⟨?_, by rw [hkey]⟩
  exact ⟨⟨parent, hlower, hvalid, hnot⟩, Hostname.parse_eq_ok_iff.mpr hlower.symm, hdot⟩

/-- Only a wildcard over an IP literal fails to parse. -/
theorem RouteKey.Built.parse_iff {key : RouteKey} (h : key.Built) :
    RouteKey.parse key.text = .ok key ↔ ¬ key.OverIpLiteral := by
  refine ⟨RouteKey.not_overIpLiteral_of_parse, fun hip => ?_⟩
  cases h with
  | parse h => exact RouteKey.parse_text h
  | exact host => exact RouteKey.parse_exact host
  | wildcardFor h => exact RouteKey.parse_wildcardFor h hip

/-- What follows the first label of the hostname is an IP literal. -/
def Hostname.ParentIsIp (host : Hostname) : Prop :=
  ∃ parent, host.parent = some parent ∧ IpAddr.parse parent ≠ none

/-- Only the wildcard candidate can be over an IP literal, and it is exactly
when the hostname's parent is one. An IP literal in a hostname has a dot, so
there is a wildcard candidate then. -/
theorem RouteCandidates.overIpLiteral_iff {host : Hostname} :
    (∃ key ∈ (RouteCandidates.forHostname host).keys, key.OverIpLiteral) ↔ host.ParentIsIp := by
  refine ⟨fun h => ?_, fun h => ?_⟩
  · obtain ⟨key, hkey, parent, htext, hip⟩ := h
    rcases RouteCandidates.mem_keys_forHostname.mp hkey with rfl | hwild
    · have hstrip : stripPrefix wildcardPrefix host.text = some parent :=
        stripPrefix_eq_some_iff.mpr htext
      exact absurd (host.stripPrefix_wildcard.symm.trans hstrip) (by simp)
    · obtain ⟨label, parent', hlabel, hhost, -, rfl⟩ := RouteKey.wildcardFor_eq_some_iff.mp hwild
      obtain rfl : parent' = parent := List.append_cancel_left htext
      refine ⟨parent', ?_, hip⟩
      rw [Hostname.parent, splitOnce_eq_some_iff.mpr ⟨hlabel, hhost⟩]
      rfl
  · obtain ⟨parent, hparent, hip⟩ := h
    obtain ⟨⟨label, parent'⟩, hsplit, rfl⟩ := Option.map_eq_some_iff.mp hparent
    obtain ⟨hlabel, hhost⟩ := splitOnce_eq_some_iff.mp hsplit
    have hcolon : colon ∉ parent' := by
      intro hmem
      have hmem' : colon ∈ host.text := by
        rw [hhost]
        exact List.mem_append_right _ (List.mem_cons_of_mem _ hmem)
      rcases host.mem_text hmem' with h | h
      · exact absurd h (by decide)
      · exact absurd h (by decide)
    have hdot : dot ∈ parent' := by
      by_contra hdot
      exact hip (IpAddr.parse_eq_none hdot hcolon)
    refine ⟨⟨wildcardPrefix ++ parent', true⟩, ?_, parent', rfl, hip⟩
    rw [RouteCandidates.mem_keys_forHostname, RouteKey.wildcardFor_eq_some_iff]
    exact Or.inr ⟨label, parent', hlabel, hhost, hdot, rfl⟩

/-- **Hostnames and route keys round-trip through their text, but for
wildcards over an IP literal.** Every hostname does. A key the program can
build does, flag included, exactly when it is not `*.P` for an IP literal `P`.
So the candidates of a hostname are keys a store could have parsed from its
rows exactly when what follows the first label is no IP literal. -/
theorem routeKey_text_roundTrip_iff (host : Hostname) (key : RouteKey) :
    Hostname.parse host.text = .ok host ∧
    (key.Built → (RouteKey.parse key.text = .ok key ↔ ¬ key.OverIpLiteral)) ∧
    ((∀ candidate ∈ (RouteCandidates.forHostname host).keys,
        ∃ row, RouteKey.parse row = .ok candidate) ↔ ¬ host.ParentIsIp) := by
  refine ⟨host.parse_text, RouteKey.Built.parse_iff, ?_⟩
  rw [← RouteCandidates.overIpLiteral_iff, not_exists]
  simp only [not_and]
  refine forall₂_congr fun candidate hcandidate => ?_
  have hbuilt : candidate.Built := by
    rcases RouteCandidates.mem_keys_forHostname.mp hcandidate with rfl | hwild
    · exact .exact host
    · exact .wildcardFor hwild
  rw [← hbuilt.parse_iff]
  exact ⟨fun ⟨_, hrow⟩ => RouteKey.parse_text hrow, fun h => ⟨_, h⟩⟩

/-- `a.1.2.3.4` is a hostname, its wildcard key is `*.1.2.3.4`, and `parse`
rejects that text. -/
theorem wildcardFor_over_ipLiteral :
    ∃ host key, Hostname.parse (ascii "a.1.2.3.4") = .ok host ∧
      RouteKey.wildcardFor host = some key ∧ key.Built ∧
      RouteKey.parse key.text = .error .ipLiteral := by
  obtain ⟨host, hhost⟩ : ∃ host, Hostname.parse (ascii "a.1.2.3.4") = .ok host := ⟨_, rfl⟩
  have hkey : RouteKey.wildcardFor host = some ⟨ascii "*.1.2.3.4", true⟩ := by
    rw [RouteKey.wildcardFor_eq_some_iff, Hostname.parse_eq_ok_iff.mp hhost]
    exact ⟨ascii "a", ascii "1.2.3.4", by decide, by decide, by decide, rfl⟩
  exact ⟨host, _, hhost, hkey, .wildcardFor hkey, by rfl⟩

end SniRouter
