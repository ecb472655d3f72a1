import SniRouter.Platform.Ip

/-!
# IP addresses and case

The parsers of the standard library read hexadecimal digits in either case and
nothing else with a case, so lowercasing an input first changes no result.
-/

namespace SniRouter

open Text

/-- A reader that does not look at the case of its input. -/
def CaseBlind {α : Type} (read : Str → Option (α × Str)) : Prop :=
  ∀ s, read (toAsciiLowercase s) = (read s).map fun p => (p.1, toAsciiLowercase p.2)

namespace IpParser

/-- A digit has the same value in either case. -/
theorem toDigit_toAsciiLowercaseByte (radix : Nat) (b : UInt8) :
    toDigit radix (toAsciiLowercaseByte b) = toDigit radix b := by
  have key : ∀ b, toAsciiLowercaseByte b ≠ b →
      isAsciiDigit b = false ∧ isAsciiLowercase b = false ∧ isAsciiUppercase b = true ∧
      isAsciiDigit (toAsciiLowercaseByte b) = false ∧
      isAsciiLowercase (toAsciiLowercaseByte b) = true ∧
      (toAsciiLowercaseByte b).toNat - 0x61 = b.toNat - 0x41 := forall_byte (by decide +kernel)
  by_cases hsame : toAsciiLowercaseByte b = b
  · rw [hsame]
  · obtain ⟨hdigit, hlower, hupper, hdigit', hlower', hval⟩ := key b hsame
    simp [toDigit, hdigit, hlower, hupper, hdigit', hlower', hval]

theorem readNumber_caseBlind (radix maxDigits maxValue : Nat) (allowZeroPrefix : Bool) :
    CaseBlind (readNumber radix maxDigits maxValue allowZeroPrefix) := by
  intro s
  have htake : (toAsciiLowercase s).takeWhile (fun b => (toDigit radix b).isSome) =
      toAsciiLowercase (s.takeWhile fun b => (toDigit radix b).isSome) := by
    rw [toAsciiLowercase, List.takeWhile_map]
    simp only [Function.comp_def, toDigit_toAsciiLowercaseByte]
    rfl
  have hzero : ∀ b, (toAsciiLowercaseByte b == zero) = (b == zero) :=
    forall_byte (by decide +kernel)
  have hhead : ((toAsciiLowercase s).head? == some zero) = (s.head? == some zero) := by
    cases s with
    | nil => rfl
    | cons b s => exact hzero b
  have hfold : (toAsciiLowercase (s.takeWhile fun b => (toDigit radix b).isSome)).foldl
      (fun acc b => acc * radix + (toDigit radix b).getD 0) 0 =
      (s.takeWhile fun b => (toDigit radix b).isSome).foldl
        (fun acc b => acc * radix + (toDigit radix b).getD 0) 0 := by
    rw [toAsciiLowercase, List.foldl_map]
    simp only [toDigit_toAsciiLowercaseByte]
  have hlen : ∀ t : Str, (toAsciiLowercase t).length = t.length := fun t => List.length_map ..
  have hdrop : ∀ n, (toAsciiLowercase s).drop n = toAsciiLowercase (s.drop n) := fun n =>
    List.map_drop.symm
  unfold readNumber
  simp only [htake, hhead, hfold, hlen, hdrop]
  split_ifs <;> rfl

theorem readGivenChar_toAsciiLowercase {c : UInt8} (hc : Caseless c) (s : Str) :
    readGivenChar c (toAsciiLowercase s) = (readGivenChar c s).map toAsciiLowercase := by
  cases s with
  | nil => rfl
  | cons b s =>
    rw [toAsciiLowercase, List.map_cons, ← toAsciiLowercase]
    simp only [readGivenChar]
    by_cases hb : b = c
    · rw [if_pos hb, if_pos ((hc b).mpr hb)]
      rfl
    · rw [if_neg hb, if_neg fun heq => hb ((hc b).mp heq)]
      rfl

/-- Reading after a caseless separator. -/
theorem CaseBlind.readSeparator {α : Type} {sep : UInt8} (hsep : Caseless sep) (index : Nat)
    {inner : Str → Option (α × Str)} (h : CaseBlind inner) :
    CaseBlind (readSeparator sep index inner) := by
  intro s
  unfold IpParser.readSeparator
  split_ifs
  · rw [readGivenChar_toAsciiLowercase hsep]
    cases readGivenChar sep s with
    | none => rfl
    | some rest => exact h rest
  · exact h s

theorem readOctets_caseBlind (n index : Nat) : CaseBlind (readOctets n index) := by
  induction n generalizing index with
  | zero =>
    intro s
    rfl
  | succ n ih =>
    intro s
    rw [readOctets, readOctets,
      CaseBlind.readSeparator caseless_dot index (readNumber_caseBlind 10 3 255 false)]
    cases readSeparator dot index (readNumber 10 3 255 false) s with
    | none => rfl
    | some p =>
      simp only [Option.map_some, Option.bind_some]
      rw [ih (index + 1) p.2, Option.map_map, Option.map_map]
      rfl

theorem readIpv4Addr_caseBlind : CaseBlind readIpv4Addr := by
  intro s
  rw [readIpv4Addr, readIpv4Addr, readOctets_caseBlind, Option.map_map, Option.map_map]
  rfl

theorem readGroups_toAsciiLowercase (left index : Nat) (s : Str) :
    readGroups left index (toAsciiLowercase s) =
      ((readGroups left index s).1, (readGroups left index s).2.1,
        toAsciiLowercase (readGroups left index s).2.2) := by
  induction left generalizing index s with
  | zero => rfl
  | succ left ih =>
    rw [readGroups, readGroups,
      CaseBlind.readSeparator caseless_colon index readIpv4Addr_caseBlind,
      CaseBlind.readSeparator caseless_colon index (readNumber_caseBlind 16 4 65535 true)]
    generalize readSeparator colon index readIpv4Addr s = embedded
    generalize readSeparator colon index (readNumber 16 4 65535 true) s = number
    have hembedded : (if left > 0 then
          embedded.map fun p => (p.1, toAsciiLowercase p.2) else none) =
        (if left > 0 then embedded else none).map fun p => (p.1, toAsciiLowercase p.2) := by
      split_ifs <;> rfl
    rw [hembedded]
    cases (if left > 0 then embedded else none) with
    | some p => rfl
    | none =>
      cases number with
      | none => rfl
      | some p => simp only [Option.map_none, Option.map_some, ih]

theorem readIpv6Addr_caseBlind : CaseBlind readIpv6Addr := by
  intro s
  unfold readIpv6Addr
  simp only [readGroups_toAsciiLowercase]
  split_ifs
  · rfl
  · rfl
  · rw [readGivenChar_toAsciiLowercase caseless_colon]
    cases readGivenChar colon (readGroups 8 0 s).2.2 with
    | none => rfl
    | some rest =>
      simp only [Option.map_some, Option.bind_some]
      rw [readGivenChar_toAsciiLowercase caseless_colon]
      cases readGivenChar colon rest with
      | none => rfl
      | some rest => simp only [Option.map_some, readGroups_toAsciiLowercase]

end IpParser

open IpParser

/-- What is read in either case parses in either case. -/
theorem CaseBlind.parseWith {α : Type} {read : Str → Option (α × Str)} (h : CaseBlind read)
    (s : Str) : parseWith read (toAsciiLowercase s) = parseWith read s := by
  unfold SniRouter.parseWith
  rw [h s]
  cases read s with
  | none => rfl
  | some p => simp [toAsciiLowercase]

/-- Case does not matter to an IP literal. -/
theorem IpAddr.parse_toAsciiLowercase (s : Str) :
    IpAddr.parse (toAsciiLowercase s) = IpAddr.parse s := by
  refine CaseBlind.parseWith (fun s => ?_) s
  rw [readIpv4Addr_caseBlind, readIpv6Addr_caseBlind]
  cases readIpv4Addr s with
  | some p => rfl
  | none =>
    cases readIpv6Addr s with
    | none => rfl
    | some p => rfl

theorem Ipv6Addr.parse_toAsciiLowercase (s : Str) :
    Ipv6Addr.parse (toAsciiLowercase s) = Ipv6Addr.parse s :=
  readIpv6Addr_caseBlind.parseWith s

end SniRouter
