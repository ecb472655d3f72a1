import Mathlib.Data.Nat.Digits.Lemmas
import SniRouter.Platform.Ip

/-!
# The text of IP addresses

How the standard library writes an address, and that its parsers read that
text back:

* `numberText` is read back by `readNumber`, whatever non-digit follows;
* a parsed address is `WellFormed`, and the text of a well-formed address
  parses to it (`IpAddr.parse_display`, `Ipv6Addr.parse_display`).
-/

namespace SniRouter

open Text

/-- `char::from_digit`. -/
def digitByte (digit : Nat) : UInt8 :=
  if digit < 10 then UInt8.ofNat (0x30 + digit) else UInt8.ofNat (0x61 + (digit - 10))

/-- A number as `{}` (radix 10) and `{:x}` (radix 16) write it. -/
def numberText (radix n : Nat) : Str :=
  if n = 0 then [zero] else ((Nat.digits radix n).map digitByte).reverse

/-- `impl Display for Ipv4Addr`: the octets in decimal, between dots. -/
def Ipv4Addr.display (ip : Ipv4Addr) : Str :=
  [dot].intercalate (ip.octets.map (numberText 10))

/-- A run of segments. -/
structure Span where
  start : Nat
  len   : Nat
deriving DecidableEq, Repr

/-- The loop that looks for the longest run of zero segments. -/
def findZeroes : List Nat → Nat → Span → Span → Span
  | [], _, longest, _ => longest
  | segment :: rest, i, longest, current =>
    if segment = 0 then
      let current : Span :=
        ⟨if current.len = 0 then i else current.start, current.len + 1⟩
      findZeroes rest (i + 1) (if current.len > longest.len then current else longest) current
    else findZeroes rest (i + 1) longest ⟨0, 0⟩

/-- `to_ipv4_mapped`: the address in `::ffff:a.b.c.d`. -/
def Ipv6Addr.toIpv4Mapped : Ipv6Addr → Option Ipv4Addr
  | ⟨[0, 0, 0, 0, 0, 0xffff, ab, cd]⟩ => some ⟨[ab / 256, ab % 256, cd / 256, cd % 256]⟩
  | _ => none

/-- Groups in hexadecimal, between colons. -/
def fmtSubslice (chunk : List Nat) : Str :=
  [colon].intercalate (chunk.map (numberText 16))

/-- `impl Display for Ipv6Addr`: a mapped address in dotted form, else the longest run of
zeroes as `::`. -/
def Ipv6Addr.display (ip : Ipv6Addr) : Str :=
  match ip.toIpv4Mapped with
  | some ipv4 => ascii "::ffff:" ++ ipv4.display
  | none =>
    let zeroes := findZeroes ip.segments 0 ⟨0, 0⟩ ⟨0, 0⟩
    if zeroes.len > 1 then
      fmtSubslice (ip.segments.take zeroes.start) ++ [colon, colon] ++
        fmtSubslice (ip.segments.drop (zeroes.start + zeroes.len))
    else fmtSubslice ip.segments

/-- `impl Display for IpAddr`. -/
def IpAddr.display : IpAddr → Str
  | .v4 ip => ip.display
  | .v6 ip => ip.display

example : (Ipv6Addr.mk [0xfe80, 0, 0, 1, 0, 0, 0, 0xab]).display = ascii "fe80:0:0:1::ab" := by
  decide +kernel

-- ---------------------------------------------------------------------------
-- Numbers
-- ---------------------------------------------------------------------------

section Number

open IpParser

variable {radix : Nat}

/-- A digit is read back. -/
theorem toDigit_digitByte (hradix : radix ≤ 16) {digit : Nat} (h : digit < radix) :
    toDigit radix (digitByte digit) = some digit := by
  have key : ∀ d : Fin 16, ∀ r : Fin 17, d.val < r.val →
      toDigit r (digitByte d) = some d.val := by decide +kernel
  exact key ⟨digit, by omega⟩ ⟨radix, by omega⟩ h

theorem toDigit_zero (hradix : 1 < radix) : toDigit radix zero = some 0 := by
  have hzero : isAsciiDigit zero = true := by decide
  have hval : zero.toNat - 0x30 = 0 := by decide
  simp only [toDigit, hzero, if_true, hval]
  exact Option.filter_some_pos (by simpa using by omega)

theorem numberText_ne_nil (radix n : Nat) : numberText radix n ≠ [] := by
  unfold numberText
  split_ifs with h
  · simp
  · simpa using Nat.digits_ne_nil_iff_ne_zero.mpr h

/-- Only a single digit starts with zero. -/
theorem numberText_head_zero {n : Nat} (hradix : 1 < radix) (hle : radix ≤ 16)
    (h : (numberText radix n).head? = some zero) : (numberText radix n).length = 1 := by
  unfold numberText at h ⊢
  split_ifs at h ⊢ with hn
  · rfl
  · have hne := Nat.digits_ne_nil_iff_ne_zero (b := radix).mpr hn
    rw [List.head?_reverse, List.getLast?_map, List.getLast?_eq_some_getLast hne,
      Option.map_some, Option.some.injEq] at h
    have hlast : (Nat.digits radix n).getLast hne < radix :=
      Nat.digits_lt_base hradix (List.getLast_mem hne)
    have hdigit := toDigit_digitByte hle hlast
    rw [h, toDigit_zero hradix] at hdigit
    exact absurd (Option.some.inj hdigit).symm (Nat.getLast_digit_ne_zero radix hn)

/-- Every byte of the text is a digit of the radix. -/
theorem mem_numberText {n : Nat} (hradix : 1 < radix) (hle : radix ≤ 16) {b : UInt8}
    (hb : b ∈ numberText radix n) : ∃ digit, digit < radix ∧ b = digitByte digit := by
  unfold numberText at hb
  split_ifs at hb with hn
  · exact ⟨0, by omega, (List.mem_singleton.mp hb).trans (by decide)⟩
  · simp only [List.mem_reverse, List.mem_map] at hb
    obtain ⟨digit, hdigit, rfl⟩ := hb
    exact ⟨digit, Nat.digits_lt_base hradix hdigit, rfl⟩

/-- Reading the digits from the left gives the number. -/
theorem foldl_numberText {n : Nat} (hradix : 1 < radix) (hle : radix ≤ 16) :
    (numberText radix n).foldl (fun acc b => acc * radix + (toDigit radix b).getD 0) 0 = n := by
  unfold numberText
  split_ifs with hn
  · simp [toDigit_zero hradix, hn]
  · rw [List.foldl_reverse, List.foldr_map]
    have hdigits : ∀ ds : List Nat, (∀ d ∈ ds, d < radix) →
        ds.foldr (fun d acc => acc * radix + (toDigit radix (digitByte d)).getD 0) 0 =
          Nat.ofDigits radix ds := by
      intro ds hds
      induction ds with
      | nil => rfl
      | cons d ds ih =>
        rw [List.foldr_cons, ih fun d hd => hds d (List.mem_cons_of_mem _ hd),
          toDigit_digitByte hle (hds d (List.mem_cons_self ..)), Nat.ofDigits_cons]
        simp only [Option.getD_some]
        ring
    rw [hdigits _ fun d hd => Nat.digits_lt_base hradix hd, Nat.ofDigits_digits]

theorem length_numberText {n k : Nat} (hradix : 1 < radix) (hk : 0 < k) (h : n < radix ^ k) :
    (numberText radix n).length ≤ k := by
  unfold numberText
  split_ifs with hn
  · exact hk
  · rw [List.length_reverse, List.length_map]
    exact (Nat.digits_length_le_iff hradix n).mpr h

/-- A number's text is read back, whatever non-digit follows it. -/
theorem readNumber_numberText {n maxDigits maxValue : Nat} {allowZeroPrefix : Bool} {rest : Str}
    (hradix : 1 < radix) (hle : radix ≤ 16) (hdigits : 0 < maxDigits)
    (hlen : n < radix ^ maxDigits) (hmax : n ≤ maxValue)
    (hrest : ∀ b ∈ rest.head?, toDigit radix b = none) :
    readNumber radix maxDigits maxValue allowZeroPrefix (numberText radix n ++ rest) =
      some (n, rest) := by
  have hall : ∀ b ∈ numberText radix n, (toDigit radix b).isSome = true := by
    intro b hb
    obtain ⟨digit, hdigit, rfl⟩ := mem_numberText hradix hle hb
    rw [toDigit_digitByte hle hdigit]
    rfl
  have htake : (numberText radix n ++ rest).takeWhile (fun b => (toDigit radix b).isSome) =
      numberText radix n := by
    rw [List.takeWhile_append_of_pos hall]
    cases rest with
    | nil => simp
    | cons b rest => simp [hrest b rfl]
  have hne : (numberText radix n).length ≠ 0 := by
    simpa using numberText_ne_nil radix n
  have hshort := length_numberText hradix hdigits hlen
  have hlead : ¬ ((!allowZeroPrefix && (numberText radix n ++ rest).head? == some zero &&
      decide ((numberText radix n).length > 1)) = true) := by
    intro h
    simp only [Bool.and_eq_true, beq_iff_eq, decide_eq_true_eq] at h
    rw [List.head?_append_of_ne_nil _ (numberText_ne_nil radix n)] at h
    have := numberText_head_zero hradix hle h.1.2
    omega
  unfold readNumber
  simp only [htake, foldl_numberText hradix hle]
  rw [if_neg (by omega), if_neg hne, if_neg hlead, if_neg (by omega), List.drop_left]

end Number

theorem intercalate_cons (sep : UInt8) (piece : Str) (pieces : List Str) :
    [sep].intercalate (piece :: pieces) = piece ++ pieces.flatMap (sep :: ·) := by
  induction pieces generalizing piece with
  | nil => simp
  | cons next pieces ih =>
    rw [List.intercalate_cons_of_ne_nil (by simp), ih, List.flatMap_cons]
    simp

-- ---------------------------------------------------------------------------
-- IPv4
-- ---------------------------------------------------------------------------

/-- Four octets of eight bits. -/
def Ipv4Addr.WellFormed (ip : Ipv4Addr) : Prop :=
  ip.octets.length = 4 ∧ ∀ octet ∈ ip.octets, octet ≤ 255

namespace IpParser

/-- A number read is within its bound, and the rest is a suffix. -/
theorem readNumber_spec {radix maxDigits maxValue : Nat} {allowZeroPrefix : Bool} {s : Str}
    {p : Nat × Str} (h : readNumber radix maxDigits maxValue allowZeroPrefix s = some p) :
    p.1 ≤ maxValue ∧ p.2 <:+ s := by
  unfold readNumber at h
  dsimp only at h
  split_ifs at h with _ _ _ hmax
  obtain rfl := Option.some.inj h
  exact ⟨by omega, List.drop_suffix ..⟩

/-- No number starts with a byte that is no digit. -/
theorem readNumber_eq_none {radix maxDigits maxValue : Nat} {allowZeroPrefix : Bool} {s : Str}
    (h : ∀ b ∈ s.head?, toDigit radix b = none) :
    readNumber radix maxDigits maxValue allowZeroPrefix s = none := by
  have htake : s.takeWhile (fun b => (toDigit radix b).isSome) = [] := by
    cases s with
    | nil => rfl
    | cons b s => simp [h b rfl]
  simp [readNumber, htake]

/-- Reading a given character. -/
theorem readGivenChar_eq_some_iff {c : UInt8} {s rest : Str} :
    readGivenChar c s = some rest ↔ s = c :: rest := by
  cases s with
  | nil => simp [readGivenChar]
  | cons b s => simp [readGivenChar]

theorem readSeparator_zero {α : Type} (sep : UInt8) (inner : Str → Option (α × Str)) (s : Str) :
    readSeparator sep 0 inner s = inner s := rfl

theorem readSeparator_cons {α : Type} {sep : UInt8} {index : Nat} (hindex : 0 < index)
    (inner : Str → Option (α × Str)) (s : Str) :
    readSeparator sep index inner (sep :: s) = inner s := by
  simp [readSeparator, hindex, readGivenChar]

/-- Past the first group nothing is read without the separator. -/
theorem readSeparator_eq_none {α : Type} {sep : UInt8} {index : Nat} (hindex : 0 < index)
    {inner : Str → Option (α × Str)} {s : Str} (h : sep ∉ s) :
    readSeparator sep index inner s = none := by
  rw [readSeparator, if_pos hindex, Option.bind_eq_none_iff]
  intro rest hrest
  exact absurd (readGivenChar_eq_some_iff.mp hrest ▸ List.mem_cons_self ..) h

/-- What a group reader leaves is a suffix of its input. -/
theorem readSeparator_spec {α : Type} {sep : UInt8} {index : Nat}
    {inner : Str → Option (α × Str)} {s : Str} {p : α × Str}
    (h : readSeparator sep index inner s = some p) : ∃ s', s' <:+ s ∧ inner s' = some p := by
  unfold readSeparator at h
  split_ifs at h
  · obtain ⟨rest, hrest, hinner⟩ := Option.bind_eq_some_iff.mp h
    exact ⟨rest, readGivenChar_eq_some_iff.mp hrest ▸ List.suffix_cons .., hinner⟩
  · exact ⟨s, List.suffix_rfl, h⟩

/-- `n` octets read are `n` numbers up to 255. -/
theorem readOctets_spec {n index : Nat} {s : Str} {p : List Nat × Str}
    (h : readOctets n index s = some p) :
    p.1.length = n ∧ (∀ octet ∈ p.1, octet ≤ 255) ∧ p.2 <:+ s := by
  induction n generalizing index s p with
  | zero =>
    obtain rfl := Option.some.inj h
    exact ⟨rfl, by simp, List.suffix_rfl⟩
  | succ n ih =>
    obtain ⟨⟨octet, rest⟩, hoctet, h⟩ := Option.bind_eq_some_iff.mp h
    obtain ⟨⟨octets, rest'⟩, hoctets, rfl⟩ := Option.map_eq_some_iff.mp h
    obtain ⟨s', hs', hnumber⟩ := readSeparator_spec hoctet
    obtain ⟨hle, hrest⟩ := readNumber_spec hnumber
    obtain ⟨hlen, hall, hrest'⟩ := ih hoctets
    refine ⟨by simpa using hlen, ?_, hrest'.trans (hrest.trans hs')⟩
    intro o ho
    rcases List.mem_cons.mp ho with rfl | ho
    · exact hle
    · exact hall o ho

/-- An IPv4 address read is well formed. -/
theorem readIpv4Addr_spec {s : Str} {p : Ipv4Addr × Str} (h : readIpv4Addr s = some p) :
    p.1.WellFormed ∧ p.2 <:+ s := by
  obtain ⟨q, hq, rfl⟩ := Option.map_eq_some_iff.mp h
  obtain ⟨hlen, hall, hrest⟩ := readOctets_spec hq
  exact ⟨⟨hlen, hall⟩, hrest⟩

/-- There is no IPv4 address without a dot. -/
theorem readIpv4Addr_eq_none {s : Str} (h : dot ∉ s) : readIpv4Addr s = none := by
  rw [readIpv4Addr, Option.map_eq_none_iff, readOctets, Option.bind_eq_none_iff]
  intro p hp
  have hdot : dot ∉ p.2 := fun hmem => h ((readNumber_spec hp).2.subset hmem)
  rw [readOctets, readSeparator_eq_none (by omega) hdot]
  rfl

/-- No IPv4 address begins with a colon. -/
theorem readIpv4Addr_colon (s : Str) : readIpv4Addr (colon :: s) = none := by
  have hnumber : readNumber 10 3 255 false (colon :: s) = none :=
    readNumber_eq_none (by simp; decide)
  rw [readIpv4Addr, readOctets, readSeparator_zero, hnumber]
  rfl

/-- The octets after the first are read back. -/
theorem readOctets_text {octets : List Nat} (h : ∀ octet ∈ octets, octet ≤ 255) {index : Nat}
    (hindex : 0 < index) :
    readOctets octets.length index (octets.flatMap fun octet => dot :: numberText 10 octet) =
      some (octets, []) := by
  induction octets generalizing index with
  | nil => rfl
  | cons octet octets ih =>
    have hle : octet ≤ 255 := h octet (List.mem_cons_self ..)
    -- the next octet, if any, starts with a dot
    have hnext : ∀ b ∈ (octets.flatMap fun o => dot :: numberText 10 o).head?,
        toDigit 10 b = none := by
      cases octets with
      | nil => simp
      | cons o octets => simp; decide
    rw [List.flatMap_cons, List.length_cons, readOctets, List.cons_append,
      readSeparator_cons hindex,
      readNumber_numberText (by omega) (by omega) (by omega) (by omega) hle hnext]
    dsimp only [Option.bind_some]
    rw [ih (fun o ho => h o (List.mem_cons_of_mem _ ho)) (by omega)]
    rfl

/-- A displayed IPv4 address is read back. -/
theorem readIpv4Addr_display {ip : Ipv4Addr} (h : ip.WellFormed) :
    readIpv4Addr ip.display = some (ip, []) := by
  obtain ⟨octets⟩ := ip
  obtain ⟨hlen, hle⟩ := h
  cases octets with
  | nil => simp at hlen
  | cons octet octets =>
    have hlen : octets.length = 3 := by simpa using hlen
    have htext : Ipv4Addr.display ⟨octet :: octets⟩ =
        numberText 10 octet ++ octets.flatMap fun o => dot :: numberText 10 o := by
      rw [Ipv4Addr.display, List.map_cons, intercalate_cons, List.flatMap_map]
    have hnext : ∀ b ∈ (octets.flatMap fun o => dot :: numberText 10 o).head?,
        toDigit 10 b = none := by
      cases octets with
      | nil => simp
      | cons o octets => simp; decide
    have hoctet : octet ≤ 255 := hle octet (List.mem_cons_self ..)
    have hrest := readOctets_text (fun o ho => hle o (List.mem_cons_of_mem _ ho)) Nat.one_pos
    rw [hlen] at hrest
    rw [htext, readIpv4Addr, readOctets, readSeparator_zero,
      readNumber_numberText (by omega) (by omega) (by omega) (by omega) hoctet hnext]
    dsimp only [Option.bind_some]
    rw [hrest]
    rfl

end IpParser

-- ---------------------------------------------------------------------------
-- IPv6
-- ---------------------------------------------------------------------------

/-- Eight segments of sixteen bits. -/
def Ipv6Addr.WellFormed (ip : Ipv6Addr) : Prop :=
  ip.segments.length = 8 ∧ ∀ segment ∈ ip.segments, segment < 65536

namespace IpParser

/-- Groups read are at most as many as asked for, each of 16 bits. -/
theorem readGroups_spec (left index : Nat) (s : Str) :
    (readGroups left index s).1.length ≤ left ∧
      (∀ group ∈ (readGroups left index s).1, group < 65536) ∧
      (readGroups left index s).2.2 <:+ s := by
  induction left generalizing index s with
  | zero => simp [readGroups]
  | succ left ih =>
    rw [readGroups]
    split
    · -- an embedded IPv4 address fills two groups
      next octets rest hembedded =>
      obtain ⟨hleft, hembedded⟩ : left > 0 ∧ readSeparator colon index readIpv4Addr s =
          some (⟨octets⟩, rest) := by
        split_ifs at hembedded with hleft
        exact ⟨hleft, hembedded⟩
      obtain ⟨s', hs', hv4⟩ := readSeparator_spec hembedded
      obtain ⟨⟨hlen, hle⟩, hrest⟩ := readIpv4Addr_spec hv4
      have hoctet : ∀ i, octets.getD i 0 ≤ 255 := by
        intro i
        rw [List.getD_eq_getElem?_getD]
        cases hi : octets[i]? with
        | none => simp
        | some o => exact hle o (List.mem_of_getElem? hi)
      refine ⟨by simp; omega, ?_, hrest.trans hs'⟩
      intro group hgroup
      have h0 := hoctet 0
      have h1 := hoctet 1
      have h2 := hoctet 2
      have h3 := hoctet 3
      simp only [List.mem_cons, List.not_mem_nil, or_false] at hgroup
      rcases hgroup with rfl | rfl
      · omega
      · omega
    · split
      · simp
      · next group rest hgroup =>
        obtain ⟨s', hs', hnumber⟩ := readSeparator_spec hgroup
        obtain ⟨hle, hrest⟩ := readNumber_spec hnumber
        obtain ⟨hlen, hall, hsuffix⟩ := ih (index + 1) rest
        refine ⟨by simpa using hlen, ?_, hsuffix.trans (hrest.trans hs')⟩
        intro g hg
        rcases List.mem_cons.mp hg with rfl | hg
        · exact Nat.lt_succ_of_le hle
        · exact hall g hg

/-- An IPv6 address read is well formed. -/
theorem readIpv6Addr_spec {s : Str} {p : Ipv6Addr × Str} (h : readIpv6Addr s = some p) :
    p.1.WellFormed := by
  obtain ⟨hlen, hall, -⟩ := readGroups_spec 8 0 s
  unfold readIpv6Addr at h
  dsimp only at h
  split_ifs at h with hfull
  · obtain rfl := Option.some.inj h
    exact ⟨hfull, hall⟩
  · obtain ⟨rest, -, rfl⟩ := Option.map_eq_some_iff.mp h
    generalize (readGroups 8 0 s).1 = head at *
    obtain ⟨htail, htailAll, -⟩ := readGroups_spec (8 - (head.length + 1)) 0 rest
    generalize (readGroups (8 - (head.length + 1)) 0 rest).1 = tail at *
    refine ⟨?_, ?_⟩
    · simp only [List.length_append, List.length_replicate]
      omega
    · intro segment hsegment
      simp only [List.mem_append, List.mem_replicate] at hsegment
      rcases hsegment with (hhead | ⟨-, rfl⟩) | htail
      · exact hall segment hhead
      · omega
      · exact htailAll segment htail

/-- An IPv4 address is no beginning of an IPv6 address. -/
theorem readIpv4Addr_of_readIpv6Addr {s : Str} {p : Ipv6Addr × Str}
    (h : readIpv6Addr s = some p) : readIpv4Addr s = none := by
  cases hv4 : readIpv4Addr s with
  | none => rfl
  | some q =>
    have hgroups : ∃ a b, readGroups 8 0 s = ([a, b], true, q.2) := by
      rw [readGroups, if_pos (by omega), readSeparator_zero, hv4]
      exact ⟨_, _, rfl⟩
    obtain ⟨a, b, hgroups⟩ := hgroups
    unfold readIpv6Addr at h
    simp [hgroups] at h

/-- There is no IPv6 address without a colon. -/
theorem readIpv6Addr_eq_none {s : Str} (h : colon ∉ s) : readIpv6Addr s = none := by
  have hshort : (readGroups 8 0 s).1.length ≤ 2 := by
    rw [readGroups]
    split
    · simp
    · split
      · simp
      · next group rest hgroup =>
        obtain ⟨s', hs', hnumber⟩ := readSeparator_spec hgroup
        have hcolon : colon ∉ rest := fun hmem =>
          h (hs'.subset ((readNumber_spec hnumber).2.subset hmem))
        rw [readGroups, if_pos (by omega), readSeparator_eq_none (by omega) hcolon,
          readSeparator_eq_none (by omega) hcolon]
        simp
  have hrest : colon ∉ (readGroups 8 0 s).2.2 := fun hmem =>
    h ((readGroups_spec 8 0 s).2.2.subset hmem)
  unfold readIpv6Addr
  dsimp only
  rw [if_neg (by omega)]
  split_ifs
  · rfl
  · rw [Option.map_eq_none_iff, Option.bind_eq_none_iff]
    intro rest hcolon
    exact absurd (readGivenChar_eq_some_iff.mp hcolon ▸ List.mem_cons_self ..) hrest

/-- What may follow the groups of one side: the end, or the `::`. -/
def GroupsEnd (rest : Str) : Prop := rest = [] ∨ ∃ s, rest = colon :: colon :: s

/-- Where the groups end no further one is read. -/
theorem readSeparator_end {α : Type} {inner : Str → Option (α × Str)} (hnil : inner [] = none)
    (hcolon : ∀ s, inner (colon :: s) = none) (index : Nat) {rest : Str} (h : GroupsEnd rest) :
    readSeparator colon index inner rest = none := by
  rcases h with rfl | ⟨s, rfl⟩
  · by_cases hindex : 0 < index
    · exact readSeparator_eq_none hindex (by simp)
    · obtain rfl : index = 0 := by omega
      exact hnil
  · by_cases hindex : 0 < index
    · rw [readSeparator_cons hindex, hcolon]
    · obtain rfl : index = 0 := by omega
      exact hcolon _

/-- Where the groups end the reader of groups stops. -/
theorem readGroups_end {left index : Nat} {rest : Str} (h : GroupsEnd rest) :
    readGroups left index rest = ([], false, rest) := by
  cases left with
  | zero => rfl
  | succ left =>
    have hv4 : readSeparator colon index readIpv4Addr rest = none :=
      readSeparator_end (readIpv4Addr_eq_none (List.not_mem_nil)) readIpv4Addr_colon index h
    have hgroup : readSeparator colon index (readNumber 16 4 65535 true) rest = none :=
      readSeparator_end (readNumber_eq_none (by simp))
        (fun s => readNumber_eq_none (by simp; decide)) index h
    rw [readGroups, hv4, hgroup]
    simp

/-- The groups after the first one, each behind its colon. -/
def groupsText (groups : List Nat) : Str := groups.flatMap fun group => colon :: numberText 16 group

/-- Hexadecimal digits hold no dot. -/
theorem dot_not_mem_numberText {n : Nat} : dot ∉ numberText 16 n := by
  intro hmem
  obtain ⟨digit, hdigit, heq⟩ := mem_numberText (by omega) (by omega) hmem
  have hkey : ∀ d : Fin 16, dot ≠ digitByte d := by decide +kernel
  exact hkey ⟨digit, hdigit⟩ heq

/-- Groups after the first hold no dot. -/
theorem dot_not_mem_groupsText {groups : List Nat} : dot ∉ groupsText groups := by
  intro hmem
  obtain ⟨group, -, hgroup⟩ := List.mem_flatMap.mp hmem
  rcases List.mem_cons.mp hgroup with h | h
  · exact absurd h (by decide)
  · exact dot_not_mem_numberText h

/-- Groups between colons hold no dot. -/
theorem dot_not_mem_fmtSubslice {chunk : List Nat} : dot ∉ fmtSubslice chunk := by
  cases chunk with
  | nil => simp [fmtSubslice]
  | cons group groups =>
    rw [fmtSubslice, List.map_cons, intercalate_cons, List.flatMap_map, List.mem_append, not_or]
    exact ⟨dot_not_mem_numberText, dot_not_mem_groupsText⟩

/-- After a group comes a colon or the end. -/
theorem head_groupsText {groups : List Nat} {rest : Str} (hend : GroupsEnd rest) :
    ∀ b ∈ (groupsText groups ++ rest).head?, toDigit 16 b = none := by
  cases groups with
  | nil =>
    rcases hend with rfl | ⟨s, rfl⟩
    · simp [groupsText]
    · simp [groupsText]
      decide
  | cons group groups =>
    simp [groupsText]
    decide

/-- The groups after the first are read back. -/
theorem readGroups_groupsText {groups : List Nat} (h : ∀ group ∈ groups, group < 65536)
    {left index : Nat} (hleft : groups.length ≤ left) (hindex : 0 < index) {rest : Str}
    (hend : GroupsEnd rest) (hdot : dot ∉ rest) :
    readGroups left index (groupsText groups ++ rest) = (groups, false, rest) := by
  induction groups generalizing left index with
  | nil => exact readGroups_end hend
  | cons group groups ih =>
    obtain ⟨left, rfl⟩ : ∃ n, left = n + 1 := ⟨left - 1, by simp at hleft; omega⟩
    have hgroup : group < 65536 := h group (List.mem_cons_self ..)
    have hcons : groupsText (group :: groups) ++ rest =
        colon :: (numberText 16 group ++ (groupsText groups ++ rest)) := by
      simp [groupsText]
    have hv4 : readIpv4Addr (numberText 16 group ++ (groupsText groups ++ rest)) = none := by
      refine readIpv4Addr_eq_none ?_
      simp [dot_not_mem_numberText, dot_not_mem_groupsText, hdot]
    rw [hcons, readGroups, readSeparator_cons hindex, readSeparator_cons hindex, hv4,
      readNumber_numberText (by omega) (by omega) (by omega) (by omega) (by omega)
        (head_groupsText hend)]
    simp only [ite_self]
    rw [ih (fun g hg => h g (List.mem_cons_of_mem _ hg)) (by simpa using hleft) (by omega)]

/-- Groups between colons are read back. -/
theorem readGroups_fmtSubslice {chunk : List Nat} (h : ∀ group ∈ chunk, group < 65536)
    {left : Nat} (hleft : chunk.length ≤ left) {rest : Str} (hend : GroupsEnd rest)
    (hdot : dot ∉ rest) :
    readGroups left 0 (fmtSubslice chunk ++ rest) = (chunk, false, rest) := by
  cases chunk with
  | nil => exact readGroups_end hend
  | cons group groups =>
    obtain ⟨left, rfl⟩ : ∃ n, left = n + 1 := ⟨left - 1, by simp at hleft; omega⟩
    have hgroup : group < 65536 := h group (List.mem_cons_self ..)
    have hcons : fmtSubslice (group :: groups) ++ rest =
        numberText 16 group ++ (groupsText groups ++ rest) := by
      rw [fmtSubslice, List.map_cons, intercalate_cons, List.flatMap_map, List.append_assoc]
      rfl
    have hv4 : readIpv4Addr (numberText 16 group ++ (groupsText groups ++ rest)) = none := by
      refine readIpv4Addr_eq_none ?_
      simp [dot_not_mem_numberText, dot_not_mem_groupsText, hdot]
    rw [hcons, readGroups, readSeparator_zero, readSeparator_zero, hv4,
      readNumber_numberText (by omega) (by omega) (by omega) (by omega) (by omega)
        (head_groupsText hend)]
    simp only [ite_self]
    rw [readGroups_groupsText (fun g hg => h g (List.mem_cons_of_mem _ hg))
      (by simpa using hleft) (by omega) hend hdot]

end IpParser

/-- A run of zeros within the segments. -/
def Span.Zero (span : Span) (segments : List Nat) : Prop :=
  span.start + span.len ≤ segments.length ∧
    ∀ k, span.start ≤ k → k < span.start + span.len → segments[k]? = some 0

/-- By induction on the segments still to visit; the current run, when there
is one, ends where the loop stands. -/
theorem findZeroes_zero {segments pre rest : List Nat} {longest current : Span}
    (hsegments : segments = pre ++ rest) (hlongest : longest.Zero segments)
    (hcurrent : current.Zero segments)
    (hends : current.len ≠ 0 → current.start + current.len = pre.length) :
    (findZeroes rest pre.length longest current).Zero segments := by
  induction rest generalizing pre longest current with
  | nil => exact hlongest
  | cons segment rest ih =>
    have hhere : segments[pre.length]? = some segment := by simp [hsegments]
    have hbound : pre.length + 1 ≤ segments.length := by simp [hsegments]
    have hsegments' : segments = (pre ++ [segment]) ++ rest := by simp [hsegments]
    have hnext := @ih (pre ++ [segment])
    rw [List.length_append, List.length_singleton] at hnext
    rw [findZeroes]
    by_cases hzero : segment = 0
    · rw [if_pos hzero]
      -- the current run, grown by this segment
      generalize hstart : (if current.len = 0 then pre.length else current.start) = start
      have hend : start + current.len = pre.length := by
        rw [← hstart]
        split_ifs with hempty
        · omega
        · exact hends hempty
      have hrun : Span.Zero ⟨start, current.len + 1⟩ segments := by
        refine ⟨by dsimp only; omega, fun k hlo hhi => ?_⟩
        dsimp only at hlo hhi
        by_cases hk : k = pre.length
        · rw [hk, hhere, hzero]
        · rw [← hstart] at hlo
          split_ifs at hlo with hempty
          · omega
          · exact hcurrent.2 k hlo (by have := hends hempty; omega)
      refine hnext hsegments' ?_ hrun fun _ => by dsimp only; omega
      split_ifs
      · exact hrun
      · exact hlongest
    · rw [if_neg hzero]
      have hnone : Span.Zero ⟨0, 0⟩ segments := ⟨by simp, fun k hlo hhi => by simp at hhi⟩
      exact hnext hsegments' hlongest hnone (by simp)

/-- Cutting out a run of zeros leaves what is before and after it. -/
theorem Span.Zero.split {span : Span} {segments : List Nat} (h : span.Zero segments) :
    segments = segments.take span.start ++ List.replicate span.len 0 ++
      segments.drop (span.start + span.len) := by
  obtain ⟨hbound, hzero⟩ := h
  have hmid : (segments.drop span.start).take span.len = List.replicate span.len 0 := by
    refine List.eq_replicate_iff.mpr ⟨by simp; omega, fun b hb => ?_⟩
    obtain ⟨k, hk, rfl⟩ := List.mem_iff_getElem.mp hb
    have hk' : k < span.len := by simp at hk; omega
    have := hzero (span.start + k) (by omega) (by omega)
    rw [List.getElem?_eq_getElem (by omega)] at this
    simpa using this
  rw [← hmid, List.append_assoc, ← List.drop_drop, List.take_append_drop, List.take_append_drop]

/-- The mapped addresses and the IPv4 address in each. -/
theorem Ipv6Addr.toIpv4Mapped_eq_some {ip : Ipv6Addr} {ipv4 : Ipv4Addr}
    (h : ip.toIpv4Mapped = some ipv4) :
    ∃ ab cd, ip = ⟨[0, 0, 0, 0, 0, 0xffff, ab, cd]⟩ ∧
      ipv4 = ⟨[ab / 256, ab % 256, cd / 256, cd % 256]⟩ := by
  unfold Ipv6Addr.toIpv4Mapped at h
  split at h
  · next ab cd => exact ⟨ab, cd, rfl, (Option.some.inj h).symm⟩
  · exact absurd h (by simp)

namespace IpParser

/-- A mapped address in dotted form is read back. -/
theorem readIpv6Addr_mapped {ab cd : Nat} (hab : ab < 65536) (hcd : cd < 65536) :
    readIpv6Addr (ascii "::ffff:" ++
      Ipv4Addr.display ⟨[ab / 256, ab % 256, cd / 256, cd % 256]⟩) =
      some (⟨[0, 0, 0, 0, 0, 0xffff, ab, cd]⟩, []) := by
  have hv4 : readIpv4Addr (Ipv4Addr.display ⟨[ab / 256, ab % 256, cd / 256, cd % 256]⟩) =
      some (⟨[ab / 256, ab % 256, cd / 256, cd % 256]⟩, []) := by
    refine readIpv4Addr_display ⟨rfl, ?_⟩
    intro octet hoctet
    simp only [List.mem_cons, List.not_mem_nil, or_false] at hoctet
    omega
  generalize Ipv4Addr.display ⟨[ab / 256, ab % 256, cd / 256, cd % 256]⟩ = text at hv4
  have hmapped : ascii "::ffff:" ++ text =
      colon :: colon :: (numberText 16 0xffff ++ (colon :: text)) := by
    have : ascii "::ffff:" = colon :: colon :: (numberText 16 0xffff ++ [colon]) := by
      decide +kernel
    rw [this]
    simp
  have hgroup : readNumber 16 4 65535 true (numberText 16 0xffff ++ (colon :: text)) =
      some (0xffff, colon :: text) :=
    readNumber_numberText (by omega) (by omega) (by omega) (by omega) (by omega) (by simp; decide)
  have hnotV4 : readIpv4Addr (numberText 16 0xffff ++ (colon :: text)) = none := by
    have hnumber : readNumber 10 3 255 false (numberText 16 0xffff ++ (colon :: text)) = none := by
      refine readNumber_eq_none ?_
      have hhead : (numberText 16 0xffff ++ (colon :: text)).head? = some 0x66 := by
        have : numberText 16 0xffff = [0x66, 0x66, 0x66, 0x66] := by decide +kernel
        rw [this]
        rfl
      rw [hhead]
      simp
      decide
    rw [readIpv4Addr, readOctets, readSeparator_zero, hnumber]
    rfl
  have htail : readGroups 7 0 (numberText 16 0xffff ++ (colon :: text)) =
      ([0xffff, ab, cd], true, []) := by
    have hlast : readGroups 6 1 (colon :: text) = ([ab, cd], true, []) := by
      rw [readGroups, if_pos (by omega), readSeparator_cons (by omega), hv4]
      simp
      omega
    rw [readGroups, readSeparator_zero, readSeparator_zero, hnotV4, hgroup]
    simp only [ite_self]
    rw [hlast]
  unfold readIpv6Addr
  rw [hmapped, readGroups_end (Or.inr ⟨_, rfl⟩)]
  simp [readGivenChar, htail]

/-- A displayed IPv6 address is read back. -/
theorem readIpv6Addr_display {ip : Ipv6Addr} (h : ip.WellFormed) :
    readIpv6Addr ip.display = some (ip, []) := by
  obtain ⟨segments⟩ := ip
  obtain ⟨hlen, hall⟩ := h
  dsimp only at hlen hall
  unfold Ipv6Addr.display
  split
  · next ipv4 hmapped =>
    obtain ⟨ab, cd, heq, rfl⟩ := Ipv6Addr.toIpv4Mapped_eq_some hmapped
    obtain rfl : segments = [0, 0, 0, 0, 0, 0xffff, ab, cd] := congrArg Ipv6Addr.segments heq
    exact readIpv6Addr_mapped (hall ab (by simp)) (hall cd (by simp))
  · dsimp only
    have hempty : Span.Zero ⟨0, 0⟩ segments := ⟨by simp, fun k hlo hhi => by simp at hhi⟩
    have hzero : (findZeroes segments 0 ⟨0, 0⟩ ⟨0, 0⟩).Zero segments :=
      findZeroes_zero (List.nil_append _).symm hempty hempty (by simp)
    generalize findZeroes segments 0 ⟨0, 0⟩ ⟨0, 0⟩ = zeroes at hzero
    split_ifs with hcompress
    · -- the two sides of the `::`
      have hsplit := hzero.split
      have hbound := hzero.1
      generalize hhead : segments.take zeroes.start = head at hsplit
      generalize htail : segments.drop (zeroes.start + zeroes.len) = tail at hsplit
      have hlenHead : head.length = zeroes.start := by
        rw [← hhead, List.length_take]
        omega
      have hlenTail : tail.length = 8 - (zeroes.start + zeroes.len) := by
        rw [← htail, List.length_drop, hlen]
      have hallHead : ∀ g ∈ head, g < 65536 := fun g hg =>
        hall g (List.mem_of_mem_take (hhead ▸ hg))
      have hallTail : ∀ g ∈ tail, g < 65536 := fun g hg =>
        hall g (List.mem_of_mem_drop (htail ▸ hg))
      have hrest : GroupsEnd ([colon, colon] ++ fmtSubslice tail) := Or.inr ⟨_, rfl⟩
      have hread := readGroups_fmtSubslice hallHead (by omega : head.length ≤ 8) hrest
        (by simp [dot_not_mem_fmtSubslice]; decide)
      have hreadTail := readGroups_fmtSubslice hallTail
        (by omega : tail.length ≤ 8 - (head.length + 1)) (Or.inl rfl) List.not_mem_nil
      rw [List.append_nil] at hreadTail
      have hpad : 8 - tail.length - head.length = zeroes.len := by omega
      unfold readIpv6Addr
      rw [List.append_assoc, hread]
      simp only [Bool.false_eq_true, if_false, List.cons_append, List.nil_append, readGivenChar,
        if_true, Option.bind_some, Option.map_some, hreadTail, hpad]
      rw [if_neg (by omega), ← hsplit]
    · have hread := readGroups_fmtSubslice hall (by omega : segments.length ≤ 8) (Or.inl rfl)
        List.not_mem_nil
      rw [List.append_nil] at hread
      unfold readIpv6Addr
      rw [hread]
      simp [hlen]

end IpParser

-- ---------------------------------------------------------------------------
-- Round trips
-- ---------------------------------------------------------------------------

open IpParser

/-- An address of either family as its octets or segments require. -/
def IpAddr.WellFormed : IpAddr → Prop
  | .v4 ip => ip.WellFormed
  | .v6 ip => ip.WellFormed

/-- A parse is a read that leaves nothing. -/
theorem parseWith_eq_some_iff {α : Type} {read : Str → Option (α × Str)} {s : Str} {a : α} :
    parseWith read s = some a ↔ read s = some (a, []) := by
  unfold parseWith
  rw [Option.bind_eq_some_iff]
  constructor
  · rintro ⟨⟨a', rest⟩, hread, h⟩
    split_ifs at h with hempty
    obtain rfl := Option.some.inj h
    obtain rfl : rest = [] := List.isEmpty_iff.mp hempty
    exact hread
  · intro h
    exact ⟨(a, []), h, rfl⟩

/-- An address parsed is well formed. -/
theorem IpAddr.parse_wellFormed {s : Str} {ip : IpAddr} (h : IpAddr.parse s = some ip) :
    ip.WellFormed := by
  have hread := parseWith_eq_some_iff.mp h
  rw [Option.or_eq_some_iff, Option.map_eq_some_iff, Option.map_eq_some_iff] at hread
  rcases hread with ⟨p, hp, heq⟩ | ⟨-, p, hp, heq⟩
  · obtain ⟨rfl, -⟩ := Prod.mk.inj heq
    exact (readIpv4Addr_spec hp).1
  · obtain ⟨rfl, -⟩ := Prod.mk.inj heq
    exact readIpv6Addr_spec hp

/-- An IPv6 literal reads the same as an IP literal. -/
theorem IpAddr.parse_of_ipv6 {s : Str} {ip : Ipv6Addr} (h : Ipv6Addr.parse s = some ip) :
    IpAddr.parse s = some (.v6 ip) := by
  have hread := parseWith_eq_some_iff.mp h
  refine parseWith_eq_some_iff.mpr ?_
  rw [readIpv4Addr_of_readIpv6Addr hread, hread]
  rfl

/-- **The text of an address parses to the address.** -/
theorem IpAddr.parse_display {ip : IpAddr} (h : ip.WellFormed) :
    IpAddr.parse ip.display = some ip := by
  cases ip with
  | v4 ip =>
    refine parseWith_eq_some_iff.mpr ?_
    rw [IpAddr.display, readIpv4Addr_display h]
    rfl
  | v6 ip => exact IpAddr.parse_of_ipv6 (parseWith_eq_some_iff.mpr (readIpv6Addr_display h))

/-- A displayed IPv6 address parses. -/
theorem Ipv6Addr.parse_display {ip : Ipv6Addr} (h : ip.WellFormed) :
    Ipv6Addr.parse ip.display = some ip :=
  parseWith_eq_some_iff.mpr (readIpv6Addr_display h)

/-- An IP literal has a dot or a colon. -/
theorem IpAddr.parse_eq_none {s : Str} (hdot : dot ∉ s) (hcolon : colon ∉ s) :
    IpAddr.parse s = none := by
  unfold IpAddr.parse parseWith
  dsimp only
  rw [readIpv4Addr_eq_none hdot, readIpv6Addr_eq_none hcolon]
  rfl

/-- IPv4 text consists of digits and dots. -/
theorem Ipv4Addr.mem_display {ip : Ipv4Addr} {b : UInt8} (hb : b ∈ ip.display) :
    b = dot ∨ isAsciiDigit b = true := by
  have hdigit : ∀ n, ∀ b ∈ numberText 10 n, isAsciiDigit b = true := by
    intro n b hb
    obtain ⟨digit, hdigit, rfl⟩ := mem_numberText (by omega) (by omega) hb
    have hkey : ∀ d : Fin 10, isAsciiDigit (digitByte d) = true := by decide +kernel
    exact hkey ⟨digit, hdigit⟩
  unfold Ipv4Addr.display at hb
  cases hoctets : ip.octets with
  | nil => simp [hoctets] at hb
  | cons octet octets =>
    rw [hoctets, List.map_cons, intercalate_cons, List.flatMap_map, List.mem_append,
      List.mem_flatMap] at hb
    rcases hb with hb | ⟨o, -, hb⟩
    · exact Or.inr (hdigit octet b hb)
    · rcases List.mem_cons.mp hb with hb | hb
      · exact Or.inl hb
      · exact Or.inr (hdigit o b hb)

/-- IPv6 text has no bracket. -/
theorem Ipv6Addr.closeBracket_not_mem_display (ip : Ipv6Addr) : closeBracket ∉ ip.display := by
  have hnumber : ∀ n, closeBracket ∉ numberText 16 n := by
    intro n hmem
    obtain ⟨digit, hdigit, heq⟩ := mem_numberText (by omega) (by omega) hmem
    have hkey : ∀ d : Fin 16, closeBracket ≠ digitByte d := by decide +kernel
    exact hkey ⟨digit, hdigit⟩ heq
  have hsubslice : ∀ chunk, closeBracket ∉ fmtSubslice chunk := by
    intro chunk
    cases chunk with
    | nil => simp [fmtSubslice]
    | cons group groups =>
      rw [fmtSubslice, List.map_cons, intercalate_cons, List.flatMap_map, List.mem_append, not_or]
      refine ⟨hnumber group, fun hmem => ?_⟩
      obtain ⟨g, -, hg⟩ := List.mem_flatMap.mp hmem
      rcases List.mem_cons.mp hg with h | h
      · exact absurd h (by decide)
      · exact hnumber g h
  unfold Ipv6Addr.display
  split
  · next ipv4 hmapped =>
    rw [List.mem_append, not_or]
    refine ⟨by decide, fun hmem => ?_⟩
    rcases Ipv4Addr.mem_display hmem with h | h
    · exact absurd h (by decide)
    · exact absurd h (by decide)
  · dsimp only
    split_ifs
    · simp only [List.mem_append, not_or]
      exact ⟨⟨hsubslice _, by decide⟩, hsubslice _⟩
    · exact hsubslice _

end SniRouter
