import SniRouter.Platform.Text

/-!
# IP address text

The standard library's parsers for IP address literals. A hostname that parses
as one is rejected, and a backend host that parses as one is dialed directly.
-/

namespace SniRouter

open Text

/-- `Ipv4Addr`: its four octets. -/
structure Ipv4Addr where
  octets : List Nat
deriving DecidableEq, Repr

/-- `Ipv6Addr`: its eight segments. -/
structure Ipv6Addr where
  segments : List Nat
deriving DecidableEq, Repr

/-- `IpAddr`. -/
inductive IpAddr where
  | v4 (ip : Ipv4Addr)
  | v6 (ip : Ipv6Addr)
deriving DecidableEq, Repr

namespace IpParser

/-- `char::to_digit`. -/
def toDigit (radix : Nat) (b : UInt8) : Option Nat :=
  let digit :=
    if isAsciiDigit b then some (b.toNat - 0x30)
    else if isAsciiLowercase b then some (b.toNat - 0x61 + 10)
    else if isAsciiUppercase b then some (b.toNat - 0x41 + 10)
    else none
  digit.filter (· < radix)

/-- `read_given_char`. -/
def readGivenChar (c : UInt8) : Str → Option Str
  | [] => none
  | b :: rest => if b = c then some rest else none

/-- `read_number`: the longest run of digits, at most `maxDigits` of them,
whose value is at most `maxValue`. -/
def readNumber (radix maxDigits maxValue : Nat) (allowZeroPrefix : Bool)
    (s : Str) : Option (Nat × Str) :=
  let digits := s.takeWhile fun b => (toDigit radix b).isSome
  let value := digits.foldl (fun acc b => acc * radix + (toDigit radix b).getD 0) 0
  if digits.length > maxDigits then none
  else if digits.length = 0 then none
  else if !allowZeroPrefix && s.head? == some zero && digits.length > 1 then none
  else if value > maxValue then none
  else some (value, s.drop digits.length)

/-- `read_separator`: every group after the first follows a separator. -/
def readSeparator {α : Type} (sep : UInt8) (index : Nat) (inner : Str → Option (α × Str))
    (s : Str) : Option (α × Str) :=
  if index > 0 then (readGivenChar sep s).bind inner else inner s

/-- The octets of `read_ipv4_addr` from `index` on. -/
def readOctets : Nat → Nat → Str → Option (List Nat × Str)
  | 0, _, s => some ([], s)
  | n + 1, index, s =>
    (readSeparator dot index (readNumber 10 3 255 false) s).bind fun p =>
      (readOctets n (index + 1) p.2).map fun q => (p.1 :: q.1, q.2)

/-- `read_ipv4_addr`. -/
def readIpv4Addr (s : Str) : Option (Ipv4Addr × Str) :=
  (readOctets 4 0 s).map fun p => (⟨p.1⟩, p.2)

/-- `read_groups` from `index` on, with `left` slots to fill: the groups read,
whether they end in an embedded IPv4 address, and what follows. -/
def readGroups : Nat → Nat → Str → List Nat × Bool × Str
  | 0, _, s => ([], false, s)
  | left + 1, index, s =>
    -- an embedded IPv4 address needs two groups
    match if left > 0 then readSeparator colon index readIpv4Addr s else none with
    | some (⟨octets⟩, rest) =>
      let o := fun i => octets.getD i 0
      ([o 0 * 256 + o 1, o 2 * 256 + o 3], true, rest)
    | none =>
      match readSeparator colon index (readNumber 16 4 65535 true) s with
      | none => ([], false, s)
      | some (group, rest) =>
        let (groups, ipv4, rest) := readGroups left (index + 1) rest
        (group :: groups, ipv4, rest)

/-- `read_ipv6_addr`. -/
def readIpv6Addr (s : Str) : Option (Ipv6Addr × Str) :=
  let (head, headIpv4, rest) := readGroups 8 0 s
  if head.length = 8 then some (⟨head⟩, rest)
  -- an IPv4 part is not allowed before `::`
  else if headIpv4 then none
  else
    ((readGivenChar colon rest).bind (readGivenChar colon)).map fun rest =>
      -- `::` stands for at least one zero group
      let (tail, _, rest) := readGroups (8 - (head.length + 1)) 0 rest
      (⟨head ++ List.replicate (8 - tail.length - head.length) 0 ++ tail⟩, rest)

end IpParser

/-- The value of a reader that used up its whole input. -/
def parseWith {α : Type} (read : Str → Option (α × Str)) (s : Str) : Option α :=
  (read s).bind fun p => if p.2.isEmpty then some p.1 else none

/-- `Ipv6Addr::from_str`. -/
def Ipv6Addr.parse (s : Str) : Option Ipv6Addr :=
  parseWith IpParser.readIpv6Addr s

/-- `IpAddr::from_str`. -/
def IpAddr.parse (s : Str) : Option IpAddr :=
  parseWith (fun s =>
    ((IpParser.readIpv4Addr s).map fun p => (IpAddr.v4 p.1, p.2)).or
      ((IpParser.readIpv6Addr s).map fun p => (IpAddr.v6 p.1, p.2))) s

example : IpAddr.parse (ascii "10.0.0.1") = some (.v4 ⟨[10, 0, 0, 1]⟩) := by decide
example : IpAddr.parse (ascii "10.0.0.01") = none := by decide
example : IpAddr.parse (ascii "fe80::1:10.0.0.1") =
    some (.v6 ⟨[0xfe80, 0, 0, 0, 0, 1, 0x0a00, 1]⟩) := by decide

end SniRouter
