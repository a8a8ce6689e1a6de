import DataplaneSync.Text.Numeral

namespace DataplaneSync

/-!
# IP addresses

Addresses of both IP versions and their texts.

* `Ipv4Address` — four octets; written and read in decimal, without leading zeros.
* `Ipv6Address` — eight groups of sixteen bits; written in lower-case hexadecimal with the
  longest run of zero groups shortened to `::`, and an address that embeds an IPv4 address in
  its dotted form.
* `IpAddress.ofChars?` — reads either version; the whole text has to be the address.
-/

open Text

/-! ### Version 4 -/

/-- An IPv4 address. -/
structure Ipv4Address where
  a : UInt8
  b : UInt8
  c : UInt8
  d : UInt8
  deriving DecidableEq, Inhabited

namespace Ipv4Address

/-- The characters of the written address. -/
def toChars (x : Ipv4Address) : List Char :=
  ['.'].intercalate ([x.a, x.b, x.c, x.d].map fun o => decimal o.toNat)

/-- The decimal digits at the start of a text, as an octet, with the text behind them.  There
are at most three digits, and none before them is a zero. -/
def octet? (cs : List Char) : Option (UInt8 × List Char) :=
  let digits := cs.takeWhile (isDigitOf 10)
  let rest := cs.dropWhile (isDigitOf 10)
  if digits.length ≤ 3 ∧ (digits.length = 1 ∨ digits.head? ≠ some '0') then
    (value? 10 digits).bind fun n => if n ≤ 255 then some (UInt8.ofNat n, rest) else none
  else none

/-- The text behind a leading point. -/
def point? : List Char → Option (List Char)
  | '.' :: rest => some rest
  | _ => none

/-- The address at the start of a text, with the text behind it. -/
def read? (cs : List Char) : Option (Ipv4Address × List Char) := do
  let (a, cs) ← octet? cs
  let (b, cs) ← octet? (← point? cs)
  let (c, cs) ← octet? (← point? cs)
  let (d, cs) ← octet? (← point? cs)
  pure (⟨a, b, c, d⟩, cs)

end Ipv4Address

/-! ### Version 6 -/

/-- An IPv6 address. -/
structure Ipv6Address where
  /-- The groups of sixteen bits, the highest first. -/
  groups : List UInt16
  /-- There are eight of them. -/
  length_groups : groups.length = 8
  deriving DecidableEq

namespace Ipv6Address

instance : Inhabited Ipv6Address := ⟨⟨List.replicate 8 0, rfl⟩⟩

/-- The two groups that hold an embedded IPv4 address. -/
def embed (x : Ipv4Address) : List UInt16 :=
  [UInt16.ofNat (256 * x.a.toNat + x.b.toNat), UInt16.ofNat (256 * x.c.toNat + x.d.toNat)]

/-- The IPv4 address that two groups hold. -/
def embedded (high low : UInt16) : Ipv4Address :=
  ⟨UInt8.ofNat (high.toNat / 256), UInt8.ofNat high.toNat,
    UInt8.ofNat (low.toNat / 256), UInt8.ofNat low.toNat⟩

/-- Whether the address lies in `fe80::/10`. -/
def isLinkLocal (x : Ipv6Address) : Bool :=
  match x.groups with
  | g :: _ => g.toNat / 64 == 0xfe80 / 64
  | [] => false

/-- The length of the run of zero groups at the start. -/
def leadingZeros : List UInt16 → Nat
  | [] => 0
  | g :: gs => if g = 0 then leadingZeros gs + 1 else 0

/-- Place and length of the longest run of zero groups, the first one among equals. -/
def longestZeroRun : List UInt16 → Nat × Nat
  | [] => (0, 0)
  | g :: gs =>
    let later := longestZeroRun gs
    let here := leadingZeros (g :: gs)
    if later.2 ≤ here then (0, here) else (later.1 + 1, later.2)

/-- Groups in hexadecimal between colons. -/
def groupsText (gs : List UInt16) : List Char :=
  [':'].intercalate (gs.map fun g => hexadecimal g.toNat)

/-- Groups with the longest run of two or more zero groups shortened to two colons. -/
def compressed (gs : List UInt16) : List Char :=
  let (start, length) := longestZeroRun gs
  if 1 < length then
    groupsText (gs.take start) ++ [':', ':'] ++ groupsText (gs.drop (start + length))
  else groupsText gs

/-- The characters of the written address. -/
def toChars (x : Ipv6Address) : List Char :=
  match x.groups with
  | [0, 0, 0, 0, 0, 0xffff, high, low] =>
    "::ffff:".toList ++ (embedded high low).toChars
  | gs => compressed gs

/-- The hexadecimal digits at the start of a text, as a group, with the text behind them.
There are one to four digits. -/
def group? (cs : List Char) : Option (UInt16 × List Char) :=
  let digits := cs.takeWhile (isDigitOf 16)
  let rest := cs.dropWhile (isDigitOf 16)
  if digits.length ≤ 4 then (value? 16 digits).map fun n => (UInt16.ofNat n, rest) else none

/-- The text behind the separator that stands before each group but the first. -/
def behindSeparator? (first : Bool) (cs : List Char) : Option (List Char) :=
  if first then some cs
  else match cs with
    | ':' :: rest => some rest
    | _ => none

/-- Groups at the start of a text. -/
structure Run where
  /-- The groups read. -/
  groups : List UInt16
  /-- Whether the last two of them were written as an IPv4 address. -/
  dotted : Bool
  /-- The text behind them. -/
  rest : List Char

/-- Read up to `limit` groups.  Where two more fit an IPv4 address may stand for them, and
ends the run. -/
def readRun : (limit : Nat) → (first : Bool) → List Char → Run
  | 0, _, cs => ⟨[], false, cs⟩
  | n + 1, first, cs =>
    match behindSeparator? first cs with
    | none => ⟨[], false, cs⟩
    | some body =>
      match if n = 0 then none else Ipv4Address.read? body with
      | some (x, rest) => ⟨embed x, true, rest⟩
      | none =>
        match group? body with
        | none => ⟨[], false, cs⟩
        | some (g, rest) =>
          let more := readRun n false rest
          ⟨g :: more.groups, more.dotted, more.rest⟩

/-- The address of eight groups. -/
def ofGroups? (gs : List UInt16) : Option Ipv6Address :=
  if h : gs.length = 8 then some ⟨gs, h⟩ else none

/-- The address at the start of a text, with the text behind it.  Fewer than eight groups are
followed by two colons, which stand for at least one zero group, and by further groups; an
IPv4 address can only end the address. -/
def read? (cs : List Char) : Option (Ipv6Address × List Char) :=
  let head := readRun 8 true cs
  if head.groups.length = 8 then (ofGroups? head.groups).map fun x => (x, head.rest)
  else if head.dotted then none
  else match head.rest with
    | ':' :: ':' :: rest =>
      let tail := readRun (7 - head.groups.length) true rest
      let zeros := List.replicate (8 - head.groups.length - tail.groups.length) 0
      (ofGroups? (head.groups ++ zeros ++ tail.groups)).map fun x => (x, tail.rest)
    | _ => none

end Ipv6Address

/-! ### Either version -/

/-- An address of either IP version. -/
inductive IpAddress where
  | v4 (address : Ipv4Address)
  | v6 (address : Ipv6Address)
  deriving DecidableEq

namespace IpAddress

instance : Inhabited IpAddress := ⟨.v4 default⟩

/-- The number of bits of an address. -/
def width : IpAddress → Nat
  | .v4 _ => 32
  | .v6 _ => 128

/-- Whether the address is of version 6. -/
def isV6 : IpAddress → Bool
  | .v4 _ => false
  | .v6 _ => true

/-- Whether the address is a link-local IPv6 address, which the dataplane assigns itself. -/
def isLinkLocal : IpAddress → Bool
  | .v4 _ => false
  | .v6 x => x.isLinkLocal

/-- The characters of the written address. -/
def toChars : IpAddress → List Char
  | .v4 x => x.toChars
  | .v6 x => x.toChars

/-- The written address. -/
def toText (x : IpAddress) : String := String.ofList x.toChars

/-- The address at the start of a text, with the text behind it. -/
def read? (cs : List Char) : Option (IpAddress × List Char) :=
  match Ipv4Address.read? cs with
  | some (x, rest) => some (.v4 x, rest)
  | none => (Ipv6Address.read? cs).map fun (x, rest) => (.v6 x, rest)

/-- The address that the characters spell, if they spell one. -/
def ofChars? (cs : List Char) : Option IpAddress :=
  match read? cs with
  | some (x, []) => some x
  | _ => none

/-- The address that the text spells, if it spells one. -/
def ofText? (text : String) : Option IpAddress := ofChars? text.toList

end IpAddress

end DataplaneSync
