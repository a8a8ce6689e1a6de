import DataplaneSync.Address.Error
import DataplaneSync.Text.Numeral

namespace DataplaneSync

/-!
# MAC addresses

Forty-eight-bit hardware addresses and their texts.

* `MacAddress.toText` — six pairs of lower-case hexadecimal digits between colons.
* `MacAddress.parse` — six octets of two characters each, between colons if the text has a
  colon anywhere and otherwise between hyphens.
* `MacAddress.octet?` — an octet is two hexadecimal digits, or a plus sign and one digit.
-/

/-- A hardware address of six octets. -/
structure MacAddress where
  a : UInt8
  b : UInt8
  c : UInt8
  d : UInt8
  e : UInt8
  f : UInt8
  deriving DecidableEq, Inhabited

namespace MacAddress

open Text

/-- The octets in written order. -/
def octets (m : MacAddress) : List UInt8 := [m.a, m.b, m.c, m.d, m.e, m.f]

/-- Whether all octets are zero, as the dataplane reports for devices without an address. -/
def isZero (m : MacAddress) : Bool := m.octets.all (· == 0)

/-! ### Writing -/

/-- An octet as two lower-case hexadecimal digits. -/
def octetText (o : UInt8) : List Char :=
  [Nat.digitChar (o.toNat / 16), Nat.digitChar (o.toNat % 16)]

/-- The characters of the written address. -/
def toChars (m : MacAddress) : List Char := [':'].intercalate (m.octets.map octetText)

/-- The written address: pairs of lower-case hexadecimal digits between colons. -/
def toText (m : MacAddress) : String := String.ofList m.toChars

/-! ### Reading -/

/-- An octet is written in two characters: two hexadecimal digits of either case, or a plus
sign and one digit. -/
def octet? : List Char → Option UInt8
  | [x, y] => do
    let high ← if x = '+' then some 0 else digit? 16 x
    let low ← digit? 16 y
    pure (UInt8.ofNat (16 * high + low))
  | _ => none

/-- The separator of a text: a colon if there is one, and otherwise a hyphen. -/
def separator (cs : List Char) : Char := if ':' ∈ cs then ':' else '-'

/-- The address that the characters spell, if they spell one. -/
def ofChars? (cs : List Char) : Option MacAddress :=
  match (cs.splitOn (separator cs)).mapM octet? with
  | some [a, b, c, d, e, f] => some ⟨a, b, c, d, e, f⟩
  | _ => none

/-- Read an address. -/
def parse (text : String) : Except AddressError MacAddress :=
  match ofChars? text.toList with
  | some m => .ok m
  | none => .error (.mac text)

end MacAddress

end DataplaneSync
