import DataplaneSync.Address.Error
import DataplaneSync.Address.Ip

namespace DataplaneSync

/-!
# Interface addresses

An address assigned to an interface, with the length of its network part.  The host bits are
kept: two interface addresses are equal when the address and the length are.
-/

/-- An interface address in CIDR form. -/
structure Cidr where
  /-- The address with its host bits. -/
  address : IpAddress
  /-- The number of bits of the network part. -/
  length : Nat
  /-- The network part is no longer than the address. -/
  length_le : length ≤ address.width
  deriving DecidableEq

namespace Cidr

open Text

/-- The address with a network part of the given length, if that fits. -/
def make (address : IpAddress) (length : Nat) : Except AddressError Cidr :=
  if h : length ≤ address.width then .ok ⟨address, length, h⟩
  else .error (.tooLong length address.width address.toText)

/-- Whether the address is a link-local IPv6 address. -/
def isLinkLocal (c : Cidr) : Bool := c.address.isLinkLocal

/-- The characters of the written form. -/
def toChars (c : Cidr) : List Char := c.address.toChars ++ '/' :: decimal c.length

/-- The written form: the address, a slash and the length. -/
def toText (c : Cidr) : String := String.ofList c.toChars

/-- The characters before and behind the last slash. -/
def splitLastSlash? : List Char → Option (List Char × List Char)
  | [] => none
  | c :: cs =>
    match splitLastSlash? cs with
    | some (before, behind) => some (c :: before, behind)
    | none => if c = '/' then some ([], cs) else none

/-- Read an interface address: an address, a slash and a length of at most 255, of which the
address has to be in order first and the length has to fit last. -/
def parse (text : String) : Except AddressError Cidr :=
  match splitLastSlash? text.toList with
  | none => .error (.cidr text)
  | some (before, behind) =>
    match IpAddress.ofChars? before with
    | none => .error (.ip (String.ofList before))
    | some address =>
      match unsigned? 255 behind with
      | none => .error (.cidr text)
      | some length => make address length

/-- The interface address that the text spells, if it spells one. -/
def ofText? (text : String) : Option Cidr := (parse text).toOption

end Cidr

end DataplaneSync
