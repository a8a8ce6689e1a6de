import DataplaneSync.Address.Ip

namespace DataplaneSync

/-!
# Steal-the-NIC rules

Rules that hand the traffic for an address to an interface.  A rule is known by its name where
it is wanted; a dump shows its address and interface only.
-/

/-- A wanted rule. -/
structure StnRule where
  name : String := ""
  address : String := ""
  interface : String := ""
  deriving DecidableEq

/-- A rule of a dump. -/
structure StnRuleDetails where
  address : String := ""
  /-- The tag of the interface. -/
  interface : String := ""
  index : UInt32 := 0
  deriving DecidableEq

instance : Inhabited StnRule := ⟨{}⟩
instance : Inhabited StnRuleDetails := ⟨{}⟩

namespace StnRule

/-- The name under which the rule of an interface is registered. -/
def registryName (interface : String) : String := s!"stn-rule-{interface}"

end StnRule

/-- Whether both texts spell the same address. -/
def StnRuleDetails.sameAddress (s t : String) : Bool :=
  match IpAddress.ofText? s, IpAddress.ofText? t with
  | some x, some y => x == y
  | _, _ => false

/-- Whether the wanted rule is the one of the dump. -/
def StnRuleDetails.isFor (actual : StnRuleDetails) (wanted : StnRule) : Bool :=
  wanted.interface == actual.interface && sameAddress wanted.address actual.address

end DataplaneSync
