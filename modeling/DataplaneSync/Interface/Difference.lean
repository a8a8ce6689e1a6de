import DataplaneSync.Interface.Correlation

namespace DataplaneSync

/-!
# Differences between interfaces

Whether an interface of the dataplane has to be modified to become the wanted one.

* `Aspect` — what is compared, in the order in which it is compared.
* `Aspect.differs` — when an aspect of the actual interface is not as wanted.
* `firstDifference` — the first aspect that differs.

Some settings are never compared: the name, what a type gives no meaning to, and what the
dataplane chooses or does not report.
-/

/-! ### Links of one kind -/

/-- Whether AF-packet links differ. -/
def AfPacketLink.differs (wanted actual : AfPacketLink) : Bool :=
  wanted.hostInterface != actual.hostInterface

/-- Whether shared-memory links differ, as far as the dataplane reports them. -/
def MemifLink.differs (wanted actual : MemifLink) : Bool :=
  wanted.id != actual.id || wanted.socket != actual.socket || wanted.master != actual.master ||
    wanted.mode != actual.mode || wanted.rxQueues != actual.rxQueues ||
    wanted.txQueues != actual.txQueues

/-- Whether TAP links differ.  Of the versions only version 2 is insisted on. -/
def TapLink.differs (wanted actual : TapLink) : Bool :=
  (wanted.version == 2 && wanted.version != actual.version) ||
    wanted.netNamespace != actual.netNamespace || wanted.hostInterface != actual.hostInterface ||
    wanted.rxRingSize != actual.rxRingSize || wanted.txRingSize != actual.txRingSize

/-- Whether VXLAN links differ. -/
def VxlanLink.differs (wanted actual : VxlanLink) : Bool :=
  wanted.vni != actual.vni || wanted.source != actual.source ||
    wanted.destination != actual.destination || wanted.multicast != actual.multicast

namespace Interface

/-! ### Aspects -/

/-- What is compared of two interfaces. -/
inductive Aspect where
  | type
  | enabled
  | vrf
  | containerAddress
  | dhcpClient
  | mtu
  | mac
  | addresses
  | rxSettings
  | afPacket
  | memif
  | tap
  | vxlan
  deriving DecidableEq

namespace Aspect

/-- The name of an aspect in reports. -/
def name : Aspect → String
  | type => "type"
  | enabled => "enabled"
  | vrf => "vrf"
  | containerAddress => "container_ip_address"
  | dhcpClient => "set_dhcp_client"
  | mtu => "mtu"
  | mac => "phys_address"
  | addresses => "ip_addresses"
  | rxSettings => "rx_mode_settings"
  | afPacket => "afpacket"
  | memif => "memif"
  | tap => "tap"
  | vxlan => "vxlan"

/-- All aspects, in the order of comparison. -/
def all : List Aspect :=
  [type, enabled, vrf, containerAddress, dhcpClient, mtu, mac, addresses, rxSettings, afPacket,
    memif, tap, vxlan]

end Aspect

/-! ### Addresses -/

/-- Whether a text spells a link-local address, which the dataplane assigns itself. -/
def isLinkLocal (text : String) : Bool := (Cidr.ofText? text).any (·.isLinkLocal)

/-- The addresses of a dumped interface that were not assigned by the dataplane itself. -/
def assignedAddresses (i : Interface) : List String := i.addresses.filter (!isLinkLocal ·)

/-- Whether the addresses are not the wanted ones.  An unnumbered interface wants none of its
own, so whatever it has is right. -/
def addressesDiffer (wanted actual : Interface) : Bool :=
  wanted.unnumbered.isNone && !addressesAgree wanted.addresses actual.assignedAddresses

/-! ### Links -/

/-- Whether the link blocks of an interface of the given type differ: one is missing, or both
are there and differ. -/
def linkDiffers {α : Type} (type : InterfaceType) (link : Interface → Option α)
    (differs : α → α → Bool) (wanted actual : Interface) : Bool :=
  wanted.type == type &&
    match link wanted, link actual with
    | some w, some a => differs w a
    | none, none => false
    | _, _ => true

/-! ### The comparison -/

/-- Whether an aspect of the actual interface is not as wanted. -/
def Aspect.differs (wanted actual : Interface) : Aspect → Bool
  | type => wanted.type != actual.type
  | enabled => wanted.enabled != actual.enabled
  | vrf => wanted.vrf != actual.vrf
  | containerAddress => wanted.containerAddress != actual.containerAddress
  | dhcpClient => wanted.dhcpClient != actual.dhcpClient
  | mtu => wanted.type != .vxlanTunnel && wanted.mtu != actual.mtu
  | mac => wanted.pinnedMac?.isSome && !macAgrees actual wanted
  | addresses => addressesDiffer wanted actual
  | rxSettings => wanted.rxSettings != actual.rxSettings
  | afPacket => linkDiffers .afPacketInterface (·.afPacket) AfPacketLink.differs wanted actual
  | memif => linkDiffers .memoryInterface (·.memif) MemifLink.differs wanted actual
  | tap => linkDiffers .tapInterface (·.tap) TapLink.differs wanted actual
  | vxlan => linkDiffers .vxlanTunnel (·.vxlan) VxlanLink.differs wanted actual

/-- The first aspect in which the actual interface is not as wanted. -/
def firstDifference (wanted actual : Interface) : Option Aspect :=
  Aspect.all.find? (Aspect.differs wanted actual)

/-- Whether the actual interface has to be modified to become the wanted one. -/
def needsChange (wanted actual : Interface) : Bool := (firstDifference wanted actual).isSome

end Interface

end DataplaneSync
