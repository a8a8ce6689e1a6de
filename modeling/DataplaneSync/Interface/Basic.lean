import DataplaneSync.Address.Mac

namespace DataplaneSync

/-!
# Interfaces

Interfaces as they are wanted and as the dataplane reports them.

* `Interface` — type, addresses and the settings of its link.
* `InterfaceDetails` — an entry of a dump: the interface with the index and the name that the
  dataplane gave it.
* `InterfaceState` — what is known of a registered interface after a pass.

In a dump the name of an interface is its tag, and an interface without tag has the empty name.
A link block may be present whatever the type of the interface is; only the block of its own
type means anything.
-/

/-- What an interface is attached to. -/
inductive InterfaceType where
  | softwareLoopback
  | ethernetCsmacd
  | memoryInterface
  | tapInterface
  | afPacketInterface
  | vxlanTunnel
  deriving DecidableEq, Inhabited

/-- The name of a type in documents and reports. -/
def InterfaceType.name : InterfaceType → String
  | .softwareLoopback => "software_loopback"
  | .ethernetCsmacd => "ethernet_csmacd"
  | .memoryInterface => "memory_interface"
  | .tapInterface => "tap_interface"
  | .afPacketInterface => "af_packet_interface"
  | .vxlanTunnel => "vxlan_tunnel"

/-- All interface types. -/
def InterfaceType.all : List InterfaceType :=
  [.softwareLoopback, .ethernetCsmacd, .memoryInterface, .tapInterface, .afPacketInterface,
    .vxlanTunnel]

/-! ### Settings -/

/-- How a queue is served. -/
inductive RxMode where
  | default
  | polling
  | interrupt
  | adaptive
  deriving DecidableEq

/-- The receive settings of an interface. -/
structure RxModeSettings where
  mode : RxMode := .default
  queueId : UInt32 := 0
  queueIdValid : UInt32 := 0
  deriving DecidableEq

/-- An interface without addresses of its own, which uses those of another. -/
structure Unnumbered where
  /-- The interface that has the addresses. -/
  interface : String := ""
  deriving DecidableEq

/-! ### Links -/

/-- The link of an AF-packet interface. -/
structure AfPacketLink where
  /-- The interface of the host. -/
  hostInterface : String := ""
  deriving DecidableEq

/-- What a memif carries. -/
inductive MemifMode where
  | ethernet
  | ip
  | puntInject
  deriving DecidableEq

/-- The link of a shared-memory interface.  The dataplane does not report secret, ring size and
buffer size. -/
structure MemifLink where
  master : Bool := false
  mode : MemifMode := .ethernet
  id : UInt32 := 0
  socket : String := ""
  secret : String := ""
  ringSize : UInt32 := 0
  bufferSize : UInt32 := 0
  rxQueues : UInt32 := 0
  txQueues : UInt32 := 0
  deriving DecidableEq

/-- The link of a TAP interface. -/
structure TapLink where
  version : UInt32 := 0
  hostInterface : String := ""
  netNamespace : String := ""
  rxRingSize : UInt32 := 0
  txRingSize : UInt32 := 0
  deriving DecidableEq

/-- The link of a VXLAN tunnel. -/
structure VxlanLink where
  source : String := ""
  destination : String := ""
  vni : UInt32 := 0
  multicast : String := ""
  deriving DecidableEq

/-! ### Interfaces -/

/-- An interface as it is wanted, or as a dump reports it. -/
structure Interface where
  /-- The name; in a dump the tag. -/
  name : String := ""
  type : InterfaceType := .softwareLoopback
  enabled : Bool := false
  vrf : UInt32 := 0
  /-- The address of the container behind the interface. -/
  containerAddress : String := ""
  /-- Whether the addresses come from a DHCP server. -/
  dhcpClient : Bool := false
  mtu : UInt32 := 0
  /-- The hardware address, if one is wanted or reported. -/
  mac : Option MacAddress := none
  /-- The addresses as they are written. -/
  addresses : List String := []
  unnumbered : Option Unnumbered := none
  rxSettings : Option RxModeSettings := none
  afPacket : Option AfPacketLink := none
  memif : Option MemifLink := none
  tap : Option TapLink := none
  vxlan : Option VxlanLink := none
  deriving DecidableEq

namespace Interface

instance : Inhabited Interface := ⟨{}⟩

/-- The name of the device that the dataplane always has at index 0. -/
def localName : String := "local0"

/-- The name under which an untagged interface is registered while it is being removed. -/
def placeholderName : String := "temp-if-name"

/-- Whether a dumped interface has a tag. -/
def isTagged (i : Interface) : Bool := i.name != ""

/-- The hardware address that an interface insists on; the zero address is none. -/
def pinnedMac? (i : Interface) : Option MacAddress := i.mac.filter (!·.isZero)

/-- The host interface of an AF-packet interface. -/
def hostInterface? (i : Interface) : Option String :=
  if i.type = .afPacketInterface then i.afPacket.map (·.hostInterface) else none

end Interface

/-- An entry of an interface dump. -/
structure InterfaceDetails where
  interface : Interface := {}
  /-- The name that the dataplane gave the device. -/
  internalName : String := ""
  index : UInt32 := 0
  deriving DecidableEq

instance : Inhabited InterfaceDetails := ⟨{}⟩

/-- What is known of a registered interface after a pass. -/
structure InterfaceState where
  name : String
  index : UInt32
  internalName : String
  enabled : Bool
  mtu : UInt32
  mac : Option MacAddress
  deriving DecidableEq

end DataplaneSync
