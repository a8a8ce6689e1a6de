namespace DataplaneSync

/-!
# NAT44

Global settings, source NAT and destination NAT.

* `NatGlobal` — forwarding, the NAT interfaces and the pools of addresses.
* `SourceNat` — a label; nothing is reconciled for it.
* `DestinationNat` — a labelled group of static and identity mappings.
-/

/-- A transport protocol. -/
inductive Protocol where
  | tcp
  | udp
  | icmp
  deriving DecidableEq

/-- Whether both the source and the destination address are replaced. -/
inductive TwiceNat where
  | disabled
  | enabled
  | selfTwice
  deriving DecidableEq

/-! ### Global settings -/

/-- An interface that takes part in NAT. -/
structure NatInterface where
  name : String := ""
  isInside : Bool := false
  outputFeature : Bool := false
  deriving DecidableEq

/-- A range of external addresses. -/
structure AddressPool where
  first : String := ""
  /-- Empty if the pool has one address. -/
  last : String := ""
  vrf : UInt32 := 0
  twiceNat : Bool := false
  deriving DecidableEq

/-- Settings that hold for all of NAT. -/
structure NatGlobal where
  forwarding : Bool := false
  interfaces : List NatInterface := []
  pools : List AddressPool := []
  deriving DecidableEq

instance : Inhabited NatInterface := ⟨{}⟩
instance : Inhabited AddressPool := ⟨{}⟩
instance : Inhabited NatGlobal := ⟨{}⟩

/-- A source NAT entry. -/
structure SourceNat where
  label : String := ""
  deriving DecidableEq

instance : Inhabited SourceNat := ⟨{}⟩

/-! ### Destination NAT -/

/-- An endpoint behind a static mapping. -/
structure LocalEndpoint where
  address : String := ""
  port : UInt32 := 0
  /-- The weight among several endpoints. -/
  probability : UInt32 := 0
  deriving DecidableEq

/-- A static mapping from an external endpoint to local ones. -/
structure StaticMapping where
  externalInterface : String := ""
  externalAddress : String := ""
  externalPort : UInt32 := 0
  locals : List LocalEndpoint := []
  protocol : Protocol := .tcp
  twiceNat : TwiceNat := .disabled
  deriving DecidableEq

/-- A mapping of an endpoint to itself. -/
structure IdentityMapping where
  vrf : UInt32 := 0
  interface : String := ""
  address : String := ""
  port : UInt32 := 0
  protocol : Protocol := .tcp
  deriving DecidableEq

/-- A labelled group of mappings. -/
structure DestinationNat where
  label : String := ""
  statics : List StaticMapping := []
  identities : List IdentityMapping := []
  deriving DecidableEq

instance : Inhabited LocalEndpoint := ⟨{}⟩
instance : Inhabited StaticMapping := ⟨{}⟩
instance : Inhabited IdentityMapping := ⟨{}⟩
instance : Inhabited DestinationNat := ⟨{}⟩

/-- Whether a mapping spreads its load over several endpoints. -/
def StaticMapping.isLoadBalanced (m : StaticMapping) : Bool := 1 < m.locals.length

/-- Whether a group has no mapping. -/
def DestinationNat.isEmpty (d : DestinationNat) : Bool :=
  d.statics.isEmpty && d.identities.isEmpty

end DataplaneSync
