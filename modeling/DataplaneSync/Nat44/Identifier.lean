import DataplaneSync.Nat44.Basic

namespace DataplaneSync

/-!
# Identifiers of mappings

The texts under which mappings are registered.  The identifier of a static mapping lists its
local endpoints in sorted order, so it does not depend on the order in which they are given.
-/

/-- The name of a protocol in identifiers. -/
def Protocol.name : Protocol → String
  | .tcp => "tcp"
  | .udp => "udp"
  | .icmp => "icmp"

/-- The name of a twice-NAT mode in identifiers. -/
def TwiceNat.name : TwiceNat → String
  | .disabled => "disabled"
  | .enabled => "enabled"
  | .selfTwice => "self"

/-- An endpoint in an identifier. -/
def LocalEndpoint.identifier (e : LocalEndpoint) : String :=
  s!"{e.address}:{e.port.toNat}:{e.probability.toNat}"

/-- The identifiers of the endpoints of a mapping, in increasing order. -/
def StaticMapping.endpointIdentifiers (m : StaticMapping) : List String :=
  (m.locals.map LocalEndpoint.identifier).mergeSort (fun s t => decide (s ≤ t))

/-- The identifier of a static mapping. -/
def StaticMapping.identifier (m : StaticMapping) : String :=
  "|".intercalate
    ["stmap", m.externalInterface, m.externalAddress, toString m.externalPort.toNat,
      m.protocol.name, m.twiceNat.name, ",".intercalate m.endpointIdentifiers]

/-- The identifier of an identity mapping. -/
def IdentityMapping.identifier (m : IdentityMapping) : String :=
  "|".intercalate
    ["idmap", toString m.vrf.toNat, m.interface, m.address, toString m.port.toNat,
      m.protocol.name]

end DataplaneSync
