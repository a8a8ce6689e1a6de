import DataplaneSync.Codec
import DataplaneSync.Nat44.Basic

namespace DataplaneSync

/-!
# NAT44 in documents
-/

open Codec

/-- Protocols, by name. -/
def Protocol.codec : Codec Protocol :=
  choice
    (fun
      | .tcp => "tcp"
      | .udp => "udp"
      | .icmp => "icmp")
    [.tcp, .udp, .icmp]

/-- Twice-NAT modes, by name. -/
def TwiceNat.codec : Codec TwiceNat :=
  choice
    (fun
      | .disabled => "disabled"
      | .enabled => "enabled"
      | .selfTwice => "self_twice_nat")
    [.disabled, .enabled, .selfTwice]

/-- NAT interfaces. -/
def NatInterface.codec : Codec NatInterface := record {}
  [.make "name" text name (fun v r => { r with name := v }),
   .make "is_inside" flag isInside (fun v r => { r with isInside := v }),
   .make "output_feature" flag outputFeature (fun v r => { r with outputFeature := v })]

/-- Address pools. -/
def AddressPool.codec : Codec AddressPool := record {}
  [.make "first_src_address" text first (fun v r => { r with first := v }),
   .make "last_src_address" text last (fun v r => { r with last := v }),
   .make "vrf_id" word vrf (fun v r => { r with vrf := v }),
   .make "twice_nat" flag twiceNat (fun v r => { r with twiceNat := v })]

/-- Global settings. -/
def NatGlobal.codec : Codec NatGlobal := record {}
  [.make "forwarding" flag forwarding (fun v r => { r with forwarding := v }),
   .make "nat_interfaces" (list NatInterface.codec) interfaces
    (fun v r => { r with interfaces := v }),
   .make "address_pools" (list AddressPool.codec) pools (fun v r => { r with pools := v })]

/-- Source NAT entries. -/
def SourceNat.codec : Codec SourceNat := record {}
  [.make "label" text label (fun v r => { r with label := v })]

/-- Local endpoints. -/
def LocalEndpoint.codec : Codec LocalEndpoint := record {}
  [.make "local_ip" text LocalEndpoint.address (fun v r => { r with address := v }),
   .make "local_port" word port (fun v r => { r with port := v }),
   .make "probability" word probability (fun v r => { r with probability := v })]

/-- Static mappings. -/
def StaticMapping.codec : Codec StaticMapping := record {}
  [.make "external_interface" text externalInterface
    (fun v r => { r with externalInterface := v }),
   .make "external_ip" text externalAddress (fun v r => { r with externalAddress := v }),
   .make "external_port" word externalPort (fun v r => { r with externalPort := v }),
   .make "local_ips" (list LocalEndpoint.codec) locals (fun v r => { r with locals := v }),
   .make "protocol" Protocol.codec protocol (fun v r => { r with protocol := v }),
   .make "twice_nat" TwiceNat.codec twiceNat (fun v r => { r with twiceNat := v })]

/-- Identity mappings. -/
def IdentityMapping.codec : Codec IdentityMapping := record {}
  [.make "vrf_id" word vrf (fun v r => { r with vrf := v }),
   .make "addressed_interface" text IdentityMapping.interface
    (fun v r => { r with interface := v }),
   .make "ip_address" text IdentityMapping.address (fun v r => { r with address := v }),
   .make "port" word port (fun v r => { r with port := v }),
   .make "protocol" Protocol.codec protocol (fun v r => { r with protocol := v })]

/-- Groups of mappings. -/
def DestinationNat.codec : Codec DestinationNat := record {}
  [.make "label" text label (fun v r => { r with label := v }),
   .make "st_mappings" (list StaticMapping.codec) statics (fun v r => { r with statics := v }),
   .make "id_mappings" (list IdentityMapping.codec) identities
    (fun v r => { r with identities := v })]

end DataplaneSync
