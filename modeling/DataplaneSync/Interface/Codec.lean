import DataplaneSync.Codec
import DataplaneSync.Interface.Basic
import DataplaneSync.Text.Blank

namespace DataplaneSync

/-!
# Interfaces in documents

The members of interfaces, of dump entries and of interface states.  Every member may be left
out and then has its default.
-/

open Codec

/-- Hardware addresses. -/
def MacAddress.codec : Codec MacAddress := address MacAddress.parse MacAddress.toText

/-- The hardware address of an interface; a blank text means that it has none. -/
def Interface.macCodec : Codec (Option MacAddress) where
  read d := do
    match ← (option text).read d with
    | none => pure none
    | some s =>
      let s := Text.trim s
      if s = "" then pure none
      else ((MacAddress.parse s).map some).mapError .address
  write m := Json.opt MacAddress.codec.write m

/-- Interface types, by name. -/
def InterfaceType.codec : Codec InterfaceType := choice InterfaceType.name InterfaceType.all

/-- Receive modes, by name. -/
def RxMode.codec : Codec RxMode :=
  choice
    (fun
      | .default => "default"
      | .polling => "polling"
      | .interrupt => "interrupt"
      | .adaptive => "adaptive")
    [.default, .polling, .interrupt, .adaptive]

/-- Memif modes, by name. -/
def MemifMode.codec : Codec MemifMode :=
  choice
    (fun
      | .ethernet => "ethernet"
      | .ip => "ip"
      | .puntInject => "punt_inject")
    [.ethernet, .ip, .puntInject]

/-- Receive settings. -/
def RxModeSettings.codec : Codec RxModeSettings := record {}
  [.make "rx_mode" RxMode.codec mode (fun v r => { r with mode := v }),
   .make "queue_id" word queueId (fun v r => { r with queueId := v }),
   .make "queue_id_valid" word queueIdValid (fun v r => { r with queueIdValid := v })]

/-- References to the interface that has the addresses. -/
def Unnumbered.codec : Codec Unnumbered := record {}
  [.make "interface_with_ip" text Unnumbered.interface (fun v r => { r with interface := v })]

/-- AF-packet links. -/
def AfPacketLink.codec : Codec AfPacketLink := record {}
  [.make "host_if_name" text hostInterface (fun v r => { r with hostInterface := v })]

/-- Shared-memory links. -/
def MemifLink.codec : Codec MemifLink := record {}
  [.make "master" flag master (fun v r => { r with master := v }),
   .make "mode" MemifMode.codec mode (fun v r => { r with mode := v }),
   .make "id" word MemifLink.id (fun v r => { r with id := v }),
   .make "socket_filename" text socket (fun v r => { r with socket := v }),
   .make "secret" text secret (fun v r => { r with secret := v }),
   .make "ring_size" word ringSize (fun v r => { r with ringSize := v }),
   .make "buffer_size" word bufferSize (fun v r => { r with bufferSize := v }),
   .make "rx_queues" word rxQueues (fun v r => { r with rxQueues := v }),
   .make "tx_queues" word txQueues (fun v r => { r with txQueues := v })]

/-- TAP links. -/
def TapLink.codec : Codec TapLink := record {}
  [.make "version" word version (fun v r => { r with version := v }),
   .make "host_if_name" text hostInterface (fun v r => { r with hostInterface := v }),
   .make "namespace" text netNamespace (fun v r => { r with netNamespace := v }),
   .make "rx_ring_size" word rxRingSize (fun v r => { r with rxRingSize := v }),
   .make "tx_ring_size" word txRingSize (fun v r => { r with txRingSize := v })]

/-- VXLAN links. -/
def VxlanLink.codec : Codec VxlanLink := record {}
  [.make "src_address" text source (fun v r => { r with source := v }),
   .make "dst_address" text destination (fun v r => { r with destination := v }),
   .make "vni" word vni (fun v r => { r with vni := v }),
   .make "multicast" text multicast (fun v r => { r with multicast := v })]

/-- Interfaces. -/
def Interface.codec : Codec Interface := record {}
  [.make "name" text name (fun v r => { r with name := v }),
   .make "type" InterfaceType.codec type (fun v r => { r with type := v }),
   .make "enabled" flag enabled (fun v r => { r with enabled := v }),
   .make "vrf" word vrf (fun v r => { r with vrf := v }),
   .make "container_ip_address" text containerAddress (fun v r => { r with containerAddress := v }),
   .make "set_dhcp_client" flag dhcpClient (fun v r => { r with dhcpClient := v }),
   .make "mtu" word mtu (fun v r => { r with mtu := v }),
   .make "phys_address" macCodec mac (fun v r => { r with mac := v }),
   .make "ip_addresses" (list text) addresses (fun v r => { r with addresses := v }),
   .make "unnumbered" (option Unnumbered.codec) unnumbered (fun v r => { r with unnumbered := v }),
   .make "rx_mode_settings" (option RxModeSettings.codec) rxSettings
    (fun v r => { r with rxSettings := v }),
   .make "afpacket" (option AfPacketLink.codec) afPacket (fun v r => { r with afPacket := v }),
   .make "memif" (option MemifLink.codec) memif (fun v r => { r with memif := v }),
   .make "tap" (option TapLink.codec) tap (fun v r => { r with tap := v }),
   .make "vxlan" (option VxlanLink.codec) vxlan (fun v r => { r with vxlan := v })]

/-- What the dataplane adds to a dumped interface: internal name and index. -/
def InterfaceDetails.metaCodec : Codec (String × UInt32) := record ("", 0)
  [.make "internal_name" text Prod.fst (fun v r => (v, r.2)),
   .make "sw_if_index" word Prod.snd (fun v r => (r.1, v))]

/-- Entries of a dump. -/
def InterfaceDetails.codec : Codec InterfaceDetails := record {}
  [.make "interface" Interface.codec InterfaceDetails.interface
    (fun v r => { r with interface := v }),
   .make "meta" metaCodec (fun r => (r.internalName, r.index))
    (fun v r => { r with internalName := v.1, index := v.2 })]

/-- The JSON form of an interface state. -/
def InterfaceState.toJson (s : InterfaceState) : Json :=
  .obj
    [("name", .str s.name), ("index", Json.word s.index), ("internal_name", .str s.internalName),
     ("enabled", .bool s.enabled), ("mtu", Json.word s.mtu),
     ("phys_address", Json.opt MacAddress.codec.write s.mac)]

end DataplaneSync
