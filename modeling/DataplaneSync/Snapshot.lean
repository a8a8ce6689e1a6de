import DataplaneSync.Bfd.Codec
import DataplaneSync.Interface.Codec
import DataplaneSync.Nat44.Codec
import DataplaneSync.Stn.Codec

namespace DataplaneSync

/-!
# Snapshots

Everything a dataplane holds, as one document.
-/

/-- What a dataplane holds. -/
structure Snapshot where
  interfaces : List InterfaceDetails := []
  /-- The ids of the memif sockets, by file. -/
  sockets : Table String UInt32 := ∅
  sessions : List BfdSession := []
  keys : List BfdKey := []
  rules : List StnRuleDetails := []
  natGlobal : NatGlobal := {}
  destinations : List DestinationNat := []
  deriving DecidableEq

namespace Snapshot

open Codec

instance : Inhabited Snapshot := ⟨{}⟩

/-- Snapshots in documents. -/
def codec : Codec Snapshot := record {}
  [.make "interfaces" (list InterfaceDetails.codec) interfaces
    (fun v r => { r with interfaces := v }),
   .make "memif_sockets" (dictionary word) sockets (fun v r => { r with sockets := v }),
   .make "bfd_sessions" (list BfdSession.codec) sessions (fun v r => { r with sessions := v }),
   .make "bfd_auth_keys" (list BfdKey.codec) keys (fun v r => { r with keys := v }),
   .make "stn_rules" (list StnRuleDetails.codec) rules (fun v r => { r with rules := v }),
   .make "nat_global" NatGlobal.codec natGlobal (fun v r => { r with natGlobal := v }),
   .make "dnat" (list DestinationNat.codec) destinations
    (fun v r => { r with destinations := v })]

end Snapshot

end DataplaneSync
