import DataplaneSync.Codec
import DataplaneSync.Stn.Basic

namespace DataplaneSync

/-!
# Steal-the-NIC rules in documents
-/

open Codec

/-- Wanted rules. -/
def StnRule.codec : Codec StnRule := record {}
  [.make "rule_name" text name (fun v r => { r with name := v }),
   .make "ip_address" text StnRule.address (fun v r => { r with address := v }),
   .make "interface" text StnRule.interface (fun v r => { r with interface := v })]

/-- Rules of a dump. -/
def StnRuleDetails.codec : Codec StnRuleDetails := record {}
  [.make "ip_address" text StnRuleDetails.address (fun v r => { r with address := v }),
   .make "interface" text StnRuleDetails.interface (fun v r => { r with interface := v }),
   .make "sw_if_index" word index (fun v r => { r with index := v })]

end DataplaneSync
