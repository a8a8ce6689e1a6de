import DataplaneSync.Bfd.Basic
import DataplaneSync.Codec

namespace DataplaneSync

/-!
# BFD objects in documents
-/

open Codec

/-- The keys of a session. -/
def BfdAuthentication.codec : Codec BfdAuthentication := record {}
  [.make "key_id" word keyId (fun v r => { r with keyId := v }),
   .make "advertised_key_id" word advertisedKeyId (fun v r => { r with advertisedKeyId := v })]

/-- Sessions; they are enabled unless the document says otherwise. -/
def BfdSession.codec : Codec BfdSession := record {}
  [.make "interface" text BfdSession.interface (fun v r => { r with interface := v }),
   .make "source_address" text source (fun v r => { r with source := v }),
   .make "destination_address" text destination (fun v r => { r with destination := v }),
   .make "enabled" flag enabled (fun v r => { r with enabled := v }),
   .make "desired_min_tx_interval" word minTxInterval (fun v r => { r with minTxInterval := v }),
   .make "required_min_rx_interval" word minRxInterval (fun v r => { r with minRxInterval := v }),
   .make "detect_multiplier" word detectMultiplier (fun v r => { r with detectMultiplier := v }),
   .make "authentication" (option BfdAuthentication.codec) authentication
    (fun v r => { r with authentication := v })]

/-- Authentication algorithms, by name. -/
def BfdAlgorithm.codec : Codec BfdAlgorithm :=
  choice
    (fun
      | .keyedSha1 => "keyed_sha1"
      | .meticulousKeyedSha1 => "meticulous_keyed_sha1")
    [.keyedSha1, .meticulousKeyedSha1]

/-- Authentication keys. -/
def BfdKey.codec : Codec BfdKey := record {}
  [.make "name" text name (fun v r => { r with name := v }),
   .make "id" word BfdKey.id (fun v r => { r with id := v }),
   .make "authentication_type" BfdAlgorithm.codec algorithm (fun v r => { r with algorithm := v }),
   .make "secret" text secret (fun v r => { r with secret := v })]

/-- Echo sources. -/
def BfdEcho.codec : Codec BfdEcho := record {}
  [.make "name" text name (fun v r => { r with name := v }),
   .make "echo_source_interface" text sourceInterface (fun v r => { r with sourceInterface := v })]

end DataplaneSync
