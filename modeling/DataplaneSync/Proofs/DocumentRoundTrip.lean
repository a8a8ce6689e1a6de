import DataplaneSync.Configuration
import DataplaneSync.Proofs.AddressTexts
import DataplaneSync.Proofs.CodecLaws
import DataplaneSync.Snapshot

namespace DataplaneSync

/-!
# Documents round trip

Configurations and snapshots are read back from what is written of them.  Whatever an object leaves
out has its default, and what no reader asks for does not matter.

* `Codec.OfFormat` — the records that make up configurations and snapshots, with their defaults.
* `Codec.OfFormat.keepsRecords` — the laws of each of them.
* `Codec.documents_roundTrip` — configurations and snapshots as a whole.
-/

open Codec

/-! ### Plain values -/

@[simp] theorem Strategy.codec_roundTrips : Strategy.codec.RoundTrips :=
  choice_roundTrips fun a => by cases a <;> rfl

@[simp] theorem InterfaceType.codec_roundTrips : InterfaceType.codec.RoundTrips :=
  choice_roundTrips fun a => by cases a <;> rfl

@[simp] theorem RxMode.codec_roundTrips : RxMode.codec.RoundTrips :=
  choice_roundTrips fun a => by cases a <;> rfl

@[simp] theorem MemifMode.codec_roundTrips : MemifMode.codec.RoundTrips :=
  choice_roundTrips fun a => by cases a <;> rfl

@[simp] theorem BfdAlgorithm.codec_roundTrips : BfdAlgorithm.codec.RoundTrips :=
  choice_roundTrips fun a => by cases a <;> rfl

@[simp] theorem Protocol.codec_roundTrips : Protocol.codec.RoundTrips :=
  choice_roundTrips fun a => by cases a <;> rfl

@[simp] theorem TwiceNat.codec_roundTrips : TwiceNat.codec.RoundTrips :=
  choice_roundTrips fun a => by cases a <;> rfl

/-- A text that is not blank is read as a hardware address, without the blanks around it. -/
theorem Interface.macCodec_read (s : String) : macCodec.read (Json.str s) =
    if Text.trim s = "" then .ok none
    else ((MacAddress.parse (Text.trim s)).map some).mapError .address := by
  have given : (option text).read (Json.str s) = .ok (some s) := rfl
  rw [macCodec]
  simp only [given]
  exact pure_bind (some s) _

/-- The reader of hardware addresses accepts more than the writer writes, and that too. -/
@[simp] theorem Interface.macCodec_roundTrips : Interface.macCodec.RoundTrips
  | none => rfl
  | some m => by
    refine (macCodec_read m.toText).trans ?_
    rw [MacAddress.trim_toText, if_neg m.toText_ne_empty, m.parse_toText]
    rfl

/-! ### Interfaces -/

theorem RxModeSettings.codec_keepsRecords : RxModeSettings.codec.KeepsRecords {} :=
  Spells.keepsRecords ⟨by decide, by simp, by simp⟩

theorem Unnumbered.codec_keepsRecords : Unnumbered.codec.KeepsRecords {} :=
  Spells.keepsRecords ⟨by decide, by simp, by simp⟩

theorem AfPacketLink.codec_keepsRecords : AfPacketLink.codec.KeepsRecords {} :=
  Spells.keepsRecords ⟨by decide, by simp, by simp⟩

theorem MemifLink.codec_keepsRecords : MemifLink.codec.KeepsRecords {} :=
  Spells.keepsRecords ⟨by decide, by simp, by simp⟩

theorem TapLink.codec_keepsRecords : TapLink.codec.KeepsRecords {} :=
  Spells.keepsRecords ⟨by decide, by simp, by simp⟩

theorem VxlanLink.codec_keepsRecords : VxlanLink.codec.KeepsRecords {} :=
  Spells.keepsRecords ⟨by decide, by simp, by simp⟩

theorem Interface.codec_keepsRecords : Interface.codec.KeepsRecords {} := by
  have unnumbered := Unnumbered.codec_keepsRecords.option_roundTrips
  have rxSettings := RxModeSettings.codec_keepsRecords.option_roundTrips
  have afPacket := AfPacketLink.codec_keepsRecords.option_roundTrips
  have memif := MemifLink.codec_keepsRecords.option_roundTrips
  have tap := TapLink.codec_keepsRecords.option_roundTrips
  have vxlan := VxlanLink.codec_keepsRecords.option_roundTrips
  refine Spells.keepsRecords ⟨by decide, ?_, ?_⟩
  · simp [unnumbered, rxSettings, afPacket, memif, tap, vxlan]
  · simp [unnumbered, rxSettings, afPacket, memif, tap, vxlan]

theorem InterfaceDetails.metaCodec_keepsRecords : metaCodec.KeepsRecords ("", 0) :=
  Spells.keepsRecords ⟨by decide, by simp, by simp⟩

theorem InterfaceDetails.codec_keepsRecords : InterfaceDetails.codec.KeepsRecords {} := by
  have interface := Interface.codec_keepsRecords.roundTrips
  have device := metaCodec_keepsRecords.roundTrips
  exact Spells.keepsRecords ⟨by decide, by simp [interface, device], by simp [interface, device]⟩

/-! ### BFD objects and rules -/

theorem BfdAuthentication.codec_keepsRecords : BfdAuthentication.codec.KeepsRecords {} :=
  Spells.keepsRecords ⟨by decide, by simp, by simp⟩

theorem BfdSession.codec_keepsRecords : BfdSession.codec.KeepsRecords {} := by
  have authentication := BfdAuthentication.codec_keepsRecords.option_roundTrips
  exact Spells.keepsRecords ⟨by decide, by simp [authentication], by simp [authentication]⟩

theorem BfdKey.codec_keepsRecords : BfdKey.codec.KeepsRecords {} :=
  Spells.keepsRecords ⟨by decide, by simp, by simp⟩

theorem BfdEcho.codec_keepsRecords : BfdEcho.codec.KeepsRecords {} :=
  Spells.keepsRecords ⟨by decide, by simp, by simp⟩

theorem StnRule.codec_keepsRecords : StnRule.codec.KeepsRecords {} :=
  Spells.keepsRecords ⟨by decide, by simp, by simp⟩

theorem StnRuleDetails.codec_keepsRecords : StnRuleDetails.codec.KeepsRecords {} :=
  Spells.keepsRecords ⟨by decide, by simp, by simp⟩

/-! ### NAT44 -/

theorem NatInterface.codec_keepsRecords : NatInterface.codec.KeepsRecords {} :=
  Spells.keepsRecords ⟨by decide, by simp, by simp⟩

theorem AddressPool.codec_keepsRecords : AddressPool.codec.KeepsRecords {} :=
  Spells.keepsRecords ⟨by decide, by simp, by simp⟩

theorem NatGlobal.codec_keepsRecords : NatGlobal.codec.KeepsRecords {} := by
  have interfaces := list_roundTrips NatInterface.codec_keepsRecords.roundTrips
  have pools := list_roundTrips AddressPool.codec_keepsRecords.roundTrips
  exact Spells.keepsRecords ⟨by decide, by simp [interfaces, pools], by simp [interfaces, pools]⟩

theorem SourceNat.codec_keepsRecords : SourceNat.codec.KeepsRecords {} :=
  Spells.keepsRecords ⟨by decide, by simp, by simp⟩

theorem LocalEndpoint.codec_keepsRecords : LocalEndpoint.codec.KeepsRecords {} :=
  Spells.keepsRecords ⟨by decide, by simp, by simp⟩

theorem StaticMapping.codec_keepsRecords : StaticMapping.codec.KeepsRecords {} := by
  have locals := list_roundTrips LocalEndpoint.codec_keepsRecords.roundTrips
  exact Spells.keepsRecords ⟨by decide, by simp [locals], by simp [locals]⟩

theorem IdentityMapping.codec_keepsRecords : IdentityMapping.codec.KeepsRecords {} :=
  Spells.keepsRecords ⟨by decide, by simp, by simp⟩

theorem DestinationNat.codec_keepsRecords : DestinationNat.codec.KeepsRecords {} := by
  have statics := list_roundTrips StaticMapping.codec_keepsRecords.roundTrips
  have identities := list_roundTrips IdentityMapping.codec_keepsRecords.roundTrips
  exact Spells.keepsRecords
    ⟨by decide, by simp [statics, identities], by simp [statics, identities]⟩

/-! ### Whole documents -/

theorem DesiredState.codec_keepsRecords : DesiredState.codec.KeepsRecords {} := by
  have interfaces := list_roundTrips Interface.codec_keepsRecords.roundTrips
  have sessions := list_roundTrips BfdSession.codec_keepsRecords.roundTrips
  have keys := list_roundTrips BfdKey.codec_keepsRecords.roundTrips
  have echoes := list_roundTrips BfdEcho.codec_keepsRecords.roundTrips
  have rules := list_roundTrips StnRule.codec_keepsRecords.roundTrips
  have natGlobal := NatGlobal.codec_keepsRecords.option_roundTrips
  have sources := list_roundTrips SourceNat.codec_keepsRecords.roundTrips
  have destinations := list_roundTrips DestinationNat.codec_keepsRecords.roundTrips
  refine Spells.keepsRecords ⟨by decide, ?_, ?_⟩
  · simp [interfaces, sessions, keys, echoes, rules, natGlobal, sources, destinations]
  · simp [interfaces, sessions, keys, echoes, rules, natGlobal, sources, destinations]

theorem Configuration.codec_keepsRecords : Configuration.codec.KeepsRecords {} := by
  have desired := DesiredState.codec_keepsRecords.roundTrips
  exact Spells.keepsRecords ⟨by decide, by simp [desired], by simp [desired]⟩

theorem Snapshot.codec_keepsRecords : Snapshot.codec.KeepsRecords {} := by
  have interfaces := list_roundTrips InterfaceDetails.codec_keepsRecords.roundTrips
  have sockets := dictionary_roundTrips word_roundTrips
  have sessions := list_roundTrips BfdSession.codec_keepsRecords.roundTrips
  have keys := list_roundTrips BfdKey.codec_keepsRecords.roundTrips
  have rules := list_roundTrips StnRuleDetails.codec_keepsRecords.roundTrips
  have natGlobal := NatGlobal.codec_keepsRecords.roundTrips
  have destinations := list_roundTrips DestinationNat.codec_keepsRecords.roundTrips
  refine Spells.keepsRecords ⟨by decide, ?_, ?_⟩
  · simp [interfaces, sockets, sessions, keys, rules, natGlobal, destinations]
  · simp [interfaces, sockets, sessions, keys, rules, natGlobal, destinations]

namespace Codec

/-- The records that make up configurations and snapshots, with their defaults. -/
inductive OfFormat : {ρ : Type} → Codec ρ → ρ → Prop where
  | configuration : OfFormat Configuration.codec {}
  | desiredState : OfFormat DesiredState.codec {}
  | snapshot : OfFormat Snapshot.codec {}
  | interface : OfFormat Interface.codec {}
  | interfaceDetails : OfFormat InterfaceDetails.codec {}
  | interfaceMeta : OfFormat InterfaceDetails.metaCodec ("", 0)
  | unnumbered : OfFormat Unnumbered.codec {}
  | rxModeSettings : OfFormat RxModeSettings.codec {}
  | afPacketLink : OfFormat AfPacketLink.codec {}
  | memifLink : OfFormat MemifLink.codec {}
  | tapLink : OfFormat TapLink.codec {}
  | vxlanLink : OfFormat VxlanLink.codec {}
  | bfdSession : OfFormat BfdSession.codec {}
  | bfdAuthentication : OfFormat BfdAuthentication.codec {}
  | bfdKey : OfFormat BfdKey.codec {}
  | bfdEcho : OfFormat BfdEcho.codec {}
  | stnRule : OfFormat StnRule.codec {}
  | stnRuleDetails : OfFormat StnRuleDetails.codec {}
  | natGlobal : OfFormat NatGlobal.codec {}
  | natInterface : OfFormat NatInterface.codec {}
  | addressPool : OfFormat AddressPool.codec {}
  | sourceNat : OfFormat SourceNat.codec {}
  | destinationNat : OfFormat DestinationNat.codec {}
  | staticMapping : OfFormat StaticMapping.codec {}
  | localEndpoint : OfFormat LocalEndpoint.codec {}
  | identityMapping : OfFormat IdentityMapping.codec {}

theorem OfFormat.keepsRecords {ρ : Type} {c : Codec ρ} {default : ρ} (h : OfFormat c default) :
    c.KeepsRecords default := by
  cases h with
  | configuration => exact Configuration.codec_keepsRecords
  | desiredState => exact DesiredState.codec_keepsRecords
  | snapshot => exact Snapshot.codec_keepsRecords
  | interface => exact Interface.codec_keepsRecords
  | interfaceDetails => exact InterfaceDetails.codec_keepsRecords
  | interfaceMeta => exact InterfaceDetails.metaCodec_keepsRecords
  | unnumbered => exact Unnumbered.codec_keepsRecords
  | rxModeSettings => exact RxModeSettings.codec_keepsRecords
  | afPacketLink => exact AfPacketLink.codec_keepsRecords
  | memifLink => exact MemifLink.codec_keepsRecords
  | tapLink => exact TapLink.codec_keepsRecords
  | vxlanLink => exact VxlanLink.codec_keepsRecords
  | bfdSession => exact BfdSession.codec_keepsRecords
  | bfdAuthentication => exact BfdAuthentication.codec_keepsRecords
  | bfdKey => exact BfdKey.codec_keepsRecords
  | bfdEcho => exact BfdEcho.codec_keepsRecords
  | stnRule => exact StnRule.codec_keepsRecords
  | stnRuleDetails => exact StnRuleDetails.codec_keepsRecords
  | natGlobal => exact NatGlobal.codec_keepsRecords
  | natInterface => exact NatInterface.codec_keepsRecords
  | addressPool => exact AddressPool.codec_keepsRecords
  | sourceNat => exact SourceNat.codec_keepsRecords
  | destinationNat => exact DestinationNat.codec_keepsRecords
  | staticMapping => exact StaticMapping.codec_keepsRecords
  | localEndpoint => exact LocalEndpoint.codec_keepsRecords
  | identityMapping => exact IdentityMapping.codec_keepsRecords

/-- Configurations and snapshots are read back from their JSON forms, so a document of any notation
stands for the same after it has been read and written.

All records of theirs are read from an object as if the members that it lacks were there as the
default has them, and those that the default lacks were not. -/
theorem documents_roundTrip :
    (∀ c, Configuration.codec.read (Configuration.codec.write c) = .ok c) ∧
    (∀ s, Snapshot.codec.read (Snapshot.codec.write s) = .ok s) ∧
    (∀ (δ : Type) [Document δ] (d : δ) (c : Configuration), Configuration.codec.read d = .ok c →
      Configuration.codec.read (Configuration.codec.write c) = Configuration.codec.read d) ∧
    (∀ (δ : Type) [Document δ] (d : δ) (s : Snapshot), Snapshot.codec.read d = .ok s →
      Snapshot.codec.read (Snapshot.codec.write s) = Snapshot.codec.read d) ∧
    ∀ (ρ : Type) (c : Codec ρ) (default : ρ), OfFormat c default →
      c.RoundTrips ∧ c.read (Json.obj []) = .ok default ∧ c.Completes default := by
  have configurations := Configuration.codec_keepsRecords.roundTrips
  have snapshots := Snapshot.codec_keepsRecords.roundTrips
  refine ⟨configurations, snapshots, ?_, ?_, ?_⟩
  · intro δ _ d c accepted
    rw [accepted, configurations c]
  · intro δ _ d s accepted
    rw [accepted, snapshots s]
  · intro ρ c default format
    have laws := format.keepsRecords
    exact ⟨laws.roundTrips, laws.read_nothing, laws.completes⟩

/-- A configuration that gives an interface and its hardware address, in upper case and between
blanks, with a member that no configuration has. -/
def lanDocument : Json :=
  .obj
    [("note", .null),
     ("desired", .obj
       [("interfaces", .arr
         [.obj [("name", .str "lan0"), ("phys_address", .str " 02:00:00:00:00:2A ")]])])]

/-- It is accepted, and all else has its default, the strategy included. -/
theorem documents_roundTrip_lan :
    let lan : Interface := { name := "lan0", mac := some ⟨2, 0, 0, 0, 0, 42⟩ }
    let c : Configuration := { desired := { interfaces := [lan] } }
    Configuration.codec.read lanDocument = .ok c ∧
      Configuration.codec.read (Configuration.codec.write c) =
        Configuration.codec.read lanDocument ∧
      Configuration.codec.Completes {} := by
  intro lan c
  have accepted : Configuration.codec.read lanDocument = .ok c := by decide +kernel
  obtain ⟨-, -, again, -, records⟩ := documents_roundTrip
  exact ⟨accepted, again Json lanDocument c accepted, (records _ _ _ .configuration).2.2⟩

end Codec

end DataplaneSync
