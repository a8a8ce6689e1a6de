import DataplaneSync.Bfd.Basic
import DataplaneSync.Interface.Basic
import DataplaneSync.Nat44.Identifier
import DataplaneSync.Stn.Basic
import DataplaneSync.Table

namespace DataplaneSync

/-!
# Dataplane calls

Everything that can be asked of a dataplane.

* `InterfaceCall`, `BfdCall`, `StnCall`, `NatCall` — the calls of each group of reconcilers, and
  `Call`, any of them.
* `Call.Reply` — what a call that is not refused gives back.
* `Operation` — what a call counts as: a family, a kind and the object it is about.
-/

/-! ### Families and kinds -/

/-- A family of dataplane objects. -/
inductive Family where
  | interface
  | bfdSession
  | bfdKey
  | bfdEcho
  | stnRule
  | natGlobal
  | staticMapping
  | balancedMapping
  | identityMapping
  | destinationNat
  deriving DecidableEq

/-- The name of a family. -/
def Family.name : Family → String
  | .interface => "interface"
  | .bfdSession => "bfd-session"
  | .bfdKey => "bfd-auth-key"
  | .bfdEcho => "bfd-echo"
  | .stnRule => "stn-rule"
  | .natGlobal => "nat-global"
  | .staticMapping => "dnat-static-mapping"
  | .balancedMapping => "dnat-lb-static-mapping"
  | .identityMapping => "dnat-identity-mapping"
  | .destinationNat => "dnat"

/-- All families. -/
def Family.all : List Family :=
  [.interface, .bfdSession, .bfdKey, .bfdEcho, .stnRule, .natGlobal, .staticMapping,
    .balancedMapping, .identityMapping, .destinationNat]

/-- What a call does to its object. -/
inductive CallKind where
  | dump
  | create
  | modify
  | delete
  | tag
  deriving DecidableEq

/-- The name of a kind. -/
def CallKind.name : CallKind → String
  | .dump => "dump"
  | .create => "create"
  | .modify => "modify"
  | .delete => "delete"
  | .tag => "tag"

/-- All kinds. -/
def CallKind.all : List CallKind := [.dump, .create, .modify, .delete, .tag]

/-- What a call counts as. -/
structure Operation where
  family : Family
  kind : CallKind
  /-- The object that the call is about. -/
  object : String
  deriving DecidableEq

/-- An operation in one line. -/
def Operation.render (o : Operation) : String := s!"{o.kind.name} {o.family.name} {o.object}"

/-! ### Calls of each group -/

/-- Calls about interfaces. -/
inductive InterfaceCall where
  | dump
  | dumpSockets
  | setTag (tag : String) (index : UInt32)
  | configure (interface : Interface)
  | modify (wanted actual : Interface) (index : UInt32)
  | delete (actual : Interface) (index : UInt32)

/-- What a call about interfaces gives back; a creation gives the new index. -/
@[reducible] def InterfaceCall.Reply : InterfaceCall → Type
  | dump => Table UInt32 InterfaceDetails
  | dumpSockets => Table String UInt32
  | configure _ => UInt32
  | setTag _ _ => Unit
  | modify _ _ _ => Unit
  | delete _ _ => Unit

/-- Calls about bidirectional forwarding detection. -/
inductive BfdCall where
  | dumpSessions
  | dumpKeys
  | configureSession (session : BfdSession)
  | modifySession (actual wanted : BfdSession)
  | deleteSession (session : BfdSession)
  | configureKey (key : BfdKey)
  | modifyKey (actual wanted : BfdKey)
  | deleteKey (key : BfdKey)
  | configureEcho (echo : BfdEcho)

/-- What a call about forwarding detection gives back. -/
@[reducible] def BfdCall.Reply : BfdCall → Type
  | dumpSessions => List BfdSession
  | dumpKeys => List BfdKey
  | configureSession _ => Unit
  | modifySession _ _ => Unit
  | deleteSession _ => Unit
  | configureKey _ => Unit
  | modifyKey _ _ => Unit
  | deleteKey _ => Unit
  | configureEcho _ => Unit

/-- Calls about steal-the-NIC rules. -/
inductive StnCall where
  | dump
  | add (rule : StnRule) (index : UInt32)
  | delete (address : String) (index : UInt32)

/-- What a call about rules gives back. -/
@[reducible] def StnCall.Reply : StnCall → Type
  | dump => List StnRuleDetails
  | add _ _ => Unit
  | delete _ _ => Unit

/-- A mapping, in the form in which the dataplane is told of it. -/
inductive Mapping where
  /-- A static mapping without load balancing. -/
  | single (mapping : StaticMapping)
  /-- A static mapping with load balancing. -/
  | balanced (mapping : StaticMapping)
  /-- An identity mapping. -/
  | identity (mapping : IdentityMapping)
  deriving DecidableEq

namespace Mapping

/-- The identifier of a mapping. -/
def identifier : Mapping → String
  | single m => m.identifier
  | balanced m => m.identifier
  | identity m => m.identifier

/-- The family of a mapping. -/
def family : Mapping → Family
  | single _ => .staticMapping
  | balanced _ => .balancedMapping
  | identity _ => .identityMapping

/-- The noun for a mapping in the names of calls. -/
def noun : Mapping → String
  | single _ => "static_mapping"
  | balanced _ => "lb_static_mapping"
  | identity _ => "identity_mapping"

/-- A static mapping, with load balancing if it has several endpoints. -/
def ofStatic (m : StaticMapping) : Mapping := if m.isLoadBalanced then balanced m else single m

end Mapping

/-- Calls about NAT. -/
inductive NatCall where
  | dumpGlobal
  | setForwarding (enabled : Bool)
  | enableInterface (interface : NatInterface)
  | disableInterface (interface : NatInterface)
  | addPool (pool : AddressPool)
  | deletePool (pool : AddressPool)
  | dumpDestinations
  | addMapping (label : String) (mapping : Mapping)
  | deleteMapping (label : String) (mapping : Mapping)

/-- What a call about NAT gives back. -/
@[reducible] def NatCall.Reply : NatCall → Type
  | dumpGlobal => NatGlobal
  | dumpDestinations => List DestinationNat
  | setForwarding _ => Unit
  | enableInterface _ => Unit
  | disableInterface _ => Unit
  | addPool _ => Unit
  | deletePool _ => Unit
  | addMapping _ _ => Unit
  | deleteMapping _ _ => Unit

/-! ### Names and operations -/

/-- The name of a call. -/
def InterfaceCall.name : InterfaceCall → String
  | dump => "dump_interfaces"
  | dumpSockets => "dump_memif_socket_details"
  | setTag _ _ => "set_interface_tag"
  | configure _ => "configure_interface"
  | modify _ _ _ => "modify_interface"
  | delete _ _ => "delete_interface"

/-- What a call counts as. -/
def InterfaceCall.operation : InterfaceCall → Operation
  | dump => ⟨.interface, .dump, ""⟩
  | dumpSockets => ⟨.interface, .dump, ""⟩
  | setTag tag _ => ⟨.interface, .tag, tag⟩
  | configure i => ⟨.interface, .create, i.name⟩
  | modify wanted _ _ => ⟨.interface, .modify, wanted.name⟩
  | delete actual index => ⟨.interface, .delete, s!"{actual.name} (index {index.toNat})"⟩

/-- The name of a call. -/
def BfdCall.name : BfdCall → String
  | dumpSessions => "dump_bfd_sessions"
  | dumpKeys => "dump_bfd_auth_keys"
  | configureSession _ => "configure_bfd_session"
  | modifySession _ _ => "modify_bfd_session"
  | deleteSession _ => "delete_bfd_session"
  | configureKey _ => "configure_bfd_auth_key"
  | modifyKey _ _ => "modify_bfd_auth_key"
  | deleteKey _ => "delete_bfd_auth_key"
  | configureEcho _ => "configure_bfd_echo_function"

/-- What a call counts as. -/
def BfdCall.operation : BfdCall → Operation
  | dumpSessions => ⟨.bfdSession, .dump, ""⟩
  | dumpKeys => ⟨.bfdKey, .dump, ""⟩
  | configureSession s => ⟨.bfdSession, .create, s.key⟩
  | modifySession _ wanted => ⟨.bfdSession, .modify, wanted.key⟩
  | deleteSession s => ⟨.bfdSession, .delete, s.key⟩
  | configureKey k => ⟨.bfdKey, .create, BfdKey.registryName k.id⟩
  | modifyKey _ wanted => ⟨.bfdKey, .modify, BfdKey.registryName wanted.id⟩
  | deleteKey k => ⟨.bfdKey, .delete, BfdKey.registryName k.id⟩
  | configureEcho e => ⟨.bfdEcho, .create, e.sourceInterface⟩

/-- The name of a call. -/
def StnCall.name : StnCall → String
  | dump => "dump_stn_rules"
  | add _ _ => "add_stn_rule"
  | delete _ _ => "del_stn_rule"

/-- What a call counts as. -/
def StnCall.operation : StnCall → Operation
  | dump => ⟨.stnRule, .dump, ""⟩
  | add rule _ => ⟨.stnRule, .create, s!"{rule.address}@{rule.interface}"⟩
  | delete address index => ⟨.stnRule, .delete, s!"{address} (index {index.toNat})"⟩

/-- The name of a call. -/
def NatCall.name : NatCall → String
  | dumpGlobal => "dump_nat_global"
  | setForwarding _ => "set_nat_forwarding"
  | enableInterface _ => "enable_nat_interface"
  | disableInterface _ => "disable_nat_interface"
  | addPool _ => "add_address_pool"
  | deletePool _ => "del_address_pool"
  | dumpDestinations => "dump_dnat"
  | addMapping _ m => s!"add_{m.noun}"
  | deleteMapping _ m => s!"del_{m.noun}"

/-- What a call counts as. -/
def NatCall.operation : NatCall → Operation
  | dumpGlobal => ⟨.natGlobal, .dump, ""⟩
  | setForwarding enabled => ⟨.natGlobal, .modify, s!"forwarding={enabled}"⟩
  | enableInterface i => ⟨.natGlobal, .create, i.name⟩
  | disableInterface i => ⟨.natGlobal, .delete, i.name⟩
  | addPool p => ⟨.natGlobal, .create, p.first⟩
  | deletePool p => ⟨.natGlobal, .delete, p.first⟩
  | dumpDestinations => ⟨.destinationNat, .dump, ""⟩
  | addMapping _ m => ⟨m.family, .create, m.identifier⟩
  | deleteMapping _ m => ⟨m.family, .delete, m.identifier⟩

/-! ### Any call -/

/-- A call to the dataplane. -/
inductive Call where
  | interface (call : InterfaceCall)
  | bfd (call : BfdCall)
  | stn (call : StnCall)
  | nat (call : NatCall)

namespace Call

/-- What a call gives back unless it is refused. -/
@[reducible] def Reply : Call → Type
  | interface c => c.Reply
  | bfd c => c.Reply
  | stn c => c.Reply
  | nat c => c.Reply

/-- The name of a call. -/
def name : Call → String
  | interface c => c.name
  | bfd c => c.name
  | stn c => c.name
  | nat c => c.name

/-- What a call counts as. -/
def operation : Call → Operation
  | interface c => c.operation
  | bfd c => c.operation
  | stn c => c.operation
  | nat c => c.operation

/-- Whether a call only reads. -/
def isDump (c : Call) : Bool := c.operation.kind == .dump

end Call

end DataplaneSync
