import DataplaneSync.Dataplane.Call
import DataplaneSync.Snapshot

namespace DataplaneSync

/-!
# Simulated dataplane

A dataplane in memory.  It serves to plan a run without touching anything.

* `Links`, `Detection`, `NatTables` — the parts of its state; each group of calls works on one
  of them.
* `Effect` — the steps of a call on a part of the state.  The step that refuses a call does not
  take back those before it.
* `Simulation` — the whole state, with the operations carried out and the calls that are set to
  fail.
* `Simulation.answer?` — what a call comes back with and the state after it.

Interfaces get indexes above all that the dataplane ever had; that there is no such index any more
is not a refusal but the end of the simulation.
-/

/-! ### Parts of the state -/

/-- Interfaces, memif sockets and steal-the-NIC rules. -/
structure Links where
  interfaces : Table UInt32 InterfaceDetails := ∅
  /-- The index of the next new interface. -/
  nextIndex : UInt32 := 1
  /-- The ids of the memif sockets, by file. -/
  sockets : Table String UInt32 := ∅
  rules : List StnRuleDetails := []

/-- Sessions, authentication keys and the echo source. -/
structure Detection where
  sessions : List BfdSession := []
  keys : List BfdKey := []
  echo : Option BfdEcho := none

/-- Global settings and groups of mappings. -/
structure NatTables where
  global : NatGlobal := {}
  destinations : List DestinationNat := []

/-- Why a call cannot be carried out. -/
inductive Obstacle where
  /-- The dataplane refuses the call. -/
  | refused (reason : String)
  /-- There is no index left for a new interface. -/
  | outOfIndexes

/-- Steps on a part `σ` of the state, which come to a reply or stop at an obstacle.  The state is
in either case what the steps have made of it. -/
abbrev Effect (σ : Type) : Type → Type := ExceptT Obstacle (StateM σ)

/-- What has been found, or the refusal that there is no such thing. -/
def Effect.require {σ ρ : Type} (found : Option ρ) (reason : String) : Effect σ ρ :=
  match found with
  | some x => pure x
  | none => throw (.refused reason)

/-- What is found in the state, or the refusal that there is no such thing. -/
def Effect.find {σ ρ : Type} (look : σ → Option ρ) (reason : String) : Effect σ ρ := do
  require (look (← get)) reason

/-! ### Interfaces -/

namespace Links

/-- The name that the dataplane gives a new device. -/
def internalName (type : InterfaceType) (index : UInt32) : String :=
  match type with
  | .softwareLoopback => s!"loop{index.toNat}"
  | .ethernetCsmacd => s!"GigabitEthernet0/{index.toNat}/0"
  | .memoryInterface => s!"memif0/{index.toNat}"
  | .tapInterface => s!"tap{index.toNat}"
  | .afPacketInterface => s!"host-{index.toNat}"
  | .vxlanTunnel => s!"vxlan_tunnel{index.toNat}"

/-- The reason to refuse a call about an index where there is no interface. -/
def missing (index : UInt32) : String := s!"no interface with index {index.toNat}"

/-- The interface at an index, or the refusal that there is none. -/
def find (index : UInt32) : Effect Links InterfaceDetails :=
  Effect.find (·.interfaces.get? index) (missing index)

/-- Put another interface at an index; the device stays. -/
def replace (s : Links) (details : InterfaceDetails) (index : UInt32) (i : Interface) : Links :=
  { s with interfaces := s.interfaces.insert index { details with interface := i } }

/-- The sockets once the one of an interface is known.  A new socket gets the number of sockets
so far as its id. -/
def openSocket (s : Links) (i : Interface) : Table String UInt32 :=
  match i.memif with
  | none => s.sockets
  | some m =>
    if s.sockets.contains m.socket then s.sockets
    else s.sockets.insert m.socket (UInt32.ofNat s.sockets.size)

/-- Create an interface. -/
def create (i : Interface) : Effect Links UInt32 := do
  let index := (← get).nextIndex
  if index.toNat + 1 < UInt32.size then
    modify fun s => { s with nextIndex := index + 1 }
    modify fun s => { s with sockets := s.openSocket i }
    let details := { interface := i, internalName := internalName i.type index, index := index }
    modify fun s => { s with interfaces := s.interfaces.insert index details }
    return index
  else throw .outOfIndexes

/-- Tag the interface at an index.  The device at index 0 has no tag, whatever it is given. -/
def tag (name : String) (index : UInt32) : Effect Links Unit := do
  let details ← find index
  if index ≠ 0 then
    modify fun s => s.replace details index { details.interface with name := name }

/-- Give the interface at an index another configuration. -/
def reconfigure (index : UInt32) (wanted : Interface) : Effect Links Unit := do
  let details ← find index
  modify fun s => s.replace details index wanted

/-- Take the interface at an index out of the table.  The table is asked for it and loses it in
one step; only then is it seen whether there was one. -/
def take (index : UInt32) : Effect Links InterfaceDetails := do
  let found ← modifyGet fun s =>
    (s.interfaces.get? index, { s with interfaces := s.interfaces.erase index })
  Effect.require found (missing index)

/-- Remove the interface at an index, which takes its rules along. -/
def remove (index : UInt32) : Effect Links Unit := do
  let _ ← take index
  modify fun s => { s with rules := s.rules.filter (·.index != index) }

/-- A rule as a dump shows it, with the tag of the interface at its index. -/
def shown (s : Links) (rule : StnRuleDetails) : StnRuleDetails :=
  match s.interfaces.get? rule.index with
  | some details => { rule with interface := details.interface.name }
  | none => rule

end Links

/-- Carry out a call about interfaces. -/
def InterfaceCall.perform : (c : InterfaceCall) → Effect Links c.Reply
  | dump => return (← get).interfaces
  | dumpSockets => return (← get).sockets
  | setTag tag index => Links.tag tag index
  | configure i => Links.create i
  | modify wanted _ index => Links.reconfigure index wanted
  | delete _ index => Links.remove index

/-- Whether a rule has an address and an index. -/
def StnRuleDetails.isAt (address : String) (index : UInt32) (r : StnRuleDetails) : Bool :=
  r.address == address && r.index == index

/-- Carry out a call about rules. -/
def StnCall.perform : (c : StnCall) → Effect Links c.Reply
  | dump => do
    let s ← get
    return s.rules.map s.shown
  | add rule index =>
    modify fun s => { s with rules := s.rules ++ [⟨rule.address, rule.interface, index⟩] }
  | delete address index => do
    let _ ← Effect.find (·.rules.find? (·.isAt address index))
      s!"no STN rule {address} on index {index.toNat}"
    modify fun s => { s with rules := s.rules.eraseP (·.isAt address index) }

/-! ### Forwarding detection -/

/-- Put `y` in the place of the first element that `p` accepts. -/
def replaceFirst {α : Type} (p : α → Bool) (y : α) : List α → List α
  | [] => []
  | x :: xs => if p x then y :: xs else x :: replaceFirst p y xs

namespace Detection

/-- Change the sessions, provided one has the endpoints of the given one. -/
def onSession (actual : BfdSession) (change : List BfdSession → List BfdSession) :
    Effect Detection Unit := do
  let _ ← Effect.find (·.sessions.find? (BfdSession.sameEndpoints · actual))
    s!"no BFD session {actual.key}"
  modify fun s => { s with sessions := change s.sessions }

/-- Change the keys, provided one has the number of the given one. -/
def onKey (actual : BfdKey) (change : List BfdKey → List BfdKey) : Effect Detection Unit := do
  let _ ← Effect.find (·.keys.find? (·.id == actual.id)) s!"no BFD key {actual.id.toNat}"
  modify fun s => { s with keys := change s.keys }

end Detection

/-- Carry out a call about forwarding detection. -/
def BfdCall.perform : (c : BfdCall) → Effect Detection c.Reply
  | dumpSessions => return (← get).sessions
  | dumpKeys => return (← get).keys
  | configureSession x => modify fun s => { s with sessions := s.sessions ++ [x] }
  | modifySession actual wanted =>
    Detection.onSession actual (replaceFirst (BfdSession.sameEndpoints · actual) wanted)
  | deleteSession actual =>
    Detection.onSession actual (·.eraseP (BfdSession.sameEndpoints · actual))
  | configureKey k => modify fun s => { s with keys := s.keys ++ [k] }
  | modifyKey actual wanted => Detection.onKey actual (replaceFirst (·.id == actual.id) wanted)
  | deleteKey actual => Detection.onKey actual (·.eraseP (·.id == actual.id))
  | configureEcho e => modify fun s => { s with echo := some e }

/-! ### NAT -/

/-- Change the first group with a label, which is added if there is none. -/
def onLabel (label : String) (change : DestinationNat → DestinationNat) :
    List DestinationNat → List DestinationNat
  | [] => [change { label := label }]
  | d :: ds => if d.label == label then change d :: ds else d :: onLabel label change ds

/-- Add a mapping at the end of a group. -/
def Mapping.addTo (m : Mapping) (d : DestinationNat) : DestinationNat :=
  match m with
  | single s => { d with statics := d.statics ++ [s] }
  | balanced s => { d with statics := d.statics ++ [s] }
  | identity i => { d with identities := d.identities ++ [i] }

/-- Remove all mappings of a group that equal the given one. -/
def Mapping.deleteFrom (m : Mapping) (d : DestinationNat) : DestinationNat :=
  match m with
  | single s => { d with statics := d.statics.filter (· != s) }
  | balanced s => { d with statics := d.statics.filter (· != s) }
  | identity i => { d with identities := d.identities.filter (· != i) }

namespace NatTables

/-- Change the global settings. -/
def onGlobal (s : NatTables) (change : NatGlobal → NatGlobal) : NatTables :=
  { s with global := change s.global }

/-- Drop the groups without mappings. -/
def dropEmpty (s : NatTables) : NatTables :=
  { s with destinations := s.destinations.filter (!·.isEmpty) }

end NatTables

/-- Carry out a call about NAT.  A removal leaves no empty group behind. -/
def NatCall.perform : (c : NatCall) → Effect NatTables c.Reply
  | dumpGlobal => return (← get).global
  | setForwarding enabled => modify (·.onGlobal fun g => { g with forwarding := enabled })
  | enableInterface i => modify (·.onGlobal fun g => { g with interfaces := g.interfaces ++ [i] })
  | disableInterface i =>
    modify (·.onGlobal fun g => { g with interfaces := g.interfaces.filter (· != i) })
  | addPool p => modify (·.onGlobal fun g => { g with pools := g.pools ++ [p] })
  | deletePool p => modify (·.onGlobal fun g => { g with pools := g.pools.filter (· != p) })
  | dumpDestinations => return (← get).destinations
  | addMapping label m =>
    modify fun s => { s with destinations := onLabel label m.addTo s.destinations }
  | deleteMapping label m => do
    modify fun s => { s with destinations := onLabel label m.deleteFrom s.destinations }
    modify (·.dropEmpty)

/-! ### The whole dataplane -/

/-- The state of a simulated dataplane. -/
structure Simulation where
  links : Links := {}
  detection : Detection := {}
  nat : NatTables := {}
  /-- The operations carried out, the oldest first. -/
  operations : List Operation := []
  /-- The families and kinds of calls that fail. -/
  failing : List (Family × CallKind) := []

namespace Simulation

/-- The interfaces of a snapshot by index, the last one of an index counting, with the device
at index 0 that every dataplane has. -/
def interfacesOf (s : Snapshot) : Table UInt32 InterfaceDetails :=
  let given := Table.ofList (s.interfaces.map fun d => (d.index, d))
  if given.contains 0 then given
  else given.insert 0 { internalName := Interface.localName }

/-- The dataplane that holds what a snapshot says, unless no index is left above its
interfaces. -/
def ofSnapshot? (s : Snapshot) : Option Simulation :=
  let interfaces := interfacesOf s
  let last := match interfaces.last? with
    | some (index, _) => index.toNat
    | none => 0
  if last + 1 < UInt32.size then
    some
      { links :=
          { interfaces := interfaces
            nextIndex := UInt32.ofNat (last + 1)
            sockets := s.sockets
            rules := s.rules }
        detection := { sessions := s.sessions, keys := s.keys }
        nat := { global := s.natGlobal, destinations := s.destinations } }
  else none

/-- What the dataplane holds. -/
def snapshot (s : Simulation) : Snapshot where
  interfaces := s.links.interfaces.values
  sockets := s.links.sockets
  sessions := s.detection.sessions
  keys := s.detection.keys
  rules := s.links.rules
  natGlobal := s.nat.global
  destinations := s.nat.destinations

/-- Let all later calls of a family and kind fail. -/
def failOn (s : Simulation) (family : Family) (kind : CallKind) : Simulation :=
  { s with failing := (family, kind) :: s.failing }

/-- Whether calls of a family and kind are set to fail. -/
def fails (s : Simulation) (o : Operation) : Bool := s.failing.contains (o.family, o.kind)

/-- The number of operations of a family and kind. -/
def count (s : Simulation) (family : Family) (kind : CallKind) : Nat :=
  s.operations.countP fun o => o.family == family && o.kind == kind

/-- The reason of a failure that was set. -/
def failureReason (o : Operation) : String :=
  match o.kind with
  | .dump => s!"simulated {o.family.name} dump failure"
  | kind => s!"simulated {o.family.name} {kind.name} failure for {o.object}"

/-- The operations once a call has been carried out.  Dumps are not recorded. -/
def recorded (s : Simulation) (c : Call) : List Operation :=
  if c.isDump then s.operations else s.operations ++ [c.operation]

/-- Carry out a call on the part of the state that it is about. -/
def perform (s : Simulation) (c : Call) : Except Obstacle c.Reply × Simulation :=
  match c with
  | .interface call => (call.perform s.links).map id fun links => { s with links := links }
  | .stn call => (call.perform s.links).map id fun links => { s with links := links }
  | .bfd call =>
    (call.perform s.detection).map id fun detection => { s with detection := detection }
  | .nat call => (call.perform s.nat).map id fun nat => { s with nat := nat }

/-- Answer a call.  The state is what carrying it out leaves, also if it is refused, and a change
that is not refused is recorded.  There is no answer if the indexes have run out. -/
def answer? (s : Simulation) (c : Call) : Option (Except String c.Reply × Simulation) :=
  if s.fails c.operation then some (.error (failureReason c.operation), s)
  else
    match s.perform c with
    | (.ok reply, t) => some (.ok reply, { t with operations := t.recorded c })
    | (.error (.refused reason), t) => some (.error reason, t)
    | (.error .outOfIndexes, _) => none

end Simulation

end DataplaneSync
