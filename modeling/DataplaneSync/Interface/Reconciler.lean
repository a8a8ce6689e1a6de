import DataplaneSync.Dataplane.Pass
import DataplaneSync.Interface.Codec
import DataplaneSync.Interface.Difference
import DataplaneSync.Registry

namespace DataplaneSync

/-!
# Reconciliation of interfaces

One pass brings the interfaces of the dataplane to the wanted ones and rebuilds the registry of
interfaces.  It ends at the first call that is refused; what it registered before stays.

* The device at index 0 is registered under its internal name.
* A tagged interface is kept if one of its name is wanted, and removed otherwise.
* An untagged interface becomes the first wanted one that it correlates with and that is not
  registered yet; if there is none it is removed under a placeholder name.
* Wanted interfaces that are not registered by then are created.

Each interface is registered and tagged before anything else happens to it.
-/

/-- Why a pass over the interfaces ended early. -/
inductive InterfaceFailure where
  | dump (reason : String)
  | dumpSockets (reason : String)
  | tag (name : String) (index : UInt32) (reason : String)
  | configure (name : String) (reason : String)
  | modify (name : String) (reason : String)
  | delete (name : String) (index : UInt32) (reason : String)
  | status (reason : String)
  /-- The reconciler is not connected to a dataplane. -/
  | disconnected
  deriving DecidableEq

/-- The wording of a failure. -/
def InterfaceFailure.message : InterfaceFailure → String
  | dump reason => s!"failed to dump interfaces: {reason}"
  | dumpSockets reason => s!"failed to dump memif socket details: {reason}"
  | tag name index reason => s!"failed to tag interface {name} (index {index.toNat}): {reason}"
  | configure name reason => s!"failed to configure interface {name}: {reason}"
  | modify name reason => s!"failed to modify interface {name}: {reason}"
  | delete name index reason =>
    s!"failed to remove interface {name} (index {index.toNat}): {reason}"
  | status reason => s!"failed to refresh interface state: {reason}"
  | disconnected => "no callbacks set"

/-- What all passes over the interfaces did so far. -/
structure InterfaceStats where
  passes : Nat := 0
  registered : Nat := 0
  tagged : Nat := 0
  created : Nat := 0
  modified : Nat := 0
  deleted : Nat := 0
  deriving DecidableEq

/-- What is known about the interfaces. -/
structure InterfaceReconciler where
  /-- Whether there is a dataplane to call. -/
  connected : Bool := true
  /-- Whether passes leave the interface states empty. -/
  skipRefresh : Bool := false
  /-- Index and wanted or removed interface of each registered name. -/
  registry : Registry Interface := ∅
  /-- The ids of the memif sockets, by file. -/
  sockets : Table String UInt32 := ∅
  /-- The host interfaces of registered AF-packet interfaces, by name. -/
  hosts : Table String String := ∅
  /-- What the dataplane reported after the last pass, by name. -/
  states : Table String InterfaceState := ∅
  stats : InterfaceStats := {}

namespace InterfaceReconciler

/-- A pass over the interfaces, or a part of one. -/
abbrev Step : Type → Type := Pass InterfaceReconciler InterfaceFailure

/-! ### Reports -/

/-- What the events of a pass say about an interface. -/
def subject (r : InterfaceReconciler) (name : String) (details : Option Json) : AuditSubject where
  source := "IntfsOrch"
  objectType := "interface"
  objectId := name
  details := details
  correlationId := some s!"intfs-resync-{r.stats.passes}"

/-! ### Steps for one interface -/

/-- Remember the host interface of an AF-packet interface. -/
def cacheHost (name : String) (i : Interface) (r : InterfaceReconciler) : InterfaceReconciler :=
  match i.hostInterface? with
  | some host => { r with hosts := r.hosts.insert name host }
  | none => r

/-- Enter a name into the registry. -/
def enroll (name : String) (index : UInt32) (i : Interface) (r : InterfaceReconciler) :
    InterfaceReconciler :=
  { r with
    registry := r.registry.register name index i
    stats := { r.stats with registered := r.stats.registered + 1 } }

/-- Register an interface and write its name into the dataplane. -/
def register (name : String) (index : UInt32) (i : Interface) : Step Unit := do
  modify (enroll name index i)
  let r ← get
  Pass.change (.interface (.setTag name index))
    (fun _ => r.subject name (some (.obj [("index", Json.word index)])))
    (.tag name index)
  modify fun r => { r with stats := { r.stats with tagged := r.stats.tagged + 1 } }
  modify (cacheHost name i)

/-- Modify an interface that is not as wanted. -/
def adjust (wanted actual : Interface) (index : UInt32) : Step Unit := do
  match Interface.firstDifference wanted actual with
  | none => pure ()
  | some aspect =>
    let r ← get
    let details := Json.obj [("first_difference", .str aspect.name), ("index", Json.word index)]
    Pass.change (.interface (.modify wanted actual index))
      (fun _ => r.subject wanted.name (some details)) (.modify wanted.name)
    modify fun r => { r with stats := { r.stats with modified := r.stats.modified + 1 } }

/-- Drop a name from the registry, provided it still stands for the index. -/
def dismiss (name : String) (index : UInt32) (r : InterfaceReconciler) : InterfaceReconciler :=
  match r.registry.unregister name with
  | .ok ((registered, _), registry) =>
    if registered = index then { r with registry := registry } else r
  | .error _ => r

/-- Remove an interface that is registered under a name, and then its registration. -/
def remove (name : String) (actual : Interface) (index : UInt32) : Step Unit := do
  let r ← get
  let details := Json.obj [("index", Json.word index), ("type", .str actual.type.name)]
  Pass.change (.interface (.delete actual index)) (fun _ => r.subject name (some details))
    (.delete name index)
  modify (dismiss name index)
  modify fun r =>
    { r with
      hosts := r.hosts.erase name
      stats := { r.stats with deleted := r.stats.deleted + 1 } }

/-- What the event of a creation says about the new interface. -/
def creation (r : InterfaceReconciler) (wanted : Interface) :
    Answer (.interface (.configure wanted)) → AuditSubject := fun answer =>
  let socket := (wanted.memif.bind fun m => r.sockets.get? m.socket)
  let details :=
    Json.obj [("memif_socket_id", Json.opt Json.word socket), ("type", .str wanted.type.name)]
  match answer with
  | .ok index => r.subject s!"{wanted.name} (index {index.toNat})" (some details)
  | .error _ => r.subject wanted.name (some details)

/-- Create a wanted interface and register it under the index it gets. -/
def create (wanted : Interface) : Step Unit := do
  let r ← get
  let index ← Pass.change (.interface (.configure wanted)) (r.creation wanted)
    (.configure wanted.name)
  modify (enroll wanted.name index wanted)
  modify (cacheHost wanted.name wanted)
  modify fun r => { r with stats := { r.stats with created := r.stats.created + 1 } }

/-! ### Stages of a pass -/

/-- Deal with the device at index 0 and with tagged interfaces. -/
def settleTagged (wanted : List Interface) (index : UInt32) (details : InterfaceDetails) :
    Step Unit :=
  let actual := details.interface
  if index = 0 then register details.internalName index actual
  else if !actual.isTagged then pure ()
  else
    match wanted.find? (·.name == actual.name) with
    | some w => do
      register w.name index w
      adjust w actual index
    | none => do
      register actual.name index actual
      remove actual.name actual index

/-- The first wanted interface that is not registered and that an untagged one correlates with. -/
def correlated? (r : InterfaceReconciler) (wanted : List Interface) (actual : Interface) :
    Option Interface :=
  wanted.find? fun w => !r.registry.contains w.name && Interface.correlates actual w

/-- Deal with an untagged interface. -/
def settleUntagged (wanted : List Interface) (index : UInt32) (details : InterfaceDetails) :
    Step Unit := do
  let r ← get
  match r.correlated? wanted details.interface with
  | some w =>
    register w.name index w
    adjust w details.interface index
  | none =>
    register Interface.placeholderName index details.interface
    remove Interface.placeholderName details.interface index

/-- Create a wanted interface unless it is registered. -/
def settleMissing (wanted : Interface) : Step Unit := do
  let r ← get
  if r.registry.contains wanted.name then pure () else create wanted

/-- What a dump says about a registered interface. -/
def stateOf (name : String) (index : UInt32) (details : InterfaceDetails) : InterfaceState where
  name := name
  index := index
  internalName := details.internalName
  enabled := details.interface.enabled
  mtu := details.interface.mtu
  mac := details.interface.mac

/-- What a dump says about the registered interfaces, by name. -/
def statesIn (registry : Registry Interface) (actual : Table UInt32 InterfaceDetails) :
    Table String InterfaceState :=
  .ofList (registry.toList.filterMap fun (name, index, _) =>
    (actual.get? index).map fun details => (name, stateOf name index details))

/-- Ask the dataplane for the states of the registered interfaces. -/
def refresh : Step Unit := do
  let actual ← Pass.dump (.interface .dump) .status
  modify fun r => { r with states := statesIn r.registry actual }

/-- Start a pass: nothing is registered yet. -/
def start : Step Unit := do
  let r ← get
  if r.connected then
    set { r with
      registry := ∅
      hosts := ∅
      states := ∅
      stats := { r.stats with passes := r.stats.passes + 1 } }
  else throw .disconnected

/-- Dump the interfaces, and report if that fails. -/
def dumpInterfaces : Step (Table UInt32 InterfaceDetails) := do
  match ← Pass.perform (Program.call (.interface .dump)) with
  | .ok actual => pure actual
  | .error reason => do
    let r ← get
    let call := Call.interface .dump
    let event := (r.subject "*" none).event call.operation.kind.category call.name
    Pass.perform (Program.report (event.failed reason))
    throw (.dump reason)

/-- Whether a dumped interface is neither the device at index 0 nor tagged. -/
def isUntagged (entry : UInt32 × InterfaceDetails) : Bool :=
  entry.1 != 0 && !entry.2.interface.isTagged

/-- Bring the interfaces of the dataplane to the wanted ones. -/
def reconcile (wanted : List Interface) : Step Unit := do
  start
  let sockets ← Pass.dump (.interface .dumpSockets) .dumpSockets
  modify fun r => { r with sockets := sockets }
  let actual ← dumpInterfaces
  actual.entries.forM fun (index, details) => settleTagged wanted index details
  (actual.entries.filter isUntagged).forM fun (index, details) =>
    settleUntagged wanted index details
  wanted.forM settleMissing
  let r ← get
  if r.skipRefresh then pure () else refresh

/-! ### Cold starts -/

/-- Whether a dump shows nothing but the device at index 0. -/
def isBare (actual : Table UInt32 InterfaceDetails) : Bool :=
  actual.isEmpty || (actual.size == 1 && actual.contains 0)

/-- Whether the dataplane has nothing to reconcile.  One that cannot be asked may have. -/
def isColdStart (r : InterfaceReconciler) : Program Bool :=
  if r.connected then
    (Program.call (.interface .dump)).bind fun
      | .ok actual => .done (isBare actual)
      | .error _ => .done false
  else .done false

end InterfaceReconciler

end DataplaneSync
