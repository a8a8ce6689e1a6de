import DataplaneSync.Dataplane.Pass
import DataplaneSync.Nat44.GlobalChange
import DataplaneSync.Nat44.Resolver
import DataplaneSync.Registry

namespace DataplaneSync

/-!
# Reconciliation of NAT44

* `NatReconciler.reconcileGlobal` — makes the changes that lead to the wanted global settings.
* `NatReconciler.reconcileDestinations` — brings the groups that the dataplane has to the wanted
  ones and removes groups that are not wanted.  Wanted groups that the dataplane does not have
  are left to `configure`.
* `NatReconciler.configure` — creates the mappings of a group that are not registered.

Mappings are registered by their identifiers, groups by their labels, all with indexes from one
counter.  A refused change does not end a pass; it reports the last one.
-/

/-- Why a pass over NAT objects failed. -/
inductive NatFailure where
  | dumpGlobal (reason : String)
  | dumpDestinations (reason : String)
  | forwarding (reason : String)
  | updateInterface (name : String) (reason : String)
  | updatePool (address : String) (reason : String)
  | createMapping (label mapping : String) (reason : String)
  | deleteMapping (label mapping : String) (reason : String)
  /-- A static mapping without endpoint cannot be created. -/
  | noEndpoint (label mapping : String)
  /-- The reconciler is not connected to a dataplane. -/
  | disconnected
  deriving DecidableEq

/-- The wording of a failure. -/
def NatFailure.message : NatFailure → String
  | dumpGlobal reason => s!"failed to dump NAT44 global config: {reason}"
  | dumpDestinations reason => s!"failed to dump DNAT config: {reason}"
  | forwarding reason => s!"failed to set NAT44 forwarding: {reason}"
  | updateInterface name reason => s!"failed to update NAT44 interface {name}: {reason}"
  | updatePool address reason => s!"failed to update NAT44 address pool {address}: {reason}"
  | createMapping label mapping reason =>
    s!"DNAT {label}: failed to create mapping {mapping}: {reason}"
  | deleteMapping label mapping reason =>
    s!"DNAT {label}: failed to remove mapping {mapping}: {reason}"
  | noEndpoint label mapping => s!"DNAT {label}: mapping {mapping} has no local endpoint"
  | disconnected => "no callbacks set"

/-- What all passes over NAT objects did so far. -/
structure NatStats where
  globalChanges : Nat := 0
  mappingsCreated : Nat := 0
  mappingsRemoved : Nat := 0
  destinationsRemoved : Nat := 0
  failures : Nat := 0
  deriving DecidableEq

/-- What is known about the NAT objects. -/
structure NatReconciler where
  /-- Whether there is a dataplane to call. -/
  connected : Bool := true
  /-- The global settings in force after the last pass over them without failure. -/
  global : Option NatGlobal := none
  /-- The static mappings, by identifier. -/
  statics : Registry StaticMapping := ∅
  /-- The identity mappings, by identifier. -/
  identities : Registry IdentityMapping := ∅
  /-- The groups, by label. -/
  labels : Registry DestinationNat := ∅
  counter : IndexCounter := {}
  stats : NatStats := {}

namespace NatReconciler

/-- A pass over NAT objects, or a part of one. -/
abbrev Step : Type → Type := Pass NatReconciler NatFailure

/-- A part of a pass that goes on after failures. -/
abbrev SweepStep : Type → Type := Sweep NatReconciler NatFailure

/-- Refuse to go on without a dataplane. -/
def requireConnection : Step Unit := do
  let r ← get
  if r.connected then pure () else throw .disconnected

/-- Count failures of a pass. -/
def addFailures (n : Nat) (r : NatReconciler) : NatReconciler :=
  { r with stats := { r.stats with failures := r.stats.failures + n } }

/-! ### Global settings -/

/-- The call that makes a change. -/
def callFor : GlobalChange → NatCall
  | .disableInterface i => .disableInterface i
  | .deletePool p => .deletePool p
  | .setForwarding enabled => .setForwarding enabled
  | .enableInterface i => .enableInterface i
  | .addPool p => .addPool p

/-- The object of a change in reports. -/
def objectOf : GlobalChange → String
  | .disableInterface i => i.name
  | .deletePool p => p.first
  | .setForwarding enabled => if enabled then "enabled" else "disabled"
  | .enableInterface i => i.name
  | .addPool p => p.first

/-- The failure of a change. -/
def failureOf : GlobalChange → String → NatFailure
  | .disableInterface i => .updateInterface i.name
  | .deletePool p => .updatePool p.first
  | .setForwarding _ => .forwarding
  | .enableInterface i => .updateInterface i.name
  | .addPool p => .updatePool p.first

/-- Make a change of the global settings. -/
def applyGlobal (change : GlobalChange) : Step Unit := do
  let _ ← Pass.change (.nat (callFor change))
    (fun _ => { source := "NatOrch", objectType := "nat44_global", objectId := objectOf change })
    (failureOf change)
  modify fun r => { r with stats := { r.stats with globalChanges := r.stats.globalChanges + 1 } }

/-- Bring the global settings to the wanted ones. -/
def reconcileGlobal (wanted : NatGlobal) : Step Unit := do
  requireConnection
  let actual ← Pass.dump (.nat .dumpGlobal) .dumpGlobal
  if actual = wanted then modify fun r => { r with global := some wanted }
  else
    let tally ← Pass.sweeping do
      (NatGlobal.changes actual wanted).forM fun change => Sweep.tolerate (applyGlobal change)
    modify (addFailures tally.count)
    if tally.isEmpty then modify fun r => { r with global := some wanted }
    Pass.conclude tally

/-- Bring source NAT to the wanted ones: there is nothing to do. -/
def reconcileSources (_wanted : List SourceNat) : Step Unit := pure ()

/-! ### Mappings -/

/-- What the events about a mapping of a group say. -/
def subject (label identifier : String) : AuditSubject where
  source := "NatOrch"
  objectType := "dnat_mapping"
  objectId := identifier
  details := some (.obj [("label", .str label)])

/-- Register a static mapping under the next index. -/
def enrollStatic (m : StaticMapping) (r : NatReconciler) : NatReconciler :=
  let (index, counter) := r.counter.mint
  { r with statics := r.statics.register m.identifier index m, counter := counter }

/-- Register an identity mapping under the next index. -/
def enrollIdentity (m : IdentityMapping) (r : NatReconciler) : NatReconciler :=
  let (index, counter) := r.counter.mint
  { r with identities := r.identities.register m.identifier index m, counter := counter }

/-- Register a group under the next index. -/
def enrollLabel (d : DestinationNat) (r : NatReconciler) : NatReconciler :=
  let (index, counter) := r.counter.mint
  { r with labels := r.labels.register d.label index d, counter := counter }

/-- Tell the dataplane of a mapping. -/
def addMapping (label : String) (m : Mapping) : Step Unit := do
  Pass.change (.nat (.addMapping label m)) (fun _ => subject label m.identifier)
    (.createMapping label m.identifier)
  modify fun r =>
    { r with stats := { r.stats with mappingsCreated := r.stats.mappingsCreated + 1 } }

/-- Remove a mapping from the dataplane. -/
def deleteMapping (label : String) (m : Mapping) : Step Unit := do
  Pass.change (.nat (.deleteMapping label m)) (fun _ => subject label m.identifier)
    (.deleteMapping label m.identifier)
  modify fun r =>
    { r with stats := { r.stats with mappingsRemoved := r.stats.mappingsRemoved + 1 } }

/-- Create a static mapping and register it. -/
def createStatic (label : String) (m : StaticMapping) : Step Unit := do
  if m.locals.isEmpty then throw (.noEndpoint label m.identifier)
  addMapping label (.ofStatic m)
  modify (enrollStatic m)

/-- Create an identity mapping and register it. -/
def createIdentity (label : String) (m : IdentityMapping) : Step Unit := do
  addMapping label (.identity m)
  modify (enrollIdentity m)

/-- Create a static mapping unless it is registered. -/
def settleStatic (label : String) (m : StaticMapping) : SweepStep Unit := do
  let r ← Sweep.state
  if r.statics.contains m.identifier then pure () else Sweep.tolerate (createStatic label m)

/-- Create an identity mapping unless it is registered. -/
def settleIdentity (label : String) (m : IdentityMapping) : SweepStep Unit := do
  let r ← Sweep.state
  if r.identities.contains m.identifier then pure () else Sweep.tolerate (createIdentity label m)

/-- Create the mappings of a group that are not registered. -/
def createMissing (d : DestinationNat) : SweepStep Unit := do
  d.statics.forM (settleStatic d.label)
  d.identities.forM (settleIdentity d.label)

/-- Remove mappings from a group. -/
def deleteAll (label : String) (statics : List StaticMapping)
    (identities : List IdentityMapping) : SweepStep Unit := do
  statics.forM fun m => Sweep.tolerate (deleteMapping label (.ofStatic m))
  identities.forM fun m => Sweep.tolerate (deleteMapping label (.identity m))

/-! ### Groups -/

/-- Register the static mapping that stands for all those of a group with one identifier. -/
def enrollFoundStatic (wanted : DestinationNat) (found : StaticMapping) (r : NatReconciler) :
    NatReconciler :=
  match wanted.statics.find? (·.identifier == found.identifier) with
  | some m => enrollStatic m r
  | none => r

/-- Register the identity mapping that stands for all those of a group with one identifier. -/
def enrollFoundIdentity (wanted : DestinationNat) (found : IdentityMapping) (r : NatReconciler) :
    NatReconciler :=
  match wanted.identities.find? (·.identifier == found.identifier) with
  | some m => enrollIdentity m r
  | none => r

/-- Bring a group that the dataplane has to the wanted one. -/
def settle (wanted actual : DestinationNat) : SweepStep Unit := do
  let found := wanted.resolve actual.statics actual.identities
  Sweep.update fun r => found.statics.found.foldl (fun r m => enrollFoundStatic wanted m r) r
  Sweep.update fun r => found.identities.found.foldl (fun r m => enrollFoundIdentity wanted m r) r
  createMissing wanted
  deleteAll wanted.label found.statics.leftover found.identities.leftover
  Sweep.update (enrollLabel wanted)

/-- Bring a wanted group to the dataplane, if that has one of its label. -/
def settleWanted (actual : List DestinationNat) (wanted : DestinationNat) : SweepStep Unit :=
  match actual.find? (·.label == wanted.label) with
  | some a => settle wanted a
  | none => pure ()

/-- Remove a group unless its label is registered. -/
def clean (actual : DestinationNat) : SweepStep Unit := do
  let r ← Sweep.state
  if r.labels.contains actual.label then pure ()
  else
    let before ← Sweep.failures
    deleteAll actual.label actual.statics actual.identities
    let after ← Sweep.failures
    if after = before then
      Sweep.update fun r =>
        { r with stats := { r.stats with destinationsRemoved := r.stats.destinationsRemoved + 1 } }

/-- Bring the groups that the dataplane has to the wanted ones. -/
def reconcileDestinations (wanted : List DestinationNat) : Step Unit := do
  requireConnection
  modify fun r => { r with statics := ∅, identities := ∅, labels := ∅, counter := {} }
  let actual ← Pass.dump (.nat .dumpDestinations) .dumpDestinations
  if actual.isEmpty then pure ()
  else
    let tally ← Pass.sweeping do
      wanted.forM (settleWanted actual)
      actual.forM clean
    modify (addFailures tally.count)
    Pass.conclude tally

/-- Create the mappings of a group that are not registered, and register the group. -/
def configure (wanted : DestinationNat) : Step Unit := do
  requireConnection
  let tally ← Pass.sweeping (createMissing wanted)
  modify (enrollLabel wanted)
  modify (addFailures tally.count)
  Pass.conclude tally

end NatReconciler

end DataplaneSync
