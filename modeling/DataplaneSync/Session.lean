import DataplaneSync.Dataplane.FaultInjection
import DataplaneSync.Run

namespace DataplaneSync

/-!
# Sessions

A session keeps one reconciler of each family over one simulated dataplane with faults.  The
reconcilers live as long as the session, and rules are reconciled by the registry of its
interface reconciler.
-/

/-- A simulated dataplane and what the reconcilers know of it. -/
structure Session where
  dataplane : FaultyDataplane
  interfaces : InterfaceReconciler := {}
  rules : StnReconciler := {}
  detection : BfdReconciler := {}
  nat : NatReconciler := {}

namespace Session

/-- Something done in a session, unless the indexes run out. -/
abbrev Action : Type → Type := StateT Session Option

/-- A session on a dataplane that holds what a snapshot says. -/
def start? (snapshot : Snapshot) (connected skipRefresh : Bool) : Option Session := do
  let simulation ← Simulation.ofSnapshot? snapshot
  pure
    { dataplane := { simulation := simulation }
      interfaces := { connected := connected, skipRefresh := skipRefresh }
      rules := { connected := connected }
      detection := { connected := connected }
      nat := { connected := connected } }

/-- Run a program against the dataplane. -/
def run {α : Type} (p : Program α) : Action α := fun s =>
  match FaultyDataplane.run p s.dataplane with
  | (some a, dataplane) => some (a, { s with dataplane := dataplane })
  | (none, _) => none

/-! ### The dataplane -/

/-- Change the faults and what is hidden. -/
def onDataplane (f : FaultyDataplane → FaultyDataplane) : Action Unit :=
  modify fun s => { s with dataplane := f s.dataplane }

/-- Change the simulation directly. -/
def onSimulation (f : Simulation → Simulation) : Action Unit :=
  onDataplane fun d => { d with simulation := f d.simulation }

/-- Start a new log, which gives the old one, the oldest entries first. -/
def takeLog : Action (List String × List AuditEvent) := fun s =>
  some ((s.dataplane.log.reverse, s.dataplane.events.reverse),
    { s with dataplane := { s.dataplane with log := [], events := [] } })

/-! ### Reconcilers -/

/-- Reconcile the interfaces. -/
def reconcileInterfaces (wanted : List Interface) : Action (Except InterfaceFailure Unit) := do
  let (result, r) ← run (Run.pass (InterfaceReconciler.reconcile wanted) (← get).interfaces)
  modify fun s => { s with interfaces := r }
  pure result

/-- Reconcile the rules. -/
def reconcileRules (wanted : List StnRule) : Action (Except StnFailure Unit) := do
  let s ← get
  let (result, r) ← run (Run.pass (StnReconciler.reconcile s.interfaces.registry wanted) s.rules)
  modify fun s => { s with rules := r }
  pure result

/-- Run a pass over BFD objects. -/
def detect (p : BfdReconciler.Step Unit) : Action (Except BfdFailure Unit) := do
  let (result, r) ← run (Run.pass p (← get).detection)
  modify fun s => { s with detection := r }
  pure result

/-- Run a pass over NAT objects. -/
def natPass (p : NatReconciler.Step Unit) : Action (Except NatFailure Unit) := do
  let (result, r) ← run (Run.pass p (← get).nat)
  modify fun s => { s with nat := r }
  pure result

/-- Register an interface directly, and give what was registered under its name. -/
def register (name : String) (index : UInt32) (i : Interface) : Action (Option Interface) := do
  let s ← get
  let registry := s.interfaces.registry
  set { s with interfaces := { s.interfaces with registry := registry.register name index i } }
  pure ((registry.lookup? name).map Prod.snd)

/-- Unregister an interface directly. -/
def unregister (name : String) : Action (Except NotRegistered (UInt32 × Interface)) := do
  let s ← get
  match s.interfaces.registry.unregister name with
  | .ok (entry, registry) =>
    set { s with interfaces := { s.interfaces with registry := registry } }
    pure (.ok entry)
  | .error e => pure (.error e)

/-- The socket ids that the interface reconciler knows for the sockets there are. -/
def socketIds (s : Session) : List (String × Option UInt32) :=
  s.dataplane.simulation.links.sockets.keys.map fun file =>
    (file, s.interfaces.sockets.get? file)

/-- The host interfaces of the registered interfaces that have one. -/
def hostInterfaces (s : Session) : List (String × String) :=
  s.interfaces.registry.toList.filterMap fun (name, _, _) =>
    (s.interfaces.hosts.get? name).map fun host => (name, host)

end Session

end DataplaneSync
