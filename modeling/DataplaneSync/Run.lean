import DataplaneSync.Bfd.Reconciler
import DataplaneSync.Configuration
import DataplaneSync.Interface.Reconciler
import DataplaneSync.Nat44.Reconciler
import DataplaneSync.Stn.Reconciler

namespace DataplaneSync

/-!
# Runs

A run reconciles all families once and reports how each of them ended.

* `Run.linkTask`, `Run.detectionTask`, `Run.natTask` — three programs that do not depend
  on each other: interfaces with rules, forwarding detection, and NAT.
* `Run.program` — the whole run, with the tasks one after the other.
* `Report` — how the stages ended.
-/

/-! ### Reports -/

/-- A stage of a run. -/
inductive Stage where
  | interfaces
  | rules
  | keys
  | sessions
  | echo
  | natGlobal
  | sources
  | destinations
  deriving DecidableEq

/-- The name of a stage in reports. -/
def Stage.name : Stage → String
  | interfaces => "interfaces"
  | rules => "stn"
  | keys => "bfd-auth-keys"
  | sessions => "bfd-sessions"
  | echo => "bfd-echo"
  | natGlobal => "nat-global"
  | sources => "snat"
  | destinations => "dnat"

/-- How a stage ended. -/
structure StageOutcome where
  stage : Stage
  /-- The wording of its failure. -/
  error : Option String
  deriving DecidableEq

/-- The outcome of a stage that ended with a result. -/
def StageOutcome.of {ε : Type} (stage : Stage) (message : ε → String) (result : Except ε Unit) :
    StageOutcome where
  stage := stage
  error := match result with
    | .ok () => none
    | .error e => some (message e)

/-- What a run reports. -/
structure Report where
  /-- Whether the run found nothing to do and did nothing. -/
  skipped : Bool := false
  outcomes : List StageOutcome := []
  /-- The names of the rules that wait for their interfaces. -/
  pendingRules : List String := []
  deriving DecidableEq

namespace Report

/-- The stages that failed. -/
def failures (r : Report) : List StageOutcome := r.outcomes.filter (·.error.isSome)

/-- Whether no stage failed. -/
def isSuccess (r : Report) : Bool := r.outcomes.all (·.error.isNone)

/-- How a stage ended, if it was part of the run. -/
def outcome? (r : Report) (stage : Stage) : Option StageOutcome :=
  r.outcomes.find? (·.stage == stage)

/-- The JSON form of an outcome. -/
def outcomeJson (o : StageOutcome) : Json :=
  .obj [("family", .str o.stage.name), ("error", Json.opt .str o.error)]

/-- The JSON form. -/
def toJson (r : Report) : Json :=
  .obj
    [("skipped", .bool r.skipped), ("outcomes", .arr (r.outcomes.map outcomeJson)),
     ("pending_stn_rules", .arr (r.pendingRules.map .str))]

end Report

/-! ### Tasks -/

namespace Run

/-- The stages of a task, with the rules left waiting. -/
structure TaskReport where
  outcomes : List StageOutcome
  pendingRules : List String := []

/-- What is reported of a task that did not come to its end, under its first stage. -/
def lost (stage : Stage) : TaskReport where
  outcomes := [⟨stage, some "resync task failed: the interface indexes ran out"⟩]

/-- The report of a run with three tasks. -/
def collect (links detection nat : TaskReport) : Report where
  outcomes := links.outcomes ++ detection.outcomes ++ nat.outcomes
  pendingRules := links.pendingRules

/-- Run a pass on a state. -/
def pass {σ ε : Type} (p : Pass σ ε Unit) (s : σ) : Program (Except ε Unit × σ) := p s

/-- Reconcile the interfaces, and then the rules by what is registered. -/
def linkTask (skipRefresh : Bool) (wanted : DesiredState) : Program TaskReport := do
  let (interfaces, r) ←
    pass (InterfaceReconciler.reconcile wanted.interfaces) { skipRefresh := skipRefresh }
  let (rules, s) ← pass (StnReconciler.reconcile r.registry wanted.rules) {}
  pure
    { outcomes :=
        [.of .interfaces InterfaceFailure.message interfaces, .of .rules StnFailure.message rules]
      pendingRules := s.pending.values.map (·.name) }

/-- Reconcile authentication keys, sessions and the echo source. -/
def detectionTask (wanted : DesiredState) : Program TaskReport := do
  let (keys, r) ← pass (BfdReconciler.reconcileKeys wanted.keys) {}
  let (sessions, r) ← pass (BfdReconciler.reconcileSessions wanted.sessions) r
  let (echo, _) ← pass (BfdReconciler.reconcileEcho wanted.echoes) r
  pure
    { outcomes :=
        [.of .keys BfdFailure.message keys, .of .sessions BfdFailure.message sessions,
         .of .echo BfdFailure.message echo] }

/-- Reconcile the global settings, if any are wanted. -/
def globalStage (wanted : Option NatGlobal) (r : NatReconciler) :
    Program (List StageOutcome × NatReconciler) :=
  match wanted with
  | none => pure ([], r)
  | some g => do
    let (result, r) ← pass (NatReconciler.reconcileGlobal g) r
    pure ([.of .natGlobal NatFailure.message result], r)

/-- Configure the wanted groups that are not registered.  The result is the last failure, if
any, and otherwise the one so far. -/
def configureMissing : List DestinationNat → Except NatFailure Unit → NatReconciler →
    Program (Except NatFailure Unit × NatReconciler)
  | [], result, r => pure (result, r)
  | d :: ds, result, r =>
    if r.labels.contains d.label then configureMissing ds result r
    else do
      let (configured, r) ← pass (NatReconciler.configure d) r
      match configured with
      | .error e => configureMissing ds (.error e) r
      | .ok () => configureMissing ds result r

/-- Reconcile the groups that the dataplane has, and configure those that it lacks.  Without a
dump nothing is known to be lacking. -/
def destinationStage (wanted : List DestinationNat) (r : NatReconciler) :
    Program (Except NatFailure Unit × NatReconciler) := do
  let (result, r) ← pass (NatReconciler.reconcileDestinations wanted) r
  match result with
  | .error (.dumpDestinations reason) => pure (.error (.dumpDestinations reason), r)
  | result => configureMissing wanted result r

/-- Reconcile NAT. -/
def natTask (wanted : DesiredState) : Program TaskReport := do
  let (global, r) ← globalStage wanted.natGlobal {}
  let (sources, r) ← pass (NatReconciler.reconcileSources wanted.sources) r
  let (destinations, _) ← destinationStage wanted.destinations r
  pure
    { outcomes :=
        global ++
          [.of .sources NatFailure.message sources,
           .of .destinations NatFailure.message destinations] }

/-! ### The run -/

/-- The name of a strategy in events. -/
def strategyText : Strategy → String
  | .full => "Full"
  | .optimizeColdStart => "OptimizeColdStart"

/-- The event at the start of a run. -/
def started (strategy : Strategy) (wanted : DesiredState) : AuditEvent where
  category := .resync
  source := "ResyncDaemon"
  action := "resync_start"
  details := some (.obj
    [("bfd_sessions", Json.nat wanted.sessions.length),
     ("dnat", Json.nat wanted.destinations.length),
     ("interfaces", Json.nat wanted.interfaces.length),
     ("stn_rules", Json.nat wanted.rules.length),
     ("strategy", .str (strategyText strategy))])

/-- The event at the end of a run. -/
def ended (details : Option Json) : AuditEvent where
  category := .resync
  source := "ResyncDaemon"
  action := "resync_end"
  details := details

/-- The event at the end of a run that did something. -/
def finished (r : Report) : AuditEvent :=
  let event := ended <| some <| .obj
    [("failed", .arr (r.failures.map fun o => .str o.stage.name)),
     ("pending_stn_rules", .arr (r.pendingRules.map .str))]
  match r.failures.length with
  | 0 => event.succeeded
  | n => event.failed s!"{n} families failed"

/-- Reconcile all families, one task after the other. -/
def reconcileAll (skipRefresh : Bool) (wanted : DesiredState) : Program Report := do
  let links ← linkTask skipRefresh wanted
  let detection ← detectionTask wanted
  let nat ← natTask wanted
  let report := collect links detection nat
  Program.report (finished report)
  pure report

/-- Whether a run is to be skipped. -/
def precheck (strategy : Strategy) (skipRefresh : Bool) : Program Bool :=
  match strategy with
  | .full => pure false
  | .optimizeColdStart => InterfaceReconciler.isColdStart { skipRefresh := skipRefresh }

/-- A whole run. -/
def program (strategy : Strategy) (skipRefresh : Bool) (wanted : DesiredState) :
    Program Report := do
  Program.report (started strategy wanted)
  if ← precheck strategy skipRefresh then
    Program.report (ended none).skipped
    pure { skipped := true }
  else reconcileAll skipRefresh wanted

end Run

end DataplaneSync
