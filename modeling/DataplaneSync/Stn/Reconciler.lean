import DataplaneSync.Dataplane.Pass
import DataplaneSync.Registry
import DataplaneSync.Stn.Basic

namespace DataplaneSync

/-!
# Reconciliation of steal-the-NIC rules

One pass brings the rules of the dataplane to the wanted ones, by the registry of interfaces.

* A rule on an interface that is not registered is removed; one on a registered interface is
  kept if a wanted rule has its address and interface, and removed otherwise.
* A wanted rule whose interface has no registered rule by then is added, or waits if its
  interface is not registered.

A refused change does not end the pass; it reports the last one.
-/

/-- Why a pass over the rules failed. -/
inductive StnFailure where
  | dump (reason : String)
  | create (rule : String) (reason : String)
  | delete (address : String) (index : UInt32) (reason : String)
  /-- The reconciler is not connected to a dataplane. -/
  | disconnected
  deriving DecidableEq

/-- The wording of a failure. -/
def StnFailure.message : StnFailure → String
  | dump reason => s!"failed to dump STN rules: {reason}"
  | create rule reason => s!"failed to add STN rule {rule}: {reason}"
  | delete address index reason =>
    s!"failed to delete STN rule {address} (interface index {index.toNat}): {reason}"
  | disconnected => "no callbacks set"

/-- What all passes over the rules did so far. -/
structure StnStats where
  added : Nat := 0
  removed : Nat := 0
  pending : Nat := 0
  failures : Nat := 0
  deriving DecidableEq

/-- What is known about the rules. -/
structure StnReconciler where
  /-- Whether there is a dataplane to call. -/
  connected : Bool := true
  /-- The rules, by the names of their interfaces. -/
  rules : Registry StnRule := ∅
  /-- The rules that wait for their interfaces, by name. -/
  pending : Table String StnRule := ∅
  counter : IndexCounter := {}
  stats : StnStats := {}

namespace StnReconciler

/-- A pass over the rules, or a part of one. -/
abbrev Step : Type → Type := Pass StnReconciler StnFailure

/-- A part of a pass that goes on after failures. -/
abbrev SweepStep : Type → Type := Sweep StnReconciler StnFailure

/-- Register a rule under the next index. -/
def enroll (rule : StnRule) (r : StnReconciler) : StnReconciler :=
  let (index, counter) := r.counter.mint
  { r with
    rules := r.rules.register (StnRule.registryName rule.interface) index rule
    counter := counter }

/-- Remove a rule. -/
def remove (actual : StnRuleDetails) : Step Unit := do
  Pass.change (.stn (.delete actual.address actual.index))
    (fun _ =>
      { source := "StnOrch"
        objectType := "stn_rule"
        objectId := s!"{actual.address}@{actual.interface}"
        details := some (.obj [("sw_if_index", Json.word actual.index)]) })
    (.delete actual.address actual.index)
  modify fun r => { r with stats := { r.stats with removed := r.stats.removed + 1 } }

/-- What the events about a wanted rule say. -/
def subject (wanted : StnRule) : AuditSubject where
  source := "StnOrch"
  objectType := "stn_rule"
  objectId := wanted.name

/-- Add a rule to the interface with the given index. -/
def add (wanted : StnRule) (index : UInt32) : Step Unit := do
  Pass.change (.stn (.add wanted index)) (fun _ => subject wanted) (.create wanted.name)
  modify (enroll wanted)
  modify fun r => { r with stats := { r.stats with added := r.stats.added + 1 } }

/-- Let a rule wait for its interface. -/
def postpone (wanted : StnRule) : Step Unit := do
  modify fun r =>
    { r with
      pending := r.pending.insert wanted.name wanted
      stats := { r.stats with pending := r.stats.pending + 1 } }
  let call := StnCall.add wanted 0
  let event := (subject wanted).event call.operation.kind.category call.name
  Pass.perform (Program.report event.skipped)

/-- Keep or remove a rule of the dump. -/
def settleActual {μ : Type} (interfaces : Registry μ) (wanted : List StnRule)
    (actual : StnRuleDetails) : SweepStep Unit :=
  if interfaces.contains actual.interface then
    match wanted.find? actual.isFor with
    | some w => Sweep.update (enroll w)
    | none => Sweep.tolerate (remove actual)
  else Sweep.tolerate (remove actual)

/-- Add a wanted rule, or let it wait, unless its interface has a registered rule. -/
def settleWanted {μ : Type} (interfaces : Registry μ) (wanted : StnRule) : SweepStep Unit := do
  let r ← Sweep.state
  if r.rules.contains (StnRule.registryName wanted.interface) then pure ()
  else
    match interfaces.lookup? wanted.interface with
    | some (index, _) => Sweep.tolerate (add wanted index)
    | none => Sweep.tolerate (postpone wanted)

/-- Bring the rules of the dataplane to the wanted ones. -/
def reconcile {μ : Type} (interfaces : Registry μ) (wanted : List StnRule) : Step Unit := do
  let r ← get
  if !r.connected then throw .disconnected
  set { r with rules := ∅, pending := ∅, counter := {} }
  let actual ← Pass.dump (.stn .dump) .dump
  let tally ← Pass.sweeping do
    actual.forM (settleActual interfaces wanted)
    wanted.forM (settleWanted interfaces)
  modify fun r => { r with stats := { r.stats with failures := r.stats.failures + tally.count } }
  Pass.conclude tally

end StnReconciler

end DataplaneSync
