import DataplaneSync.Dataplane.Program
import DataplaneSync.FailureTally

namespace DataplaneSync

/-!
# Passes

Programs that reconcile one family keep what they know in a state, which survives a failure.

* `Pass σ ε` — a program with a state that may end with a failure.
* `Pass.change` — ask for a change and report the event with the outcome of the call.
* `Sweep σ ε` — a program that goes on after failures and tallies them.
* `Sweep.tolerate`, `Pass.sweeping` — from a pass to a step of a sweep, and back.
-/

/-- A program with a state `σ` that may end with a failure `ε`. -/
abbrev Pass (σ ε : Type) : Type → Type := ExceptT ε (StateT σ Program)

/-- A program with a state `σ` that tallies failures `ε`. -/
abbrev Sweep (σ ε : Type) : Type → Type := StateT (σ × FailureTally ε) Program

/-- The category of the events about calls of a kind; a dump is reported only if it fails. -/
def CallKind.category : CallKind → AuditCategory
  | .dump => .errorCondition
  | .create => .create
  | .modify => .modify
  | .delete => .delete
  | .tag => .tag

namespace Pass

variable {σ ε α : Type}

/-- Carry out a program. -/
def perform (p : Program α) : Pass σ ε α := fun s => p.bind fun a => .done (.ok a, s)

/-- Read through a call; a refusal ends the pass. -/
def dump (c : Call) (failure : String → ε) : Pass σ ε c.Reply := do
  match ← perform (Program.call c) with
  | .ok reply => pure reply
  | .error reason => throw (failure reason)

/-- Make a call about a subject and report the event with the outcome of the call.  A refusal
ends the pass.  What is said of the subject may depend on the reply. -/
def change (c : Call) (subject : Answer c → AuditSubject) (failure : String → ε) :
    Pass σ ε c.Reply := do
  let answer ← perform (Program.call c)
  let event := (subject answer).event c.operation.kind.category c.name
  match answer with
  | .ok reply =>
    perform (Program.report event.succeeded)
    pure reply
  | .error reason =>
    perform (Program.report (event.failed reason))
    throw (failure reason)

end Pass

namespace Sweep

variable {σ ε : Type}

/-- Run a pass as one step of a sweep, which tallies its failure. -/
def tolerate (p : Pass σ ε Unit) : Sweep σ ε Unit := fun (s, tally) =>
  (p s).bind fun (result, s) =>
    match result with
    | .ok () => .done ((), (s, tally))
    | .error e => .done ((), (s, tally.record e))

/-- The state of the pass under way. -/
def state : Sweep σ ε σ := fun (s, tally) => .done (s, (s, tally))

/-- Change the state of the pass under way. -/
def update (f : σ → σ) : Sweep σ ε Unit := fun (s, tally) => .done ((), (f s, tally))

/-- The number of failures so far. -/
def failures : Sweep σ ε Nat := fun (s, tally) => .done (tally.count, (s, tally))

end Sweep

/-- Run a sweep inside a pass, and give its tally. -/
def Pass.sweeping {σ ε : Type} (p : Sweep σ ε Unit) : Pass σ ε (FailureTally ε) := fun s =>
  (p (s, ∅)).bind fun (_, (s, tally)) => .done (.ok tally, s)

/-- End a pass as a tally says. -/
def Pass.conclude {σ ε : Type} (t : FailureTally ε) : Pass σ ε Unit := fun s =>
  .done (t.toExcept, s)

end DataplaneSync
