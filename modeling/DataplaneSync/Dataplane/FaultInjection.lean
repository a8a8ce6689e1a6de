import DataplaneSync.Dataplane.Program
import DataplaneSync.Dataplane.Simulation

namespace DataplaneSync

/-!
# Fault injection

A simulated dataplane behind a layer that refuses chosen calls, hides chosen interfaces and
keeps a log.

* `Fault` — lets calls of one name fail, after some that pass and as often as it says.
* `FaultyDataplane` — the simulation with its faults, and what was seen of the calls.
* `FaultyDataplane.run` — runs a program against it.  A program does not come to its end if the
  indexes run out; what it did before stays.
-/

/-- A reason why calls of one name fail. -/
structure Fault where
  /-- The name of the calls. -/
  call : String
  /-- How many of them pass first. -/
  skip : Nat := 0
  /-- How many of them fail then; all if there is no number. -/
  times : Option Nat := none
  /-- The reason that the failing calls give. -/
  reason : String := ""

/-- What faults make of a call: the reason of the first one that lets it fail, and the faults
afterwards.  Every fault that the call passes on its way counts it. -/
def Fault.strike (name : String) : List Fault → Option String × List Fault
  | [] => (none, [])
  | f :: fs =>
    let pass (f : Fault) := let (struck, fs) := strike name fs; (struck, f :: fs)
    if f.call != name then pass f
    else if 0 < f.skip then pass { f with skip := f.skip - 1 }
    else
      match f.times with
      | none => (some f.reason, f :: fs)
      | some 0 => pass f
      | some (n + 1) => (some f.reason, { f with times := some n } :: fs)

/-- A simulated dataplane with faults, and what was seen of the calls to it. -/
structure FaultyDataplane where
  simulation : Simulation
  faults : List Fault := []
  /-- The indexes that interface dumps leave out. -/
  hidden : List UInt32 := []
  /-- The names of the calls, the latest first; failed ones are marked. -/
  log : List String := []
  /-- The reported events, the latest first. -/
  events : List AuditEvent := []

namespace FaultyDataplane

/-- A reply without the hidden interfaces. -/
def conceal (hidden : List UInt32) : (c : Call) → c.Reply → c.Reply
  | .interface .dump, interfaces => interfaces.filter fun index _ => !hidden.contains index
  | .interface .dumpSockets, sockets => sockets
  | .interface (.setTag _ _), r => r
  | .interface (.configure _), r => r
  | .interface (.modify _ _ _), r => r
  | .interface (.delete _ _), r => r
  | .bfd _, r => r
  | .stn _, r => r
  | .nat _, r => r

/-- Note a call and whether it succeeded. -/
def logged {c : Call} (d : FaultyDataplane) (answer : Answer c) : FaultyDataplane :=
  match answer with
  | .ok _ => { d with log := c.name :: d.log }
  | .error _ => { d with log := (c.name ++ "!") :: d.log }

/-- Something done to a faulty dataplane, without a result if the indexes run out. -/
abbrev Action : Type → Type := OptionT (StateM FaultyDataplane)

/-- Answer a call, unless the indexes have run out. -/
def answer? (c : Call) : Action (Answer c) := fun d =>
  match Fault.strike c.name d.faults with
  | (some reason, faults) =>
    let refused : Answer c := .error reason
    (some refused, { d with faults := faults }.logged refused)
  | (none, faults) =>
    match d.simulation.answer? c with
    | none => (none, { d with faults := faults })
    | some (answer, simulation) =>
      let answer := answer.map (conceal d.hidden c)
      (some answer, { d with faults := faults, simulation := simulation }.logged answer)

/-- Take an event. -/
def take (e : AuditEvent) : Action Unit := fun d => (some (), { d with events := e :: d.events })

/-- Run a program, which comes to its end unless the indexes run out. -/
def run {α : Type} (p : Program α) : Action α := p.run answer? take

end FaultyDataplane

end DataplaneSync
