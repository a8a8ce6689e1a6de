import DataplaneSync.Dataplane.FaultInjection
import DataplaneSync.Loading
import DataplaneSync.Run
import DataplaneSync.Text.Line

namespace DataplaneSync

/-!
# Command line

A run against a simulated dataplane, from the arguments to what is printed.

* `CommandLine.Options`, `CommandLine.parse?` — what the arguments say; they are rejected as a
  whole if one of them makes no sense.
* `CommandLine.execute` — the run, given the contents of files by their paths.
-/

namespace CommandLine

/-! ### Arguments -/

/-- An option; each takes a value. -/
inductive OptionName where
  | config
  | snapshot
  | strategy
  | logLevel
  | logFormat
  | output
  deriving DecidableEq

namespace OptionName

/-- The option of a long name. -/
def ofLong? : String → Option OptionName
  | "config" => some config
  | "snapshot" => some snapshot
  | "strategy" => some strategy
  | "log-level" => some logLevel
  | "log-format" => some logFormat
  | "output" => some output
  | _ => none

/-- The option of a letter. -/
def ofLetter? : Char → Option OptionName
  | 'c' => some config
  | 's' => some snapshot
  | 'l' => some logLevel
  | 'o' => some output
  | _ => none

/-- Whether an option takes a value. -/
def accepts (value : String) : OptionName → Bool
  | config => value != ""
  | snapshot => value != ""
  | strategy => (Strategy.ofName? value false).isSome
  | logLevel => true
  | logFormat => value == "pretty" || value == "json"
  | output => value != ""

end OptionName

/-- The value behind an equals sign, if there is one. -/
def behindEquals (cs : List Char) : List Char :=
  match cs with
  | '=' :: rest => rest
  | _ => cs

/-- The option that an argument names, with the value that it may hold itself. -/
def option? (argument : String) : Option (OptionName × Option String) :=
  match argument.toList with
  | '-' :: '-' :: rest =>
    let name := rest.takeWhile (· != '=')
    let value := match rest.dropWhile (· != '=') with
      | '=' :: v => some (String.ofList v)
      | _ => none
    (OptionName.ofLong? (String.ofList name)).map fun o => (o, value)
  | '-' :: letter :: rest =>
    let value := if rest.isEmpty then none else some (String.ofList (behindEquals rest))
    (OptionName.ofLetter? letter).map fun o => (o, value)
  | _ => none

/-- Whether an argument can be the value of the option before it: it does not start with a
hyphen, unless it is one. -/
def isValue (argument : String) : Bool := argument == "-" || argument.toList.head? != some '-'

/-- The options with their values, each of which occurs once.  Two hyphens may end them. -/
def pairs? : (arguments : List String) → List (OptionName × String) →
    Option (List (OptionName × String))
  | [], done => some done
  | ["--"], done => some done
  | argument :: rest, done =>
    match option? argument with
    | none => none
    | some (o, some value) => take o value rest done
    | some (o, none) =>
      match rest with
      | value :: rest => if isValue value then take o value rest done else none
      | [] => none
where
  /-- Take one option with its value, and go on. -/
  take (o : OptionName) (value : String) (rest : List String)
      (done : List (OptionName × String)) : Option (List (OptionName × String)) :=
    if o.accepts value && (done.lookup o).isNone then pairs? rest ((o, value) :: done) else none

/-- What the arguments say. -/
structure Options where
  config : String
  snapshot : Option String
  strategy : Option Strategy
  output : Option String

/-- Read the arguments.  A configuration has to be named. -/
def parse? (arguments : List String) : Option Options := do
  let pairs ← pairs? arguments []
  let config ← pairs.lookup .config
  pure
    { config := config
      snapshot := pairs.lookup .snapshot
      strategy := (pairs.lookup .strategy).bind fun s => Strategy.ofName? s false
      output := pairs.lookup .output }

/-! ### Execution -/

/-- What an execution gives. -/
structure Execution where
  /-- The exit code. -/
  code : UInt8
  /-- The printed text. -/
  output : String := ""
  /-- The report with the operations, where it is to be written. -/
  plan : Option Json := none

namespace Execution

/-- The printed lines. -/
def lines (e : Execution) : List String := Text.lines e.output

/-- What becomes of an execution whose plan cannot be written. -/
def unwritten (e : Execution) : Execution := { e with code := 1, plan := none }

end Execution

/-- The JSON form of an operation. -/
def operationJson (o : Operation) : Json :=
  .obj [("family", .str o.family.name), ("kind", .str o.kind.name), ("object", .str o.object)]

/-- The JSON form of a plan. -/
def planJson (report : Report) (operations : List Operation) : Json :=
  .obj [("report", report.toJson), ("operations", .arr (operations.map operationJson))]

/-- What is loaded before a run. -/
def load (options : Options) (contents : String → Option ByteArray) :
    Except LoadError (Configuration × Snapshot) := do
  let config ← Configuration.load (contents options.config)
  let snapshot ← match options.snapshot with
    | none => pure {}
    | some path => Snapshot.load (contents path)
  pure ({ config with strategy := options.strategy.getD config.strategy }, snapshot)

/-- Run the tasks for the wanted objects.  One that the indexes run out for is lost, with what
it did before in place, and the others go on. -/
def runTasks (wanted : DesiredState) : StateM FaultyDataplane Report := do
  let links ← (FaultyDataplane.run (Run.linkTask false wanted)).run
  let detection ← (FaultyDataplane.run (Run.detectionTask wanted)).run
  let nat ← (FaultyDataplane.run (Run.natTask wanted)).run
  pure (Run.collect (links.getD (Run.lost .interfaces)) (detection.getD (Run.lost .keys))
    (nat.getD (Run.lost .natGlobal)))

/-- Run a configuration. -/
def runConfiguration (c : Configuration) : StateM FaultyDataplane Report := do
  let skip ← (FaultyDataplane.run (Run.precheck c.strategy false)).run
  if skip.getD false then pure { skipped := true } else runTasks c.desired

/-- The text that shows operations, one a line. -/
def operationText (operations : List Operation) : String :=
  String.join (operations.map fun o => o.render ++ "\n")

/-- What the arguments ask for, given the contents of the files that exist.  The code is 2 for
rejected arguments, 1 for failures and 101 if the snapshot leaves no index for an interface. -/
def execute (arguments : List String) (contents : String → Option ByteArray) : Execution :=
  match parse? arguments with
  | none => { code := 2 }
  | some options =>
    match load options contents with
    | .error _ => { code := 1 }
    | .ok (config, snapshot) =>
      match Simulation.ofSnapshot? snapshot with
      | none => { code := 101 }
      | some simulation =>
        let (report, d) := runConfiguration config { simulation := simulation }
        let operations := d.simulation.operations
        { code := if report.isSuccess then 0 else 1
          output := operationText operations
          plan := options.output.map fun _ => planJson report operations }

end CommandLine

end DataplaneSync
