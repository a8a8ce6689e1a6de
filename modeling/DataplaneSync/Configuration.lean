import DataplaneSync.Bfd.Codec
import DataplaneSync.Interface.Codec
import DataplaneSync.Nat44.Codec
import DataplaneSync.Stn.Codec

namespace DataplaneSync

/-!
# Configurations

What a dataplane should hold, and how a run goes about it.

* `DesiredState` — the wanted objects of all families.
* `Configuration` — the wanted objects with a strategy.
* `Configuration.validate` — rejects what no run could make sense of.
-/

/-! ### Strategies -/

/-- How a run starts. -/
inductive Strategy where
  /-- All families are reconciled. -/
  | full
  /-- Nothing is done if the dataplane has no interfaces. -/
  | optimizeColdStart
  deriving DecidableEq

namespace Strategy

/-- The name of a strategy in documents and on the command line. -/
def name : Strategy → String
  | full => "full"
  | optimizeColdStart => "optimize-cold-start"

/-- All strategies. -/
def all : List Strategy := [full, optimizeColdStart]

/-- Strategies, by name. -/
def codec : Codec Strategy := Codec.choice name all

/-- The strategy of a name, in any case if that is not to matter. -/
def ofName? (s : String) (ignoreCase : Bool) : Option Strategy :=
  all.find? fun t => if ignoreCase then t.name == s.map Char.toLower else t.name == s

end Strategy

/-! ### Wanted objects -/

/-- The wanted objects of all families. -/
structure DesiredState where
  interfaces : List Interface := []
  sessions : List BfdSession := []
  keys : List BfdKey := []
  echoes : List BfdEcho := []
  rules : List StnRule := []
  /-- The wanted global NAT settings, unless they are left alone. -/
  natGlobal : Option NatGlobal := none
  sources : List SourceNat := []
  destinations : List DestinationNat := []
  deriving DecidableEq

/-- A strategy and the wanted objects. -/
structure Configuration where
  strategy : Strategy := .full
  desired : DesiredState := {}
  deriving DecidableEq

open Codec

/-- Wanted objects in documents. -/
def DesiredState.codec : Codec DesiredState := record {}
  [.make "interfaces" (list Interface.codec) interfaces (fun v r => { r with interfaces := v }),
   .make "bfd_sessions" (list BfdSession.codec) sessions (fun v r => { r with sessions := v }),
   .make "bfd_auth_keys" (list BfdKey.codec) keys (fun v r => { r with keys := v }),
   .make "bfd_echo_functions" (list BfdEcho.codec) echoes (fun v r => { r with echoes := v }),
   .make "stn_rules" (list StnRule.codec) rules (fun v r => { r with rules := v }),
   .make "nat_global" (option NatGlobal.codec) natGlobal (fun v r => { r with natGlobal := v }),
   .make "snat" (list SourceNat.codec) sources (fun v r => { r with sources := v }),
   .make "dnat" (list DestinationNat.codec) destinations
    (fun v r => { r with destinations := v })]

/-- Configurations in documents. -/
def Configuration.codec : Codec Configuration := record {}
  [.make "strategy" Strategy.codec strategy (fun v r => { r with strategy := v }),
   .make "desired" DesiredState.codec desired (fun v r => { r with desired := v })]

/-! ### Validation -/

/-- Why a configuration makes no sense. -/
inductive ConfigurationError where
  | namelessInterface
  | repeatedInterface (name : String)
  | repeatedLabel (label : String)
  deriving DecidableEq

/-- The wording of the complaint. -/
def ConfigurationError.message : ConfigurationError → String
  | namelessInterface => "invalid configuration: interface without a name"
  | repeatedInterface name => s!"invalid configuration: interface {name} declared twice"
  | repeatedLabel label => s!"invalid configuration: DNAT label {label} declared twice"

namespace Configuration

/-- Complain about the first interface without a name or with the name of an earlier one. -/
def checkInterfaces : (seen names : List String) → Except ConfigurationError Unit
  | _, [] => .ok ()
  | seen, n :: ns =>
    if n = "" then .error .namelessInterface
    else if n ∈ seen then .error (.repeatedInterface n)
    else checkInterfaces (n :: seen) ns

/-- Complain about the first label that occurred before. -/
def checkLabels : (seen labels : List String) → Except ConfigurationError Unit
  | _, [] => .ok ()
  | seen, l :: ls =>
    if l ∈ seen then .error (.repeatedLabel l) else checkLabels (l :: seen) ls

/-- Reject what no run could make sense of: interfaces without name, and repeated names of
interfaces and labels of groups. -/
def validate (c : Configuration) : Except ConfigurationError Unit := do
  checkInterfaces [] (c.desired.interfaces.map (·.name))
  checkLabels [] (c.desired.destinations.map (·.label))

end Configuration

end DataplaneSync
