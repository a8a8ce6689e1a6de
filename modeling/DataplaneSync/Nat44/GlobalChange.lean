import DataplaneSync.Nat44.Basic

namespace DataplaneSync

/-!
# Changes of global settings

The changes that lead from the actual global settings to the wanted ones: first everything that
is removed, then forwarding, then everything that is added.
-/

/-- A change of the global settings. -/
inductive GlobalChange where
  | disableInterface (interface : NatInterface)
  | deletePool (pool : AddressPool)
  | setForwarding (enabled : Bool)
  | enableInterface (interface : NatInterface)
  | addPool (pool : AddressPool)
  deriving DecidableEq

namespace NatGlobal

/-- The changes of the forwarding flag. -/
def forwardingChanges (actual wanted : NatGlobal) : List GlobalChange :=
  if actual.forwarding = wanted.forwarding then [] else [.setForwarding wanted.forwarding]

/-- The changes that lead from the actual settings to the wanted ones. -/
def changes (actual wanted : NatGlobal) : List GlobalChange :=
  (actual.interfaces.filter (!wanted.interfaces.contains ·)).map .disableInterface ++
  (actual.pools.filter (!wanted.pools.contains ·)).map .deletePool ++
  forwardingChanges actual wanted ++
  (wanted.interfaces.filter (!actual.interfaces.contains ·)).map .enableInterface ++
  (wanted.pools.filter (!actual.pools.contains ·)).map .addPool

end NatGlobal

end DataplaneSync
