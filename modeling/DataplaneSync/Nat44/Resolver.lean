import DataplaneSync.Nat44.Identifier

namespace DataplaneSync

/-!
# Resolution of mappings

Which wanted mappings of a group the dataplane has already.

* `StaticMapping.isFor`, `IdentityMapping.isFor` — when an actual mapping counts as a wanted one.
* `pairOff` — pairs wanted things with actual ones, first come, first served.
* `DestinationNat.resolve` — the pairs of a group and what is left of the actual mappings.
-/

/-! ### Matching -/

/-- Whether as many endpoints are at hand as are wanted, and all wanted ones are among them. -/
def LocalEndpoint.agree (wanted actual : List LocalEndpoint) : Bool :=
  wanted.length == actual.length && wanted.all (actual.contains ·)

namespace StaticMapping

/-- Whether external address, port, protocol and twice-NAT mode agree. -/
def sameService (wanted actual : StaticMapping) : Bool :=
  wanted.twiceNat == actual.twiceNat && wanted.externalAddress == actual.externalAddress &&
    wanted.externalPort == actual.externalPort && wanted.protocol == actual.protocol

/-- When a mapping counts as a wanted one that balances load.  The external interface does not
matter. -/
def isBalancedFor (actual wanted : StaticMapping) : Bool :=
  sameService wanted actual && LocalEndpoint.agree wanted.locals actual.locals

/-- When a mapping counts as a wanted one to a single endpoint.  A mapping without endpoint is
never found. -/
def isSingleFor (actual wanted : StaticMapping) : Bool :=
  sameService wanted actual && wanted.externalInterface == actual.externalInterface &&
    match wanted.locals, actual.locals with
    | [w], [a] => w == a
    | _, _ => false

/-- When an actual mapping counts as a wanted one. -/
def isFor (actual wanted : StaticMapping) : Bool :=
  if wanted.isLoadBalanced then isBalancedFor actual wanted else isSingleFor actual wanted

end StaticMapping

/-- When an actual mapping counts as a wanted one. -/
def IdentityMapping.isFor (actual wanted : IdentityMapping) : Bool := wanted == actual

/-! ### Pairing -/

/-- What pairing leaves. -/
structure Pairing (α : Type) where
  /-- Each wanted thing that was found, with what was found for it. -/
  pairs : List (α × α)
  /-- What was found for no wanted thing. -/
  leftover : List α

/-- Go through the wanted things in order and take for each the first actual one that
counts as it. -/
def pairOff {α : Type} (isFor : α → α → Bool) : List α → List α → Pairing α
  | [], actual => ⟨[], actual⟩
  | w :: ws, actual =>
    match actual.find? (isFor · w) with
    | some a =>
      let rest := pairOff isFor ws (actual.eraseP (isFor · w))
      ⟨(w, a) :: rest.pairs, rest.leftover⟩
    | none => pairOff isFor ws actual

/-- The wanted things that were found. -/
def Pairing.found {α : Type} (p : Pairing α) : List α := p.pairs.map Prod.fst

namespace DestinationNat

/-- What the dataplane has of a wanted group. -/
structure Resolution where
  /-- The static mappings. -/
  statics : Pairing StaticMapping
  /-- The identity mappings. -/
  identities : Pairing IdentityMapping

/-- Pair the mappings of a wanted group with actual ones. -/
def resolve (wanted : DestinationNat) (statics : List StaticMapping)
    (identities : List IdentityMapping) : Resolution where
  statics := pairOff StaticMapping.isFor wanted.statics statics
  identities := pairOff IdentityMapping.isFor wanted.identities identities

/-- The identifiers of the static mappings that were found. -/
def Resolution.staticIdentifiers (r : Resolution) : List String :=
  r.statics.found.map StaticMapping.identifier

/-- The identifiers of the identity mappings that were found. -/
def Resolution.identityIdentifiers (r : Resolution) : List String :=
  r.identities.found.map IdentityMapping.identifier

end DestinationNat

end DataplaneSync
