import DataplaneSync.Proofs.Pairing
import Mathlib.Data.List.Perm.Subperm

namespace DataplaneSync

/-!
# What paired mappings have in common

The resolver compares mappings field by field; their identifiers are texts made of the same fields.
Whom it pairs, the identifiers do not tell apart, except for two things that the resolver leaves out
where load is balanced: the external interface, and how often an endpoint is repeated.

* `LocalEndpoint.perm_of_agree` — endpoint lists that agree are the same up to their order, if the
  wanted ones are given once each.
* `StaticMapping.SameUpToInterface` — the same mapping, whatever the external interfaces.
* `StaticMapping.SameUpToInterface.identifier_eq` — such mappings have one identifier if they have
  one external interface.
* `StaticMapping.Reordered` — the same mapping, in whatever order its endpoints are given.
* `DestinationNat.resolve_pairs_same`, `DestinationNat.resolve_pairs_strangers` — what is paired,
  and what is paired all the same.
-/

/-! ### Endpoints -/

/-- As many endpoints as are wanted, all of them wanted, are the wanted ones in some order, provided
that none is wanted twice. -/
theorem LocalEndpoint.perm_of_agree {wanted actual : List LocalEndpoint} (once : wanted.Nodup)
    (agrees : agree wanted actual = true) : actual.Perm wanted := by
  rw [agree, Bool.and_eq_true, beq_iff_eq, List.all_eq_true] at agrees
  obtain ⟨asMany, there⟩ := agrees
  have among : wanted ⊆ actual := fun e wants => List.contains_iff_mem.mp (there e wants)
  exact ((once.subperm among).perm_of_length_le (Nat.le_of_eq asMany.symm)).symm

namespace StaticMapping

variable {a w : StaticMapping}

/-- The order of the endpoints does not show in the sorted list of their texts. -/
theorem endpointIdentifiers_eq (same : a.locals.Perm w.locals) :
    a.endpointIdentifiers = w.endpointIdentifiers := by
  have sorted : ∀ m : StaticMapping, m.endpointIdentifiers.Pairwise (· ≤ ·) := by
    intro m
    refine (List.pairwise_mergeSort ?_ ?_ _).imp of_decide_eq_true
    · intro s t u
      simpa using String.le_trans
    · intro s t
      simpa using String.le_total s t
  have among : ∀ m : StaticMapping,
      m.endpointIdentifiers.Perm (m.locals.map LocalEndpoint.identifier) :=
    fun m => List.mergeSort_perm _ _
  refine List.Perm.eq_of_pairwise (fun s t _ _ => String.le_antisymm) (sorted a) (sorted w) ?_
  exact (among a).trans ((same.map _).trans (among w).symm)

/-! ### Mappings -/

/-- Two mappings agree in all but the external interface, where the endpoints may stand in another
order. -/
structure SameUpToInterface (a w : StaticMapping) : Prop where
  address : a.externalAddress = w.externalAddress
  port : a.externalPort = w.externalPort
  protocol : a.protocol = w.protocol
  twiceNat : a.twiceNat = w.twiceNat
  locals : a.locals.Perm w.locals

/-- With one external interface they have one identifier. -/
theorem SameUpToInterface.identifier_eq (h : SameUpToInterface a w)
    (interface : a.externalInterface = w.externalInterface) : a.identifier = w.identifier := by
  unfold identifier
  rw [interface, h.address, h.port, h.protocol, h.twiceNat, endpointIdentifiers_eq h.locals]

/-- Two mappings agree in all, where the endpoints may stand in another order. -/
structure Reordered (a w : StaticMapping) : Prop extends SameUpToInterface a w where
  interface : a.externalInterface = w.externalInterface

/-- The service of a mapping is all but its interface and its endpoints. -/
theorem sameService_iff : sameService w a = true ↔
    a.externalAddress = w.externalAddress ∧ a.externalPort = w.externalPort ∧
      a.protocol = w.protocol ∧ a.twiceNat = w.twiceNat := by
  simp only [sameService, Bool.and_eq_true, beq_iff_eq]
  grind

/-- A mapping that counts as a wanted one to a single endpoint equals it. -/
theorem eq_of_isSingleFor (fits : isSingleFor a w = true) : a = w := by
  rw [isSingleFor, Bool.and_eq_true, Bool.and_eq_true, sameService_iff, beq_iff_eq] at fits
  obtain ⟨⟨⟨address, port, protocol, twiceNat⟩, interface⟩, endpoints⟩ := fits
  have locals : a.locals = w.locals := by
    split at endpoints
    · next e f wants has => rw [wants, has, beq_iff_eq.mp endpoints]
    · contradiction
  cases a
  cases w
  simp_all

end StaticMapping

/-! ### Groups -/

namespace DestinationNat

open StaticMapping

/-- The resolver pairs a static mapping only with one of the same external address and port,
protocol and twice-NAT mode, with as many endpoints, all wanted ones among them.

One with at most one endpoint it pairs with an equal mapping only, interface and identifier
included.  One that balances load, and repeats no endpoint, it pairs with the same mapping up to the
order of the endpoints and the external interface; if the interface is the same, so is the
identifier. -/
theorem resolve_pairs_same {wanted : DestinationNat} {statics : List StaticMapping}
    {identities : List IdentityMapping} {w a : StaticMapping}
    (pair : (w, a) ∈ (wanted.resolve statics identities).statics.pairs) :
    sameService w a = true ∧ a.locals.length = w.locals.length ∧ (∀ e ∈ w.locals, e ∈ a.locals) ∧
    (w.isLoadBalanced = false → a = w ∧ a.identifier = w.identifier) ∧
    (w.locals.Nodup → a.SameUpToInterface w ∧
      (a.externalInterface = w.externalInterface → a.identifier = w.identifier)) := by
  obtain ⟨-, -, fits⟩ := of_mem_pairs pair
  rw [isFor] at fits
  split at fits
  · next balanced =>
    rw [isBalancedFor, Bool.and_eq_true] at fits
    obtain ⟨service, agrees⟩ := fits
    obtain ⟨address, port, protocol, twiceNat⟩ := sameService_iff.mp service
    have endpoints := agrees
    rw [LocalEndpoint.agree, Bool.and_eq_true, beq_iff_eq, List.all_eq_true] at endpoints
    refine ⟨service, endpoints.1.symm, fun e wants => ?_, ?_, fun once => ?_⟩
    · exact List.contains_iff_mem.mp (endpoints.2 e wants)
    · exact fun single => absurd balanced (by simp [single])
    · have same : a.SameUpToInterface w :=
        ⟨address, port, protocol, twiceNat, LocalEndpoint.perm_of_agree once agrees⟩
      exact ⟨same, same.identifier_eq⟩
  · obtain rfl := eq_of_isSingleFor fits
    refine ⟨sameService_iff.mpr ⟨rfl, rfl, rfl, rfl⟩, rfl, fun _ => id, fun _ => ⟨rfl, rfl⟩,
      fun _ => ⟨⟨rfl, rfl, rfl, rfl, List.Perm.refl _⟩, fun _ => rfl⟩⟩

/-- A service at a marina, over two berths, at the named interface. -/
def berthService (interface : String) (locals : List LocalEndpoint) : StaticMapping where
  externalInterface := interface
  externalAddress := "192.0.2.7"
  externalPort := 443
  locals := locals

/-- Two endpoints of that service. -/
def berths : List LocalEndpoint :=
  [{ address := "10.0.7.1", port := 8443, probability := 30 },
    { address := "10.0.7.2", port := 8443, probability := 70 }]

/-- The dataplane has the service with its endpoints the other way round. -/
theorem resolve_pairs_same_berths :
    let onWan := berthService "wan0" berths
    let turned := berthService "wan0" berths.reverse
    let wanted : DestinationNat := { label := "marina", statics := [onWan] }
    (onWan, turned) ∈ (wanted.resolve [turned] []).statics.pairs ∧
      turned.identifier = onWan.identifier := by
  intro onWan turned wanted
  have pair : (onWan, turned) ∈ (wanted.resolve [turned] []).statics.pairs := by decide +kernel
  have once : onWan.locals.Nodup := by decide +kernel
  exact ⟨pair, ((resolve_pairs_same pair).2.2.2.2 once).2 rfl⟩

/-- The first endpoint of that service twice. -/
def oneBerth : List LocalEndpoint :=
  [{ address := "10.0.7.1", port := 8443, probability := 30 },
    { address := "10.0.7.1", port := 8443, probability := 30 }]

/-- The resolver pairs a service that balances load with one of another external interface, and one
that repeats an endpoint with one that has another in its place. -/
theorem resolve_pairs_strangers :
    let onLan := berthService "lan0" berths
    let onWan := berthService "wan0" berths
    let repeating := berthService "wan0" oneBerth
    let wanted : DestinationNat := { label := "marina", statics := [onLan] }
    let repeated : DestinationNat := { label := "marina", statics := [repeating] }
    ((wanted.resolve [onWan] []).statics.pairs = [(onLan, onWan)] ∧
      onWan.externalInterface ≠ onLan.externalInterface ∧ onWan.identifier ≠ onLan.identifier) ∧
    (repeated.resolve [onWan] []).statics.pairs = [(repeating, onWan)] ∧
      ¬ onWan.locals.Perm repeating.locals ∧ onWan.identifier ≠ repeating.identifier := by
  intro onLan onWan repeating wanted repeated
  refine ⟨by decide +kernel, by decide +kernel, by decide +kernel, ?_⟩
  -- both lists of texts are sorted as they are given
  have onWan_sorted : onWan.endpointIdentifiers = berths.map LocalEndpoint.identifier :=
    List.mergeSort_of_pairwise (by decide +kernel)
  have repeating_sorted : repeating.endpointIdentifiers = oneBerth.map LocalEndpoint.identifier :=
    List.mergeSort_of_pairwise (by decide +kernel)
  unfold StaticMapping.identifier
  rw [onWan_sorted, repeating_sorted]
  decide +kernel

end DestinationNat

end DataplaneSync
