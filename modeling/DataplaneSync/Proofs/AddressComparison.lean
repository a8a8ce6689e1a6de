import DataplaneSync.Interface.Reconciler
import DataplaneSync.Proofs.InterfaceDrift
import DataplaneSync.Proofs.Trial
import Mathlib.Data.List.Nodup

namespace DataplaneSync

/-!
# Comparison of addresses

Addresses are compared one way only: there have to be as many as are wanted, and each wanted one has
to be among them.

* `Interface.addressesAgree_iff_perm` — where no address is wanted twice, that decides whether the
  addresses are the wanted ones in some order.
* `Interface.addresses_decided` — so it does for the difference of two interfaces and for their
  correlation.
* `Interface.correlates_iff_of_same_addresses` — only the difference leaves out the addresses that
  the dataplane assigns itself, so an interface of which the addresses do not differ may still not
  correlate.
-/

namespace Interface

variable {w a : Interface} {texts wanted actual : List String} {cs : List Cidr}

/-! ### What texts spell -/

/-- The texts spell the given addresses, one by one. -/
def Spell (texts : List String) (cs : List Cidr) : Prop := texts.map Cidr.ofText? = cs.map some

instance : Decidable (Spell texts cs) := inferInstanceAs (Decidable (_ = _))

namespace Spell

theorem length_eq (spelt : Spell texts cs) : texts.length = cs.length := by
  simpa using congrArg List.length spelt

/-- What a text spells is one of the addresses. -/
theorem mem_of_mem (spelt : Spell texts cs) {text : String} (member : text ∈ texts) :
    ∃ c ∈ cs, Cidr.ofText? text = some c := by
  have among : Cidr.ofText? text ∈ cs.map some := spelt ▸ List.mem_map_of_mem member
  obtain ⟨c, there, spells⟩ := List.mem_map.mp among
  exact ⟨c, there, spells.symm⟩

/-- Each of the addresses is spelt by a text. -/
theorem exists_of_mem (spelt : Spell texts cs) {c : Cidr} (member : c ∈ cs) :
    ∃ text ∈ texts, Cidr.ofText? text = some c := by
  have among : some c ∈ texts.map Cidr.ofText? := spelt ▸ List.mem_map_of_mem member
  exact List.mem_map.mp among

/-- If no address comes twice, no text spells the same as another. -/
theorem nodup (spelt : Spell texts cs) (once : cs.Nodup) : (texts.map Cidr.ofText?).Nodup := by
  rw [spelt]
  exact once.map fun _ _ => Option.some.inj

/-- Texts that spell something permuted spell it in their own order. -/
theorem of_perm (same : (texts.map Cidr.ofText?).Perm (cs.map some)) :
    ∃ ds, Spell texts ds ∧ ds.Perm cs := by
  refine ⟨texts.filterMap Cidr.ofText?, ?_, ?_⟩
  · have all : ∀ value ∈ texts.map Cidr.ofText?, value.isSome = true := by
      intro value member
      obtain ⟨c, -, rfl⟩ := List.mem_map.mp (same.subset member)
      rfl
    rw [Spell, List.map_filterMap_some_eq_filter_map_isSome, List.filter_eq_self.mpr all]
  · have values := same.filterMap id
    simpa only [List.filterMap_map, Function.id_comp, Function.comp_def, id_eq,
      List.filterMap_some] using values

end Spell

/-! ### One-way inclusion -/

/-- If the wanted texts spell addresses of which none comes twice, as many actual texts among which
all of them are spelt spell the same addresses in some order, and nothing else does. -/
theorem addressesAgree_iff_perm (spelt : Spell wanted cs) (once : cs.Nodup) :
    addressesAgree wanted actual = true ↔ ∃ ds, Spell actual ds ∧ ds.Perm cs := by
  constructor
  · intro agrees
    -- nothing can be there besides, because there is no room for it
    have same := perm_of_addressesAgree agrees (spelt.nodup once)
    rw [spelt] at same
    exact Spell.of_perm same
  · rintro ⟨ds, spelt', same⟩
    refine addressesAgree_iff.mpr ⟨?_, fun s wants => ?_⟩
    · rw [spelt.length_eq, spelt'.length_eq, same.length_eq]
    · obtain ⟨c, member, spells⟩ := spelt.mem_of_mem wants
      obtain ⟨t, has, spells'⟩ := spelt'.exists_of_mem (same.mem_iff.mpr member)
      exact ⟨t, has, c, spells, spells'⟩

/-- If no hardware address decides, two interfaces correlate if their addresses agree. -/
theorem correlates_of_macAgrees_eq_false (undecided : macAgrees a w = false) :
    correlates a w = addressesAgree w.addresses a.addresses := by
  rw [correlates, undecided, Bool.false_or]

/-- If the wanted texts all spell addresses and none is wanted twice, the addresses of an actual
interface are the wanted ones in some order exactly if the two do not differ in their addresses, or
correlate by them.  To the difference an interface has only the addresses that the dataplane did
not assign itself, and a wanted one that is unnumbered wants none; to the correlation it has them
all. -/
theorem addresses_decided (spelt : Spell w.addresses cs) (once : cs.Nodup) :
    (w.unnumbered = none → (Aspect.differs w a .addresses = false ↔
      ∃ ds, Spell a.assignedAddresses ds ∧ ds.Perm cs)) ∧
    (macAgrees a w = false → (correlates a w = true ↔
      ∃ ds, Spell a.addresses ds ∧ ds.Perm cs)) := by
  refine ⟨fun numbered => ?_, fun undecided => ?_⟩
  · have agree : Aspect.differs w a .addresses = false ↔
        addressesAgree w.addresses a.assignedAddresses = true :=
      addressesDiffer_eq_false_iff.trans (forall_prop_of_true numbered)
    rw [agree, addressesAgree_iff_perm spelt once]
  · rw [correlates_of_macAgrees_eq_false undecided, addressesAgree_iff_perm spelt once]

/-- A pier with two addresses. -/
def pier : Interface := { name := "pier", addresses := ["10.0.0.1/24", "2001:db8::1/64"] }

/-- The addresses of the pier, spelt otherwise and with one that the dataplane has assigned. -/
def pierDumped : Interface where
  addresses := ["2001:0db8:0::1/64", "fe80::1/64", "10.0.0.1/24"]

/-- Their addresses do not differ, but they do not correlate by them. -/
theorem addresses_decided_pier :
    ∃ cs, Spell pier.addresses cs ∧
      (∃ ds, Spell pierDumped.assignedAddresses ds ∧ ds.Perm cs) ∧
      ¬ ∃ ds, Spell pierDumped.addresses ds ∧ ds.Perm cs := by
  have spelt : Spell pier.addresses (pier.addresses.filterMap Cidr.ofText?) := by decide +kernel
  obtain ⟨differ, correlate⟩ := addresses_decided (a := pierDumped) spelt (by decide +kernel)
  refine ⟨_, spelt, (differ rfl).mp (by decide +kernel), fun same => ?_⟩
  have correlates := (correlate (by decide +kernel)).mpr same
  exact absurd correlates (by decide +kernel)

/-! ### Addresses that the dataplane assigns itself -/

/-- Nothing is left out if the dataplane has assigned nothing itself. -/
theorem length_assignedAddresses_eq_iff : a.assignedAddresses.length = a.addresses.length ↔
    ∀ text ∈ a.addresses, isLinkLocal text = false := by
  rw [assignedAddresses, List.length_filter_eq_length_iff]
  simp

/-- An interface of which the addresses are as wanted, up to those that the dataplane assigns
itself, correlates with the wanted one by its hardware address, or else only if the dataplane has
assigned it none. -/
theorem correlates_iff_of_same_addresses (numbered : w.unnumbered = none)
    (same : Aspect.differs w a .addresses = false) :
    correlates a w = true ↔
      macAgrees a w = true ∨ ∀ text ∈ a.addresses, isLinkLocal text = false := by
  have agrees : addressesAgree w.addresses a.assignedAddresses = true :=
    addressesDiffer_eq_false_iff.mp same numbered
  obtain ⟨asMany, there⟩ := addressesAgree_iff.mp agrees
  rw [correlates, Bool.or_eq_true]
  refine or_congr_right ⟨fun counted => ?_, fun unassigned => ?_⟩
  · -- the wanted ones are as many with and without those that are left out
    have all := (addressesAgree_iff.mp counted).1
    exact length_assignedAddresses_eq_iff.mp (asMany.symm.trans all)
  · have kept : a.assignedAddresses = a.addresses :=
      List.filter_eq_self.mpr fun text member => by rw [unassigned text member]; rfl
    rwa [kept] at agrees

/-- The pier, with its own addresses and in its own order, correlates if the dataplane has assigned
it nothing. -/
theorem correlates_iff_of_same_addresses_pier :
    let dumped : Interface := { addresses := ["2001:db8::1/64", "10.0.0.1/24"] }
    Aspect.differs pier dumped .addresses = false ∧ correlates dumped pier = true := by
  have same : Aspect.differs pier { addresses := ["2001:db8::1/64", "10.0.0.1/24"] } .addresses =
      false := by decide +kernel
  exact ⟨same, (correlates_iff_of_same_addresses rfl same).mpr (Or.inr (by decide +kernel))⟩

/-- A quay with one address. -/
def quay : Interface := { name := "quay", addresses := ["2001:db8::1/64"] }

/-- The quay as it is dumped: without tag, and with an address that the dataplane has assigned. -/
def quayDumped : Interface := { addresses := ["2001:db8::1/64", "fe80::1/64"] }

/-- A dataplane with nothing but that interface. -/
def quaySnapshot : Snapshot where
  interfaces := [{ interface := quayDumped, internalName := "loop1", index := 1 }]

open InterfaceReconciler in
/-- The dumped quay differs in nothing from the wanted one but does not correlate with it, so a pass
without refusals removes it and creates another one. -/
theorem correlates_misses_assigned :
    quayDumped.isTagged = false ∧ quay.unnumbered = none ∧
    firstDifference quay quayDumped = none ∧ correlates quayDumped quay = false ∧
    ∃ s r t, Simulation.ofSnapshot? quaySnapshot = some s ∧
      Trial.run (reconcile [quay] {}) { simulation := s } = some ((.ok (), r), t) ∧
      t.simulation.operations =
        [⟨.interface, .tag, "local0"⟩, ⟨.interface, .tag, placeholderName⟩,
          ⟨.interface, .delete, " (index 1)"⟩, ⟨.interface, .create, "quay"⟩] := by
  have goes : Trial.succeedsOn quaySnapshot (reconcile [quay] {}) (fun _ _ t =>
      decide (t.simulation.operations =
        [⟨.interface, .tag, "local0"⟩, ⟨.interface, .tag, placeholderName⟩,
          ⟨.interface, .delete, " (index 1)"⟩, ⟨.interface, .create, "quay"⟩])) = true := by
    decide +kernel
  obtain ⟨s, _, r, t, start, result, replaced⟩ := Trial.exists_of_succeedsOn goes
  exact ⟨rfl, rfl, by decide +kernel, by decide +kernel, s, r, t, start, result,
    of_decide_eq_true replaced⟩

end Interface

end DataplaneSync
