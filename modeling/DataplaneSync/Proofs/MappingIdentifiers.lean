import DataplaneSync.Proofs.PairSoundness
import DataplaneSync.Proofs.SeparatedTexts

namespace DataplaneSync

/-!
# What the identifier of a mapping tells

Identifiers are fields with separators between them, and nothing in a field is escaped.  All the
same they can be taken apart: numbers and names of modes contain no separator, so only the texts
that are written as they are given have to be free of it, and not even these where the rest can be
cut off from behind.

* `LocalEndpoint.identifier_inj` — the texts of endpoints are told apart.
* `StaticMapping.identifier_eq_iff`, `IdentityMapping.identifier_inj` — and those of mappings.
* `DestinationNat.identifiers_identify` — an identifier stands for one mapping.
-/

/-! ### Endpoints -/

open Text

theorem LocalEndpoint.toList_identifier (e : LocalEndpoint) : e.identifier.toList =
    (e.address.toList ++ ':' :: (toString e.port.toNat).toList) ++
      ':' :: (toString e.probability.toNat).toList := by
  simp [identifier, ToString.toString]

/-- Endpoints are told apart, whatever their addresses contain: the numbers can be cut off from
behind. -/
theorem LocalEndpoint.identifier_inj {e f : LocalEndpoint} (same : e.identifier = f.identifier) :
    e = f := by
  have number := notMem_toString (c := ':') rfl
  have text := congrArg String.toList same
  rw [toList_identifier, toList_identifier] at text
  obtain ⟨front, probability⟩ := cut_last (number _) (number _) text
  obtain ⟨address, port⟩ := cut_last (number _) (number _) front
  cases e
  cases f
  simp only [LocalEndpoint.mk.injEq]
  exact ⟨String.toList_inj.mp address, toString_toNat_inj port, toString_toNat_inj probability⟩

/-- The text of an endpoint has a comma only if its address has one. -/
theorem LocalEndpoint.notMem_identifier {e : LocalEndpoint} (clean : ',' ∉ e.address.toList) :
    ',' ∉ e.identifier.toList ∧ e.identifier.toList ≠ [] := by
  have number := notMem_toString (c := ',') rfl
  rw [toList_identifier]
  refine ⟨?_, by simp⟩
  simp only [List.mem_append, List.mem_cons]
  grind

/-! ### Modes -/

theorem Protocol.name_inj {p q : Protocol} (same : p.name = q.name) : p = q := by
  cases p <;> cases q <;> simp [name] at same ⊢

theorem TwiceNat.name_inj {p q : TwiceNat} (same : p.name = q.name) : p = q := by
  cases p <;> cases q <;> simp [name] at same ⊢

theorem Protocol.notMem_name (p : Protocol) : '|' ∉ p.name.toList := by
  cases p <;> decide

theorem TwiceNat.notMem_name (t : TwiceNat) : '|' ∉ t.name.toList := by
  cases t <;> decide

/-! ### Static mappings -/

namespace StaticMapping

variable {a b : StaticMapping}

/-- The texts of a mapping are free of the separators of its identifier. -/
structure Delimited (m : StaticMapping) : Prop where
  interface : '|' ∉ m.externalInterface.toList
  address : '|' ∉ m.externalAddress.toList
  locals : ∀ e ∈ m.locals, ',' ∉ e.address.toList

/-- The fields of an identifier but the last. -/
def fields (m : StaticMapping) : List String :=
  ["stmap", m.externalInterface, m.externalAddress, toString m.externalPort.toNat, m.protocol.name,
    m.twiceNat.name]

theorem toList_identifier (m : StaticMapping) : m.identifier.toList =
    ['|'].intercalate (m.fields.map String.toList ++
      [[','].intercalate (m.endpointIdentifiers.map String.toList)]) := by
  simp only [identifier, fields, String.toList_intercalate, List.map_cons, List.map_nil,
    List.cons_append, List.nil_append]
  rfl

theorem Delimited.notMem_fields (clean : a.Delimited) :
    ∀ f ∈ a.fields.map String.toList, '|' ∉ f := by
  have number := notMem_toString (c := '|') rfl
  simp only [fields, List.map_cons, List.map_nil, List.forall_mem_cons]
  exact ⟨by decide, clean.interface, clean.address, number _, a.protocol.notMem_name,
    a.twiceNat.notMem_name, List.forall_mem_nil _⟩

theorem Delimited.notMem_endpoints (clean : a.Delimited) :
    ∀ f ∈ a.endpointIdentifiers.map String.toList, ',' ∉ f ∧ f ≠ [] := by
  intro f member
  obtain ⟨s, sorted, rfl⟩ := List.mem_map.mp member
  obtain ⟨e, own, rfl⟩ := List.mem_map.mp (List.mem_mergeSort.mp sorted)
  exact LocalEndpoint.notMem_identifier (clean.locals e own)

/-- The sorted texts of the endpoints tell which endpoints there are, and how often. -/
theorem perm_of_endpointIdentifiers (same : a.endpointIdentifiers = b.endpointIdentifiers) :
    a.locals.Perm b.locals := by
  have sorted : ∀ m : StaticMapping,
      m.endpointIdentifiers.Perm (m.locals.map LocalEndpoint.identifier) :=
    fun m => List.mergeSort_perm _ _
  have texts : (a.locals.map LocalEndpoint.identifier).Perm
      (b.locals.map LocalEndpoint.identifier) := (sorted a).symm.trans (same ▸ sorted b)
  exact (List.map_perm_map_iff fun _ _ => LocalEndpoint.identifier_inj).mp texts

/-- Mappings whose texts are free of separators have one identifier if and only if they are the
same up to the order of their endpoints. -/
theorem identifier_eq_iff (clean : a.Delimited) (clean' : b.Delimited) :
    a.identifier = b.identifier ↔ a.Reordered b := by
  constructor
  · intro same
    have text := congrArg String.toList same
    rw [toList_identifier, toList_identifier] at text
    -- the list of endpoints is the last field, so it may contain the separator of the fields
    obtain ⟨front, last⟩ :=
      fields_inj (by simp [fields]) clean.notMem_fields clean'.notMem_fields text
    have endpoints := list_inj clean.notMem_endpoints clean'.notMem_endpoints last
    have fields_eq : a.fields = b.fields :=
      List.map_injective_iff.mpr (fun _ _ => String.toList_inj.mp) front
    simp only [fields, List.cons.injEq, and_true, true_and] at fields_eq
    obtain ⟨interface, address, port, protocol, twiceNat⟩ := fields_eq
    exact
      { interface := interface
        address := address
        port := toString_toNat_inj (congrArg String.toList port)
        protocol := Protocol.name_inj protocol
        twiceNat := TwiceNat.name_inj twiceNat
        locals := perm_of_endpointIdentifiers
          (List.map_injective_iff.mpr (fun _ _ => String.toList_inj.mp) endpoints) }
  · exact fun same => same.identifier_eq same.interface

end StaticMapping

/-! ### Identity mappings -/

namespace IdentityMapping

variable {a b : IdentityMapping}

/-- The texts of a mapping are free of the separator of its identifier. -/
structure Delimited (m : IdentityMapping) : Prop where
  interface : '|' ∉ m.interface.toList
  address : '|' ∉ m.address.toList

/-- The fields of an identifier but the last. -/
def fields (m : IdentityMapping) : List String :=
  ["idmap", toString m.vrf.toNat, m.interface, m.address, toString m.port.toNat]

theorem toList_identifier (m : IdentityMapping) : m.identifier.toList =
    ['|'].intercalate (m.fields.map String.toList ++ [m.protocol.name.toList]) := by
  simp only [identifier, fields, String.toList_intercalate, List.map_cons, List.map_nil,
    List.cons_append, List.nil_append]
  rfl

theorem Delimited.notMem_fields (clean : a.Delimited) :
    ∀ f ∈ a.fields.map String.toList, '|' ∉ f := by
  have number := notMem_toString (c := '|') rfl
  simp only [fields, List.map_cons, List.map_nil, List.forall_mem_cons]
  exact ⟨by decide, number _, clean.interface, clean.address, number _, List.forall_mem_nil _⟩

/-- Mappings whose texts are free of the separator are equal if they have one identifier. -/
theorem identifier_inj (clean : a.Delimited) (clean' : b.Delimited)
    (same : a.identifier = b.identifier) : a = b := by
  have text := congrArg String.toList same
  rw [toList_identifier, toList_identifier] at text
  obtain ⟨front, last⟩ :=
    fields_inj (by simp [fields]) clean.notMem_fields clean'.notMem_fields text
  have fields_eq : a.fields = b.fields :=
    List.map_injective_iff.mpr (fun _ _ => String.toList_inj.mp) front
  simp only [fields, List.cons.injEq, and_true, true_and] at fields_eq
  obtain ⟨vrf, interface, address, port⟩ := fields_eq
  cases a
  cases b
  simp only [IdentityMapping.mk.injEq]
  exact ⟨toString_toNat_inj (congrArg String.toList vrf), interface, address,
    toString_toNat_inj (congrArg String.toList port),
    Protocol.name_inj (String.toList_inj.mp last)⟩

end IdentityMapping

/-! ### Groups -/

namespace DestinationNat

open StaticMapping

/-- Where the texts of mappings are free of separators, static mappings have one identifier exactly
if they agree in interface, address, port, protocol and twice-NAT mode and have the same endpoints
in any order, each as often; identity mappings with one identifier are equal. -/
theorem identifiers_identify :
    (∀ a b : StaticMapping, a.Delimited → b.Delimited →
      (a.identifier = b.identifier ↔ a.Reordered b)) ∧
    ∀ a b : IdentityMapping, a.Delimited → b.Delimited → a.identifier = b.identifier → a = b :=
  ⟨fun _ _ clean clean' => identifier_eq_iff clean clean',
    fun _ _ clean clean' same => IdentityMapping.identifier_inj clean clean' same⟩

/-- The service at the marina has one identifier whichever way round its berths are given, and
another one with one berth twice.  An identity mapping of a berth has another identifier than one
whose port is part of its address. -/
theorem identifiers_identify_berths :
    let turned := berthService "wan0" berths.reverse
    let given := berthService "wan0" berths
    let repeating := berthService "wan0" oneBerth
    let berth : IdentityMapping := { address := "10.0.7.1", port := 22 }
    let other : IdentityMapping := { address := "10.0.7.1:22" }
    (turned.Delimited ∧ given.Delimited ∧ repeating.Delimited ∧
      turned.identifier = given.identifier ∧ turned.identifier ≠ repeating.identifier) ∧
    berth.Delimited ∧ other.Delimited ∧ berth.identifier ≠ other.identifier := by
  intro turned given repeating berth other
  have clean : turned.Delimited :=
    ⟨by decide +kernel, by decide +kernel, by decide +kernel⟩
  have clean' : given.Delimited :=
    ⟨by decide +kernel, by decide +kernel, by decide +kernel⟩
  have clean'' : repeating.Delimited :=
    ⟨by decide +kernel, by decide +kernel, by decide +kernel⟩
  have berth_clean : berth.Delimited := ⟨by decide +kernel, by decide +kernel⟩
  have other_clean : other.Delimited := ⟨by decide +kernel, by decide +kernel⟩
  have reversed : turned.Reordered given :=
    { interface := rfl, address := rfl, port := rfl, protocol := rfl, twiceNat := rfl
      locals := List.reverse_perm berths }
  refine ⟨⟨clean, clean', clean'', ?_, ?_⟩, berth_clean, other_clean, ?_⟩
  · exact (identifiers_identify.1 _ _ clean clean').mpr reversed
  · intro same
    have endpoints := ((identifiers_identify.1 _ _ clean clean'').mp same).locals
    exact absurd endpoints (by decide +kernel)
  · intro same
    have equal := identifiers_identify.2 _ _ berth_clean other_clean same
    exact absurd equal (by decide +kernel)

end DestinationNat

end DataplaneSync
