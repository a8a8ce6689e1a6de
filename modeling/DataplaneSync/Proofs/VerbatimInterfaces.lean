import DataplaneSync.Proofs.AddressComparison
import DataplaneSync.Proofs.InterfaceDeletion
import DataplaneSync.Proofs.InterfaceIdempotence

namespace DataplaneSync

/-!
# Interfaces that are dumped as they are wanted

An interface that is there already as it is wanted has no need of being modified.

* `Interface.firstDifference_self_eq` — an interface differs from itself in its addresses or not at
  all.
* `InterfaceReconciler.Modification` — what is known of a call that modifies an interface, on any
  dataplane.
* `InterfaceReconciler.verbatim_unmodified` — when a pass does not modify what is as it is wanted.
* `InterfaceReconciler.verbatim_modified` — when it does.
-/

namespace Interface

variable {i : Interface}

/-! ### Comparing an interface with itself -/

/-- Addresses agree with themselves exactly if they can be compared. -/
theorem addressesDiffer_self_iff : addressesDiffer i i = false ↔ i.Comparable := by
  refine ⟨fun same => ?_, addressesDiffer_self⟩
  by_cases numbered : i.unnumbered = none
  · obtain ⟨asMany, there⟩ := addressesAgree_iff.mp (addressesDiffer_eq_false_iff.mp same numbered)
    refine Or.inr fun text member => ?_
    -- every text spells something, and as many are wanted as there are, so none is left out
    obtain ⟨-, -, c, spells, -⟩ := there text member
    have kept := length_assignedAddresses_eq_iff.mp asMany.symm text member
    simpa [isLinkLocal, spells] using kept
  · exact Or.inl (Option.isSome_iff_ne_none.mpr numbered)

/-- An interface differs from itself in nothing if it can be compared, and otherwise in its
addresses. -/
theorem firstDifference_self_eq (i : Interface) :
    firstDifference i i = if i.Comparable then none else some .addresses := by
  split
  · next comparable => exact firstDifference_self comparable
  · next incomparable =>
    have addresses : addressesDiffer i i = true :=
      Bool.of_not_eq_false fun same => incomparable (addressesDiffer_self_iff.mp same)
    have mac : (i.pinnedMac?.isSome && !macAgrees i i) = false :=
      macDiffers_eq_false_iff.mpr fun _ => rfl
    -- whatever else is compared is equal
    simp [firstDifference, Aspect.all, Aspect.differs, mac, addresses]

end Interface

namespace InterfaceReconciler

open Interface

variable {wanted : List Interface} {actual : Table UInt32 InterfaceDetails}
variable {r s s' t : InterfaceReconciler} {ds before now after : List Deed}
variable {end_ mid : Except InterfaceFailure Unit}
variable {index j : UInt32} {d e : InterfaceDetails} {v a : Interface} {y : Exchange}
variable {x : UInt32 × InterfaceDetails}

/-! ### Modifications -/

/-- What is modified in the turn of an interface is that interface, which is kept for the wanted one
and differs from it. -/
theorem modification_of_settle (trace : Program.Trace (settle wanted (index, d) s) ds (mid, s'))
    (asked : y ∈ exchanges ds) (modifies : y.call = .interface (.modify v a j)) :
    index ≠ 0 ∧ a = d.interface ∧ keptFor wanted s.names d = some v ∧
      firstDifference v a ≠ none := by
  have device : index ≠ 0 := by
    rintro rfl
    have asks : (register d.internalName 0 d.interface).Obeys
        (asking fun y => y.call ≠ .interface (.modify v a j)) := asks_register fun _ => nofun
    exact asks _ _ _ _ trace y asked modifies
  cases kept : keptFor wanted s.names d with
  | some w =>
    have asks : (do register w.name index w; adjust w d.interface index : Step Unit).Obeys
        (asking fun y => y.call = .interface (.modify v a j) →
          a = d.interface ∧ some w = some v ∧ firstDifference v a ≠ none) := by
      refine (asks_register fun _ => nofun).bind fun _ => ?_
      unfold adjust
      split
      · exact Pass.obeys_pure ()
      · next aspect differs =>
        refine Pass.obeys_get.bind fun r => (Pass.asks_change fun answer same => ?_).bind fun _ =>
          Pass.asks_modify
        cases same
        exact ⟨rfl, rfl, by rw [differs]; exact nofun⟩
    exact ⟨device, asks _ _ _ _ (trace_of_keptFor device kept trace) y asked modifies⟩
  | none =>
    obtain ⟨name, turn⟩ := trace_of_unkept device kept trace
    have asks : (do register name index d.interface
                    remove name d.interface index : Step Unit).Obeys
        (asking fun y => y.call ≠ .interface (.modify v a j)) :=
      (asks_register fun _ => nofun).bind fun _ => asks_remove fun _ => nofun
    exact absurd modifies (asks _ _ _ _ turn y asked)

/-- A call that modifies an interface to become a wanted one: the interface was dumped, is not the
device, is kept for the wanted one in its turn, and differs from it. -/
structure Modification (wanted : List Interface) (actual : Table UInt32 InterfaceDetails)
    (end_ : Except InterfaceFailure Unit) (ds : List Deed) (v a : Interface) (index : UInt32)
    (d : InterfaceDetails) (before now after : List Deed) (s s' : InterfaceReconciler) : Prop where
  entry : actual.get? index = some d
  device : index ≠ 0
  same : a = d.interface
  differs : firstDifference v a ≠ none
  cut : ds = before ++ now ++ after
  turn : Turn wanted actual (index, d) end_ before now after s s'
  kept : keptFor wanted s.names d = some v

/-- What is modified has its turn. -/
theorem modification_of_trace (trace : Program.Trace (reconcile wanted r) ds (end_, t))
    (dumped : dumpIn? (exchanges ds) = some actual) (asked : y ∈ exchanges ds)
    (modifies : y.call = .interface (.modify v a index)) :
    ∃ d before now after s s',
      Modification wanted actual end_ ds v a index d before now after s s' := by
  have about : y.call.index? = some index := by rw [modifies]; rfl
  obtain ⟨d, member⟩ := entry_of_index trace dumped asked about
  rcases turn_of_trace (connected_of_dumpIn? trace dumped) trace dumped member with
    ⟨e, -, none_⟩ | ⟨before, now, after, s, s', cut, turn⟩
  · exact absurd about (none_ y asked)
  obtain ⟨mid, step, -⟩ := turn.step
  obtain ⟨apartBefore, apartAfter⟩ := List.forall_mem_append.mp turn.apart
  have within : y ∈ exchanges now := by
    rw [cut, exchanges_append, exchanges_append, List.mem_append, List.mem_append] at asked
    rcases asked with (earlier | within) | later
    · exact absurd about (apartBefore y earlier)
    · exact within
    · exact absurd about (apartAfter y later)
  obtain ⟨device, same, kept, differs⟩ := modification_of_settle step within modifies
  exact ⟨d, before, now, after, s, s', Table.mem_entries.mp member, device, same, differs, cut,
    turn, kept⟩

/-! ### The first round comes first -/

/-- Once something is asked for about an untagged interface, every tagged one has had its turn. -/
theorem asked_of_untagged (trace : Program.Trace (reconcile wanted r) ds (end_, t))
    (dumped : dumpIn? (exchanges ds) = some actual) (asked : y ∈ exchanges ds)
    (about : y.call.index? = some j) (entry : actual.get? j = some e)
    (untagged : isUntagged (j, e) = true) (member : x ∈ actual.entries) (device : x.1 ≠ 0)
    (tagged : x.2.interface.isTagged = true) :
    ∃ z ∈ exchanges ds, z.call.index? = some x.1 := by
  obtain ⟨sockets, r', ds', rfl, -, rest⟩ :=
    settleDumped_of_trace (connected_of_dumpIn? trace dumped) trace dumped
  have later : y ∈ exchanges ds' := by
    simp only [exchanges_called, List.mem_cons] at asked
    rcases asked with rfl | rfl | later
    · exact nomatch about
    · exact nomatch about
    · exact later
  rw [settleDumped_rounds] at rest
  rcases Pass.of_trace_bind rest with ⟨e', -, first⟩ | ⟨_, s, ds₁, ds₂, rfl, first, -⟩
  · -- the untagged one is left for the second round
    have asks : (actual.entries.forM (firstRound wanted)).Obeys
        (asking fun z => z.call.index? ≠ some j) := by
      refine Pass.obeys_forM fun z there => asks_settleTagged fun settled z' own same => ?_
      obtain rfl : z.1 = j := Option.some.inj (own.symm.trans same)
      have entry' : z.2 = e := Option.some.inj ((Table.mem_entries.mp there).symm.trans entry)
      rw [show (z.1, z.2) = (z.1, e) from congrArg _ entry', untagged] at settled
      contradiction
    exact absurd about (asks _ _ _ _ first y later)
  · obtain ⟨front, back, split_⟩ := List.append_of_mem member
    rw [forM_split split_] at first
    obtain ⟨_, s₁, ds₃, ds₄, rfl, -, first'⟩ := Pass.of_trace_bind_ok first
    obtain ⟨_, s₂, ds₅, ds₆, rfl, step, -⟩ := Pass.of_trace_bind_ok first'
    have own : settle wanted x = firstRound wanted x := by
      unfold settle
      rw [show isUntagged x = false by simp [isUntagged, tagged]]
      rfl
    rw [← own] at step
    obtain ⟨name, answer, rest', opening, -⟩ := opening_of_settle device step
    refine ⟨⟨.interface (.setTag name x.1), answer⟩, ?_, rfl⟩
    simp [opening]

/-! ### What is as it is wanted -/

/-- A wanted interface that is dumped as it is wanted, under a tag that no other dumped interface
has, is not what another one is modified to become. -/
theorem unmodified_elsewhere (trace : Program.Trace (reconcile wanted r) ds (end_, t))
    (dumped : dumpIn? (exchanges ds) = some actual) (entry : actual.get? index = some d)
    (tagged : d.interface.isTagged = true)
    (first : wanted.find? (·.name == d.interface.name) = some d.interface) (device : index ≠ 0)
    (ordinary : d.interface.name ≠ placeholderName)
    (others : ∀ j e, actual.get? j = some e → j ≠ 0 → j ≠ index →
      e.interface.name ≠ d.interface.name)
    (asked : y ∈ exchanges ds) (modifies : y.call = .interface (.modify v a j))
    (elsewhere : j ≠ index) : v.name ≠ d.interface.name := by
  intro named
  obtain ⟨e, before, now, after, s, s', change⟩ := modification_of_trace trace dumped asked modifies
  have alone := others j e change.entry change.device elsewhere
  cases sort : e.interface.isTagged with
  | true => exact alone ((name_of_keptFor change.kept sort).symm.trans named)
  | false =>
    have second : isUntagged (j, e) = true := by simp [isUntagged, change.device, sort]
    have about : y.call.index? = some j := by rw [modifies]; rfl
    have member := Table.mem_of_get? entry
    rcases turn_of_trace (connected_of_dumpIn? trace dumped) trace dumped member with
      ⟨e', -, none_⟩ | ⟨before', now', after', u, u', cut, turn⟩
    · obtain ⟨z, there, own⟩ :=
        asked_of_untagged trace dumped asked about change.entry second member device tagged
      exact none_ z there own
    -- both turns register the name, and nothing that follows either of them touches it
    have kept : keptFor wanted u.names d = some d.interface := by rw [keptFor, if_pos tagged, first]
    obtain ⟨answer, rest, opening, spared⟩ := turn.keeps device kept ordinary
      fun _ z there nonzero other => others z.1 z.2 (Table.mem_entries.mp there) nonzero other
    obtain ⟨answer', rest', opening', spared'⟩ := change.turn.keeps change.device change.kept
      (named ▸ ordinary) fun tagged' => absurd tagged' (by simp [sort])
    have here : registeredBy (exchanges ds) d.interface.name = some index := by
      rw [cut, exchanges_append, exchanges_append, opening, List.append_assoc]
      exact registeredBy_of_spares spared
    have there : registeredBy (exchanges ds) d.interface.name = some j := by
      rw [change.cut, exchanges_append, exchanges_append, opening', List.append_assoc, ← named]
      exact registeredBy_of_spares spared'
    exact elsewhere (Option.some.inj (there.symm.trans here))

/-- An interface differs from itself in its addresses or not at all: in nothing if it is unnumbered
or all its addresses can be read and none is one that the dataplane assigns itself.

If such an interface is dumped, a pass never modifies it to become what it is already, whatever the
dataplane answers.  If it has a tag, and the first wanted interface of that name is the same
interface, it is not modified at all.  Unless it is the device, has the name of the placeholder, or
has its tag in common with another dumped interface, no other one is modified to become it
either. -/
theorem verbatim_unmodified :
    (∀ i : Interface, firstDifference i i = if i.Comparable then none else some .addresses) ∧
    ∀ (wanted : List Interface) (r t : InterfaceReconciler) (ds : List Deed)
      (end_ : Except InterfaceFailure Unit) (actual : Table UInt32 InterfaceDetails)
      (index : UInt32) (d : InterfaceDetails),
      Program.Trace (reconcile wanted r) ds (end_, t) →
      dumpIn? (exchanges ds) = some actual → actual.get? index = some d →
      d.interface.Comparable →
      (∀ y ∈ exchanges ds, ∀ a, y.call ≠ .interface (.modify d.interface a index)) ∧
      (d.interface.isTagged = true →
        wanted.find? (·.name == d.interface.name) = some d.interface →
        (∀ y ∈ exchanges ds, ∀ v a, y.call ≠ .interface (.modify v a index)) ∧
        (index ≠ 0 → d.interface.name ≠ placeholderName →
          (∀ j e, actual.get? j = some e → j ≠ 0 → j ≠ index →
            e.interface.name ≠ d.interface.name) →
          ∀ y ∈ exchanges ds, ∀ v a j, y.call = .interface (.modify v a j) →
            v.name ≠ d.interface.name)) := by
  refine ⟨firstDifference_self_eq, ?_⟩
  intro wanted r t ds end_ actual index d trace dumped entry comparable
  have changes : ∀ y ∈ exchanges ds, ∀ v a, y.call = .interface (.modify v a index) →
      v ≠ d.interface ∧ ∃ names, keptFor wanted names d = some v := by
    intro y asked v a modifies
    obtain ⟨e, before, now, after, s, s', change⟩ :=
      modification_of_trace trace dumped asked modifies
    obtain rfl : e = d := Option.some.inj (change.entry.symm.trans entry)
    refine ⟨fun same => change.differs ?_, s.names, change.kept⟩
    rw [same, change.same]
    exact firstDifference_self comparable
  refine ⟨fun y asked a modifies => (changes y asked _ a modifies).1 rfl, fun tagged first => ?_⟩
  have here : ∀ y ∈ exchanges ds, ∀ v a, y.call ≠ .interface (.modify v a index) := by
    intro y asked v a modifies
    obtain ⟨other, names, kept⟩ := changes y asked v a modifies
    rw [keptFor, if_pos tagged, first] at kept
    exact other (Option.some.inj kept).symm
  refine ⟨here, fun device ordinary others y asked v a j modifies => ?_⟩
  have elsewhere : j ≠ index := by
    rintro rfl
    exact here y asked v a modifies
  exact unmodified_elsewhere trace dumped entry tagged first device ordinary others asked modifies
    elsewhere

/-- A jetty with an address. -/
def jetty : InterfaceDetails where
  interface := { name := "jetty", addresses := ["10.0.0.1/24"] }
  internalName := "loop1"
  index := 1

/-- A dataplane with the jetty, and with another interface and one without a tag that have to be
modified. -/
def jettySnapshot : Snapshot where
  interfaces :=
    [jetty,
      { interface := { name := "wharf" }, internalName := "loop2", index := 2 },
      { interface := { addresses := ["10.0.0.2/24"] }, internalName := "loop3", index := 3 }]

/-- The jetty as it is, and the others enabled. -/
def jettyWanted : List Interface :=
  [jetty.interface, { name := "wharf", enabled := true },
    { name := "mole", enabled := true, addresses := ["10.0.0.2/24"] }]

/-- No interface is modified to become the jetty. -/
theorem verbatim_unmodified_jetty :
    ∃ s r' t, Simulation.ofSnapshot? jettySnapshot = some s ∧
      Trial.run (reconcile jettyWanted {}) { simulation := s } = some ((.ok (), r'), t) ∧
      (∀ y ∈ exchanges t.deeds, ∀ v a, y.call ≠ .interface (.modify v a 1)) ∧
      ∀ y ∈ exchanges t.deeds, ∀ v a j, y.call = .interface (.modify v a j) →
        v.name ≠ "jetty" := by
  have goes : Trial.succeedsOn jettySnapshot (reconcile jettyWanted {}) (fun _ _ t =>
      (dumpIn? (exchanges t.deeds)).any fun actual => actual.get? 1 == some jetty &&
        actual.entries.all fun y =>
          y.1 == 0 || y.1 == 1 || y.2.interface.name != "jetty") = true := by
    decide +kernel
  obtain ⟨s, _, r', t, start, result, read⟩ := Trial.exists_of_succeedsOn goes
  obtain ⟨actual, dumped, goes⟩ := (Option.any_eq_true _ _).mp read
  obtain ⟨entry, apart⟩ := (Bool.and_eq_true _ _).mp goes
  obtain ⟨ds, deeds, trace⟩ := Trial.trace_of_run result
  obtain rfl : t.deeds = ds := deeds
  obtain ⟨-, tagged⟩ := verbatim_unmodified.2 jettyWanted {} r' t.deeds _ actual 1 jetty trace
    dumped (eq_of_beq entry) (by decide +kernel)
  obtain ⟨here, elsewhere⟩ := tagged rfl rfl
  refine ⟨s, r', t, start, result, here, elsewhere (by decide) (by decide) ?_⟩
  intro j e there device other
  have checked := List.all_eq_true.mp apart (j, e) (Table.mem_of_get? there)
  simpa [jetty, device, other] using checked

/-! ### What is modified all the same -/

/-- The names of the wanted interfaces that others are modified to become, with the indexes of the
others. -/
def modified (cs : List Call) : List (String × UInt32) := cs.filterMap fun
  | .interface (.modify wanted _ index) => some (wanted.name, index)
  | _ => none

/-- A pass over the dumped interfaces comes to its end without refusals, and modifies what is
listed. -/
def Modifies (dumped : List InterfaceDetails) (wanted : List Interface)
    (list : List (String × UInt32)) : Prop :=
  ∃ s r t, Simulation.ofSnapshot? { interfaces := dumped } = some s ∧
    Trial.run (reconcile wanted {}) { simulation := s } = some ((.ok (), r), t) ∧
    modified t.calls = list

theorem modifies_of_succeedsOn {dumped : List InterfaceDetails} {list : List (String × UInt32)}
    (goes : Trial.succeedsOn { interfaces := dumped } (reconcile wanted {})
      (fun _ _ t => modified t.calls == list) = true) : Modifies dumped wanted list := by
  obtain ⟨s, _, r, t, start, result, same⟩ := Trial.exists_of_succeedsOn goes
  exact ⟨s, r, t, start, result, eq_of_beq same⟩

/-- An interface whose address cannot be read is modified to become itself, and so is one with an
address that the dataplane assigns itself.

An interface that is as it is wanted does not keep others from being modified to become it: one of
the same tag; one without a tag if it is the device itself that is as wanted; and one without a tag
if it has the name of the placeholder, under which a third one has been removed before.  And if two
wanted interfaces have one name, it is modified to become the first. -/
theorem verbatim_modified :
    let bare : Interface := { name := "quay", addresses := ["10.0.0.1"] }
    let assigned : Interface := { name := "quay", addresses := ["fe80::1/64"] }
    let plain : Interface := { name := "quay" }
    let temporary : Interface := { name := placeholderName }
    (firstDifference bare bare = some .addresses ∧
      Modifies [{ interface := bare, index := 1 }] [bare] [("quay", 1)]) ∧
    (firstDifference assigned assigned = some .addresses ∧
      Modifies [{ interface := assigned, index := 1 }] [assigned] [("quay", 1)]) ∧
    Modifies [{ interface := plain, index := 1 },
        { interface := { plain with mtu := 9 }, index := 2 }]
      [plain] [("quay", 2)] ∧
    Modifies [{ interface := plain, index := 0 }, { interface := { mtu := 9 }, index := 1 }]
      [plain] [("quay", 1)] ∧
    Modifies [{ interface := temporary, index := 1 },
        { interface := { addresses := ["10.0.0.1/24"] }, index := 2 },
        { interface := { mtu := 9 }, index := 3 }]
      [temporary] [(placeholderName, 3)] ∧
    Modifies [{ interface := plain, index := 1 }] [{ plain with mtu := 9 }, plain]
      [("quay", 1)] := by
  refine ⟨⟨?_, modifies_of_succeedsOn ?_⟩, ⟨?_, modifies_of_succeedsOn ?_⟩,
    modifies_of_succeedsOn ?_, modifies_of_succeedsOn ?_, modifies_of_succeedsOn ?_,
    modifies_of_succeedsOn ?_⟩ <;> decide +kernel

end InterfaceReconciler

end DataplaneSync
