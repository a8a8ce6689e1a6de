import DataplaneSync.Proofs.InterfaceDrift
import DataplaneSync.Proofs.InterfacePass
import DataplaneSync.Proofs.Trial

namespace DataplaneSync

/-!
# Idempotence of a pass over the interfaces

A pass after one that came to its end finds nothing to change.

* `Interface.Comparable` — what can be compared with itself: a text that spells no address is not
  the same as any other, and a link-local address is left out of the comparison.
* `Interface.firstDifference_self` — such an interface does not differ from itself.
* `InterfaceReconciler.ensures_labelled` — a pass over interfaces that have the names of the wanted
  ones leaves them their tags, and creates and removes none.
* `InterfaceReconciler.ensures_quiet` — a pass over interfaces that are as wanted only tags.
* `InterfaceReconciler.reconcile_twice` — the second of two passes.
-/

/-! ### Comparing an interface with itself -/

namespace Interface

/-- Whether the addresses of an interface, if they are compared at all, spell addresses that the
dataplane does not assign itself. -/
def Comparable (i : Interface) : Prop :=
  i.unnumbered.isSome = true ∨
    ∀ text ∈ i.addresses, (Cidr.ofText? text).any (!·.isLinkLocal) = true

instance (i : Interface) : Decidable i.Comparable := inferInstanceAs (Decidable (_ ∨ _))

/-- Addresses that can be compared agree with themselves. -/
theorem addressesDiffer_self {i : Interface} (h : i.Comparable) :
    addressesDiffer i i = false := by
  rcases h with unnumbered | spelled
  · obtain ⟨u, hu⟩ := Option.isSome_iff_exists.mp unnumbered
    simp [addressesDiffer, hu]
  · have kept : i.assignedAddresses = i.addresses := by
      refine List.filter_eq_self.mpr fun text member => ?_
      obtain ⟨c, hc, assigned⟩ := (Option.any_eq_true _ _).mp (spelled text member)
      simpa [isLinkLocal, hc] using assigned
    have found : addressesIn i.addresses i.addresses = true := by
      rw [addressesIn, List.all_eq_true]
      intro text member
      obtain ⟨c, hc, -⟩ := (Option.any_eq_true _ _).mp (spelled text member)
      rw [List.any_eq_true]
      exact ⟨text, member, by simp [sameAddress, hc]⟩
    simp [addressesDiffer, addressesAgree, kept, found]

/-- An interface that can be compared does not differ from itself. -/
theorem firstDifference_self {i : Interface} (h : i.Comparable) : firstDifference i i = none :=
  firstDifference_eq_none_iff.mpr
    ⟨completedBy_self i, addressesDiffer_eq_false_iff.mp (addressesDiffer_self h)⟩

end Interface

/-! ### Where nothing has to be created or removed -/

open Interface

/-- The tag of the interface at an index. -/
def Links.tagAt? (l : Links) (index : UInt32) : Option String :=
  (l.interfaces.get? index).map (·.interface.name)

/-- An interface that is changed but for its name keeps its tag. -/
theorem Links.Updated.tagAt?_eq {l l' : Links} {index : UInt32} {d : InterfaceDetails}
    {i : Interface} (changed : l.Updated index (some { d with interface := i }) l')
    (present : l.interfaces.get? index = some d) (name : i.name = d.interface.name) (j : UInt32) :
    l'.tagAt? j = l.tagAt? j := by
  rw [tagAt?, tagAt?, changed.get?]
  split
  · next here =>
    rw [here, present]
    exact congrArg some name
  · rfl

/-- The interfaces of a dataplane have the names of wanted ones, and the wanted ones are there. -/
structure Labelled (wanted : List Interface) (t : Table UInt32 InterfaceDetails) : Prop where
  named : ∀ j d, t.get? j = some d → j ≠ 0 → ∃ w ∈ wanted, w.name = d.interface.name
  there : ∀ w ∈ wanted, ∃ j d, t.get? j = some d ∧ d.nameAt j = w.name

/-- After a pass that came to its end the interfaces have the names of the wanted ones. -/
theorem Finished.labelled {neat : Prop} {wanted : List Interface} {registry : Registry Interface}
    {l : Links} (finished : Finished neat wanted registry l) : Labelled wanted l.interfaces where
  named := by
    intro j d found device
    have settled := finished.progress.underway.settled j d found device
    obtain ⟨w, member, named, -⟩ := settled.resolve_left id
    exact ⟨w, member, named⟩
  there := by
    intro w member
    obtain ⟨index, data, found⟩ := Registry.contains_iff.mp (finished.all w member)
    obtain ⟨-, d, there, named⟩ := finished.progress.underway.registered w.name index data found
    exact ⟨index, d, there, named⟩

/-- Once all interfaces are registered under their names, the wanted ones are registered. -/
theorem Labelled.all_registered {wanted : List Interface} {t : Table UInt32 InterfaceDetails}
    {registry : Registry Interface} (labelled : Labelled wanted t)
    (all : ∀ x ∈ t.entries, registry.contains (x.2.nameAt x.1) = true) :
    ∀ w ∈ wanted, registry.contains w.name = true := by
  intro w member
  obtain ⟨j, e, there, named⟩ := labelled.there w member
  exact named ▸ all (j, e) (Table.mem_entries.mpr there)

namespace InterfaceReconciler

open InterfaceCall Links

variable {unreliable : Prop} {allowed : Call → Prop} {r : InterfaceReconciler} {l l' : Links}
variable {wanted : List Interface} {index : UInt32} {d : InterfaceDetails}

/-- The device, and an interface that has the name of a wanted one, are registered and stay. -/
theorem ensures_settleTagged_labelled (proper : Proper False wanted)
    (named : index ≠ 0 → ∃ w ∈ wanted, w.name = d.interface.name)
    (present : l.interfaces.get? index = some d)
    (tag : ∀ name, allowed (.interface (.setTag name index)))
    (change : index ≠ 0 → ∀ w ∈ wanted, w.name = d.interface.name → ∀ aspect,
      firstDifference w d.interface = some aspect →
      allowed (.interface (.modify w d.interface index))) :
    Pass.Ensures (Links.behaviour unreliable allowed) (settleTagged wanted index d) r l
      (fun _ r' l' => (∃ data, r'.registry = r.registry.register (d.nameAt index) index data) ∧
        r'.connected = r.connected ∧ ∃ kept : Interface, kept.name = d.interface.name ∧
          l.Updated index (some { d with interface := kept }) l')
      (fun _ _ _ => unreliable) := by
  unfold settleTagged
  by_cases zero : index = 0
  · rw [if_pos zero]
    refine ensures_register present (tag _) (fun r' registered connected => ?_)
      fun faulty _ => faulty
    refine ⟨⟨d.interface, ?_⟩, connected, d.interface, rfl, fun j => ?_, ?_⟩
    · rw [registered, zero, InterfaceDetails.nameAt_zero]
    · rw [tagged, if_pos zero]
      split
      · next here => rw [here, present]
      · rfl
    · rw [tagged, if_pos zero]
  obtain ⟨v, member, own⟩ := named zero
  have tag_ : d.interface.isTagged = true := by
    simpa [isTagged, ← own] using proper.named v member
  simp only [if_neg zero, tag_, Bool.not_true, Bool.false_eq_true, if_false]
  split
  · next w found =>
    have same : w.name = d.interface.name := by simpa using List.find?_some found
    refine ensures_adopt present zero (tag _)
      (change zero w (List.mem_of_find?_eq_some found) same)
      (fun r' l' kept registered connected name suits changed => ?_) fun faulty _ _ _ _ _ => faulty
    refine ⟨⟨w, ?_⟩, connected, kept, name.trans same, changed⟩
    rw [registered, d.nameAt_of_ne zero, same]
  · next missing => exact absurd own (by simpa using List.find?_eq_none.mp missing v member)

/-- Where all interfaces have names of wanted ones, none is untagged. -/
theorem filter_isUntagged_eq_nil (proper : Proper False wanted)
    {t : Table UInt32 InterfaceDetails} (labelled : Labelled wanted t) :
    t.entries.filter isUntagged = [] := by
  refine List.eq_nil_iff_forall_not_mem.mpr fun ⟨j, e⟩ there => ?_
  obtain ⟨found, device, untagged⟩ := mem_filter_isUntagged.mp there
  obtain ⟨w, member, named⟩ := labelled.named j e found device
  exact proper.named w member (named.trans (by simpa [isTagged] using untagged))

/-- A pass over interfaces that have the names of the wanted ones creates and removes none, comes
to its end, and leaves every interface its tag. -/
theorem ensures_labelled (proper : Proper False wanted) (labelled : Labelled wanted l.interfaces)
    (connected : r.connected = true)
    (dump : allowed (.interface .dump)) (dumpSockets : allowed (.interface .dumpSockets))
    (tag : ∀ name index, allowed (.interface (.setTag name index)))
    (change : ∀ j d, l.interfaces.get? j = some d → j ≠ 0 → ∀ w ∈ wanted,
      w.name = d.interface.name → ∀ aspect, firstDifference w d.interface = some aspect →
      allowed (.interface (.modify w d.interface j))) :
    Pass.Ensures (Links.behaviour unreliable allowed) (reconcile wanted) r l
      (fun _ r' l' => (∀ j, l'.tagAt? j = l.tagAt? j) ∧ r'.connected = true)
      (fun _ _ _ => unreliable) := by
  -- in the first round everything is registered, and then nothing is left to be done
  refine ensures_reconcile (F := fun _ l' => ∀ j, l'.tagAt? j = l.tagAt? j)
    (fun rest registry l' => (∀ j, l'.tagAt? j = l.tagAt? j) ∧
      (∀ x ∈ rest, l'.interfaces.get? x.1 = some x.2) ∧
      ∀ x ∈ l.interfaces.entries, x ∈ rest ∨ registry.contains (x.2.nameAt x.1) = true)
    (fun _ registry l' => (∀ j, l'.tagAt? j = l.tagAt? j) ∧
      ∀ w ∈ wanted, registry.contains w.name = true)
    (fun _ registry l' => (∀ j, l'.tagAt? j = l.tagAt? j) ∧
      ∀ w ∈ wanted, registry.contains w.name = true)
    connected dump dumpSockets ?start ?tagged ?between ?untagged (fun _ _ all => all) ?missing
    (fun _ _ all => all.1) (fun faulty _ _ _ _ => faulty) (fun faulty _ _ _ _ _ => faulty)
  case start =>
    exact ⟨fun _ => rfl, fun x there => Table.mem_entries.mp there, fun x there => Or.inl there⟩
  case tagged =>
    rintro x rest suffix r' l' ⟨tags, ahead, state⟩ connected'
    have found : l.interfaces.get? x.1 = some x.2 :=
      Table.mem_entries.mp (suffix.subset List.mem_cons_self)
    refine (ensures_settleTagged_labelled proper (labelled.named x.1 x.2 found)
      (ahead x List.mem_cons_self) (fun name => tag name _) (change x.1 x.2 found)).mono ?_
      fun _ _ _ => id
    rintro _ r'' l'' ⟨⟨data, registered⟩, kept, i, name, changed⟩
    have same := changed.tagAt?_eq (ahead x List.mem_cons_self) name
    refine ⟨⟨fun j => (same j).trans (tags j), fun y later => ?_,
      ahead_or_done state ?_ fun y done => ?_⟩, kept.trans connected'⟩
    · -- what is still ahead is at another index
      have other : y.1 ≠ x.1 := ((among_rest suffix.sublist y.1).mp ⟨y.2, later⟩).2
      rw [changed.get?_ne other]
      exact ahead y (List.mem_cons_of_mem x later)
    · rw [registered, Registry.contains_register, decide_eq_true rfl, Bool.true_or]
    · rw [registered, Registry.contains_register, done, Bool.or_true]
  case between =>
    rintro registry l' ⟨tags, -, state⟩
    exact ⟨tags, labelled.all_registered fun x there =>
      (state x there).resolve_left List.not_mem_nil⟩
  case untagged =>
    intro x rest suffix
    rw [filter_isUntagged_eq_nil proper labelled] at suffix
    exact absurd (suffix.subset List.mem_cons_self) List.not_mem_nil
  case missing =>
    intro w rest suffix r' l' all connected'
    simp only [settleMissing, Pass.ensures_bind, Pass.ensures_get,
      all.2 w (suffix.subset List.mem_cons_self), if_true, Pass.ensures_pure]
    exact ⟨all, connected'⟩

end InterfaceReconciler

/-! ### Where nothing has to be changed -/

/-- Whether a call creates, modifies or removes an interface. -/
def Call.changesInterfaces : Call → Bool
  | interface (.configure _) => true
  | interface (.modify _ _ _) => true
  | interface (.delete _ _) => true
  | _ => false

/-- The interfaces of a dataplane are as wanted, and the wanted ones are there. -/
structure AsWanted (wanted : List Interface) (t : Table UInt32 InterfaceDetails) : Prop where
  fits : ∀ j d, t.get? j = some d → j ≠ 0 →
    ∃ w ∈ wanted, w.name = d.interface.name ∧ firstDifference w d.interface = none
  there : ∀ w ∈ wanted, ∃ j d, t.get? j = some d ∧ d.nameAt j = w.name

theorem AsWanted.labelled {wanted : List Interface} {t : Table UInt32 InterfaceDetails}
    (asWanted : AsWanted wanted t) : Labelled wanted t where
  named j d found device := by
    obtain ⟨w, member, named, -⟩ := asWanted.fits j d found device
    exact ⟨w, member, named⟩
  there := asWanted.there

/-- After a pass that came to its end the interfaces are as wanted, if the wanted ones can be
compared. -/
theorem Finished.asWanted {neat : Prop} {wanted : List Interface} {registry : Registry Interface}
    {l : Links} (finished : Finished neat wanted registry l)
    (comparable : ∀ w ∈ wanted, w.Comparable) : AsWanted wanted l.interfaces where
  fits := by
    intro j d found device
    have settled := finished.progress.underway.settled j d found device
    obtain ⟨w, member, named, suits⟩ := settled.resolve_left id
    refine ⟨w, member, named, ?_⟩
    rcases suits with same | same
    · rw [same]
      exact firstDifference_self (comparable w member)
    · exact same
  there := finished.labelled.there

namespace InterfaceReconciler

variable {unreliable : Prop} {r : InterfaceReconciler} {l : Links} {wanted : List Interface}

/-- The calls of a pass that finds nothing to change. -/
def Quiet (c : Call) : Prop := c.changesInterfaces = false

/-- A pass over interfaces that are as wanted makes only quiet calls, and comes to its end. -/
theorem ensures_quiet (proper : Proper False wanted) (asWanted : AsWanted wanted l.interfaces)
    (connected : r.connected = true) :
    Pass.Ensures (Links.behaviour unreliable Quiet) (reconcile wanted) r l
      (fun _ _ _ => True) (fun _ _ _ => unreliable) := by
  have whole : Pass.Ensures (Links.behaviour unreliable Quiet) (reconcile wanted) r l
      (fun _ r' l' => (∀ j, l'.tagAt? j = l.tagAt? j) ∧ r'.connected = true)
      (fun _ _ _ => unreliable) := by
    refine ensures_labelled proper asWanted.labelled connected rfl rfl (fun _ _ => rfl) ?_
    -- the one wanted interface of the name is the one that does not differ
    intro j d found device w member named aspect differs
    obtain ⟨v, member', named', same⟩ := asWanted.fits j d found device
    rw [proper.apart w member v member' (named.trans named'.symm), same] at differs
    contradiction
  exact whole.mono (fun _ _ _ _ => trivial) fun _ _ _ => id

/-- Where the interfaces are as wanted, a pass without refusals comes to its end and makes only
quiet calls. -/
theorem exists_quiet_run {s : Simulation} (proper : Proper False wanted)
    (asWanted : AsWanted wanted s.links.interfaces) (calm : s.failing = [])
    (connected : r.connected = true) :
    ∃ r' t, Trial.run (reconcile wanted r) { simulation := s } = some ((.ok (), r'), t) ∧
      ∀ c ∈ t.calls, c.changesInterfaces = false := by
  obtain ⟨⟨⟩, r', t, result, -, quiet⟩ := Trial.exists_run_of_links
    (ensures_quiet proper asWanted connected) calm fun _ => Bool.noConfusion
  exact ⟨r', t, result, quiet⟩

/-- The second of two passes with the same wanted interfaces, be it by the same reconciler or by
another one, comes to its end as well, and it creates, modifies and removes no interface. -/
theorem reconcile_twice {snapshot : Snapshot} {s : Simulation} {r r₁ : InterfaceReconciler}
    {t₁ : Trial} {wanted : List Interface} (start : Simulation.ofSnapshot? snapshot = some s)
    (connected : r.connected = true) (accepted : Accepted wanted)
    (comparable : ∀ w ∈ wanted, w.Comparable)
    (first : Trial.run (reconcile wanted r) { simulation := s } = some ((.ok (), r₁), t₁)) :
    r₁.connected = true ∧ ∀ r' : InterfaceReconciler, r'.connected = true →
      ∃ r₂ t₂, Trial.run (reconcile wanted r') { simulation := t₁.simulation } =
          some ((.ok (), r₂), t₂) ∧
        ∀ c ∈ t₂.calls, c.changesInterfaces = false := by
  obtain ⟨-, bounded, calm⟩ := Simulation.ofSnapshot?_eq_some start
  have proper : Proper False wanted := Proper.of_accepted accepted False.elim
  have ensures : Program.Ensures (Simulation.behaviour False fun _ => True)
      (reconcile wanted r) s _ :=
    Simulation.ensures_of_links (ensures_pass proper ⟨bounded, False.elim, connected⟩)
      (Or.inl calm)
  obtain ⟨⟨failing, finished, connected₁⟩, -⟩ :=
    Trial.result_of_ensures ensures (Or.inl rfl) first
  refine ⟨connected₁, fun r' connected' => ?_⟩
  exact exists_quiet_run proper (finished.asWanted comparable) (failing.trans calm) connected'

/-- A dataplane with two interfaces of one tag that are not as wanted, one that is
no longer wanted and two without a tag. -/
def crowdedSnapshot : Snapshot where
  interfaces :=
    [{ interface := { name := "uplink", mtu := 1500 }, internalName := "loop1", index := 1 },
      { interface := { name := "uplink", enabled := true }, internalName := "loop2", index := 2 },
      { interface := { name := "spare" }, internalName := "loop3", index := 3 },
      { interface := { addresses := ["10.0.0.1/24"] }, internalName := "loop4", index := 4 },
      { interface := { vrf := 7, addresses := ["fe80::1/64"] }
        internalName := "loop5"
        index := 5 }]

/-- One interface to modify, one to adopt and one to create. -/
def crowdedWanted : List Interface :=
  [{ name := "uplink" }, { name := "lan", addresses := ["10.0.0.1/24"] },
    { name := "tunnel", type := .vxlanTunnel, addresses := ["2001:db8::1/64"] }]

/-- A second pass over the crowded dataplane changes nothing. -/
theorem reconcile_twice_crowded :
    ∃ s r₁ t₁ r₂ t₂, Simulation.ofSnapshot? crowdedSnapshot = some s ∧
      Trial.run (reconcile crowdedWanted {}) { simulation := s } = some ((.ok (), r₁), t₁) ∧
      Trial.run (reconcile crowdedWanted r₁) { simulation := t₁.simulation } =
        some ((.ok (), r₂), t₂) ∧
      ∀ c ∈ t₂.calls, c.changesInterfaces = false := by
  have goes : (Simulation.ofSnapshot? crowdedSnapshot).any (fun s =>
      Trial.succeeds (reconcile crowdedWanted {}) { simulation := s }) = true := by
    decide +kernel
  obtain ⟨s, start, goes⟩ := (Option.any_eq_true _ _).mp goes
  obtain ⟨u, r₁, t₁, first⟩ := Trial.exists_of_succeeds goes
  have accepted : Accepted crowdedWanted := by
    simp [crowdedWanted, Accepted, Configuration.validate_eq_ok_iff]
  obtain ⟨connected, again⟩ := reconcile_twice start rfl accepted (by decide +kernel) first
  obtain ⟨r₂, t₂, second, quiet⟩ := again r₁ connected
  exact ⟨s, r₁, t₁, r₂, t₂, start, first, second, quiet⟩

end InterfaceReconciler

end DataplaneSync
