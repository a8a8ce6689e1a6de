import DataplaneSync.Proofs.InterfacePass
import DataplaneSync.Proofs.Trial

namespace DataplaneSync

/-!
# Convergence of the interfaces

After any passes over the interfaces, each of them with a list of its own and cut short or not,
one pass without refusals brings the dataplane to its list.

* `Converged` — the interfaces are the wanted ones, and the registry shows just them and the
  device at index 0.
* `InterfaceReconciler.Attempt` — a pass in which any call may be refused.
* `InterfaceReconciler.reconcile_converges` — the pass without refusals converges.
-/

open Interface

/-! ### Where a pass gets to -/

/-- The interface of a name is at an index other than the device's. -/
def Table.Has (t : Table UInt32 InterfaceDetails) (index : UInt32) (name : String) : Prop :=
  index ≠ 0 ∧ ∃ d, t.get? index = some d ∧ d.interface.name = name

/-- The interfaces of a dataplane are the wanted ones, by their tags, and so the registry says. -/
structure Converged (wanted : List Interface) (registry : Registry Interface)
    (t : Table UInt32 InterfaceDetails) : Prop where
  /-- Every wanted interface is there, once. -/
  present : ∀ w ∈ wanted, ∃! index, t.Has index w.name
  /-- Every interface is one that is wanted, once. -/
  expected : ∀ index name, t.Has index name → ∃! w, w ∈ wanted ∧ w.name = name
  suits : ∀ w ∈ wanted, ∀ index d, index ≠ 0 → t.get? index = some d →
    d.interface.name = w.name → d.interface = w ∨ firstDifference w d.interface = none
  /-- The device at index 0 and the wanted interfaces are registered, and nothing else is. -/
  registered : ∀ name index, (∃ data, registry.lookup? name = some (index, data)) ↔
    name = localName ∧ index = 0 ∨ (∃ w ∈ wanted, w.name = name) ∧ t.Has index name
  /-- A name is found under an index exactly if the index is found under the name. -/
  reverse : ∀ index name data,
    registry.nameAt? index = some (name, data) ↔ registry.lookup? name = some (index, data)

variable {wanted : List Interface} {registry : Registry Interface} {l : Links}

/-- Where tags tell the interfaces apart, none is at two indexes. -/
theorem Table.WellTagged.eq_of_has {t : Table UInt32 InterfaceDetails} (tagged : t.WellTagged)
    {i j : UInt32} {name : String} (some_ : name ≠ "") (first : t.Has i name)
    (second : t.Has j name) : i = j := by
  obtain ⟨hi, d, hd, rfl⟩ := first
  obtain ⟨hj, e, he, same⟩ := second
  refine tagged.distinct i j d e hd he ?_ ?_
  · rw [d.nameAt_of_ne hi, e.nameAt_of_ne hj, same]
  · rw [d.nameAt_of_ne hi]
    exact some_

/-- What is registered is either the device or the wanted interface of the name. -/
theorem Finished.registered_at (finished : Finished True wanted registry l) {name : String}
    {index : UInt32} {data : Interface} (found : registry.lookup? name = some (index, data)) :
    name = localName ∧ index = 0 ∨
      (∃ w ∈ wanted, w.name = name) ∧ l.interfaces.Has index name := by
  have underway := finished.progress.underway
  obtain ⟨device, there, isLocal⟩ := (finished.progress.orderly trivial).tagged.device
  obtain ⟨-, d, at_, named⟩ := underway.registered name index data found
  by_cases zero : index = 0
  · subst zero
    obtain rfl : d = device := Option.some.inj (at_.symm.trans there)
    exact Or.inl ⟨named.symm.trans isLocal, rfl⟩
  · rw [d.nameAt_of_ne zero] at named
    obtain ⟨w, member, same, -⟩ := (underway.settled index d at_ zero).resolve_left id
    exact Or.inr ⟨⟨w, member, same.trans named⟩, zero, d, at_, named⟩

/-- A dataplane has converged once nothing is ahead of a pass and names tell its interfaces
apart. -/
theorem Finished.converged (proper : Proper True wanted)
    (finished : Finished True wanted registry l) : Converged wanted registry l.interfaces := by
  have underway := finished.progress.underway
  have orderly := finished.progress.orderly trivial
  refine ⟨?present, ?expected, ?suits, ?registered, fun index name data =>
    orderly.faithful.nameAt?_eq_some⟩
  case present =>
    intro w member
    obtain ⟨index, data, found⟩ := Registry.contains_iff.mp (finished.all w member)
    rcases finished.registered_at found with ⟨isLocal, -⟩ | ⟨-, has⟩
    · exact absurd isLocal (proper.ordinary trivial w member).2
    · exact ⟨index, has, fun j hasj =>
        orderly.tagged.eq_of_has (proper.named w member) hasj has⟩
  case expected =>
    rintro index name ⟨device, d, at_, rfl⟩
    obtain ⟨w, member, same, -⟩ := (underway.settled index d at_ device).resolve_left id
    exact ⟨w, ⟨member, same⟩, fun v hv => proper.apart v hv.1 w member (hv.2.trans same.symm)⟩
  case suits =>
    intro w member index d device at_ named
    obtain ⟨v, hv, same, suits⟩ := (underway.settled index d at_ device).resolve_left id
    obtain rfl : v = w := proper.apart v hv w member (same.trans named)
    exact suits
  case registered =>
    intro name index
    refine ⟨fun ⟨data, found⟩ => finished.registered_at found, ?_⟩
    rintro (⟨rfl, rfl⟩ | ⟨-, other, d, at_, rfl⟩)
    · obtain ⟨device, there, isLocal⟩ := orderly.tagged.device
      have found := (orderly.complete 0 device there).resolve_left id
      rwa [InterfaceDetails.nameAt_zero, isLocal] at found
    · have found := (orderly.complete index d at_).resolve_left id
      rwa [d.nameAt_of_ne other] at found

/-! ### Attempts -/

namespace InterfaceReconciler

/-- No wanted interface has the name of the device at index 0, nor the one under which untagged
interfaces are removed. -/
def Ordinary (wanted : List Interface) : Prop :=
  ∀ w ∈ wanted, w.name ≠ placeholderName ∧ w.name ≠ localName

/-- A pass in which some calls are refused. -/
structure Attempt where
  wanted : List Interface
  /-- The reason why each of the next calls is refused, if it is. -/
  refusals : List (Option String)

/-- The reconciler and the dataplane after an attempt, whether it came to its end or not. -/
def Attempt.run (state : InterfaceReconciler × Simulation) (a : Attempt) :
    Option (InterfaceReconciler × Simulation) :=
  (Trial.run (reconcile a.wanted state.1) { simulation := state.2, refusals := a.refusals }).map
    fun ((_, r), t) => (r, t.simulation)

variable {r r' : InterfaceReconciler} {s s' : Simulation}

/-- An attempt leaves names that tell the interfaces apart. -/
theorem Attempt.steady_run {a : Attempt} (accepted : Accepted a.wanted)
    (ordinary : Ordinary a.wanted) (steady : Steady True r s.links) (calm : s.failing = [])
    (ran : a.run (r, s) = some (r', s')) : Steady True r' s'.links ∧ s'.failing = [] := by
  obtain ⟨⟨⟨end_, r₁⟩, t⟩, result, same⟩ := Option.map_eq_some_iff.mp ran
  obtain ⟨rfl, rfl⟩ := Prod.mk.inj same
  have proper : Proper True a.wanted := Proper.of_accepted accepted fun _ => ordinary
  obtain ⟨failing, ⟨_, -, finished, connected⟩ | ⟨_, -, -, steady'⟩⟩ :=
    Trial.end_of_links (ensures_pass proper steady) result
  · refine ⟨⟨?_, ?_, connected⟩, failing.trans calm⟩
    · exact finished.progress.underway.bounded
    · exact fun h => (finished.progress.orderly h).tagged
  · exact ⟨steady', failing.trans calm⟩

/-- What each of some attempts keeps, they keep together. -/
theorem Attempt.runs_induction {P : InterfaceReconciler → Simulation → Prop}
    {attempts : List Attempt}
    (each : ∀ a ∈ attempts, ∀ r s r' s', P r s → a.run (r, s) = some (r', s') → P r' s')
    (start : P r s) (ran : attempts.foldlM Attempt.run (r, s) = some (r', s')) : P r' s' := by
  induction attempts generalizing r s with
  | nil =>
    obtain ⟨rfl, rfl⟩ : r = r' ∧ s = s' := by simpa using ran
    exact start
  | cons a rest ih =>
    rw [List.foldlM_cons, Option.bind_eq_bind, Option.bind_eq_some_iff] at ran
    obtain ⟨⟨r₁, s₁⟩, first, later⟩ := ran
    exact ih (fun b hb => each b (List.mem_cons_of_mem a hb))
      (each a List.mem_cons_self r s r₁ s₁ start first) later

/-- Any number of attempts leaves names that tell the interfaces apart. -/
theorem Attempt.steady_runs {attempts : List Attempt}
    (proper : ∀ a ∈ attempts, Accepted a.wanted ∧ Ordinary a.wanted)
    (steady : Steady True r s.links) (calm : s.failing = [])
    (ran : attempts.foldlM Attempt.run (r, s) = some (r', s')) :
    Steady True r' s'.links ∧ s'.failing = [] := by
  refine Attempt.runs_induction (P := fun r s => Steady True r s.links ∧ s.failing = []) ?_
    ⟨steady, calm⟩ ran
  rintro a member r s r' s' ⟨steady, calm⟩ ran
  obtain ⟨accepted, ordinary⟩ := proper a member
  exact a.steady_run accepted ordinary steady calm ran

/-- A pass without refusals comes to its end and brings the dataplane to the wanted interfaces,
whatever passes there were before it. -/
theorem reconcile_converges {snapshot : Snapshot} {s₀ s₁ : Simulation}
    {r₀ r₁ : InterfaceReconciler} {earlier : List Attempt} {wanted : List Interface}
    (start : Simulation.ofSnapshot? snapshot = some s₀)
    (tagged : (Simulation.interfacesOf snapshot).WellTagged)
    (connected : r₀.connected = true)
    (proper : ∀ a ∈ earlier, Accepted a.wanted ∧ Ordinary a.wanted)
    (ran : earlier.foldlM Attempt.run (r₀, s₀) = some (r₁, s₁))
    (accepted : Accepted wanted) (ordinary : Ordinary wanted)
    (room : Trial.hasRoom (reconcile wanted r₁) { simulation := s₁ } = true) :
    ∃ r₂ t, Trial.run (reconcile wanted r₁) { simulation := s₁ } = some ((.ok (), r₂), t) ∧
      Converged wanted r₂.registry t.simulation.links.interfaces := by
  obtain ⟨interfaces, bounded, calm⟩ := Simulation.ofSnapshot?_eq_some start
  have steady₀ : Steady True r₀ s₀.links := ⟨bounded, fun _ => interfaces ▸ tagged, connected⟩
  -- whatever the earlier passes did, names still tell the interfaces apart
  obtain ⟨steady₁, calm₁⟩ := Attempt.steady_runs proper steady₀ calm ran
  have proper₁ : Proper True wanted := Proper.of_accepted accepted fun _ => ordinary
  have ensures : Program.Ensures (Simulation.behaviour False fun _ => True)
      (reconcile wanted r₁) s₁ _ :=
    Simulation.ensures_of_links (ensures_pass proper₁ steady₁) (Or.inl calm₁)
  obtain ⟨⟨end_, r₂⟩, t, result⟩ := Trial.exists_run_of_hasRoom room
  obtain ⟨⟨-, reached⟩, -⟩ := Trial.result_of_ensures ensures (Or.inl rfl) result
  cases end_ with
  | ok u => exact ⟨r₂, t, result, reached.1.converged proper₁⟩
  | error e => exact reached.1.elim

/-- A dataplane with a tagged interface, one that is no longer wanted and one without a tag. -/
def mixedSnapshot : Snapshot where
  interfaces :=
    [{ interface := { name := "uplink", mtu := 1500 }, internalName := "loop1", index := 1 },
      { interface := { name := "spare" }, internalName := "loop2", index := 2 },
      { interface := { addresses := ["10.0.0.1/24"] }, internalName := "loop5", index := 5 }]

/-- A pass that is cut short when it modifies an interface, and one when it removes one. -/
def mixedAttempts : List Attempt :=
  [{ wanted := [{ name := "uplink" }], refusals := [none, none, none, none, some "busy"] },
    { wanted := [{ name := "other" }], refusals := [none, none, none, none, some "busy"] }]

/-- What is wanted in the end: one interface to modify, one to adopt and two to create. -/
def mixedWanted : List Interface :=
  [{ name := "uplink" }, { name := "tunnel", type := .vxlanTunnel },
    { name := "lan", addresses := ["10.0.0.1/24"] }, { name := "spare" }]

/-- After two passes that are cut short, a pass without refusals brings the mixed dataplane to four
interfaces. -/
theorem reconcile_converges_mixed :
    ∃ s₀ r₁ s₁ r₂ t, Simulation.ofSnapshot? mixedSnapshot = some s₀ ∧
      mixedAttempts.foldlM Attempt.run ({}, s₀) = some (r₁, s₁) ∧
      Trial.run (reconcile mixedWanted r₁) { simulation := s₁ } = some ((.ok (), r₂), t) ∧
      Converged mixedWanted r₂.registry t.simulation.links.interfaces := by
  have goes : (Simulation.ofSnapshot? mixedSnapshot).any (fun s₀ =>
      (mixedAttempts.foldlM Attempt.run ({}, s₀)).any fun x =>
        Trial.hasRoom (reconcile mixedWanted x.1) { simulation := x.2 }) = true := by
    decide +kernel
  obtain ⟨s₀, start, goes⟩ := (Option.any_eq_true _ _).mp goes
  obtain ⟨⟨r₁, s₁⟩, ran, room⟩ := (Option.any_eq_true _ _).mp goes
  have proper : ∀ a ∈ mixedAttempts, Accepted a.wanted ∧ Ordinary a.wanted := by
    simp [mixedAttempts, Accepted, Ordinary, Configuration.validate_eq_ok_iff, placeholderName,
      localName]
  have accepted : Accepted mixedWanted := by
    simp [mixedWanted, Accepted, Configuration.validate_eq_ok_iff]
  have ordinary : Ordinary mixedWanted := by
    simp [mixedWanted, Ordinary, placeholderName, localName]
  obtain ⟨r₂, t, result, converged⟩ := reconcile_converges start (by decide +kernel) rfl
    proper ran accepted ordinary room
  exact ⟨s₀, r₁, s₁, r₂, t, start, ran, result, converged⟩

end InterfaceReconciler

end DataplaneSync
