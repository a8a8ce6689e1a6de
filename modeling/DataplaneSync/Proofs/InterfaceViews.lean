import DataplaneSync.Proofs.InterfaceConvergence
import DataplaneSync.Proofs.RegistryFidelity

namespace DataplaneSync

/-!
# What is shown of the interfaces

Beside the registry there are two tables by name: the host interfaces of AF-packet interfaces, and
the states that the dataplane reported.  When a pass comes to its end, they are about exactly what
is registered, whatever passes there were before it.

* `Links.Around` — the device at index 0 stays as it is.
* `InterfaceReconciler.get?_statesIn` — there is a state for each registered name with an interface.
* `InterfaceReconciler.Hosting` — the host interfaces are those of the registered interfaces.
* `InterfaceReconciler.FirstRound` — why a name that is registered again leaves none behind.
* `InterfaceReconciler.ensures_hosting` — the whole pass.
* `InterfaceReconciler.views_agree` — the three tables agree with each other and with the dataplane.
-/

/-! ### The device at index 0 -/

/-- Whether a call is about interfaces, and neither modifies nor removes the device at index 0. -/
def Call.SparesDevice : Call → Prop
  | .interface (.modify _ _ index) => index ≠ 0
  | .interface (.delete _ index) => index ≠ 0
  | .interface _ => True
  | _ => False

theorem Call.isInterface_of_sparesDevice {c : Call} (spares : c.SparesDevice) :
    c.IsInterface := by
  cases c with
  | interface call => exact ⟨call, rfl⟩
  | stn call => exact spares.elim
  | bfd call => exact spares.elim
  | nat call => exact spares.elim

/-- A given device is at index 0, and every interface lies below the index of the next new one. -/
structure Links.Around (device : InterfaceDetails) (l : Links) : Prop where
  device : l.interfaces.get? 0 = some device
  bounded : l.Bounded

namespace Links.Around

open InterfaceCall

variable {device : InterfaceDetails} {l l' : Links} {unreliable : Prop} {allowed : Call → Prop}

/-- What happens to another interface does not concern the device. -/
theorem updated {index : UInt32} {d : InterfaceDetails} {entry : Option InterfaceDetails}
    (h : l.Around device) (present : l.interfaces.get? index = some d) (other : index ≠ 0)
    (changed : l.Updated index entry l') : l'.Around device where
  device := (changed.get?_ne other.symm).trans h.device
  bounded := h.bounded.updated ⟨d, present⟩ changed

/-- Calls that spare the device leave it as it is, however they are answered. -/
theorem answered {c : Call} {answer : Answer c} (h : l.Around device) (spares : c.SparesDevice)
    (given : (behaviour unreliable allowed).answers l c answer l') : l'.Around device := by
  obtain ⟨call, rfl⟩ := Call.isInterface_of_sparesDevice spares
  rcases given.refused_or_carried call.atomic_perform with rfl | ⟨reply, carried⟩
  · exact h
  obtain rfl | ⟨d, index, i, present, modifies, rfl⟩ | ⟨i, -, room, rfl⟩ |
      ⟨d, actual, index, present, rfl, rfl⟩ := cases_of_perform carried
  · exact h
  · refine h.updated present (fun zero => ?_) (updated_replace l index d i)
    obtain ⟨wanted, actual, rfl⟩ := modifies zero
    exact spares zero
  · refine ⟨?_, h.bounded.added room i⟩
    rw [get?_added, if_neg (UInt32.ne_of_lt h.bounded.positive)]
    exact h.device
  · exact h.updated present spares (updated_without l index)

end Links.Around

/-! ### States -/

/-- Only an AF-packet interface with a link has a host interface. -/
theorem Interface.hostInterface?_eq_some {i : Interface} {host : String} :
    i.hostInterface? = some host ↔
      i.type = .afPacketInterface ∧ ∃ link, i.afPacket = some link ∧ link.hostInterface = host := by
  unfold hostInterface?
  split
  · next packet => simp [packet]
  · next other => simp [other]

namespace InterfaceReconciler

/-- There is a state for each name that is registered under the index of an interface. -/
theorem get?_statesIn {registry : Registry Interface} (faithful : registry.Faithful)
    (actual : Table UInt32 InterfaceDetails) (name : String) :
    (statesIn registry actual).get? name =
      (registry.lookup? name).bind fun e => (actual.get? e.1).map (stateOf name e.1) := by
  refine Option.ext fun state => ?_
  rw [statesIn, Table.get?_ofList (Table.nodup_keys_filterMap faithful.truthful.nodup_names ?once),
    List.mem_filterMap, Option.bind_eq_some_iff]
  case once =>
    intro x e shown
    obtain ⟨d, -, rfl⟩ := Option.map_eq_some_iff.mp shown
    rfl
  constructor
  · rintro ⟨⟨_, index, i⟩, listed, shown⟩
    obtain ⟨d, there, same⟩ := Option.map_eq_some_iff.mp shown
    obtain ⟨rfl, rfl⟩ := Prod.mk.inj same
    have found := faithful.nameAt?_eq_some.mp (Registry.mem_toList.mp listed)
    exact ⟨(index, i), found, Option.map_eq_some_iff.mpr ⟨d, there, rfl⟩⟩
  · rintro ⟨⟨index, i⟩, found, shown⟩
    obtain ⟨d, there, rfl⟩ := Option.map_eq_some_iff.mp shown
    refine ⟨(name, index, i), Registry.mem_toList.mpr (faithful.nameAt?_eq_some.mpr found), ?_⟩
    exact Option.map_eq_some_iff.mpr ⟨d, there, rfl⟩

/-! ### Host interfaces -/

/-- The host interfaces are those of the interfaces that are registered. -/
def Hosting (r : InterfaceReconciler) : Prop :=
  ∀ name, r.hosts.get? name = (r.registry.lookup? name).bind fun e => e.2.hostInterface?

/-- An interface has been registered under a name, with its host interface if it has one. -/
structure Enrolled (name : String) (index : UInt32) (i : Interface) (r r' : InterfaceReconciler) :
    Prop where
  registry : r'.registry = r.registry.register name index i
  hosts : r'.hosts = (cacheHost name i r).hosts
  skips : r'.skipRefresh = r.skipRefresh

/-- Nothing is known of a name any more. -/
structure Discarded (name : String) (r r' : InterfaceReconciler) : Prop where
  lookup? : ∀ other,
    r'.registry.lookup? other = if other = name then none else r.registry.lookup? other
  hosts : ∀ other, r'.hosts.get? other = if other = name then none else r.hosts.get? other
  skips : r'.skipRefresh = r.skipRefresh

variable {r r' : InterfaceReconciler} {name : String} {index : UInt32} {i : Interface}

/-- An interface without a host interface leaves what was known of its name. -/
theorem get?_hosts_cacheHost (name : String) (i : Interface) (r : InterfaceReconciler)
    (other : String) : (cacheHost name i r).hosts.get? other =
      if other = name then i.hostInterface?.or (r.hosts.get? name) else r.hosts.get? other := by
  unfold cacheHost
  split
  · next host some_ => simp [some_]
  · next none_ =>
    rw [none_]
    split
    · next same => rw [same, Option.none_or]
    · rfl

namespace Hosting

variable (h : Hosting r)

include h

/-- Nothing is known of the host interface of a name that is not registered. -/
theorem get?_eq_none (free : r.registry.contains name = false) : r.hosts.get? name = none := by
  have absent : r.registry.lookup? name = none := Option.isNone_iff_eq_none.mp (by
    simpa [Registry.contains, Registry.lookup?, Table.contains] using free)
  rw [h name, absent, Option.bind_none]

/-- An interface may be registered if it has a host interface, or none is known of its name. -/
theorem enrolled (step : Enrolled name index i r r')
    (cleared : i.hostInterface? = none → r.hosts.get? name = none) : Hosting r' := by
  intro other
  rw [step.hosts, step.registry, get?_hosts_cacheHost, Registry.lookup?_register]
  split
  · -- what was known of the name stays if there is nothing to put in its place
    cases host : i.hostInterface? with
    | none => simp [host, cleared host]
    | some _ => simp [host]
  · exact h other

theorem discarded (step : Discarded name r r') : Hosting r' := by
  intro other
  rw [step.hosts, step.lookup?]
  split
  · rfl
  · exact h other

end Hosting

/-! ### Steps -/

variable {unreliable : Prop} {l : Links} {wanted : List Interface} {w : Interface}

/-- A change that spares the device is carried out or ends the pass.  What is known afterwards does
not depend on the dataplane, so nothing has to be known of it. -/
theorem ensures_change_sparing {c : InterfaceCall} {subject : Answer (.interface c) → AuditSubject}
    {failure : String → InterfaceFailure} {Q : c.Reply → InterfaceReconciler → Links → Prop}
    (spares : Call.SparesDevice (.interface c)) (done : ∀ reply l', Q reply r l') :
    Pass.Ensures (Links.behaviour unreliable Call.SparesDevice)
      (Pass.change (.interface c) subject failure) r l Q fun _ _ _ => True := by
  rw [Pass.ensures_change]
  refine ⟨⟨rfl, spares⟩, fun answer l' _ => ?_⟩
  cases answer with
  | ok reply => exact done reply l'
  | error reason => trivial

theorem ensures_register_enrolled (l : Links) :
    Pass.Ensures (Links.behaviour unreliable Call.SparesDevice) (register name index i) r l
      (fun _ r' _ => Enrolled name index i r r') fun _ _ _ => True := by
  simp only [register, Pass.ensures_bind, Pass.ensures_modify, Pass.ensures_get]
  refine ensures_change_sparing trivial fun _ _ => ⟨by simp, ?_, by simp [enroll]⟩
  unfold cacheHost
  split <;> rfl

/-- An interface that is kept for a wanted one is registered. -/
theorem ensures_adopt_enrolled (device : index ≠ 0) (actual : Interface) :
    Pass.Ensures (Links.behaviour unreliable Call.SparesDevice)
      (do register w.name index w; adjust w actual index) r l
      (fun _ r' _ => Enrolled w.name index w r r') fun _ _ _ => True := by
  rw [Pass.ensures_bind]
  refine (ensures_register_enrolled l).mono (fun _ r₁ _ step => ?_) fun _ _ _ _ => trivial
  unfold adjust
  split
  · exact step
  · simp only [Pass.ensures_bind, Pass.ensures_modify, Pass.ensures_get]
    exact ensures_change_sparing device fun _ _ => ⟨step.registry, step.hosts, step.skips⟩

/-- Of an interface that is removed nothing is known afterwards. -/
theorem ensures_discard_discarded (device : index ≠ 0) (actual : Interface) :
    Pass.Ensures (Links.behaviour unreliable Call.SparesDevice)
      (do register name index actual; remove name actual index) r l
      (fun _ r' _ => Discarded name r r') fun _ _ _ => True := by
  rw [Pass.ensures_bind]
  refine (ensures_register_enrolled l).mono (fun _ r₁ _ step => ?_) fun _ _ _ _ => trivial
  simp only [remove, Pass.ensures_bind, Pass.ensures_modify, Pass.ensures_get]
  refine ensures_change_sparing device fun _ _ => ⟨fun other => ?_, fun other => ?_, ?_⟩
  · -- the name stands for the interface by now, so it is dropped
    rw [dismiss_registry ⟨actual, by rw [step.registry, Registry.lookup?_register, if_pos rfl]⟩,
      step.registry, Registry.lookup?_drop, Registry.lookup?_register]
    split <;> rfl
  · rw [Table.get?_erase, dismiss_hosts, step.hosts, get?_hosts_cacheHost]
    split <;> rfl
  · exact dismiss_skipRefresh.trans step.skips

/-- A new interface is registered. -/
theorem ensures_create_enrolled :
    Pass.Ensures (Links.behaviour unreliable Call.SparesDevice) (create w) r l
      (fun _ r' _ => ∃ index, Enrolled w.name index w r r') fun _ _ _ => True := by
  simp only [create, Pass.ensures_bind, Pass.ensures_modify, Pass.ensures_get]
  refine ensures_change_sparing trivial fun index _ => ⟨index, by simp, ?_, by simp [enroll]⟩
  unfold cacheHost
  split <;> rfl

/-! ### Stages -/

/-- How things stand in the first round.  A name may come to be registered more than once, but then
each time for one and the same wanted interface, unless it was the name of the device, which has
no host interface and comes first. -/
structure FirstRound (wanted : List Interface) (rest : List (UInt32 × InterfaceDetails))
    (r : InterfaceReconciler) : Prop where
  hosting : Hosting r
  known : ∀ name index i, r.registry.lookup? name = some (index, i) →
    i.hostInterface? = none ∨ wanted.find? (·.name == name) = some i
  device : ∀ d, (0, d) ∈ rest → ∀ name, r.registry.contains name = false

namespace FirstRound

variable {rest rest' : List (UInt32 × InterfaceDetails)} (h : FirstRound wanted rest r)

include h

/-- If the wanted interface of a name has no host interface, none is known of the name. -/
theorem cleared (found : wanted.find? (·.name == name) = some w) (none_ : w.hostInterface? = none) :
    r.hosts.get? name = none := by
  rw [h.hosting name, Option.bind_eq_none_iff]
  rintro ⟨index, i⟩ registered
  rcases h.known name index i registered with hostless | same
  · exact hostless
  · obtain rfl : w = i := Option.some.inj (found.symm.trans same)
    exact none_

theorem enrolled (step : Enrolled name index i r r')
    (fits : i.hostInterface? = none ∨ wanted.find? (·.name == name) = some i)
    (cleared : i.hostInterface? = none → r.hosts.get? name = none)
    (passed : ∀ d, (0, d) ∉ rest') : FirstRound wanted rest' r' where
  hosting := h.hosting.enrolled step cleared
  known := by
    intro other j e registered
    rw [step.registry, Registry.lookup?_register] at registered
    split at registered
    · next same =>
      obtain ⟨-, rfl⟩ := Prod.mk.inj (Option.some.inj registered)
      exact same ▸ fits
    · exact h.known other j e registered
  device d ahead := absurd ahead (passed d)

theorem discarded (step : Discarded name r r') (passed : ∀ d, (0, d) ∉ rest') :
    FirstRound wanted rest' r' where
  hosting := h.hosting.discarded step
  known := by
    intro other j e registered
    rw [step.lookup?] at registered
    split at registered
    · contradiction
    · exact h.known other j e registered
  device d ahead := absurd ahead (passed d)

end FirstRound

/-- Dealing with the device, which has no host interface, or with a tagged interface. -/
theorem ensures_settleTagged_hosting {x : UInt32 × InterfaceDetails}
    {rest : List (UInt32 × InterfaceDetails)} (first : FirstRound wanted (x :: rest) r)
    (plain : x.1 = 0 → x.2.interface.hostInterface? = none) (passed : ∀ d, (0, d) ∉ rest) :
    Pass.Ensures (Links.behaviour unreliable Call.SparesDevice) (settleTagged wanted x.1 x.2) r l
      (fun _ r' _ => FirstRound wanted rest r' ∧ r'.skipRefresh = r.skipRefresh)
      fun _ _ _ => True := by
  obtain ⟨index, d⟩ := x
  unfold settleTagged
  by_cases zero : index = 0
  · rw [if_pos zero]
    refine (ensures_register_enrolled l).mono (fun _ r' _ step => ⟨?_, step.skips⟩)
      fun _ _ _ _ => trivial
    have free := first.device d (zero ▸ List.mem_cons_self) d.internalName
    exact first.enrolled step (Or.inl (plain zero)) (fun _ => first.hosting.get?_eq_none free)
      passed
  rw [if_neg zero]
  cases tag : d.interface.isTagged with
  | false => exact ⟨⟨first.hosting, first.known, fun d ahead => absurd ahead (passed d)⟩, rfl⟩
  | true =>
    simp only [Bool.not_true, Bool.false_eq_true, if_false]
    split
    · next w found =>
      -- whoever had the tag before was registered as the same wanted interface
      have same : w.name = d.interface.name := by simpa using List.find?_some found
      refine (ensures_adopt_enrolled zero _).mono (fun _ r' _ step => ⟨?_, step.skips⟩)
        fun _ _ _ _ => trivial
      rw [← same] at found
      exact first.enrolled step (Or.inr found) (first.cleared found) passed
    · exact (ensures_discard_discarded zero _).mono
        (fun _ r' _ step => ⟨first.discarded step passed, step.skips⟩) fun _ _ _ _ => trivial

/-- Dealing with an untagged interface. -/
theorem ensures_settleUntagged_hosting (hosting : Hosting r) (device : index ≠ 0)
    (d : InterfaceDetails) :
    Pass.Ensures (Links.behaviour unreliable Call.SparesDevice) (settleUntagged wanted index d) r l
      (fun _ r' _ => Hosting r' ∧ r'.skipRefresh = r.skipRefresh) fun _ _ _ => True := by
  simp only [settleUntagged, Pass.ensures_bind, Pass.ensures_get]
  split
  · next w found =>
    have chosen := List.find?_some found
    simp only [Bool.and_eq_true, Bool.not_eq_true'] at chosen
    exact (ensures_adopt_enrolled device _).mono (fun _ r' _ step =>
      ⟨hosting.enrolled step fun _ => hosting.get?_eq_none chosen.1, step.skips⟩)
      fun _ _ _ _ => trivial
  · exact (ensures_discard_discarded device _).mono
      (fun _ r' _ step => ⟨hosting.discarded step, step.skips⟩) fun _ _ _ _ => trivial

/-- Creating a missing interface. -/
theorem ensures_settleMissing_hosting (hosting : Hosting r) :
    Pass.Ensures (Links.behaviour unreliable Call.SparesDevice) (settleMissing w) r l
      (fun _ r' _ => Hosting r' ∧ r'.skipRefresh = r.skipRefresh) fun _ _ _ => True := by
  simp only [settleMissing, Pass.ensures_bind, Pass.ensures_get]
  split
  · exact ⟨hosting, rfl⟩
  · next absent =>
    refine ensures_create_enrolled.mono (fun _ r' _ registered => ?_) fun _ _ _ _ => trivial
    obtain ⟨_, step⟩ := registered
    refine ⟨?_, step.skips⟩
    exact hosting.enrolled step fun _ => hosting.get?_eq_none (by simpa using absent)

/-! ### The pass -/

/-- A pass that comes to its end leaves the host interfaces of what is registered, and the states
of what is there.  Whether it does or not, the device at index 0 stays as it is. -/
theorem ensures_hosting {device : InterfaceDetails} (around : l.Around device)
    (plain : device.interface.type ≠ .afPacketInterface) :
    Pass.Ensures (Links.behaviour unreliable Call.SparesDevice) (reconcile wanted) r l
      (fun _ r' l' => (Hosting r' ∧
        (r.skipRefresh = false → r'.states = statesIn r'.registry l'.interfaces)) ∧
        l'.Around device)
      (fun _ _ l' => True ∧ l'.Around device) := by
  have hostless : device.interface.hostInterface? = none := if_neg plain
  refine Pass.Ensures.keeps (I := Links.Around device) ?_ around
    fun _ _ _ _ expected given h => h.answered expected.2 given
  by_cases connected : r.connected = true
  case neg => simp [reconcile, InterfaceReconciler.start, connected]
  refine ensures_stages
    (fun rest r' _ => FirstRound wanted rest r' ∧ r'.skipRefresh = r.skipRefresh)
    (fun _ r' _ => Hosting r' ∧ r'.skipRefresh = r.skipRefresh)
    (fun _ r' _ => Hosting r' ∧ r'.skipRefresh = r.skipRefresh)
    connected trivial trivial ?start ?tagged ?between ?untagged ?after ?missing ?finish ?refreshed
    (fun _ _ _ _ _ => trivial) fun _ _ _ _ _ => trivial
  case start =>
    intro r' none_ hostless _ skips
    refine ⟨⟨fun name => ?_, fun name index i found => ?_, fun _ _ name => ?_⟩, skips⟩
    · rw [hostless, none_]
      rfl
    · rw [none_] at found
      contradiction
    · rw [none_]
      rfl
  case tagged =>
    intro x rest suffix r' l' state
    have below := (List.pairwise_cons.mp (l.interfaces.ascending.sublist suffix.sublist)).1
    refine (ensures_settleTagged_hosting state.1 (fun zero => ?_) fun d ahead => ?_).mono
      (fun _ _ _ h => ⟨h.1, h.2.trans state.2⟩) fun _ _ _ _ => trivial
    · have there := Table.mem_entries.mp (suffix.subset List.mem_cons_self)
      rw [zero, around.device] at there
      exact Option.some.inj there ▸ hostless
    · -- nothing comes before index 0
      exact UInt32.not_lt_zero (below (0, d) ahead)
  case between => exact fun _ _ state => ⟨state.1.hosting, state.2⟩
  case untagged =>
    intro x rest suffix r' l' state
    obtain ⟨-, other, -⟩ := mem_filter_isUntagged.mp (suffix.subset List.mem_cons_self)
    exact (ensures_settleUntagged_hosting state.1 other x.2).mono
      (fun _ _ _ h => ⟨h.1, h.2.trans state.2⟩) fun _ _ _ _ => trivial
  case after => exact fun _ _ state => state
  case missing =>
    intro w rest _ r' l' state
    exact (ensures_settleMissing_hosting state.1).mono
      (fun _ _ _ h => ⟨h.1, h.2.trans state.2⟩) fun _ _ _ _ => trivial
  case finish =>
    intro r' l' state skips
    refine ⟨state.1, fun reads => ?_⟩
    exact absurd (skips.symm.trans (state.2.trans reads)) (by decide)
  case refreshed => exact fun r' l' state _ => ⟨state.1, fun _ => rfl⟩

/-! ### The three tables -/

/-- What is shown of the interfaces agrees with the registry and with the interfaces of a
dataplane. -/
structure Agreeing (r : InterfaceReconciler) (actual : Table UInt32 InterfaceDetails) : Prop where
  /-- Every registered name has a state, with what the dataplane has at its index. -/
  states : ∀ name index i, r.registry.lookup? name = some (index, i) →
    ∃ d, actual.get? index = some d ∧ r.states.get? name = some
      { name := name
        index := index
        internalName := d.internalName
        enabled := d.interface.enabled
        mtu := d.interface.mtu
        mac := d.interface.mac }
  /-- No other name has a state. -/
  registered : ∀ name, r.registry.lookup? name = none → r.states.get? name = none
  /-- A name has a host interface if it is registered for an AF-packet interface with a link. -/
  hosts : ∀ name host, r.hosts.get? name = some host ↔
    ∃ index i link, r.registry.lookup? name = some (index, i) ∧ i.type = .afPacketInterface ∧
      i.afPacket = some link ∧ link.hostInterface = host

/-- So it does once the states of what is registered have been read, if there is an interface for
each registration. -/
theorem Hosting.agreeing (hosting : Hosting r) (grounded : r.registry.Grounded l)
    (faithful : r.registry.Faithful) (read : r.states = statesIn r.registry l.interfaces) :
    Agreeing r l.interfaces where
  states := by
    intro name index i found
    obtain ⟨d, there⟩ := grounded name index i found
    refine ⟨d, there, ?_⟩
    rw [read, get?_statesIn faithful, found, Option.bind_some, there]
    rfl
  registered := by
    intro name absent
    rw [read, get?_statesIn faithful, absent, Option.bind_none]
  hosts := by
    intro name host
    rw [hosting name, Option.bind_eq_some_iff]
    simp only [Interface.hostInterface?_eq_some]
    constructor
    · rintro ⟨⟨index, i⟩, found, packet, link, linked, named⟩
      exact ⟨index, i, link, found, packet, linked, named⟩
    · rintro ⟨index, i, link, found, packet, linked, named⟩
      exact ⟨(index, i), found, packet, link, linked, named⟩

/-- An attempt leaves the device at index 0 as it is. -/
theorem Attempt.around_run {device : InterfaceDetails} {s s' : Simulation} {a : Attempt}
    (plain : device.interface.type ≠ .afPacketInterface) (around : s.links.Around device)
    (ran : a.run (r, s) = some (r', s')) : s'.links.Around device := by
  obtain ⟨⟨⟨end_, r₁⟩, t⟩, result, same⟩ := Option.map_eq_some_iff.mp ran
  obtain ⟨rfl, rfl⟩ := Prod.mk.inj same
  obtain ⟨-, ⟨_, -, -, around'⟩ | ⟨_, -, -, around'⟩⟩ :=
    Trial.end_of_links (ensures_hosting around plain) result
  · exact around'
  · exact around'

/-- When a pass that reads the states comes to its end, the three tables agree, whatever passes
there were before it, provided that the device at index 0 is no AF-packet interface. -/
theorem views_agree {snapshot : Snapshot} {device : InterfaceDetails} {s₀ s₁ : Simulation}
    {r₀ r₁ r₂ : InterfaceReconciler} {earlier : List Attempt} {wanted : List Interface}
    {refusals : List (Option String)} {t : Trial}
    (start : Simulation.ofSnapshot? snapshot = some s₀)
    (there : (Simulation.interfacesOf snapshot).get? 0 = some device)
    (plain : device.interface.type ≠ .afPacketInterface)
    (ran : earlier.foldlM Attempt.run (r₀, s₀) = some (r₁, s₁)) (reads : r₁.skipRefresh = false)
    (result : Trial.run (reconcile wanted r₁) { simulation := s₁, refusals := refusals } =
      some ((.ok (), r₂), t)) :
    Agreeing r₂ t.simulation.links.interfaces := by
  obtain ⟨interfaces, bounded, -⟩ := Simulation.ofSnapshot?_eq_some start
  have around : s₁.links.Around device := by
    refine Attempt.runs_induction (P := fun _ s => s.links.Around device)
      (fun a _ r s r' s' around ran => a.around_run plain around ran) ⟨?_, bounded⟩ ran
    exact interfaces ▸ there
  -- both are about the one run that there is
  obtain ⟨⟨hosting, read⟩, -⟩ := Trial.result_of_links (ensures_hosting around plain) result
  obtain ⟨firm, -⟩ := Trial.result_of_links (ensures_firm around.bounded) result
  exact hosting.agreeing firm.footing.grounded firm.faithful (read reads)

/-- An AF-packet interface for an interface of the host. -/
def packet (name host : String) : Interface :=
  { name := name, type := .afPacketInterface, afPacket := some { hostInterface := host } }

/-- A dataplane with two tagged AF-packet interfaces and one without a tag. -/
def packetSnapshot : Snapshot where
  interfaces :=
    [{ interface := packet "uplink" "eth0", internalName := "host-eth0", index := 1 },
      { interface := packet "spare" "eth1", internalName := "host-eth1", index := 2 },
      { interface := packet "" "eth2", internalName := "host-eth2", index := 5 }]

/-- A pass that is cut short when it removes an interface. -/
def packetAttempts : List Attempt :=
  [{ wanted := [packet "uplink" "eth0"], refusals := [none, none, none, none, none, some "busy"] }]

/-- What is wanted in the end: an interface to modify, and one to create. -/
def packetWanted : List Interface := [packet "uplink" "eth3", { name := "lan" }]

/-- After a pass that left the host interface of one that it did not remove, the next pass removes
it, and its host interface as well. -/
theorem views_agree_packet :
    ∃ s₀ r₁ s₁ r₂ t, Simulation.ofSnapshot? packetSnapshot = some s₀ ∧
      packetAttempts.foldlM Attempt.run ({}, s₀) = some (r₁, s₁) ∧
      r₁.hosts.get? "spare" = some "eth1" ∧
      Trial.run (reconcile packetWanted r₁) { simulation := s₁ } =
        some ((.ok (), r₂), t) ∧
      r₂.hosts.entries = [("uplink", "eth3")] ∧
      Agreeing r₂ t.simulation.links.interfaces := by
  have goes : (Simulation.ofSnapshot? packetSnapshot).any (fun s₀ =>
      (packetAttempts.foldlM Attempt.run ({}, s₀)).any fun x =>
        x.1.hosts.get? "spare" == some "eth1" && !x.1.skipRefresh &&
        Trial.succeedsWith (reconcile packetWanted x.1)
          { simulation := x.2 } fun r _ => r.hosts.entries == [("uplink", "eth3")]) = true := by
    decide +kernel
  obtain ⟨s₀, start, goes⟩ := (Option.any_eq_true _ _).mp goes
  obtain ⟨⟨r₁, s₁⟩, ran, goes⟩ := (Option.any_eq_true _ _).mp goes
  simp only [Bool.and_eq_true, Bool.not_eq_true', beq_iff_eq] at goes
  obtain ⟨⟨lingering, reads⟩, goes⟩ := goes
  obtain ⟨_, r₂, t, result, hosts⟩ := Trial.exists_of_succeedsWith goes
  have there : (Simulation.interfacesOf packetSnapshot).get? 0 =
      some { internalName := Interface.localName } := by decide +kernel
  exact ⟨s₀, r₁, s₁, r₂, t, start, ran, lingering, result, eq_of_beq hosts,
    views_agree start there (by decide) ran reads result⟩

end InterfaceReconciler

end DataplaneSync
