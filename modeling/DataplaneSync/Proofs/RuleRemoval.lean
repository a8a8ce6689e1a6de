import DataplaneSync.Proofs.InterfaceSteps
import DataplaneSync.Proofs.TaskParts

namespace DataplaneSync

/-!
# Removal of rules

Which rules a run removes depends on which interfaces are registered when the pass over the rules
starts, and that on how far the pass over the interfaces got.

* `InterfaceReconciler.registeredBy` — the names that the calls of a pass over interfaces register.
* `removals` — the rules that some deeds ask to remove.
* `StnReconciler.Cleared`, `StnReconciler.cleared_settleAll` — a pass removes the rules of its dump that are on no
  registered interface or that are not wanted, and no others.
* `Run.removals_exact` — both together, in a run.
* `Run.removals_lost` — a pass that is cut short costs a rule that is wanted and in place.
-/

/-! ### The names that a pass registers -/

namespace InterfaceReconciler

/-- The indexes of names after a call, given those before.  A name is registered before its
interface is tagged, and so it is even if that is refused. -/
def naming (names : String → Option UInt32) : Exchange → String → Option UInt32
  | ⟨.interface (.setTag name index), _⟩, other => if other = name then some index else names other
  | ⟨.interface (.configure i), .ok index⟩, other =>
    if other = i.name then some index else names other
  | ⟨.interface (.delete actual index), .ok ()⟩, other =>
    let name := if actual.isTagged then actual.name else Interface.placeholderName
    if other = name ∧ names other = some index then none else names other
  | _, other => names other

/-- The indexes of the names that the calls of a pass have registered. -/
def registeredBy (xs : List Exchange) : String → Option UInt32 := xs.foldl naming fun _ => none

/-- The indexes of registered names. -/
def names (r : InterfaceReconciler) (name : String) : Option UInt32 :=
  (r.registry.lookup? name).map Prod.fst

theorem isSome_names (r : InterfaceReconciler) (name : String) :
    (r.names name).isSome = r.registry.contains name := by
  rw [Bool.eq_iff_iff, Registry.contains_iff, names, Option.isSome_map, Option.isSome_iff_exists]
  simp

theorem names_congr {r t : InterfaceReconciler} (same : t.registry = r.registry) :
    t.names = r.names := by
  funext name
  rw [names, same]
  rfl

section

variable {r : InterfaceReconciler} {name : String} {index : UInt32} {i : Interface}

theorem names_enroll : (enroll name index i r).names = fun other =>
    if other = name then some index else r.names other := by
  funext other
  simp only [names, enroll, Registry.lookup?_register]
  split <;> rfl

/-- A name is dropped only if it still stands for the index. -/
theorem names_dismiss : (dismiss name index r).names = fun other =>
    if other = name ∧ r.names other = some index then none else r.names other := by
  funext other
  by_cases registered : r.names name = some index
  · obtain ⟨⟨_, data⟩, found, rfl⟩ := Option.map_eq_some_iff.mp registered
    rw [names, dismiss_registry ⟨data, found⟩, Registry.lookup?_drop]
    by_cases same : other = name
    · rw [if_pos same, if_pos ⟨same, same ▸ registered⟩]
      rfl
    · rw [if_neg same, if_neg fun both => same both.1]
      rfl
  · have kept : (dismiss name index r).names = r.names := by
      unfold dismiss
      split
      · next at_ data registry found =>
        obtain ⟨there, -⟩ := Registry.unregister_eq_ok_iff.mp found
        have other_ : at_ ≠ index := by
          rintro rfl
          exact registered (by rw [names, there]; rfl)
        rw [if_neg other_]
      · rfl
    rw [kept, if_neg]
    rintro ⟨rfl, found⟩
    exact registered found

end

/-- Register the names that the calls do. -/
def registering : Discipline InterfaceReconciler InterfaceFailure where
  allows r ds _ t := t.names = (exchanges ds).foldl naming r.names
  rest _ := rfl
  join first then_ := by rw [exchanges_append, List.foldl_append, then_, first]

theorem obeys_modify {f : InterfaceReconciler → InterfaceReconciler}
    (same : ∀ r, (f r).registry = r.registry) : (modify f : Step PUnit).Obeys registering :=
  Pass.obeys_modify fun r => names_congr (same r)

/-- Each step registers the names that its call does. -/
theorem registering_steps : StepsObey registering where
  register name index i := by
    intro r ds end_ t trace
    -- the name is registered before the call
    have called := Pass.of_trace_get (Pass.of_trace_modify trace)
    rcases Pass.of_trace_change_bind called with
      ⟨reason, e, rfl, -, rfl⟩ | ⟨reply, e, ds', rfl, ⟨⟩⟩
    · exact names_enroll
    · exact (names_congr (cacheHost_registry _)).trans names_enroll
  adjust wanted actual index := by
    unfold adjust
    split
    · exact Pass.obeys_pure ()
    · refine Pass.obeys_get.bind fun r => (Pass.obeys_change fun _ _ _ _ => rfl).bind fun _ => ?_
      exact obeys_modify fun _ => rfl
  remove {name actual} index named := by
    intro r ds end_ t trace
    rcases Pass.of_trace_change_bind (Pass.of_trace_get trace) with
      ⟨reason, e, rfl, -, rfl⟩ | ⟨reply, e, ds', rfl, ⟨⟩⟩
    · rfl
    · refine names_dismiss.trans ?_
      rw [named]
      rfl
  create wanted := by
    intro r ds end_ t trace
    rcases Pass.of_trace_change_bind (Pass.of_trace_get trace) with
      ⟨reason, e, rfl, -, rfl⟩ | ⟨index, e, ds', rfl, ⟨⟩⟩
    · rfl
    · exact (names_congr (cacheHost_registry _)).trans names_enroll
  refresh := (Pass.obeys_dump fun _ _ => rfl).bind fun _ => obeys_modify fun _ => rfl

theorem obeys_dumpInterfaces : dumpInterfaces.Obeys registering := by
  refine (Pass.obeys_perform fun r ds answer asked => ?_).bind fun answer => ?_
  · obtain ⟨answer, ds', rfl, ⟨⟩⟩ := Program.trace_ask.mp asked
    rfl
  · match answer with
    | .ok actual => exact Pass.obeys_pure actual
    | .error reason =>
      refine Pass.obeys_get.bind fun r => (Pass.obeys_report fun _ => rfl).bind fun _ => ?_
      exact Pass.obeys_throw fun _ => rfl

theorem obeys_settleAll (wanted : List Interface) : (settleAll wanted).Obeys registering := by
  refine (Pass.obeys_dump fun _ _ => rfl).bind fun sockets => (obeys_modify ?_).bind fun _ => ?_
  · exact fun _ => rfl
  · exact obeys_dumpInterfaces.bind fun actual => registering_steps.settleDumped wanted actual

/-! ### The wanted names -/

/-- Let all names stay registered. -/
def standing : Discipline InterfaceReconciler InterfaceFailure where
  allows r _ _ t := ∀ name, r.registry.contains name = true → t.registry.contains name = true
  rest _ _ := id
  join first then_ name := then_ name ∘ first name

theorem stands_create (wanted : Interface) : (create wanted).Obeys standing := by
  refine Pass.obeys_get.bind fun r => (Pass.obeys_change fun _ _ _ _ _ => id).bind fun index => ?_
  refine (Pass.obeys_modify fun r name known => ?_).bind fun _ => ?_
  · rw [enroll, Registry.contains_register, known, Bool.or_true]
  · refine (Pass.obeys_modify fun r name known => ?_).bind fun _ => Pass.obeys_modify fun _ _ => id
    rwa [cacheHost_registry]

theorem stands_settleMissing (wanted : Interface) : (settleMissing wanted).Obeys standing := by
  refine Pass.obeys_get.bind fun r => ?_
  split
  · exact Pass.obeys_pure ()
  · exact stands_create wanted

theorem registered_settleMissing {wanted : Interface} {r t : InterfaceReconciler} {ds : List Deed}
    {u : Unit} (trace : Program.Trace (settleMissing wanted r) ds (.ok u, t)) :
    t.registry.contains wanted.name = true := by
  have trace' := Pass.of_trace_get trace
  split at trace'
  · next known =>
    cases trace'
    exact known
  · obtain ⟨index, s, ds₁, ds₂, rfl, -, ⟨⟩⟩ := Pass.of_trace_bind_ok (Pass.of_trace_get trace')
    change (cacheHost wanted.name wanted (enroll wanted.name index wanted s)).registry.contains _ =
      true
    rw [cacheHost_registry, enroll, Registry.contains_register, decide_eq_true rfl, Bool.true_or]

/-- Once every name has been dealt with, all are registered. -/
theorem registered_forM_settleMissing {wanted : List Interface} {r t : InterfaceReconciler}
    {ds : List Deed} {u : Unit}
    (trace : Program.Trace (wanted.forM settleMissing r) ds (.ok u, t)) :
    ∀ w ∈ wanted, t.registry.contains w.name = true := by
  induction wanted generalizing r ds with
  | nil => exact fun w mem => absurd mem List.not_mem_nil
  | cons w wanted ih =>
    obtain ⟨_, s, ds₁, ds₂, rfl, first, rest⟩ := Pass.of_trace_bind_ok trace
    have stays := Pass.obeys_forM (fun w _ => stands_settleMissing w) _ _ _ _ rest
    intro w' mem
    rcases List.mem_cons.mp mem with rfl | mem
    · exact stays _ (registered_settleMissing first)
    · exact ih rest w' mem

/-- A pass that comes to its end leaves all wanted interfaces registered. -/
theorem registered_settleDumped {wanted : List Interface} {actual : Table UInt32 InterfaceDetails}
    {r t : InterfaceReconciler} {ds : List Deed} {u : Unit}
    (trace : Program.Trace (settleDumped wanted actual r) ds (.ok u, t)) :
    ∀ w ∈ wanted, t.registry.contains w.name = true := by
  obtain ⟨_, r₁, ds₁, ds', rfl, -, trace'⟩ := Pass.of_trace_bind_ok trace
  obtain ⟨_, r₂, ds₂, ds'', rfl, -, trace''⟩ := Pass.of_trace_bind_ok trace'
  obtain ⟨_, r₃, ds₃, ds₄, rfl, created, last⟩ := Pass.of_trace_bind_ok trace''
  have stays : (do let r ← get; if r.skipRefresh then pure () else refresh : Step Unit).Obeys
      standing := by
    refine Pass.obeys_get.bind fun r => ?_
    split
    · exact Pass.obeys_pure ()
    · exact (Pass.obeys_dump fun _ _ _ => id).bind fun _ => Pass.obeys_modify fun _ _ => id
  intro w mem
  exact stays _ _ _ _ last w.name (registered_forM_settleMissing created w mem)

/-- What a pass leaves registered: the names that its calls have registered and, if it came to its
end, all wanted ones among them. -/
theorem registered_of_trace {wanted : List Interface} {r t : InterfaceReconciler} {ds : List Deed}
    {end_ : Except InterfaceFailure Unit} (connected : r.connected = true)
    (trace : Program.Trace (reconcile wanted r) ds (end_, t)) :
    t.names = registeredBy (exchanges ds) ∧
      (end_ = .ok () → ∀ w ∈ wanted, (registeredBy (exchanges ds) w.name).isSome = true) := by
  rw [reconcile_eq, if_pos connected] at trace
  have names_ : t.names = registeredBy (exchanges ds) := obeys_settleAll wanted _ _ _ _ trace
  refine ⟨names_, ?_⟩
  rintro rfl w mem
  rw [← names_, isSome_names]
  obtain ⟨sockets, r₁, ds₁, ds', rfl, -, trace'⟩ := Pass.of_trace_bind_ok trace
  obtain ⟨actual, r₂, ds₂, ds'', rfl, -, trace''⟩ :=
    Pass.of_trace_bind_ok (Pass.of_trace_modify trace')
  exact registered_settleDumped trace'' w mem

end InterfaceReconciler

/-! ### The pass over the rules -/

/-- What is said of the rule that an exchange asks to remove. -/
def Exchange.removal? : Exchange → Option (String × UInt32)
  | ⟨.stn (.delete address index), _⟩ => some (address, index)
  | _ => none

/-- The rules that some deeds ask to remove, by address and index. -/
def removals (ds : List Deed) : List (String × UInt32) :=
  (exchanges ds).filterMap Exchange.removal?

@[simp] theorem removals_append (ds ds' : List Deed) :
    removals (ds ++ ds') = removals ds ++ removals ds' := by
  rw [removals, exchanges_append, List.filterMap_append]
  rfl

namespace StnReconciler

/-- Whether a pass removes a rule of its dump: it does if the interface of the rule is not known or
no wanted rule is the one of the dump. -/
def removes (known : String → Bool) (wanted : List StnRule) (actual : StnRuleDetails) : Bool :=
  !known actual.interface || (wanted.find? actual.isFor).isNone

/-- Some deeds of a pass over the rules: if its dump is not refused, it removes the rules of the
dump that it has to, in their order, and no others. -/
def Cleared (known : String → Bool) (wanted : List StnRule) (ds : List Deed) : Prop :=
  (∃ reason, exchanges ds = [⟨.stn .dump, .error reason⟩]) ∨
    ∃ actual later, exchanges ds = ⟨.stn .dump, .ok actual⟩ :: later ∧
      removals ds = (actual.filter (removes known wanted)).map fun a => (a.address, a.index)

/-- Remove no rules. -/
def sparing : Discipline StnReconciler StnFailure where
  allows _ ds _ _ := removals ds = []
  rest _ := rfl
  join first then_ := by rw [removals_append, first, then_, List.append_nil]

variable {μ : Type} {interfaces : Registry μ} {wanted : List StnRule} {ds : List Deed} {u : Unit}
variable {x y : StnReconciler × FailureTally StnFailure}

/-- Rules that are added or have to wait cost no others. -/
theorem spares_settleWanted (w : StnRule) : (settleWanted interfaces w).Obeys sparing := by
  refine Sweep.obeys_state.bind fun r => ?_
  split
  · exact Sweep.obeys_pure ()
  · split
    · refine Sweep.obeys_tolerate ((Pass.obeys_change fun _ _ _ _ => rfl).bind fun _ => ?_)
      exact (Pass.obeys_modify fun _ => rfl).bind fun _ => Pass.obeys_modify fun _ => rfl
    · refine Sweep.obeys_tolerate ((Pass.obeys_modify fun _ => rfl).bind fun _ => ?_)
      exact Pass.obeys_report fun _ => rfl

theorem removals_remove {actual : StnRuleDetails}
    (trace : Program.Trace (Sweep.tolerate (remove actual) x) ds (u, y)) :
    removals ds = [(actual.address, actual.index)] := by
  obtain ⟨⟨end_, s⟩, ds₁, ds₂, rfl, trace₁, trace₂⟩ := Program.trace_bind.mp trace
  have silent : ds₂ = [] := by
    cases end_ <;> cases trace₂ <;> rfl
  rw [silent, List.append_nil]
  rcases Pass.of_trace_change_bind trace₁ with
    ⟨reason, e, rfl, -, -⟩ | ⟨reply, e, ds', rfl, ⟨⟩⟩
  · rfl
  · rfl

/-- A rule of the dump is removed or kept. -/
theorem removals_settleActual {actual : StnRuleDetails}
    (trace : Program.Trace (settleActual interfaces wanted actual x) ds (u, y)) :
    removals ds =
      if removes interfaces.contains wanted actual then [(actual.address, actual.index)]
      else [] := by
  cases registered : interfaces.contains actual.interface with
  | false =>
    rw [settleActual, registered] at trace
    rw [removals_remove trace, removes, registered]
    rfl
  | true =>
    cases found : wanted.find? actual.isFor with
    | none =>
      rw [settleActual, registered, found] at trace
      rw [removals_remove trace, removes, found, registered]
      rfl
    | some w =>
      rw [settleActual, registered, found] at trace
      cases trace
      rw [removes, found, registered]
      rfl

/-- The rules of the dump are removed or kept, one after the other. -/
theorem removals_forM_settleActual {actual : List StnRuleDetails}
    (trace : Program.Trace (actual.forM (settleActual interfaces wanted) x) ds (u, y)) :
    removals ds =
      (actual.filter (removes interfaces.contains wanted)).map fun a => (a.address, a.index) := by
  induction actual generalizing x ds with
  | nil =>
    cases trace
    rfl
  | cons a actual ih =>
    obtain ⟨⟨_, z⟩, ds₁, ds₂, rfl, trace₁, trace₂⟩ := Program.trace_bind.mp trace
    rw [removals_append, removals_settleActual trace₁, ih trace₂, List.filter_cons]
    split <;> rfl

theorem cleared_settleAll {r t : StnReconciler} {end_ : Except StnFailure Unit}
    (trace : Program.Trace (settleAll interfaces wanted r) ds (end_, t)) :
    Cleared interfaces.contains wanted ds := by
  rcases Pass.of_trace_dump_bind trace with ⟨reason, rfl, -, -⟩ | ⟨actual, later, rfl, rest⟩
  · exact Or.inl ⟨reason, rfl⟩
  · refine Or.inr ⟨actual, exchanges later, rfl, ?_⟩
    obtain ⟨z, ds₁, ds₂, rfl, swept, ⟨⟩⟩ := Pass.of_trace_sweeping rest
    obtain ⟨⟨_, w⟩, ds₃, ds₄, rfl, first, second⟩ := Program.trace_bind.mp swept
    obtain ⟨_, spared, -⟩ := Sweep.obeys_forM spares_settleWanted _ _ _ _ second
    have asked := removals_forM_settleActual first
    calc removals (.called (.stn .dump) (.ok actual) :: (ds₃ ++ ds₄ ++ []))
        = removals (ds₃ ++ ds₄) := by rw [List.append_nil]; rfl
      _ = removals ds₃ := by rw [removals_append, spared, List.append_nil]
      _ = _ := asked

end StnReconciler

/-! ### Runs -/

namespace Run

open InterfaceReconciler (registeredBy)

/-- A run removes exactly those rules of its dump that are on no interface which the pass over the
interfaces has registered, or that are not wanted.  The pass has registered all wanted interfaces
if it came to its end. -/
theorem removals_exact {skipRefresh : Bool} {wanted : DesiredState} {ds : List Deed}
    {report : TaskReport} (trace : (linkTask skipRefresh wanted).Trace ds report) :
    ∃ (ds₁ ds₂ : List Deed) (end_ : Except InterfaceFailure Unit), ds = ds₁ ++ ds₂ ∧
      (∀ x ∈ exchanges ds₁, x.call.stage = .interfaces) ∧
      report.outcomes.head? = some (.of .interfaces InterfaceFailure.message end_) ∧
      StnReconciler.Cleared (fun name => (registeredBy (exchanges ds₁) name).isSome)
        wanted.rules ds₂ ∧
      (end_ = .ok () →
        ∀ i ∈ wanted.interfaces, (registeredBy (exchanges ds₁) i.name).isSome = true) := by
  obtain ⟨⟨end_, r⟩, ds₁, ds', rfl, trace₁, trace'⟩ := Program.trace_bind.mp trace
  obtain ⟨⟨rules, s⟩, ds₂, ds₃, rfl, trace₂, ⟨⟩⟩ := Program.trace_bind.mp trace'
  obtain ⟨names_, registered⟩ := InterfaceReconciler.registered_of_trace rfl trace₁
  obtain ⟨-, blamed⟩ := InterfaceReconciler.trace_settleAll trace₁
  refine ⟨ds₁, ds₂, end_, by rw [List.append_nil], blamed.own, rfl, ?_, registered⟩
  have known : (fun name => (registeredBy (exchanges ds₁) name).isSome) = r.registry.contains := by
    funext name
    rw [← names_, r.isSome_names]
  rw [known]
  exact StnReconciler.cleared_settleAll trace₂

/-- A dataplane with two interfaces and a rule on each of them. -/
def lanSnapshot : Snapshot where
  interfaces :=
    [{ internalName := "local0" },
      { interface := { name := "uplink" }, internalName := "loop1", index := 1 },
      { interface := { name := "lan" }, internalName := "loop2", index := 2 }]
  rules :=
    [{ address := "10.0.0.1", interface := "uplink", index := 1 },
      { address := "10.0.0.2", interface := "lan", index := 2 }]

/-- The interfaces and rules of that dataplane. -/
def lanState : DesiredState where
  interfaces := [{ name := "uplink" }, { name := "lan" }]
  rules :=
    [{ name := "gate", address := "10.0.0.1", interface := "uplink" },
      { name := "door", address := "10.0.0.2", interface := "lan" }]

/-- If the first of the interfaces cannot be tagged the second one is not registered, and its rule
is removed. -/
theorem removals_exact_lan :
    ∃ s report t ds₁ ds₂, Simulation.ofSnapshot? lanSnapshot = some s ∧
      Trial.run (linkTask false lanState)
        { simulation := s, refusals := [none, none, none, some "busy"] } = some (report, t) ∧
      t.deeds = ds₁ ++ ds₂ ∧
      StnReconciler.Cleared (fun name => (registeredBy (exchanges ds₁) name).isSome)
        lanState.rules ds₂ ∧
      removals t.deeds = [("10.0.0.2", 2)] := by
  have goes : (Simulation.ofSnapshot? lanSnapshot).any (fun s =>
      (Trial.run (linkTask false lanState)
        { simulation := s, refusals := [none, none, none, some "busy"] }).any fun x =>
          removals x.2.deeds = [("10.0.0.2", 2)]) = true := by
    decide +kernel
  obtain ⟨s, start, goes⟩ := (Option.any_eq_true _ _).mp goes
  obtain ⟨⟨report, t⟩, result, lost⟩ := (Option.any_eq_true _ _).mp goes
  obtain ⟨ds, deeds, trace⟩ := Trial.trace_of_run result
  obtain ⟨ds₁, ds₂, end_, parts, -, -, cleared, -⟩ := removals_exact trace
  exact ⟨s, report, t, ds₁, ds₂, start, result, deeds.trans parts, cleared, of_decide_eq_true lost⟩

/-- If the interfaces cannot be dumped, a rule is removed that is wanted and whose interface is in
place all the time. -/
theorem removals_lost :
    ∃ s report t, Simulation.ofSnapshot? lanSnapshot = some s ∧
      Trial.run (program .full false lanState)
        { simulation := s, refusals := [none, some "timeout"] } = some (report, t) ∧
      (∃ o ∈ report.failures, o.stage = .interfaces) ∧
      ∃ a ∈ s.links.rules, (∃ w ∈ lanState.rules, a.isFor w = true) ∧
        t.simulation.links.interfaces.get? a.index = s.links.interfaces.get? a.index ∧
        (s.links.interfaces.get? a.index).any (·.interface.name == a.interface) = true ∧
        (a.address, a.index) ∈ removals t.deeds := by
  have goes : (Simulation.ofSnapshot? lanSnapshot).any (fun s =>
      (Trial.run (program .full false lanState)
        { simulation := s, refusals := [none, some "timeout"] }).any fun x =>
          (x.1.failures.any fun o => o.stage == .interfaces) &&
          s.links.rules.any fun a => lanState.rules.any a.isFor &&
            (x.2.simulation.links.interfaces.get? a.index ==
              s.links.interfaces.get? a.index) &&
            (s.links.interfaces.get? a.index).any (·.interface.name == a.interface) &&
            (removals x.2.deeds).contains (a.address, a.index)) = true := by
    decide +kernel
  obtain ⟨s, start, goes⟩ := (Option.any_eq_true _ _).mp goes
  obtain ⟨⟨report, t⟩, result, lost⟩ := (Option.any_eq_true _ _).mp goes
  refine ⟨s, report, t, start, result, ?_⟩
  simpa [and_assoc] using lost

end Run

end DataplaneSync
