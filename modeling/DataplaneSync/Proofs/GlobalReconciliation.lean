import DataplaneSync.Proofs.TaskParts

namespace DataplaneSync

/-!
# What becomes of the global NAT settings

A pass over the global settings compares them with the wanted ones as they are, order included, but
looks for changes only among what one side has and the other has not.  Its changes follow from its
dump; what they are answered decides only whether the wanted settings count as in force.

* `GlobalChange.Needed`, `GlobalChange.phase` — which changes there are to make, and in what order.
* `GlobalChange.applyTo` — what the dataplane makes of its settings.
* `NatReconciler.GlobalCourse` — the calls of a pass, and when it takes the settings as in force.
* `NatReconciler.reconcileGlobal_converges` — a pass makes the needed changes, whatever is refused;
  if nothing is refused, the settings are as wanted up to order and repetition, and another pass
  changes nothing.
-/

/-! ### Changes -/

namespace GlobalChange

/-- Whether a change leads from the actual settings towards the wanted ones. -/
def Needed (actual wanted : NatGlobal) : GlobalChange → Prop
  | disableInterface i => i ∈ actual.interfaces ∧ i ∉ wanted.interfaces
  | deletePool p => p ∈ actual.pools ∧ p ∉ wanted.pools
  | setForwarding enabled => enabled = wanted.forwarding ∧ actual.forwarding ≠ wanted.forwarding
  | enableInterface i => i ∈ wanted.interfaces ∧ i ∉ actual.interfaces
  | addPool p => p ∈ wanted.pools ∧ p ∉ actual.pools

/-- The phase of a pass in which a change is made: removals, forwarding, additions. -/
def phase : GlobalChange → Nat
  | disableInterface _ => 0
  | deletePool _ => 0
  | setForwarding _ => 1
  | enableInterface _ => 2
  | addPool _ => 2

/-- The settings after a change.  What is removed is removed wherever it occurs. -/
def applyTo (g : NatGlobal) : GlobalChange → NatGlobal
  | disableInterface i => { g with interfaces := g.interfaces.filter (· != i) }
  | deletePool p => { g with pools := g.pools.filter (· != p) }
  | setForwarding enabled => { g with forwarding := enabled }
  | enableInterface i => { g with interfaces := g.interfaces ++ [i] }
  | addPool p => { g with pools := g.pools ++ [p] }

end GlobalChange

namespace NatGlobal

open GlobalChange

variable {actual wanted g : NatGlobal} {c : GlobalChange} {cs : List GlobalChange}

/-- The changes are those that are needed. -/
theorem mem_changes : c ∈ changes actual wanted ↔ c.Needed actual wanted := by
  unfold changes forwardingChanges
  cases c with
  | setForwarding enabled =>
    by_cases same : actual.forwarding = wanted.forwarding <;> simp [Needed, same]
  | disableInterface i => split <;> simp [Needed]
  | deletePool p => split <;> simp [Needed]
  | enableInterface i => split <;> simp [Needed]
  | addPool p => split <;> simp [Needed]

/-- What is removed is removed before forwarding is set, and what is added is added after that. -/
theorem pairwise_phase_changes (actual wanted : NatGlobal) :
    (changes actual wanted).Pairwise fun c d => c.phase ≤ d.phase := by
  -- within a stretch of one phase there is nothing to show
  have stretch : ∀ {α : Type} (xs : List α) (f : α → GlobalChange) (n : Nat),
      (∀ x, (f x).phase = n) → (xs.map f).Pairwise fun c d => c.phase ≤ d.phase := by
    intro α xs f n same
    rw [List.pairwise_map]
    exact List.pairwise_of_forall fun x y => Nat.le_of_eq ((same x).trans (same y).symm)
  have flag : (forwardingChanges actual wanted).Pairwise fun c d => c.phase ≤ d.phase := by
    unfold forwardingChanges
    split
    · exact .nil
    · exact List.pairwise_singleton _ _
  have middle : ∀ c ∈ forwardingChanges actual wanted, c.phase = 1 := by
    unfold forwardingChanges
    split
    · exact nofun
    · simp [phase]
  unfold changes
  simp only [List.pairwise_append, List.mem_append, List.mem_map]
  refine ⟨⟨⟨⟨stretch _ _ 0 fun _ => rfl, stretch _ _ 0 fun _ => rfl, ?_⟩, flag, ?_⟩,
    stretch _ _ 2 fun _ => rfl, ?_⟩, stretch _ _ 2 fun _ => rfl, ?_⟩
  all_goals grind [phase]

/-- After some changes something is there if it was there and was not removed, or if it was added,
provided it was not both removed and added. -/
theorem mem_foldl_applyTo {α : Type} {items : NatGlobal → List α} {add remove : α → GlobalChange}
    {x : α} (step : ∀ g c, x ∈ items (c.applyTo g) ↔ x ∈ items g ∧ c ≠ remove x ∨ c = add x)
    (apart : remove x ∈ cs → add x ∉ cs) :
    x ∈ items (cs.foldl applyTo g) ↔ x ∈ items g ∧ remove x ∉ cs ∨ add x ∈ cs := by
  induction cs generalizing g with
  | nil => simp
  | cons c cs ih =>
    have later : remove x ∈ cs → add x ∉ cs := fun removed added =>
      apart (List.mem_cons_of_mem c removed) (List.mem_cons_of_mem c added)
    rw [List.foldl_cons, ih later, step]
    grind

theorem mem_interfaces_applyTo (i : NatInterface) (g : NatGlobal) (c : GlobalChange) :
    i ∈ (c.applyTo g).interfaces ↔
      i ∈ g.interfaces ∧ c ≠ .disableInterface i ∨ c = .enableInterface i := by
  cases c <;> grind [applyTo]

theorem mem_pools_applyTo (p : AddressPool) (g : NatGlobal) (c : GlobalChange) :
    p ∈ (c.applyTo g).pools ↔ p ∈ g.pools ∧ c ≠ .deletePool p ∨ c = .addPool p := by
  cases c <;> grind [applyTo]

/-- Forwarding is as it was set, or as it was if it was not set. -/
theorem forwarding_foldl_applyTo {enabled : Bool}
    (only : ∀ b, .setForwarding b ∈ cs → b = enabled)
    (reached : .setForwarding enabled ∈ cs ∨ g.forwarding = enabled) :
    (cs.foldl applyTo g).forwarding = enabled := by
  induction cs generalizing g with
  | nil => exact reached.resolve_left List.not_mem_nil
  | cons c cs ih =>
    refine ih (fun b later => only b (List.mem_cons_of_mem c later)) ?_
    rcases reached with member | before
    · rcases List.mem_cons.mp member with rfl | later
      · exact Or.inr rfl
      · exact Or.inl later
    · refine Or.inr ?_
      cases c with
      | setForwarding b => exact only b List.mem_cons_self
      | disableInterface i => exact before
      | deletePool p => exact before
      | enableInterface i => exact before
      | addPool p => exact before

/-- Two settings that agree up to the order of interfaces and pools, and how often they occur. -/
structure Agrees (g wanted : NatGlobal) : Prop where
  forwarding : g.forwarding = wanted.forwarding
  interfaces : ∀ i, i ∈ g.interfaces ↔ i ∈ wanted.interfaces
  pools : ∀ p, p ∈ g.pools ↔ p ∈ wanted.pools

/-- The changes lead to settings that agree with the wanted ones. -/
theorem agrees_foldl_changes (actual wanted : NatGlobal) :
    ((changes actual wanted).foldl applyTo actual).Agrees wanted where
  forwarding := by
    refine forwarding_foldl_applyTo (fun b member => (mem_changes.mp member).1) ?_
    by_cases same : actual.forwarding = wanted.forwarding
    · exact Or.inr same
    · exact Or.inl (mem_changes.mpr ⟨rfl, same⟩)
  interfaces i := by
    -- what is removed is not wanted, so it is not added
    have apart : .disableInterface i ∈ changes actual wanted →
        .enableInterface i ∉ changes actual wanted := fun removed added =>
      (mem_changes.mp removed).2 (mem_changes.mp added).1
    rw [mem_foldl_applyTo (mem_interfaces_applyTo i) apart, mem_changes, mem_changes]
    simp only [Needed]
    grind
  pools p := by
    have apart : .deletePool p ∈ changes actual wanted →
        .addPool p ∉ changes actual wanted := fun removed added =>
      (mem_changes.mp removed).2 (mem_changes.mp added).1
    rw [mem_foldl_applyTo (mem_pools_applyTo p) apart, mem_changes, mem_changes]
    simp only [Needed]
    grind

/-- Between settings that agree there is nothing to change. -/
theorem Agrees.changes_eq_nil (agrees : g.Agrees wanted) : changes g wanted = [] := by
  refine List.eq_nil_iff_forall_not_mem.mpr fun c member => ?_
  have needed := mem_changes.mp member
  cases c with
  | setForwarding enabled => exact needed.2 agrees.forwarding
  | disableInterface i => exact needed.2 ((agrees.interfaces i).mp needed.1)
  | deletePool p => exact needed.2 ((agrees.pools p).mp needed.1)
  | enableInterface i => exact needed.2 ((agrees.interfaces i).mpr needed.1)
  | addPool p => exact needed.2 ((agrees.pools p).mpr needed.1)

/-- So there is not if they are equal. -/
theorem changes_self (g : NatGlobal) : changes g g = [] :=
  Agrees.changes_eq_nil ⟨rfl, fun _ => Iff.rfl, fun _ => Iff.rfl⟩

end NatGlobal

/-! ### Passes -/

namespace NatReconciler

open NatGlobal

variable {σ : Type} {b : Behaviour σ} {s : σ} {actual wanted : NatGlobal} {c : GlobalChange}

/-- End a pass as its tally says.  The wanted settings count as in force if nothing failed. -/
def concludeGlobal (wanted : NatGlobal) (tally : FailureTally NatFailure) : Step Unit := do
  modify (addFailures tally.count)
  if tally.isEmpty then modify fun r => { r with global := some wanted }
  Pass.conclude tally

/-- What is left of a pass once the settings have been dumped. -/
def makeChanges (wanted actual : NatGlobal) : Step Unit :=
  if actual = wanted then modify fun r => { r with global := some wanted }
  else do
    let tally ← Pass.sweeping do
      (NatGlobal.changes actual wanted).forM fun change => Sweep.tolerate (applyGlobal change)
    concludeGlobal wanted tally

/-- With a dataplane a pass reads the settings and makes its changes. -/
theorem reconcileGlobal_eq (wanted : NatGlobal) {r : NatReconciler}
    (connected : r.connected = true) : reconcileGlobal wanted r =
      (Pass.dump (.nat .dumpGlobal) .dumpGlobal >>= makeChanges wanted) r := by
  obtain ⟨_, _, _, _, _, _, _⟩ := r
  obtain rfl := connected
  rfl

/-- A change is made, or its refusal is tallied; what is known of the settings stays. -/
theorem ensures_applyGlobal {x : NatReconciler × FailureTally NatFailure}
    {Q : Unit → NatReconciler × FailureTally NatFailure → σ → Prop}
    (expected : b.expects s (.nat (callFor c)))
    (granted : ∀ reply t (r : NatReconciler), r.global = x.1.global →
      b.answers s (.nat (callFor c)) (.ok reply) t → Q () (r, x.2) t)
    (refused : ∀ reason t, b.answers s (.nat (callFor c)) (.error reason) t →
      Q () (x.1, x.2.record (failureOf c reason)) t) :
    Sweep.Ensures b (Sweep.tolerate (applyGlobal c)) x s Q := by
  unfold applyGlobal
  rw [Sweep.ensures_tolerate, Pass.ensures_bind, Pass.ensures_change]
  refine ⟨expected, fun answer t given => ?_⟩
  match answer with
  | .ok reply => exact granted reply t _ rfl given
  | .error reason => exact refused reason t given

/-- A pass ends with its tally's last failure, and the settings are in force if there is none. -/
theorem ensures_concludeGlobal {r : NatReconciler} {tally : FailureTally NatFailure}
    {Q : Unit → NatReconciler → σ → Prop} {E : NatFailure → NatReconciler → σ → Prop}
    (well : tally.isEmpty = true → tally.last? = none ∧
      ∀ t : NatReconciler, t.global = some wanted → Q () t s)
    (failed : tally.isEmpty = false → ∀ t : NatReconciler, t.global = r.global →
      match tally.last? with
      | some e => E e t s
      | none => Q () t s) :
    Pass.Ensures b (concludeGlobal wanted tally) r s Q E := by
  unfold concludeGlobal
  rw [Pass.ensures_bind, Pass.ensures_modify]
  cases empty : tally.isEmpty with
  | true =>
    obtain ⟨none_, reached⟩ := well empty
    rw [if_pos rfl, Pass.ensures_bind, Pass.ensures_modify, Pass.ensures_conclude, none_]
    exact reached _ rfl
  | false =>
    show Pass.Ensures b (Pass.conclude tally) _ _ _ _
    rw [Pass.ensures_conclude]
    have reached := failed empty (addFailures tally.count r) rfl
    revert reached
    cases tally.last? <;> exact id

/-- A pass comes to its end through a loop over the changes, which keeps an invariant about those
that it has asked for. -/
theorem ensures_makeChanges {r : NatReconciler} {Q : Unit → NatReconciler → σ → Prop}
    {E : NatFailure → NatReconciler → σ → Prop}
    (I : List GlobalChange → NatReconciler × FailureTally NatFailure → σ → Prop)
    (idle : actual = wanted → Q () { r with global := some wanted } s) (start : I [] (r, ∅) s)
    (next : ∀ done c x t, I done x t →
      Sweep.Ensures b (Sweep.tolerate (applyGlobal c)) x t fun _ x' t' => I (done ++ [c]) x' t')
    (finish : ∀ x t, I (NatGlobal.changes actual wanted) x t →
      Pass.Ensures b (concludeGlobal wanted x.2) x.1 t Q E) :
    Pass.Ensures b (makeChanges wanted actual) r s Q E := by
  unfold makeChanges
  by_cases same : actual = wanted
  · rw [if_pos same, Pass.ensures_modify]
    exact idle same
  · rw [if_neg same, Pass.ensures_bind, Pass.ensures_sweeping]
    exact (Sweep.ensures_forM_done (fun done _ x t => I done x t) start
      fun done c _ x t _ h => next done c x t h).mono fun _ x t h => finish x t h

/-- What a pass made of its dump: its calls, and what it takes the settings in force to be. -/
structure GlobalCourse (actual wanted : NatGlobal) (before : Option NatGlobal)
    (xs : List Exchange) (t : NatReconciler) : Prop where
  calls : xs.map Exchange.call = (NatGlobal.changes actual wanted).map fun c => .nat (callFor c)
  granted : (∀ e ∈ xs, e.refusal? = none) → t.global = some wanted
  refused : (∃ e ∈ xs, e.refusal? ≠ none) → t.global = before

/-- How things stand once some changes have been asked for. -/
structure Asked (done : List GlobalChange) (before : Option NatGlobal)
    (x : NatReconciler × FailureTally NatFailure) (xs : List Exchange) : Prop where
  calls : xs.map Exchange.call = done.map fun c => .nat (callFor c)
  kept : x.1.global = before
  /-- Nothing is tallied as long as nothing is refused. -/
  calm : (∀ e ∈ xs, e.refusal? = none) ↔ x.2 = ∅
  counted : x.2.isEmpty = true → x.2 = ∅

/-- Another change is asked for, whatever the answer. -/
theorem Asked.ensures_next {done : List GlobalChange} {before : Option NatGlobal}
    {x : NatReconciler × FailureTally NatFailure} {xs : List Exchange} (h : Asked done before x xs)
    (c : GlobalChange) :
    Sweep.Ensures (transcript fun _ => True) (Sweep.tolerate (applyGlobal c)) x xs
      fun _ x' xs' => Asked (done ++ [c]) before x' xs' := by
  have calls : ∀ answer : Answer (.nat (callFor c)),
      (xs ++ [(⟨.nat (callFor c), answer⟩ : Exchange)]).map Exchange.call =
        (done ++ [c]).map fun c => .nat (callFor c) := by
    intro answer
    rw [List.map_append, List.map_append, h.calls]
    rfl
  refine ensures_applyGlobal trivial (fun reply t r kept given => ?_) fun reason t given => ?_
  · obtain rfl : t = _ := given
    refine ⟨calls _, kept.trans h.kept, ?_, h.counted⟩
    rw [← h.calm, List.forall_mem_append]
    exact and_iff_left (by simp [Exchange.refusal?])
  · -- the refusal is the last exchange, and it is tallied
    obtain rfl : t = _ := given
    refine ⟨calls _, h.kept, ⟨fun calm => ?_, nofun⟩, nofun⟩
    exact nomatch calm ⟨.nat (callFor c), .error reason⟩ (by simp)

/-- Once all changes have been asked for, the tally decides what counts as in force. -/
theorem Asked.ensures_conclude {before : Option NatGlobal}
    {x : NatReconciler × FailureTally NatFailure} {xs : List Exchange}
    (h : Asked (NatGlobal.changes actual wanted) before x xs) :
    Pass.Ensures (transcript fun _ => True) (concludeGlobal wanted x.2) x.1 xs
      (fun _ t xs => GlobalCourse actual wanted before xs t)
      (fun _ t xs => GlobalCourse actual wanted before xs t) := by
  refine ensures_concludeGlobal (fun empty => ?_) fun nonempty t kept => ?_
  · have none_ := h.counted empty
    refine ⟨by rw [none_]; rfl, fun t inForce => ⟨h.calls, fun _ => inForce, ?_⟩⟩
    rintro ⟨e, member, refused⟩
    exact absurd (h.calm.mpr none_ e member) refused
  · -- something was refused, so the settings are those from before
    have course : GlobalCourse actual wanted before xs t := by
      refine ⟨h.calls, fun calm => ?_, fun _ => kept.trans h.kept⟩
      rw [h.calm.mp calm] at nonempty
      exact nomatch nonempty
    split <;> exact course

/-- A pass goes its course, whatever it is answered. -/
theorem globalCourse_of_makeChanges {r t : NatReconciler} {ds : List Deed}
    {end_ : Except NatFailure Unit}
    (trace : Program.Trace (makeChanges wanted actual r) ds (end_, t)) :
    GlobalCourse actual wanted r.global (exchanges ds) t := by
  have ensures : Pass.Ensures (transcript fun _ => True) (makeChanges wanted actual) r []
      (fun _ t xs => GlobalCourse actual wanted r.global xs t)
      (fun _ t xs => GlobalCourse actual wanted r.global xs t) := by
    refine ensures_makeChanges (fun done x xs => Asked done r.global x xs) ?_
      ⟨rfl, rfl, by simp, fun _ => rfl⟩ (fun done c x xs h => h.ensures_next c) fun x xs h => ?_
    · rintro rfl
      exact ⟨by rw [changes_self]; rfl, fun _ => rfl, by simp⟩
    · exact h.ensures_conclude
  exact ensures.of_trace (C := fun _ t xs => GlobalCourse actual wanted r.global xs t) trace

/-- A pass reads the settings.  If it may not, that is all; if it may, it goes its course. -/
theorem globalCourse_of_trace {r t : NatReconciler} {ds : List Deed}
    {end_ : Except NatFailure Unit} (connected : r.connected = true)
    (trace : Program.Trace (reconcileGlobal wanted r) ds (end_, t)) :
    (∃ reason, exchanges ds = [⟨.nat .dumpGlobal, .error reason⟩] ∧ t.global = r.global) ∨
    ∃ actual xs, exchanges ds = ⟨.nat .dumpGlobal, .ok actual⟩ :: xs ∧
      GlobalCourse actual wanted r.global xs t := by
  rw [reconcileGlobal_eq wanted connected] at trace
  rcases Pass.of_trace_dump_bind trace with ⟨reason, rfl, -, rfl⟩ | ⟨actual, ds', rfl, rest⟩
  · exact Or.inl ⟨reason, rfl, rfl⟩
  · exact Or.inr ⟨actual, exchanges ds', rfl, globalCourse_of_makeChanges rest⟩

/-! ### Settings of the simulated dataplane -/

/-- The simulated dataplane makes each change. -/
theorem perform_callFor (c : GlobalChange) (d : NatTables) :
    ∃ reply, (callFor c).perform d = (.ok reply, { d with global := c.applyTo d.global }) := by
  cases c <;> exact ⟨(), rfl⟩

/-- Where no call fails, each change that is asked for is made. -/
theorem ensures_change_made {c : GlobalChange} {done : List GlobalChange}
    {x : NatReconciler × FailureTally NatFailure} {d : NatTables}
    (reached : d.global = done.foldl GlobalChange.applyTo actual) (well : x.2 = ∅) :
    Sweep.Ensures (NatTables.behaviour False (·.part = .nat)) (Sweep.tolerate (applyGlobal c)) x d
      fun _ x' d' =>
        d'.global = (done ++ [c]).foldl GlobalChange.applyTo actual ∧ x'.2 = ∅ := by
  obtain ⟨reply, carried⟩ := perform_callFor c d
  refine ensures_applyGlobal ⟨rfl, rfl⟩ (fun _ t _ _ given => ?_) fun reason t given => ?_
  · rcases Effect.Gives.of_carried given carried with ⟨-, rfl⟩ | ⟨never, -⟩
    · refine ⟨?_, well⟩
      rw [List.foldl_append, ← reached]
      rfl
    · exact never.elim
  · rcases Effect.Gives.of_carried given carried with ⟨refused, -⟩ | ⟨never, -⟩
    · exact nomatch refused
    · exact never.elim

/-- Where no call fails, a pass comes to its end, with all changes made. -/
theorem ensures_changes_made (wanted : NatGlobal) (r : NatReconciler) (d : NatTables) :
    Pass.Ensures (NatTables.behaviour False (·.part = .nat)) (makeChanges wanted d.global) r d
      (fun _ t d' =>
        d'.global = (NatGlobal.changes d.global wanted).foldl GlobalChange.applyTo d.global ∧
          t.global = some wanted)
      fun _ _ _ => False := by
  refine ensures_makeChanges
    (fun done x d' => d'.global = done.foldl GlobalChange.applyTo d.global ∧ x.2 = ∅) ?_
    ⟨rfl, rfl⟩ (fun _ _ _ _ h => ensures_change_made h.1 h.2) fun x d' ⟨reached, well⟩ => ?_
  · intro same
    rw [← same, changes_self]
    exact ⟨rfl, rfl⟩
  · rw [well]
    exact ensures_concludeGlobal (fun _ => ⟨rfl, fun t inForce => ⟨reached, inForce⟩⟩) nofun

/-- Where no call fails, a pass reads the settings and makes its changes. -/
theorem exists_run_reconcileGlobal (wanted : NatGlobal) {r : NatReconciler} {s : Simulation}
    (connected : r.connected = true) (calm : s.failing = []) :
    ∃ r' t, Trial.run (reconcileGlobal wanted r) { simulation := s } = some ((.ok (), r'), t) ∧
      t.simulation.nat.global =
        (NatGlobal.changes s.nat.global wanted).foldl GlobalChange.applyTo s.nat.global ∧
      r'.global = some wanted ∧ r'.connected = true ∧ t.simulation.failing = [] ∧
      t.calls = .nat .dumpGlobal ::
        (NatGlobal.changes s.nat.global wanted).map fun c => .nat (callFor c) := by
  obtain ⟨⟨⟩, r', t, rest, ⟨reached, inForce⟩, calm'⟩ := Trial.exists_run_of_nat
    (t := { simulation := s, deeds := [.called (.nat .dumpGlobal) (.ok s.nat.global)] })
    (ensures_changes_made wanted r s.nat) calm rfl
  have result : Trial.run (reconcileGlobal wanted r) { simulation := s } =
      some ((.ok (), r'), t) := by
    rw [reconcileGlobal_eq wanted connected, Trial.run_dump_bind rfl rfl calm]
    exact rest
  refine ⟨r', t, result, reached, inForce, ?_, calm', ?_⟩
  · obtain ⟨_, _, trace⟩ := Trial.trace_of_run result
    exact (trace_reconcileGlobal connected trace).2.2.trans connected
  · obtain ⟨ds, deeds, trace⟩ := Trial.trace_of_run rest
    rw [Trial.calls_append deeds, (globalCourse_of_makeChanges trace).calls]
    rfl

/-- A pass over the global settings makes exactly the changes that are needed, in their order,
whatever is refused: the calls are the same.  If one is refused, what counts as in force stays as
it was.

If no call fails, the settings then agree with the wanted ones, which count as in force, and another
pass only looks. -/
theorem reconcileGlobal_converges (wanted : NatGlobal) :
    (∀ {r t : NatReconciler} {ds : List Deed} {end_ : Except NatFailure Unit},
      r.connected = true → Program.Trace (reconcileGlobal wanted r) ds (end_, t) →
      (∃ reason, exchanges ds = [⟨.nat .dumpGlobal, .error reason⟩] ∧ t.global = r.global) ∨
      ∃ actual xs, exchanges ds = ⟨.nat .dumpGlobal, .ok actual⟩ :: xs ∧
        xs.map Exchange.call = (NatGlobal.changes actual wanted).map (fun c => .nat (callFor c)) ∧
        (∀ c, c ∈ NatGlobal.changes actual wanted ↔ c.Needed actual wanted) ∧
        (NatGlobal.changes actual wanted).Pairwise (fun c d => c.phase ≤ d.phase) ∧
        ((∃ e ∈ xs, e.refusal? ≠ none) → t.global = r.global)) ∧
    ∀ {r : NatReconciler} {s : Simulation}, r.connected = true → s.failing = [] →
      ∃ r₁ t₁, Trial.run (reconcileGlobal wanted r) { simulation := s } =
          some ((.ok (), r₁), t₁) ∧
        t₁.simulation.nat.global.Agrees wanted ∧ r₁.global = some wanted ∧
        r₁.connected = true ∧
        ∀ r₂ : NatReconciler, r₂.connected = true →
          ∃ r₃ t₂, Trial.run (reconcileGlobal wanted r₂) { simulation := t₁.simulation } =
              some ((.ok (), r₃), t₂) ∧
            t₂.calls = [.nat .dumpGlobal] := by
  refine ⟨fun {r t ds end_} connected trace => ?_, fun {r s} connected calm => ?_⟩
  · rcases globalCourse_of_trace connected trace with refused | ⟨actual, xs, made, course⟩
    · exact Or.inl refused
    · exact Or.inr ⟨actual, xs, made, course.calls, fun _ => mem_changes,
        pairwise_phase_changes actual wanted, course.refused⟩
  · obtain ⟨r₁, t₁, first, reached, inForce, connected₁, calm₁, -⟩ :=
      exists_run_reconcileGlobal wanted connected calm
    have agrees : t₁.simulation.nat.global.Agrees wanted :=
      reached ▸ agrees_foldl_changes s.nat.global wanted
    refine ⟨r₁, t₁, first, agrees, inForce, connected₁, fun r₂ connected₂ => ?_⟩
    obtain ⟨r₃, t₂, second, -, -, -, -, calls⟩ :=
      exists_run_reconcileGlobal wanted connected₂ calm₁
    rw [agrees.changes_eq_nil] at calls
    exact ⟨r₃, t₂, second, calls⟩

/-- A dataplane in which an interface occurs twice that is not wanted. -/
def gateway : Simulation where
  nat :=
    { global :=
        { interfaces := [{ name := "lan" }, { name := "old" }, { name := "old" }]
          pools := [{ first := "192.0.2.1" }] } }

/-- The settings that are wanted there. -/
def gatewaySettings : NatGlobal where
  forwarding := true
  interfaces := [{ name := "wan" }, { name := "lan" }]
  pools := [{ first := "192.0.2.9" }, { first := "192.0.2.1" }]

/-- If forwarding cannot be set, all other changes are asked for, and the earlier settings count as
in force.  If nothing is refused, the settings agree with the wanted ones, and another pass only
looks. -/
theorem reconcileGlobal_converges_gateway :
    (∃ e r ds actual xs, Program.Trace (reconcileGlobal gatewaySettings
        { global := some {} }) ds (.error e, r) ∧
      exchanges ds = ⟨.nat .dumpGlobal, .ok actual⟩ :: xs ∧
      xs.map Exchange.call =
        (NatGlobal.changes actual gatewaySettings).map (fun c => .nat (callFor c)) ∧
      r.global = some {}) ∧
    ∃ r₁ t₁ r₂ t₂, Trial.run (reconcileGlobal gatewaySettings {}) { simulation := gateway } =
        some ((.ok (), r₁), t₁) ∧
      t₁.simulation.nat.global.Agrees gatewaySettings ∧ r₁.global = some gatewaySettings ∧
      Trial.run (reconcileGlobal gatewaySettings r₁) { simulation := t₁.simulation } =
        some ((.ok (), r₂), t₂) ∧
      t₂.calls = [.nat .dumpGlobal] := by
  obtain ⟨traces, runs⟩ := reconcileGlobal_converges gatewaySettings
  constructor
  · have fails : Trial.failsWith (reconcileGlobal gatewaySettings { global := some {} })
        { simulation := gateway, refusals := [none, none, none, some "busy"] }
        (fun _ t => (exchanges t.deeds).tail.any (·.refusal? != none)) = true := by
      decide +kernel
    obtain ⟨e, r, ds, trace, refused⟩ := Trial.trace_of_failsWith
      (fun xs => xs.tail.any (·.refusal? != none)) rfl fails
    obtain ⟨x, member, refused⟩ := List.any_eq_true.mp refused
    rcases traces rfl trace with ⟨reason, only, -⟩ | ⟨actual, xs, asked, calls, -, -, kept⟩
    · rw [only] at member
      exact absurd member List.not_mem_nil
    · rw [asked] at member
      exact ⟨e, r, _, actual, xs, trace, asked, calls, kept ⟨x, member, bne_iff_ne.mp refused⟩⟩
  · obtain ⟨r₁, t₁, first, agrees, inForce, connected, again⟩ :=
      runs (r := {}) (s := gateway) rfl rfl
    obtain ⟨r₂, t₂, second, quiet⟩ := again r₁ connected
    exact ⟨r₁, t₁, r₂, t₂, first, agrees, inForce, second, quiet⟩

end NatReconciler

end DataplaneSync
