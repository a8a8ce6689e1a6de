import DataplaneSync.Proofs.DestinationSteps
import DataplaneSync.Proofs.Trial
import DataplaneSync.Run
import Mathlib.Data.List.Pairwise

namespace DataplaneSync

/-!
# Idempotence of the reconciliation of destination NAT

Groups that have been reconciled are found as they are wanted, so reconciling them again neither
adds nor removes a mapping.

* `Standing` — how things stand between two groups: those that are registered are reconciled, the
  others are as they were.
* `Run.ensures_destinationStage` — where the whole stage gets to, and which mappings it adds and
  removes on the way.
* `Run.destinationStage_twice` — the second of two stages.
-/

open NatReconciler

/-- What is promised of a list of wanted groups. -/
structure SoundGroups (wanted : List DestinationNat) : Prop where
  distinct : (wanted.map (·.label)).Nodup
  sound : ∀ w ∈ wanted, Sound w
  /-- No two groups have a key in common. -/
  apart : ∀ v ∈ wanted, ∀ w ∈ wanted, ∀ key, key ∈ v.mappings.map Mapping.key →
    key ∈ w.mappings.map Mapping.key → v = w

/-- How things stand between two groups: `before` are the groups at the start, and `uncleaned`
those that may still be there although they are not wanted. -/
structure Standing (wanted before uncleaned : List DestinationNat) (r : NatReconciler)
    (ds : List DestinationNat) : Prop where
  distinct : (ds.map (·.label)).Nodup
  registered : ∀ label, r.labels.contains label = true → ∃ w ∈ wanted, w.label = label
  done : ∀ w ∈ wanted, r.labels.contains w.label = true →
    groupOf ds w.label = w.reconciled (groupOf before w.label)
  ahead : ∀ w ∈ wanted, r.labels.contains w.label = false →
    groupOf ds w.label = groupOf before w.label
  others : ∀ label, (∀ w ∈ wanted, w.label ≠ label) →
    (label ∈ uncleaned.map (·.label) → groupOf ds label = groupOf before label) ∧
      (label ∉ uncleaned.map (·.label) → (groupOf ds label).isEmpty = true)
  known : ∀ key, r.knows key = true →
    ∃ w ∈ wanted, r.labels.contains w.label = true ∧ key ∈ w.mappings.map Mapping.key
  connected : r.connected = true

variable {wanted before uncleaned ds ds' : List DestinationNat} {r r' : NatReconciler}
variable {w : DestinationNat}

namespace Standing

/-- At the start nothing is registered. -/
theorem start (distinct : (before.map (·.label)).Nodup) (connected : r.connected = true)
    (unlabelled : ∀ label, r.labels.contains label = false)
    (unknown : ∀ key, r.knows key = false) : Standing wanted before before r before where
  distinct := distinct
  registered label found := nomatch (unlabelled label).symm.trans found
  done w _ found := nomatch (unlabelled w.label).symm.trans found
  ahead _ _ _ := rfl
  others label _ := by
    refine ⟨fun _ => rfl, fun absent => ?_⟩
    rw [groupOf_of_not_mem absent]
    rfl
  known key found := nomatch (unknown key).symm.trans found
  connected := connected

/-- Nothing is known of a group that is not registered. -/
theorem fresh (h : Standing wanted before uncleaned r ds) (groups : SoundGroups wanted)
    (member : w ∈ wanted) (ahead : r.labels.contains w.label = false) :
    ∀ key ∈ w.mappings.map Mapping.key, r.knows key = false := by
  intro key own
  by_contra known
  obtain ⟨v, hv, found, theirs⟩ := h.known key (by simpa using known)
  obtain rfl : v = w := groups.apart v hv w member key theirs own
  exact nomatch ahead.symm.trans found

/-- A group that has been reconciled may be registered. -/
theorem enroll (h : Standing wanted before uncleaned r ds) (groups : SoundGroups wanted)
    (member : w ∈ wanted) (learned : Learned r (w.mappings.map Mapping.key) r')
    (regrouped : Regrouped ds w.label (w.reconciled (groupOf before w.label)) ds') :
    Standing wanted before uncleaned (enrollLabel w r') ds' := by
  have labels := contains_enrollLabel learned w
  have knows : ∀ key, (enrollLabel w r').knows key = true ↔
      r.knows key = true ∨ key ∈ w.mappings.map Mapping.key := learned.knows
  refine ⟨regrouped.distinct, fun label found => ?_, fun v hv found => ?_, fun v hv absent => ?_,
    fun label other => ?_, fun key found => ?_, learned.connected.trans h.connected⟩
  -- only the group of `w` has changed, and only its label and its keys are new
  · rw [labels, Bool.or_eq_true, decide_eq_true_iff] at found
    rcases found with rfl | found
    · exact ⟨w, member, rfl⟩
    · exact h.registered label found
  · by_cases same : v.label = w.label
    · obtain rfl : v = w := List.inj_on_of_nodup_map groups.distinct hv member same
      exact regrouped.group_self
    · rw [regrouped.group_ne same]
      refine h.done v hv ?_
      simpa [labels, same] using found
  · obtain ⟨apart, absent⟩ : v.label ≠ w.label ∧ r.labels.contains v.label = false := by
      simpa [labels] using absent
    rw [regrouped.group_ne apart]
    exact h.ahead v hv absent
  · rw [regrouped.group_ne (Ne.symm (other w member))]
    exact h.others label other
  · rw [knows] at found
    rcases found with found | own
    · obtain ⟨v, hv, registered, theirs⟩ := h.known key found
      exact ⟨v, hv, by rw [labels, registered, Bool.or_true], theirs⟩
    · exact ⟨w, member, by simp [labels], own⟩

/-- A group that is not wanted may be left without mappings. -/
theorem clean {d a : DestinationNat} (h : Standing wanted before (a :: uncleaned) r ds)
    (once : a.label ∉ uncleaned.map (·.label)) (learned : Learned r [] r')
    (regrouped : Regrouped ds a.label d ds') (empty : d.isEmpty = true)
    (unwanted : ∀ w ∈ wanted, w.label ≠ a.label) :
    Standing wanted before uncleaned r' ds' := by
  refine ⟨regrouped.distinct, fun label => ?_, fun w hw => ?_, fun w hw => ?_,
    fun label other => ?_, fun key => ?_, learned.connected.trans h.connected⟩
  · rw [learned.labels]
    exact h.registered label
  · rw [learned.labels, regrouped.group_ne (unwanted w hw)]
    exact h.done w hw
  · rw [learned.labels, regrouped.group_ne (unwanted w hw)]
    exact h.ahead w hw
  · by_cases same : label = a.label
    · rw [same, regrouped.group_self]
      exact ⟨fun there => absurd there once, fun _ => empty⟩
    · obtain ⟨waiting, cleaned⟩ := h.others label other
      rw [regrouped.group_ne same]
      simp only [List.map_cons, List.mem_cons, same, false_or] at waiting cleaned
      exact ⟨waiting, cleaned⟩
  · -- nothing is learned from what is removed
    rw [learned.labels, learned.knows]
    rintro (found | never)
    · exact h.known key found
    · exact absurd never List.not_mem_nil

/-- A group that is wanted need not be cleaned. -/
theorem skip {a : DestinationNat} (h : Standing wanted before (a :: uncleaned) r ds)
    (member : ∃ w ∈ wanted, w.label = a.label) : Standing wanted before uncleaned r ds := by
  refine ⟨h.distinct, h.registered, h.done, h.ahead, fun label other => ?_, h.known, h.connected⟩
  obtain ⟨w, hw, same⟩ := member
  have apart : label ≠ a.label := fun e => other w hw (same.trans e.symm)
  obtain ⟨waiting, cleaned⟩ := h.others label other
  simp only [List.map_cons, List.mem_cons, apart, false_or] at waiting cleaned
  exact ⟨waiting, cleaned⟩

/-- Counts are of no consequence. -/
theorem stats (h : Standing wanted before uncleaned r ds) (stats : NatStats) :
    Standing wanted before uncleaned { r with stats := stats } ds :=
  ⟨h.distinct, h.registered, h.done, h.ahead, h.others, h.known, h.connected⟩

end Standing

/-! ### Loops of a pass -/

/-- The calls that a stage makes are allowed. -/
structure Permitted (allowed : Call → Prop) (wanted before : List DestinationNat) : Prop where
  dump : allowed (.nat .dumpDestinations)
  add : ∀ w ∈ wanted, ∀ m ∈ w.missing (groupOf before w.label),
    allowed (.nat (.addMapping w.label m))
  delete : ∀ w ∈ wanted, ∀ m ∈ w.surplus (groupOf before w.label),
    allowed (.nat (.deleteMapping w.label m))
  clean : ∀ a ∈ before, (∀ w ∈ wanted, w.label ≠ a.label) → ∀ m ∈ a.mappings,
    allowed (.nat (.deleteMapping a.label m))

namespace NatReconciler

variable {allowed : Call → Prop} {s : NatTables}

/-- A wanted group that the dataplane does not have is registered later. -/
def Covered (wanted before : List DestinationNat) (r : NatReconciler) : Prop :=
  ∀ w ∈ wanted, w.label ∉ before.map (·.label) ∨ r.labels.contains w.label = true

/-- The wanted groups that the dataplane has are reconciled and registered. -/
theorem ensures_settleWanted (groups : SoundGroups wanted)
    (permitted : Permitted allowed wanted before)
    (standing : Standing wanted before before r s.destinations)
    (unlabelled : ∀ label, r.labels.contains label = false) :
    Sweep.Ensures (NatTables.behaviour False allowed) (wanted.forM (settleWanted before)) (r, ∅) s
      fun _ x s' => Standing wanted before before x.1 s'.destinations ∧ x.2 = ∅ ∧
        Covered wanted before x.1 := by
  -- the groups still ahead are not registered, and every other one is registered or missing
  refine (Sweep.ensures_forM (fun rest x s' =>
    Standing wanted before before x.1 s'.destinations ∧ x.2 = ∅ ∧
      (∀ v ∈ rest, x.1.labels.contains v.label = false) ∧
      ∀ v ∈ wanted, v ∈ rest ∨ v.label ∉ before.map (·.label) ∨
        x.1.labels.contains v.label = true)
    ⟨standing, rfl, fun v _ => unlabelled v.label, fun v hv => Or.inl hv⟩ ?_).mono ?_
  · rintro w rest ⟨r, tally⟩ s suffix ⟨standing, none_, ahead, covered⟩
    obtain rfl : tally = ∅ := none_
    have member : w ∈ wanted := suffix.subset List.mem_cons_self
    unfold settleWanted
    split
    · next a found =>
      have here : groupOf before w.label = a := groupOf_of_find found
      have unregistered := ahead w List.mem_cons_self
      refine (ensures_settle (groups.sound w member) (standing.fresh groups member unregistered)
        standing.distinct ((standing.ahead w member unregistered).trans here)
        (here ▸ permitted.add w member) (here ▸ permitted.delete w member)).mono ?_
      rintro _ ⟨_, tally⟩ s' ⟨⟨r₁, learned, rfl⟩, same, regrouped⟩
      have labels := contains_enrollLabel learned w
      have others : ∀ v ∈ rest, v.label ≠ w.label := by
        have apart := groups.distinct.sublist (suffix.sublist.map (·.label))
        intro v hv e
        exact (List.nodup_cons.mp apart).1 (List.mem_map.mpr ⟨v, hv, e⟩)
      refine ⟨standing.enroll groups member learned (here ▸ regrouped), same, fun v hv => ?_,
        ahead_or_done covered (Or.inr ?_) fun v => Or.imp_right fun done => ?_⟩
      · rw [labels, ahead v (List.mem_cons_of_mem w hv), decide_eq_false (others v hv)]
        rfl
      · rw [labels, decide_eq_true rfl, Bool.true_or]
      · rw [labels, done, Bool.or_true]
    · next missing =>
      have absent : w.label ∉ before.map (·.label) := by
        intro there
        obtain ⟨d, hd, same⟩ := List.mem_map.mp there
        exact absurd same (by simpa using List.find?_eq_none.mp missing d hd)
      exact ⟨standing, rfl, fun v hv => ahead v (List.mem_cons_of_mem w hv),
        ahead_or_done covered (Or.inl absent) fun _ => id⟩
  · rintro _ x s' ⟨standing, none_, -, covered⟩
    exact ⟨standing, none_, fun v hv => (covered v hv).resolve_left List.not_mem_nil⟩

/-- The mappings of a group are all its mappings. -/
theorem isEmpty_foldl_deleteFrom (d : DestinationNat) :
    (d.mappings.foldl (fun d m => m.deleteFrom d) d).isEmpty = true := by
  simp only [DestinationNat.mappings, List.foldl_append, foldl_deleteFrom_statics,
    foldl_deleteFrom_identities, DestinationNat.isEmpty, Bool.and_eq_true, List.isEmpty_iff,
    List.filter_eq_nil_iff]
  simp

/-- The groups that are not wanted are removed. -/
theorem ensures_clean (distinct : (before.map (·.label)).Nodup)
    (permitted : Permitted allowed wanted before)
    (standing : Standing wanted before before r s.destinations)
    (covered : Covered wanted before r) :
    Sweep.Ensures (NatTables.behaviour False allowed) (before.forM clean) (r, ∅) s
      fun _ x s' => Standing wanted before [] x.1 s'.destinations ∧ x.2 = ∅ ∧
        Covered wanted before x.1 := by
  let invariant (rest : List DestinationNat) (x : NatReconciler × FailureTally NatFailure)
      (s' : NatTables) : Prop :=
    Standing wanted before rest x.1 s'.destinations ∧ x.2 = ∅ ∧ Covered wanted before x.1
  refine Sweep.ensures_forM invariant ⟨standing, rfl, covered⟩ ?_
  rintro a rest ⟨r, tally⟩ s suffix ⟨standing, none_, covered⟩
  obtain rfl : tally = ∅ := none_
  have there : a ∈ before := suffix.subset List.mem_cons_self
  simp only [clean, Sweep.ensures_bind, Sweep.ensures_state]
  split
  · next found => exact ⟨standing.skip (standing.registered a.label found), rfl, covered⟩
  · next absent =>
    have unwanted : ∀ w ∈ wanted, w.label ≠ a.label := by
      intro w hw same
      rcases covered w hw with gone | found
      · exact gone (List.mem_map.mpr ⟨a, there, same.symm⟩)
      · exact absent (same ▸ found)
    have once : a.label ∉ rest.map (·.label) :=
      (List.nodup_cons.mp (distinct.sublist (suffix.sublist.map (·.label)))).1
    -- the group is as it was at the start, so all its mappings are removed
    have here : groupOf s.destinations a.label = a := by
      rw [(standing.others a.label unwanted).1 List.mem_cons_self, groupOf_of_mem distinct there]
    simp only [Sweep.ensures_bind, Sweep.ensures_failures, deleteAll_eq]
    refine (ensures_deletions standing.distinct (permitted.clean a there unwanted)).mono ?_
    rintro _ ⟨r', tally⟩ s' ⟨learned, same, regrouped⟩
    obtain rfl : tally = ∅ := same
    rw [here] at regrouped
    have cleaned := standing.clean once learned regrouped (isEmpty_foldl_deleteFrom a) unwanted
    have covered' : Covered wanted before r' := by
      intro w hw
      rw [learned.labels]
      exact covered w hw
    simp only [if_true, Sweep.ensures_update]
    exact ⟨cleaned.stats _, rfl, covered'⟩

/-- The groups that the dataplane has are reconciled or removed. -/
theorem ensures_reconcileDestinations (groups : SoundGroups wanted)
    (distinct : (s.destinations.map (·.label)).Nodup)
    (permitted : Permitted allowed wanted s.destinations) (connected : r.connected = true) :
    Pass.Ensures (NatTables.behaviour False allowed) (reconcileDestinations wanted) r s
      (fun _ r' s' => Standing wanted s.destinations [] r' s'.destinations ∧
        Covered wanted s.destinations r') (fun _ _ _ => False) := by
  simp only [reconcileDestinations, requireConnection, Pass.ensures_bind, Pass.ensures_get,
    connected, if_true, Pass.ensures_pure, Pass.ensures_modify]
  have standing : Standing wanted s.destinations s.destinations
      { global := r.global, stats := r.stats } s.destinations :=
    Standing.start distinct rfl (fun _ => rfl) fun key => by cases key <;> rfl
  rw [Pass.ensures_dump]
  refine ⟨⟨rfl, permitted.dump⟩, fun answer t given => ?_⟩
  rcases Effect.Gives.of_carried given rfl with ⟨rfl, rfl⟩ | ⟨never, -⟩
  case inr => exact never.elim
  dsimp only
  split
  · -- there is nothing to reconcile, and nothing to remove
    next bare =>
    rw [List.isEmpty_iff] at bare
    rw [bare] at standing ⊢
    rw [Pass.ensures_pure]
    refine ⟨?_, fun w _ => Or.inl List.not_mem_nil⟩
    rw [bare]
    exact standing
  · simp only [Pass.ensures_bind, Pass.ensures_sweeping, Sweep.ensures_bind]
    refine (ensures_settleWanted groups permitted standing fun _ => rfl).mono ?_
    rintro _ ⟨r₁, tally⟩ s₁ ⟨standing₁, none_, covered⟩
    obtain rfl : tally = ∅ := none_
    refine (ensures_clean distinct permitted standing₁ covered).mono ?_
    rintro _ ⟨r₂, tally⟩ s₂ ⟨standing₂, none_, covered⟩
    obtain rfl : tally = ∅ := none_
    simp only [Pass.ensures_modify, Pass.ensures_conclude_empty]
    exact ⟨standing₂.stats _, covered⟩

/-- A group that the dataplane does not have is created. -/
theorem ensures_configure (groups : SoundGroups wanted)
    (permitted : Permitted allowed wanted before)
    (standing : Standing wanted before [] r s.destinations) (member : w ∈ wanted)
    (unregistered : r.labels.contains w.label = false)
    (absent : w.label ∉ before.map (·.label)) :
    Pass.Ensures (NatTables.behaviour False allowed) (configure w) r s
      (fun _ r' s' => Standing wanted before [] r' s'.destinations ∧
        ∀ label, r'.labels.contains label =
          (decide (label = w.label) || r.labels.contains label)) (fun _ _ _ => False) := by
  have sound := groups.sound w member
  have fresh := standing.fresh groups member unregistered
  have nothing : groupOf before w.label = { label := w.label } := groupOf_of_not_mem absent
  -- the whole group is missing, and nothing is surplus
  have found : foundKeys (w.resolve [] []) = [] := by
    simp [foundKeys, DestinationNat.resolve, pairOff_nil, Pairing.found]
  have unknown : (w.mappings.filter fun m => !r.knows m.key) =
      w.missing (groupOf before w.label) := by
    rw [nothing]
    exact filter_unknown sound fresh (found ▸ Learned.refl r)
  have surplus : w.surplus (groupOf before w.label) = [] := by
    simp [nothing, DestinationNat.surplus, pairOff_nil]
  simp only [configure, requireConnection, Pass.ensures_bind, Pass.ensures_get,
    standing.connected, if_true, Pass.ensures_pure, Pass.ensures_sweeping, createMissing_eq]
  refine (ensures_settleMappings sound.creatable sound.once standing.distinct
    fun m hm new => permitted.add w member m ?_).mono ?_
  · rw [← unknown, List.mem_filter]
    exact ⟨hm, by rw [new]; rfl⟩
  rintro _ ⟨r₁, tally⟩ s₁ ⟨learned, none_, regrouped⟩
  obtain rfl : tally = ∅ := none_
  rw [unknown, standing.ahead w member unregistered] at regrouped
  have reconciled :=
    foldl_missing_surplus sound.statics sound.identities (groupOf before w.label)
  rw [surplus, List.foldl_nil] at reconciled
  rw [reconciled] at regrouped
  simp only [Pass.ensures_modify, Pass.ensures_conclude_empty]
  exact ⟨(standing.enroll groups member learned regrouped).stats _, contains_enrollLabel learned w⟩

end NatReconciler

/-! ### The stage -/

/-- Where a stage gets to: every wanted group is reconciled, and no other has mappings. -/
structure AllReconciled (wanted before ds : List DestinationNat) : Prop where
  distinct : (ds.map (·.label)).Nodup
  done : ∀ w ∈ wanted, groupOf ds w.label = w.reconciled (groupOf before w.label)
  others : ∀ label, (∀ w ∈ wanted, w.label ≠ label) → (groupOf ds label).isEmpty = true

namespace Run

variable {allowed : Call → Prop} {s : NatTables}

/-- The wanted groups that the dataplane does not have are created. -/
theorem ensures_configureMissing (groups : SoundGroups wanted)
    (permitted : Permitted allowed wanted before) {rest : List DestinationNat}
    (within : ∀ w ∈ rest, w ∈ wanted)
    (standing : Standing wanted before [] r s.destinations) (covered : Covered wanted before r)
    (ahead : ∀ w ∈ wanted, w ∈ rest ∨ r.labels.contains w.label = true) :
    (configureMissing rest (.ok ()) r).Ensures (NatTables.behaviour False allowed) s fun x s' =>
      x.1 = .ok () ∧ AllReconciled wanted before s'.destinations := by
  induction rest generalizing r s with
  | nil =>
    have all : ∀ w ∈ wanted, r.labels.contains w.label = true :=
      fun w hw => (ahead w hw).resolve_left List.not_mem_nil
    refine ⟨rfl, standing.distinct, fun w hw => standing.done w hw (all w hw), ?_⟩
    intro label other
    exact (standing.others label other).2 List.not_mem_nil
  | cons w rest ih =>
    have member : w ∈ wanted := within w List.mem_cons_self
    have within' := fun v hv => within v (List.mem_cons_of_mem w hv)
    unfold configureMissing
    split
    · next found => exact ih within' standing covered (ahead_or_done ahead found fun _ => id)
    · next unregistered =>
      have absent := (covered w member).resolve_right unregistered
      refine (Program.ensures_bind (pass (NatReconciler.configure w) r) _ s _).mpr ?_
      refine Program.Ensures.mono (ensures_configure groups permitted standing member
        (Bool.eq_false_iff.mpr unregistered) absent) ?_
      rintro ⟨end_, r'⟩ s' reached
      match end_ with
      | .ok u =>
        obtain ⟨standing', labels⟩ := reached
        have kept : ∀ v : DestinationNat, r.labels.contains v.label = true →
            r'.labels.contains v.label = true := by
          intro v done
          rw [labels, done, Bool.or_true]
        refine ih within' standing' (fun v hv => (covered v hv).imp_right (kept v))
          (ahead_or_done ahead ?_ kept)
        rw [labels, decide_eq_true rfl, Bool.true_or]

/-- A stage comes to its end, and then every wanted group is reconciled. -/
theorem ensures_destinationStage (groups : SoundGroups wanted)
    (distinct : (s.destinations.map (·.label)).Nodup)
    (permitted : Permitted allowed wanted s.destinations) :
    (destinationStage wanted {}).Ensures (NatTables.behaviour False allowed) s fun x s' =>
      x.1 = .ok () ∧ AllReconciled wanted s.destinations s'.destinations := by
  refine (Program.ensures_bind (pass (reconcileDestinations wanted) {}) _ s _).mpr ?_
  refine Program.Ensures.mono (ensures_reconcileDestinations groups distinct permitted rfl) ?_
  rintro ⟨end_, r⟩ s' reached
  match end_ with
  | .ok u =>
    obtain ⟨standing, covered⟩ := reached
    exact ensures_configureMissing groups permitted (fun _ => id) standing covered
      fun w hw => Or.inl hw

end Run

/-- A dataplane that holds a snapshot has its groups, and no call is set to fail. -/
theorem Simulation.destinations_of_ofSnapshot? {snapshot : Snapshot} {s : Simulation}
    (start : ofSnapshot? snapshot = some s) :
    s.nat.destinations = snapshot.destinations ∧ s.failing = [] := by
  simp only [ofSnapshot?, Option.ite_none_right_eq_some, Option.some.injEq] at start
  obtain ⟨-, rfl⟩ := start
  exact ⟨rfl, rfl⟩

/-- Groups that have been reconciled need no mappings added or removed. -/
theorem AllReconciled.permitted {allowed : Call → Prop} (h : AllReconciled wanted before ds)
    (groups : SoundGroups wanted)
    (once : ∀ label, (groupOf before label).statics.Nodup ∧ (groupOf before label).identities.Nodup)
    (dump : allowed (.nat .dumpDestinations)) : Permitted allowed wanted ds := by
  have nothing : ∀ w ∈ wanted, w.missing (groupOf ds w.label) = [] ∧
      w.surplus (groupOf ds w.label) = [] := by
    intro w hw
    have sound := groups.sound w hw
    rw [h.done w hw]
    exact missing_surplus_reconciled sound.statics sound.identities (once w.label)
  refine ⟨dump, fun w hw => ?_, fun w hw => ?_, fun a there unwanted => ?_⟩
  · rw [(nothing w hw).1]
    exact fun m hm => absurd hm List.not_mem_nil
  · rw [(nothing w hw).2]
    exact fun m hm => absurd hm List.not_mem_nil
  · -- a group that is not wanted has no mappings left
    have empty := h.others a.label unwanted
    rw [groupOf_of_mem h.distinct there] at empty
    obtain ⟨statics, identities⟩ : a.statics = [] ∧ a.identities = [] := by
      simpa [DestinationNat.isEmpty] using empty
    rw [DestinationNat.mappings, statics, identities]
    exact fun m hm => absurd hm List.not_mem_nil

/-! ### Two stages -/

/-- Whether a call adds or removes a mapping. -/
def Call.changesMappings : Call → Bool
  | nat (.addMapping _ _) => true
  | nat (.deleteMapping _ _) => true
  | _ => false

/-- Lists without a common element share none, unless they are one. -/
theorem eq_of_nodup_flatMap {α β : Type} {f : α → List β} {xs : List α}
    (once : (xs.flatMap f).Nodup) {x y : α} (hx : x ∈ xs) (hy : y ∈ xs) {z : β} (hz : z ∈ f x)
    (hz' : z ∈ f y) : x = y := by
  by_contra apart
  have symmetric : Std.Symm (Function.onFun List.Disjoint f) := ⟨fun _ _ h z hz hz' => h hz' hz⟩
  have disjoint := (List.nodup_flatMap.mp once).2.forall hx hy apart
  exact disjoint hz hz'

/-- Groups are sound if labels and identifiers differ and every static mapping has an endpoint. -/
theorem SoundGroups.of_distinct (labels : (wanted.map (·.label)).Nodup)
    (endpoints : ∀ w ∈ wanted, ∀ m ∈ w.statics, m.locals ≠ [])
    (statics : ((wanted.flatMap (·.statics)).map StaticMapping.identifier).Nodup)
    (identities : ((wanted.flatMap (·.identities)).map IdentityMapping.identifier).Nodup) :
    SoundGroups wanted := by
  rw [List.map_flatMap] at statics identities
  refine ⟨labels, fun w hw => ?_, fun v hv w hw key own theirs => ?_⟩
  · have static := (List.nodup_flatMap.mp statics).1 w hw
    have identity := (List.nodup_flatMap.mp identities).1 w hw
    refine ⟨fun m hm => ?_, ⟨fun m hm => ?_, static.of_map _⟩,
      ⟨fun m _ => ?_, identity.of_map _⟩, ?_⟩
    · rcases List.mem_append.mp hm with hm | hm
      · obtain ⟨n, hn, rfl⟩ := List.mem_map.mp hm
        exact .static n (endpoints w hw n hn)
      · obtain ⟨n, -, rfl⟩ := List.mem_map.mp hm
        exact .identity n
    · exact StaticMapping.isFor_self (endpoints w hw m hm)
    · exact IdentityMapping.isFor_self m
    · have inl : (w.statics.map fun m => (Sum.inl m.identifier : String ⊕ String)).Nodup := by
        simpa [Function.comp_def] using static.map fun _ _ => Sum.inl.inj
      have inr : (w.identities.map fun m => (Sum.inr m.identifier : String ⊕ String)).Nodup := by
        simpa [Function.comp_def] using identity.map fun _ _ => Sum.inr.inj
      rw [keys_mappings, List.nodup_append]
      refine ⟨inl, inr, fun key left other right => ?_⟩
      obtain ⟨m, -, rfl⟩ := List.mem_map.mp left
      obtain ⟨n, -, rfl⟩ := List.mem_map.mp right
      exact Sum.inl_ne_inr
  · rw [keys_mappings] at own theirs
    cases key with
    | inl identifier =>
      refine eq_of_nodup_flatMap statics hv hw (z := identifier) ?_ ?_
      · simpa using own
      · simpa using theirs
    | inr identifier =>
      refine eq_of_nodup_flatMap identities hv hw (z := identifier) ?_ ?_
      · simpa using own
      · simpa using theirs

namespace Run

/-- A stage runs to its end and makes only calls that are allowed. -/
theorem exists_run_destinationStage {allowed : Call → Prop} {s : Simulation}
    (groups : SoundGroups wanted) (distinct : (s.nat.destinations.map (·.label)).Nodup)
    (calm : s.failing = []) (permitted : Permitted allowed wanted s.nat.destinations)
    (noCreation : ∀ i, ¬ allowed (.interface (.configure i))) :
    ∃ r t, Trial.run (destinationStage wanted {}) { simulation := s } = some ((.ok (), r), t) ∧
      t.simulation.failing = [] ∧
      AllReconciled wanted s.nat.destinations t.simulation.nat.destinations ∧
      ∀ c ∈ t.calls, allowed c := by
  have ensures : Program.Ensures (Simulation.behaviour False allowed)
      (destinationStage wanted {}) s _ :=
    Simulation.ensures_of_nat (ensures_destinationStage groups distinct permitted) (Or.inl calm)
  obtain ⟨⟨end_, r⟩, t, result, ⟨failing, ended, reconciled⟩, made⟩ :=
    Trial.exists_run_of_ensures ensures noCreation
  obtain rfl : end_ = .ok () := ended
  exact ⟨r, t, result, failing.trans calm, reconciled, made⟩

/-- Reconciling the groups a second time comes to its end like the first time, and neither adds
nor removes a mapping. -/
theorem destinationStage_twice (wanted : List DestinationNat) {snapshot : Snapshot}
    {s : Simulation}
    (start : Simulation.ofSnapshot? snapshot = some s)
    (labels : (wanted.map (·.label)).Nodup)
    (endpoints : ∀ w ∈ wanted, ∀ m ∈ w.statics, m.locals ≠ [])
    (statics : ((wanted.flatMap (·.statics)).map StaticMapping.identifier).Nodup)
    (identities : ((wanted.flatMap (·.identities)).map IdentityMapping.identifier).Nodup)
    (distinct : (snapshot.destinations.map (·.label)).Nodup)
    (once : ∀ d ∈ snapshot.destinations, d.statics.Nodup ∧ d.identities.Nodup) :
    ∃ r₁ t₁ r₂ t₂,
      Trial.run (destinationStage wanted {}) { simulation := s } = some ((.ok (), r₁), t₁) ∧
      Trial.run (destinationStage wanted {}) { simulation := t₁.simulation } =
        some ((.ok (), r₂), t₂) ∧
      ∀ c ∈ t₂.calls, c.changesMappings = false := by
  obtain ⟨same, calm⟩ := Simulation.destinations_of_ofSnapshot? start
  have groups := SoundGroups.of_distinct labels endpoints statics identities
  rw [← same] at distinct once
  -- each group of the snapshot has its mappings once, and so has a group that it lacks
  have each : ∀ label, (groupOf s.nat.destinations label).statics.Nodup ∧
      (groupOf s.nat.destinations label).identities.Nodup := by
    intro label
    cases found : s.nat.destinations.find? (·.label == label) with
    | none => simp [groupOf, found]
    | some d => exact groupOf_of_find found ▸ once d (List.mem_of_find?_eq_some found)
  have free : Permitted (fun c => c.part = .nat) wanted s.nat.destinations :=
    ⟨rfl, fun _ _ _ _ => rfl, fun _ _ _ _ => rfl, fun _ _ _ _ _ => rfl⟩
  obtain ⟨r₁, t₁, first, calm₁, reconciled, -⟩ :=
    exists_run_destinationStage groups distinct calm free fun _ => Part.noConfusion
  -- after the first stage, the second is permitted to change nothing and still comes to its end
  have idle : Permitted (fun c => c.part = .nat ∧ c.changesMappings = false) wanted
      t₁.simulation.nat.destinations := reconciled.permitted groups each ⟨rfl, rfl⟩
  obtain ⟨r₂, t₂, second, -, -, made⟩ :=
    exists_run_destinationStage groups reconciled.distinct calm₁ idle
      fun _ h => Part.noConfusion h.1
  exact ⟨r₁, t₁, r₂, t₂, first, second, fun c hc => (made c hc).2⟩

/-- Two groups of which the dataplane has some mappings. -/
def webGroups : List DestinationNat :=
  [{ label := "web"
     statics :=
      [{ externalAddress := "192.0.2.1", externalPort := 80
         locals :=
          [{ address := "10.0.0.1", port := 8080 }, { address := "10.0.0.2", port := 8080 }] },
        { externalAddress := "192.0.2.1", externalPort := 443
          locals := [{ address := "10.0.0.1", port := 8443 }] }]
     identities := [{ address := "192.0.2.1", port := 22 }] },
    { label := "dns"
      statics :=
        [{ externalAddress := "192.0.2.1", externalPort := 53, protocol := .udp
           locals := [{ address := "10.0.0.3", port := 53 }] }] }]

/-- A dataplane with two balanced mappings that count as one wanted mapping, and with a group that
is not wanted. -/
def webSnapshot : Snapshot where
  destinations :=
    [{ label := "old", identities := [{ address := "192.0.2.9" }] },
      { label := "web"
        statics :=
          [{ externalInterface := "wan", externalAddress := "192.0.2.1", externalPort := 80
             locals :=
              [{ address := "10.0.0.2", port := 8080 }, { address := "10.0.0.1", port := 8080 }] },
            { externalAddress := "192.0.2.1", externalPort := 80
              locals :=
                [{ address := "10.0.0.1", port := 8080 },
                  { address := "10.0.0.2", port := 8080 }] }] }]

/-- The web groups are reconciled once and then left alone. -/
theorem destinationStage_twice_web :
    ∃ s r₁ t₁ r₂ t₂, Simulation.ofSnapshot? webSnapshot = some s ∧
      Trial.run (destinationStage webGroups {}) { simulation := s } = some ((.ok (), r₁), t₁) ∧
      Trial.run (destinationStage webGroups {}) { simulation := t₁.simulation } =
        some ((.ok (), r₂), t₂) ∧
      ∀ c ∈ t₂.calls, c.changesMappings = false := by
  obtain ⟨s, start⟩ : ∃ s, Simulation.ofSnapshot? webSnapshot = some s :=
    Option.isSome_iff_exists.mp (by decide +kernel)
  obtain ⟨r₁, t₁, r₂, t₂, first, second, idle⟩ :=
    destinationStage_twice webGroups start (by decide +kernel) (by decide +kernel)
      (by decide +kernel) (by decide +kernel) (by decide +kernel) (by decide +kernel)
  exact ⟨s, r₁, t₁, r₂, t₂, start, first, second, idle⟩

end Run

end DataplaneSync
