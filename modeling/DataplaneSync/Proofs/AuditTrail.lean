import DataplaneSync.Proofs.TaskParts
import Mathlib.Data.List.Forall2

namespace DataplaneSync

/-!
# The audit trail

The events that a pass reports are exact: they tell, in order, of every change that was asked
for, and of nothing else but refused dumps of interfaces and rules that have to wait.

* `changes`, `records` — the changes among some deeds, and the events that tell of changes.
* `ExactTrail` — what makes a trail exact; `Trail.exact` finds it in every trail.
* `Run.trails_exact` — all passes and whole runs leave exact trails, whatever they are answered.
-/

/-! ### Exact trails -/

/-- Whether events of a category tell of changes. -/
def AuditCategory.isChange : AuditCategory → Bool
  | create => true
  | modify => true
  | delete => true
  | tag => true
  | resync => false
  | errorCondition => false

/-- Whether an event tells of a change that was tried. -/
def AuditEvent.isRecord (e : AuditEvent) : Bool := e.category.isChange && e.outcome != .skipped

/-- The changes among some deeds: all calls but dumps. -/
def changes (ds : List Deed) : List Exchange := (exchanges ds).filter (!·.call.isDump)

/-- The events that tell of changes. -/
def records (ds : List Deed) : List AuditEvent := (events ds).filter AuditEvent.isRecord

/-- The trail of deeds that leave some rules waiting. -/
structure ExactTrail (pendingRules : List String) (ds : List Deed) : Prop where
  /-- The records are, in order, those of the changes. -/
  records : List.Forall₂ Exchange.RecordedBy (changes ds) (records ds)
  /-- All other events are about a refused dump of interfaces or a rule that has to wait. -/
  others : ∀ e ∈ events ds, e.isRecord = false →
    (∃ reason, Deed.called (.interface .dump) (.error reason) ∈ ds ∧
      Exchange.RecordedBy ⟨.interface .dump, .error reason⟩ e) ∨
    ∃ rule : StnRule, rule.name ∈ pendingRules ∧ e = StnReconciler.postponement rule
  /-- Every rule that waits in the end is reported. -/
  waits : ∀ name ∈ pendingRules,
    ∃ rule : StnRule, rule.name = name ∧ StnReconciler.postponement rule ∈ events ds

/-- The record of a call tells of a change unless the call was a dump. -/
theorem Exchange.RecordedBy.isRecord {x : Exchange} {e : AuditEvent} (recorded : x.RecordedBy e) :
    e.isRecord = !x.call.isDump := by
  have tried : (e.outcome != .skipped) = true := bne_iff_ne.mpr recorded.outcome_ne_skipped
  rw [AuditEvent.isRecord, tried, Bool.and_true, recorded.category, Call.isDump]
  cases x.call.operation.kind <;> rfl

/-- A postponement tells of nothing that was tried. -/
theorem StnReconciler.isRecord_postponement (rule : StnRule) :
    (postponement rule).isRecord = false := rfl

namespace Trail

variable {ds : List Deed}

/-- The records of a trail are those of its changes. -/
theorem forall₂_records (trail : Trail ds) :
    List.Forall₂ Exchange.RecordedBy (changes ds) (records ds) := by
  induction trail with
  | nil => exact .nil
  | dump answer reads _ ih => simpa [changes, records, reads] using ih
  | refusedDump reason recorded _ ih =>
    have reads : (Call.interface .dump).isDump = true := rfl
    have aside := recorded.isRecord
    rw [reads] at aside
    simpa [changes, records, reads, aside] using ih
  | change changed recorded _ ih =>
    have told := recorded.isRecord
    rw [changed] at told
    simpa [changes, records, changed, told] using ⟨recorded, ih⟩
  | postponed rule _ ih => simpa [changes, records, StnReconciler.isRecord_postponement] using ih

/-- The other events of a trail are about refused dumps of interfaces and postponed rules. -/
theorem others (trail : Trail ds) : ∀ e ∈ events ds, e.isRecord = false →
    (∃ reason, Deed.called (.interface .dump) (.error reason) ∈ ds ∧
      Exchange.RecordedBy ⟨.interface .dump, .error reason⟩ e) ∨
    ∃ rule, e = StnReconciler.postponement rule := by
  induction trail with
  | nil => exact fun e mem => absurd mem List.not_mem_nil
  | dump answer reads _ ih =>
    intro e mem aside
    refine (ih e mem aside).imp_left ?_
    exact fun ⟨reason, earlier, recorded⟩ => ⟨reason, List.mem_cons_of_mem _ earlier, recorded⟩
  | refusedDump reason recorded _ ih =>
    rintro e (_ | ⟨_, mem⟩) aside
    · exact Or.inl ⟨reason, List.mem_cons_self, recorded⟩
    · refine (ih e mem aside).imp_left fun ⟨reason, earlier, recorded⟩ => ⟨reason, ?_, recorded⟩
      exact List.mem_cons_of_mem _ (List.mem_cons_of_mem _ earlier)
  | change changed recorded _ ih =>
    rintro e (_ | ⟨_, mem⟩) aside
    · rw [recorded.isRecord, changed] at aside
      contradiction
    · refine (ih e mem aside).imp_left fun ⟨reason, earlier, recorded⟩ => ⟨reason, ?_, recorded⟩
      exact List.mem_cons_of_mem _ (List.mem_cons_of_mem _ earlier)
  | postponed rule _ ih =>
    rintro e (_ | ⟨_, mem⟩) aside
    · exact Or.inr ⟨rule, rfl⟩
    · refine (ih e mem aside).imp_left ?_
      exact fun ⟨reason, earlier, recorded⟩ => ⟨reason, List.mem_cons_of_mem _ earlier, recorded⟩

/-- A trail is exact if the rules that wait in the end are those that it reports. -/
theorem exact {pendingRules : List String} (trail : Trail ds)
    (waits : ∀ name, name ∈ pendingRules ↔
      ∃ rule, rule.name = name ∧ StnReconciler.postponement rule ∈ events ds) :
    ExactTrail pendingRules ds where
  records := trail.forall₂_records
  others e mem aside := by
    refine (trail.others e mem aside).imp_right fun ⟨rule, same⟩ => ⟨rule, ?_, same⟩
    exact (waits rule.name).mpr ⟨rule, rfl, same ▸ mem⟩
  waits name := (waits name).mp

/-- A trail on which no rule has to wait is exact. -/
theorem On.exact {g : Part} (on : On g ds) : ExactTrail [] ds :=
  on.trail.exact fun _ => ⟨nofun, fun ⟨rule, _, reported⟩ => absurd reported (on.prompt rule)⟩

end Trail

/-! ### Passes and runs -/

/-- A pass leaves exact trails and no rules waiting, whatever it starts with and is answered. -/
def Pass.LeavesExactTrails {σ ε : Type} (p : Pass σ ε Unit) : Prop :=
  ∀ s ds end_ t, Program.Trace (p s) ds (end_, t) → ExactTrail [] ds

theorem Pass.Audited.leavesExactTrails {σ ε : Type} {g : Part} {p : Pass σ ε Unit}
    (h : p.Audited g) : p.LeavesExactTrails :=
  fun s ds end_ t trace => (h s ds end_ t trace).exact

/-- The trail of a pass over rules is exact: it reports the rules that wait in the end.  Without
a dataplane the pass does nothing. -/
theorem StnReconciler.exactTrail {μ : Type} {interfaces : Registry μ} {wanted : List StnRule}
    {r t : StnReconciler} {ds : List Deed} {end_ : Except StnFailure Unit}
    (trace : Program.Trace (reconcile interfaces wanted r) ds (end_, t)) :
    ExactTrail (if r.connected then t.waiting else []) ds := by
  split
  · next connected =>
    obtain ⟨postponing, -⟩ := trace_reconcile connected trace
    exact postponing.trail.exact postponing.mem_waiting
  · next disconnected =>
    rw [reconcile_eq, if_neg disconnected] at trace
    cases trace
    exact Trail.On.nil (g := .links).exact

namespace Run

/-- What is done before it is known whether a run is skipped is at most a dump. -/
theorem Prechecked.on {strategy : Strategy} {ds : List Deed} (h : Prechecked strategy ds) :
    Trail.On .links ds := by
  cases strategy with
  | full =>
    obtain rfl : ds = [] := h
    exact .nil
  | optimizeColdStart =>
    obtain ⟨answer, rfl⟩ := h
    exact .dump rfl rfl

/-- The trail of a whole run lies between the events of its start and its end. -/
theorem trace_program {strategy : Strategy} {skipRefresh : Bool} {wanted : DesiredState}
    {ds : List Deed} {report : Report}
    (trace : (program strategy skipRefresh wanted).Trace ds report) :
    ∃ mid, ds = .reported (started strategy wanted) :: mid ++
        [.reported (if report.skipped then (ended none).skipped else finished report)] ∧
      ExactTrail report.pendingRules mid := by
  obtain ⟨before, prechecked, ⟨skipped, prompt, rfl⟩ |
    ⟨ds₁, ds₂, ds₃, links, detection, nat, trace₁, trace₂, trace₃, rfl, rfl⟩⟩ := program_cases trace
  · refine ⟨before, by rw [if_pos skipped], ?_⟩
    rw [prompt]
    exact prechecked.on.exact
  · have zeroth := prechecked.on
    obtain ⟨first, -, waits⟩ := trace_linkTask trace₁
    have second := audited_detectionTask wanted ds₂ detection trace₂
    have third := audited_natTask wanted ds₃ nat trace₃
    have trail := zeroth.trail.append (first.append (second.trail.append third.trail))
    refine ⟨_, rfl, trail.exact fun name => ?_⟩
    simp only [events_append, List.mem_append, zeroth.prompt, second.prompt, third.prompt, false_or,
      or_false]
    exact waits name

/-- Whatever a dataplane answers, the audit trail is complete and exact.  That is so for each
pass, wherever it starts, and for whole runs. -/
theorem trails_exact :
    (∀ wanted, (InterfaceReconciler.reconcile wanted).LeavesExactTrails) ∧
    (∀ (interfaces : Registry Interface) wanted r ds end_ t,
      Program.Trace (StnReconciler.reconcile interfaces wanted r) ds (end_, t) →
      ExactTrail (if r.connected then t.waiting else []) ds) ∧
    (∀ wanted, (BfdReconciler.reconcileSessions wanted).LeavesExactTrails) ∧
    (∀ wanted, (BfdReconciler.reconcileKeys wanted).LeavesExactTrails) ∧
    (∀ wanted, (BfdReconciler.reconcileEcho wanted).LeavesExactTrails) ∧
    (∀ wanted, (NatReconciler.reconcileGlobal wanted).LeavesExactTrails) ∧
    (∀ wanted, (NatReconciler.reconcileDestinations wanted).LeavesExactTrails) ∧
    (∀ wanted, (NatReconciler.configure wanted).LeavesExactTrails) ∧
    ∀ strategy skipRefresh wanted ds report,
      (program strategy skipRefresh wanted).Trace ds report →
      ∃ mid, ds = .reported (started strategy wanted) :: mid ++
          [.reported (if report.skipped then (ended none).skipped else finished report)] ∧
        ExactTrail report.pendingRules mid := by
  refine ⟨fun wanted => ?_, fun _ _ _ _ _ _ => StnReconciler.exactTrail, fun wanted => ?_,
    fun wanted => ?_, fun wanted => ?_, fun wanted => ?_, fun wanted => ?_, fun wanted => ?_,
    fun _ _ _ _ _ => trace_program⟩
  · exact (InterfaceReconciler.audited_reconcile wanted).leavesExactTrails
  · exact (BfdReconciler.told_sessionObjects.audited_reconcile wanted).leavesExactTrails
  · exact (BfdReconciler.told_keyObjects.audited_reconcile wanted).leavesExactTrails
  · exact (BfdReconciler.audited_reconcileEcho wanted).leavesExactTrails
  · exact (NatReconciler.audited_reconcileGlobal wanted).leavesExactTrails
  · exact (NatReconciler.audited_reconcileDestinations wanted).leavesExactTrails
  · exact (NatReconciler.audited_configure wanted).leavesExactTrails

/-- An interface that is to be created, and a rule on it and one on an unknown interface. -/
def waitingState : DesiredState where
  interfaces := [{ name := "uplink" }]
  rules :=
    [{ name := "gate", address := "10.0.0.1", interface := "uplink" },
      { name := "later", address := "10.0.0.2", interface := "lan" }]

/-- The trail of a run in which the interface is created, the rule on it is refused and the other
one has to wait. -/
theorem trails_exact_waiting :
    ∃ report t mid, Trial.run (program .full true waitingState)
        { simulation := {}, refusals := [none, none, none, none, some "busy"] } =
          some (report, t) ∧
      report.pendingRules = ["later"] ∧
      t.deeds = .reported (started .full waitingState) :: mid ++
        [.reported (if report.skipped then (ended none).skipped else finished report)] ∧
      ExactTrail ["later"] mid := by
  have goes : (Trial.run (program .full true waitingState)
      { simulation := {}, refusals := [none, none, none, none, some "busy"] }).any
        (fun x => x.1.pendingRules == ["later"]) = true := by
    decide +kernel
  obtain ⟨⟨report, t⟩, result, waits⟩ := (Option.any_eq_true _ _).mp goes
  obtain ⟨ds, deeds, trace⟩ := Trial.trace_of_run result
  obtain rfl : t.deeds = ds := deeds
  obtain ⟨-, -, -, -, -, -, -, -, runs⟩ := trails_exact
  obtain ⟨mid, parts, exact_⟩ := runs .full true waitingState t.deeds report trace
  have pending : report.pendingRules = ["later"] := eq_of_beq waits
  rw [pending] at exact_
  exact ⟨report, t, mid, result, pending, parts, exact_⟩

end Run

end DataplaneSync
