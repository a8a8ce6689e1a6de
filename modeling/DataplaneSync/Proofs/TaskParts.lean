import DataplaneSync.Proofs.Blame
import DataplaneSync.Proofs.Lookup

namespace DataplaneSync

/-!
# The parts of the tasks

Each task of a run makes calls on one part of the dataplane only, whatever it is answered, tells of
its changes, and fails with what is to blame for it.  There is one lemma for each step of its
passes, in the order of their definitions, up to `Run.within_task` and `Run.program_cases`.

* `InterfaceReconciler.StepsObey` — what each step for one interface obeys, so does what is left of
  a pass after its dump.
* `StnReconciler.Postponing` — the rules that get to wait are those that are reported.
* `BfdObjects.Told` — keys and sessions are dealt with alike.
-/

/-! ### Interfaces and rules -/

namespace InterfaceReconciler

/-- What is left of a pass once the interfaces have been dumped. -/
def settleDumped (wanted : List Interface) (actual : Table UInt32 InterfaceDetails) :
    Step Unit := do
  actual.entries.forM fun (index, details) => settleTagged wanted index details
  (actual.entries.filter isUntagged).forM fun (index, details) =>
    settleUntagged wanted index details
  wanted.forM settleMissing
  let r ← get
  if r.skipRefresh then pure () else refresh

/-- A discipline that each step for one interface obeys.  An interface is removed under its tag, or
under the placeholder if it has none. -/
structure StepsObey (d : Discipline InterfaceReconciler InterfaceFailure) : Prop where
  register : ∀ name index i, (register name index i).Obeys d
  adjust : ∀ wanted actual index, (adjust wanted actual index).Obeys d
  remove : ∀ {name actual} index,
    name = (if actual.isTagged then actual.name else Interface.placeholderName) →
    (remove name actual index).Obeys d
  create : ∀ wanted, (create wanted).Obeys d
  refresh : refresh.Obeys d

namespace StepsObey

variable {d : Discipline InterfaceReconciler InterfaceFailure} (steps : StepsObey d)

include steps

theorem settleTagged (wanted : List Interface) (index : UInt32) (details : InterfaceDetails) :
    (settleTagged wanted index details).Obeys d := by
  unfold InterfaceReconciler.settleTagged
  dsimp only
  split
  · exact steps.register _ _ _
  · split
    · exact Pass.obeys_pure ()
    · next untagged =>
      split
      · exact (steps.register _ _ _).bind fun _ => steps.adjust _ _ _
      · have tagged : details.interface.isTagged = true := by simpa using untagged
        exact (steps.register _ _ _).bind fun _ => steps.remove _ (if_pos tagged).symm

theorem settleUntagged (wanted : List Interface) (index : UInt32) {details : InterfaceDetails}
    (untagged : details.interface.isTagged = false) :
    (settleUntagged wanted index details).Obeys d := by
  refine Pass.obeys_get.bind fun r => ?_
  split
  · exact (steps.register _ _ _).bind fun _ => steps.adjust _ _ _
  · refine (steps.register _ _ _).bind fun _ => steps.remove _ ?_
    rw [untagged]
    rfl

theorem settleMissing (wanted : Interface) : (settleMissing wanted).Obeys d := by
  refine Pass.obeys_get.bind fun r => ?_
  split
  · exact Pass.obeys_pure ()
  · exact steps.create wanted

theorem settleDumped (wanted : List Interface) (actual : Table UInt32 InterfaceDetails) :
    (settleDumped wanted actual).Obeys d := by
  refine (Pass.obeys_forM fun _ _ => steps.settleTagged _ _ _).bind fun _ => ?_
  refine (Pass.obeys_forM fun x mem => ?_).bind fun _ => ?_
  · have untagged := (List.mem_filter.mp mem).2
    exact steps.settleUntagged _ _ (by simpa using (Bool.and_eq_true_iff.mp untagged).2)
  · refine (Pass.obeys_forM fun w _ => steps.settleMissing w).bind fun _ => ?_
    refine Pass.obeys_get.bind fun r => ?_
    split
    · exact Pass.obeys_pure ()
    · exact steps.refresh

end StepsObey

/-- The duty of the passes over interfaces. -/
def duty (dumped : Bool) : Duty InterfaceReconciler InterfaceFailure where
  stage := .interfaces
  word := InterfaceFailure.message
  dumped := dumped

theorem told_modify (f : InterfaceReconciler → InterfaceReconciler) :
    (modify f : Step PUnit).Told (duty true) := Pass.told_modify fun _ => rfl

/-- Once the interfaces have been dumped, all steps do their duty. -/
theorem told_steps : StepsObey (duty true).discipline where
  register name index i := by
    refine (told_modify _).bind fun _ => Pass.obeys_get.bind fun r => ?_
    refine (Pass.told_change ⟨rfl, fun _ => rfl⟩ rfl).bind fun _ => ?_
    exact (told_modify _).bind fun _ => told_modify _
  adjust wanted actual index := by
    unfold adjust
    split
    · exact Pass.obeys_pure ()
    · refine Pass.obeys_get.bind fun r => ?_
      exact (Pass.told_change ⟨rfl, fun _ => rfl⟩ rfl).bind fun _ => told_modify _
  remove {name actual} index named := by
    have covers : (duty true).Covers (.interface (.delete actual index)) (.delete name index) :=
      ⟨rfl, fun _ => by rw [named]; rfl⟩
    refine Pass.obeys_get.bind fun r => (Pass.told_change covers rfl).bind fun _ => ?_
    exact (told_modify _).bind fun _ => told_modify _
  create wanted := by
    refine Pass.obeys_get.bind fun r => (Pass.told_change ⟨rfl, fun _ => rfl⟩ rfl).bind fun _ => ?_
    exact (told_modify _).bind fun _ => (told_modify _).bind fun _ => told_modify _
  refresh := (Pass.told_dump ⟨rfl, fun _ => rfl⟩ rfl).bind fun _ => told_modify _

/-- What is left of a pass once nothing is registered. -/
def settleAll (wanted : List Interface) : Step Unit := do
  let sockets ← Pass.dump (.interface .dumpSockets) .dumpSockets
  modify fun r => { r with sockets := sockets }
  let actual ← dumpInterfaces
  settleDumped wanted actual

/-- What a pass knows about the interfaces when it starts: nothing. -/
def forget (r : InterfaceReconciler) : InterfaceReconciler :=
  { r with
    registry := ∅
    hosts := ∅
    states := ∅
    stats := { r.stats with passes := r.stats.passes + 1 } }

/-- Without a dataplane a pass fails at once. -/
theorem reconcile_eq (wanted : List Interface) (r : InterfaceReconciler) :
    reconcile wanted r =
      if r.connected then settleAll wanted r.forget
      else Program.done (.error .disconnected, r) := by
  obtain ⟨connected, _, _, _, _, _, _⟩ := r
  cases connected <;> rfl

/-- Whether interfaces have been dumped. -/
def hasDump (xs : List Exchange) : Bool := xs.any fun
  | ⟨.interface .dump, .ok _⟩ => true
  | _ => false

/-- A refused dump is reported as one of the interfaces if it is the first, and as one of their
states if there was one before. -/
theorem trace_settleAll {wanted : List Interface} {r t : InterfaceReconciler} {ds : List Deed}
    {end_ : Except InterfaceFailure Unit}
    (trace : Program.Trace (settleAll wanted r) ds (end_, t)) :
    Trail.On .links ds ∧ Blamed (duty (hasDump (exchanges ds))) ds (failureIn end_) := by
  have sockets_ : ∀ b, (duty b).Covers (.interface .dumpSockets) .dumpSockets :=
    fun _ => ⟨rfl, fun _ => rfl⟩
  have dump_ : (duty false).Covers (.interface .dump) .dump := ⟨rfl, fun _ => rfl⟩
  rcases Pass.of_trace_dump_bind trace with ⟨reason, rfl, rfl, -⟩ | ⟨sockets, ds', rfl, onward⟩
  · exact ⟨.dump rfl rfl, (sockets_ false).blamed (.error reason)⟩
  · have first : Trail.On .links [.called (.interface .dumpSockets) (.ok sockets)] := .dump rfl rfl
    obtain ⟨answer, ds'', rfl, onward'⟩ := Program.trace_ask.mp onward
    match answer with
    | .error reason =>
      obtain ⟨-, rfl, ⟨⟩⟩ := Program.trace_note.mp onward'
      have recorded := Exchange.recordedBy_failed (.interface .dump) reason (r.subject "*" none)
      refine ⟨first.append (.refusedDump reason recorded), ?_⟩
      exact Blamed.next ((sockets_ false).blamed (.ok sockets))
        (dump_.blamed_recorded (.error reason) _)
    | .ok actual =>
      have dumped : Trail.On .links [.called (.interface .dump) (.ok actual)] := .dump rfl rfl
      have refresh_ : (duty true).Covers (.interface .dump) .status := ⟨rfl, fun _ => rfl⟩
      obtain ⟨on, blamed, -⟩ := told_steps.settleDumped wanted actual _ ds'' end_ t onward'
      refine ⟨first.append (dumped.append on), ?_⟩
      exact Blamed.next ((sockets_ true).blamed (.ok sockets))
        (Blamed.next (refresh_.blamed (.ok actual)) blamed)

/-- A pass leaves a trail, also if it has no dataplane and does nothing. -/
theorem audited_reconcile (wanted : List Interface) : (reconcile wanted).Audited .links := by
  intro r ds end_ t trace
  rw [reconcile_eq] at trace
  split at trace
  · exact (trace_settleAll trace).1
  · cases trace
    exact .nil

end InterfaceReconciler

namespace StnReconciler

/-- The names of the rules that wait. -/
def waiting (r : StnReconciler) : List String := r.pending.values.map (·.name)

/-- The event that a rule has to wait has its name. -/
theorem name_of_postponement {rule rule' : StnRule}
    (same : postponement rule = postponement rule') : rule.name = rule'.name :=
  Option.some.inj (congrArg AuditEvent.objectId same)

/-- Rules that wait are found under their names. -/
def Keyed (r : StnReconciler) : Prop :=
  ∀ name rule, r.pending.get? name = some rule → rule.name = name

theorem Keyed.mem_waiting {r : StnReconciler} (keyed : r.Keyed) (name : String) :
    name ∈ r.waiting ↔ r.pending.contains name = true := by
  simp only [waiting, Table.values, List.map_map, List.mem_map, Table.contains_iff]
  constructor
  · rintro ⟨⟨key, rule⟩, mem, rfl⟩
    have found := Table.mem_entries.mp mem
    obtain rfl : rule.name = key := keyed key rule found
    exact ⟨rule, found⟩
  · rintro ⟨rule, found⟩
    exact ⟨(name, rule), Table.mem_entries.mpr found, keyed name rule found⟩

/-- A trail on which rules get to wait: those that are reported. -/
structure Postponing (r : StnReconciler) (ds : List Deed) (t : StnReconciler) : Prop where
  trail : Trail ds
  within : ∀ x ∈ exchanges ds, x.call.part = .links
  keyed : r.Keyed → t.Keyed
  waits : ∀ name, t.pending.contains name = true ↔
    r.pending.contains name = true ∨ ∃ rule, rule.name = name ∧ postponement rule ∈ events ds

namespace Postponing

variable {r t : StnReconciler} {ds : List Deed}

/-- On a trail without postponements the rules that wait are the same. -/
theorem of_on (on : Trail.On .links ds) (same : t.pending = r.pending) : Postponing r ds t where
  trail := on.trail
  within := on.within
  keyed := by
    unfold Keyed
    rw [same]
    exact id
  waits name := by
    rw [same]
    exact (or_iff_left fun ⟨rule, _, reported⟩ => on.prompt rule reported).symm

theorem append {u : StnReconciler} {ds' : List Deed} (first : Postponing r ds t)
    (then_ : Postponing t ds' u) : Postponing r (ds ++ ds') u where
  trail := first.trail.append then_.trail
  within := by
    rw [exchanges_append]
    exact List.forall_mem_append.mpr ⟨first.within, then_.within⟩
  keyed := then_.keyed ∘ first.keyed
  waits name := by
    rw [then_.waits, first.waits, or_assoc]
    refine or_congr_right ?_
    simp only [events_append, List.mem_append, and_or_left, exists_or]

end Postponing

/-- The duty of the passes over rules. -/
def duty : Duty StnReconciler StnFailure where
  stage := .rules
  word := StnFailure.message

/-- Do the duty, and report which rules get to wait. -/
def postponing : Discipline StnReconciler StnFailure where
  allows r ds e t := Postponing r ds t ∧ Blamed duty ds e
  rest _ := ⟨.of_on .nil rfl, .nil⟩
  join first then_ := ⟨first.1.append then_.1, first.2.append then_.2⟩

theorem obeys_modify {f : StnReconciler → StnReconciler} (same : ∀ r, (f r).pending = r.pending) :
    (modify f : Step PUnit).Obeys postponing :=
  Pass.obeys_modify fun r => ⟨.of_on .nil (same r), .nil⟩

theorem obeys_remove (actual : StnRuleDetails) : (remove actual).Obeys postponing := by
  have covers : duty.Covers (.stn (.delete actual.address actual.index))
      (.delete actual.address actual.index) := ⟨rfl, fun _ => rfl⟩
  refine (Pass.obeys_change fun r answer e recorded => ?_).bind fun _ => obeys_modify fun _ => rfl
  exact ⟨.of_on (.change rfl rfl recorded) rfl, covers.blamed_recorded answer e⟩

theorem obeys_add (wanted : StnRule) (index : UInt32) : (add wanted index).Obeys postponing := by
  have covers : duty.Covers (.stn (.add wanted index)) (.create wanted.name) :=
    ⟨rfl, fun _ => rfl⟩
  refine (Pass.obeys_change fun r answer e recorded => ?_).bind fun _ => ?_
  · exact ⟨.of_on (.change rfl rfl recorded) rfl, covers.blamed_recorded answer e⟩
  · refine (obeys_modify ?_).bind fun _ => obeys_modify ?_
    · exact fun _ => rfl
    · exact fun _ => rfl

/-- A rule that gets to wait is reported. -/
theorem obeys_postpone (wanted : StnRule) : (postpone wanted).Obeys postponing := by
  intro r ds end_ t trace
  obtain ⟨-, rfl, ⟨⟩⟩ := Program.trace_note.mp trace
  refine ⟨⟨.postponed wanted .nil, by simp, fun keyed name rule found => ?_, fun name => ?_⟩,
    ⟨by simp, rfl⟩⟩
  · rw [Table.get?_insert] at found
    split at found
    · next same => rw [← Option.some.inj found, same]
    · exact keyed name rule found
  · simp only [events_reported, events_nil, List.mem_singleton, Table.contains, Table.get?_insert]
    constructor
    · intro waits
      split at waits
      · next same => exact Or.inr ⟨wanted, same.symm, rfl⟩
      · exact Or.inl waits
    · rintro (waits | ⟨rule, rfl, reported⟩)
      · split
        · rfl
        · exact waits
      · rw [if_pos (name_of_postponement reported)]
        rfl

theorem obeys_settleActual {μ : Type} (interfaces : Registry μ) (wanted : List StnRule)
    (actual : StnRuleDetails) : (settleActual interfaces wanted actual).Obeys postponing := by
  unfold settleActual
  split
  · split
    · exact Sweep.obeys_update fun _ => ⟨.of_on .nil rfl, .nil⟩
    · exact Sweep.obeys_tolerate (obeys_remove actual)
  · exact Sweep.obeys_tolerate (obeys_remove actual)

theorem obeys_settleWanted {μ : Type} (interfaces : Registry μ) (wanted : StnRule) :
    (settleWanted interfaces wanted).Obeys postponing := by
  refine Sweep.obeys_state.bind fun r => ?_
  split
  · exact Sweep.obeys_pure ()
  · split
    · exact Sweep.obeys_tolerate (obeys_add wanted _)
    · exact Sweep.obeys_tolerate (obeys_postpone wanted)

/-- What is left of a pass once nothing is known about the rules. -/
def settleAll {μ : Type} (interfaces : Registry μ) (wanted : List StnRule) : Step Unit := do
  let actual ← Pass.dump (.stn .dump) .dump
  let tally ← Pass.sweeping do
    actual.forM (settleActual interfaces wanted)
    wanted.forM (settleWanted interfaces)
  modify fun r => { r with stats := { r.stats with failures := r.stats.failures + tally.count } }
  Pass.conclude tally

theorem obeys_settleAll {μ : Type} (interfaces : Registry μ) (wanted : List StnRule) :
    (settleAll interfaces wanted).Obeys postponing := by
  have covers : duty.Covers (.stn .dump) .dump := ⟨rfl, fun _ => rfl⟩
  have dumped : ∀ (r : StnReconciler) (answer : Answer (.stn .dump)),
      postponing.allows r [.called (.stn .dump) answer] ((failureIn answer).map .dump) r :=
    fun _ answer => ⟨.of_on (.dump rfl rfl) rfl, covers.blamed answer⟩
  refine (Pass.obeys_dump dumped).bind fun actual => Pass.obeys_sweeping ?_ fun tally => ?_
  · refine (Sweep.obeys_forM fun _ => obeys_settleActual _ _ _).bind fun _ => ?_
    exact Sweep.obeys_forM fun _ => obeys_settleWanted _ _
  · exact Pass.concludes.modify fun _ => ⟨.of_on .nil rfl, .nil⟩

/-- What a pass knows about the rules when it starts: nothing. -/
def forget (r : StnReconciler) : StnReconciler := { r with rules := ∅, pending := ∅, counter := {} }

/-- Without a dataplane a pass fails at once. -/
theorem reconcile_eq {μ : Type} (interfaces : Registry μ) (wanted : List StnRule)
    (r : StnReconciler) : reconcile interfaces wanted r =
      if r.connected then settleAll interfaces wanted r.forget
      else Program.done (.error .disconnected, r) := by
  obtain ⟨connected, _, _, _, _⟩ := r
  cases connected <;> rfl

/-- A pass comes to its end through two loops: about the rules of the dump and about the wanted
ones.  Each keeps an invariant about what it has dealt with and what is still ahead of it. -/
theorem ensures_reconcile {σ μ : Type} {b : Behaviour σ} {interfaces : Registry μ}
    {wanted : List StnRule} {r : StnReconciler} {s : σ} {Q : Unit → StnReconciler → σ → Prop}
    {E : StnFailure → StnReconciler → σ → Prop}
    (I : List StnRuleDetails → List StnRuleDetails →
      StnReconciler × FailureTally StnFailure → σ → Prop)
    (J : List StnRule → StnReconciler × FailureTally StnFailure → σ → Prop)
    (connected : r.connected = true) (dump : b.expects s (.stn .dump))
    (start : ∀ actual t, b.answers s (.stn .dump) (.ok actual) t → I [] actual (r.forget, ∅) t)
    (unstarted : ∀ reason t, b.answers s (.stn .dump) (.error reason) t →
      E (.dump reason) r.forget t)
    (actual : ∀ done d ahead x t, I done (d :: ahead) x t →
      Sweep.Ensures b (settleActual interfaces wanted d) x t
        fun _ x' t' => I (done ++ [d]) ahead x' t')
    (between : ∀ all x t, I all [] x t → J [] x t)
    (settle : ∀ done w ahead x t, done ++ w :: ahead = wanted → J done x t →
      Sweep.Ensures b (settleWanted interfaces w) x t fun _ x' t' => J (done ++ [w]) x' t')
    (finish : ∀ x t stats, J wanted x t → x.2.last? = none → Q () { x.1 with stats := stats } t)
    (failed : ∀ x t stats e, J wanted x t → x.2.last? = some e →
      E e { x.1 with stats := stats } t) :
    Pass.Ensures b (reconcile interfaces wanted) r s Q E := by
  unfold Pass.Ensures
  rw [reconcile_eq, if_pos connected]
  show Pass.Ensures _ (settleAll interfaces wanted) r.forget s _ _
  simp only [settleAll, Pass.ensures_bind]
  rw [Pass.ensures_dump]
  refine ⟨dump, fun answer t given => ?_⟩
  cases answer with
  | error reason => exact unstarted reason t given
  | ok all =>
    show Pass.Ensures _ (Pass.sweeping _) _ _ _ _
    rw [Pass.ensures_sweeping, Sweep.ensures_bind]
    refine (Sweep.ensures_forM_done I (start all t given) fun done d ahead x t _ h =>
      actual done d ahead x t h).mono fun _ x t h => ?_
    refine (Sweep.ensures_forM_done (fun done _ x t => J done x t) (between all x t h)
      settle).mono fun _ x t h => ?_
    rw [Pass.ensures_modify, Pass.ensures_conclude]
    split
    · next e last => exact failed x t _ e h last
    · next clean => exact finish x t _ h clean

/-- The rules that wait after a pass are those that it reports. -/
theorem Postponing.mem_waiting {r t : StnReconciler} {ds : List Deed}
    (h : Postponing r.forget ds t) (name : String) :
    name ∈ t.waiting ↔ ∃ rule, rule.name = name ∧ postponement rule ∈ events ds := by
  have keyed : t.Keyed := h.keyed nofun
  rw [keyed.mem_waiting, h.waits]
  exact or_iff_right nofun

/-- A pass does its duty and reports the rules that get to wait. -/
theorem trace_reconcile {μ : Type} {interfaces : Registry μ} {wanted : List StnRule}
    {r t : StnReconciler} {ds : List Deed} {end_ : Except StnFailure Unit}
    (connected : r.connected = true)
    (trace : Program.Trace (reconcile interfaces wanted r) ds (end_, t)) :
    Postponing r.forget ds t ∧ Blamed duty ds (failureIn end_) := by
  rw [reconcile_eq, if_pos connected] at trace
  exact obeys_settleAll interfaces wanted _ ds end_ t trace

end StnReconciler

/-! ### Forwarding detection -/

namespace BfdReconciler

/-- The duty of the passes of a stage over BFD objects. -/
def duty (stage : Stage) : Duty BfdReconciler BfdFailure where
  stage := stage
  word := BfdFailure.message
  connected := connected

variable {stage : Stage}

theorem audited_requireConnection : requireConnection.Audited .detection := by
  refine Pass.obeys_get.bind fun r => ?_
  split
  · exact Pass.obeys_pure ()
  · exact Pass.audited_throw _

/-- With a dataplane a pass goes on. -/
theorem trace_requireConnection {f : Unit → Step Unit} {r : BfdReconciler} {ds : List Deed}
    {x : Except BfdFailure Unit × BfdReconciler} (connected : r.connected = true)
    (trace : Program.Trace ((requireConnection >>= f) r) ds x) : Program.Trace (f () r) ds x := by
  obtain ⟨_, _, _, _, _, _⟩ := r
  obtain rfl := connected
  exact trace

theorem told_finish (tally : FailureTally BfdFailure) :
    (finish tally).Concludes (duty stage).discipline tally := Pass.told_finish fun _ => rfl

end BfdReconciler

namespace BfdObjects

open BfdReconciler

variable {α : Type} {stage : Stage}

/-- What is done to the objects is the business of one stage, and told as what it is. -/
structure Told (stage : Stage) (o : BfdObjects α) : Prop where
  dump : o.dump.Told (duty stage)
  create : ∀ x, (duty stage).Covers (.bfd (o.create x)) (o.failure .create x) ∧
    (Call.bfd (o.create x)).isDump = false
  change : ∀ actual wanted,
    (duty stage).Covers (.bfd (o.change actual wanted)) (o.failure .modify wanted) ∧
      (Call.bfd (o.change actual wanted)).isDump = false
  delete : ∀ x, (duty stage).Covers (.bfd (o.delete x)) (o.failure .delete x) ∧
    (Call.bfd (o.delete x)).isDump = false
  setRegistry : ∀ registry r, (o.setRegistry registry r).connected = r.connected

theorem told_apply (o : BfdObjects α) {call : BfdCall} {kind : CallKind} {x : α}
    {after : BfdReconciler → BfdReconciler}
    (told : (duty stage).Covers (.bfd call) (o.failure kind x) ∧ (Call.bfd call).isDump = false)
    (keeps : ∀ r, (after r).connected = r.connected) :
    (o.apply call kind x after).Told (duty stage) := by
  refine Sweep.obeys_tolerate ((Pass.told_change told.1 told.2).bind fun _ => ?_)
  exact (Pass.told_modify keeps).bind fun _ => Pass.told_modify fun _ => rfl

variable {o : BfdObjects α} (h : o.Told stage)

include h

theorem connected_enroll (x : α) (r : BfdReconciler) : (o.enroll x r).connected = r.connected :=
  h.setRegistry _ r

theorem told_keep (wanted actual : α) : (o.keep wanted actual).Told (duty stage) := by
  refine (Sweep.told_update (connected_enroll h wanted)).bind fun _ => ?_
  split
  · exact o.told_apply (h.change actual wanted) fun _ => rfl
  · exact Sweep.obeys_pure ()

theorem told_settle (actual : List α) (wanted : α) :
    (o.settle actual wanted).Told (duty stage) := by
  unfold settle
  dsimp only
  split
  · exact o.told_apply (h.create wanted) (connected_enroll h wanted)
  · exact Sweep.obeys_forM fun _ => told_keep h _ _

theorem told_clean (actual : α) : (o.clean actual).Told (duty stage) := by
  refine Sweep.obeys_state.bind fun r => ?_
  split
  · exact Sweep.obeys_pure ()
  · exact o.told_apply (h.delete actual) fun _ => rfl

omit h in
/-- What is left of a pass that has a dataplane. -/
def settleAll (o : BfdObjects α) (wanted : List α) : BfdReconciler.Step Unit := do
  modify fun r => { o.setRegistry ∅ r with counter := {} }
  let actual ← o.dump
  let tally ← Pass.sweeping do
    wanted.forM (o.settle actual)
    actual.forM o.clean
  finish tally

theorem told_settleAll (wanted : List α) : (o.settleAll wanted).Told (duty stage) := by
  refine (Pass.told_modify (h.setRegistry ∅)).bind fun _ => h.dump.bind fun actual => ?_
  refine Pass.obeys_sweeping ?_ told_finish
  refine (Sweep.obeys_forM fun _ => told_settle h _ _).bind fun _ => ?_
  exact Sweep.obeys_forM (told_clean h)

theorem Told.audited_reconcile (wanted : List α) (on : stage.part = .detection := by rfl) :
    (o.reconcile wanted).Audited .detection :=
  audited_requireConnection.bind fun _ => on ▸ (told_settleAll h wanted).audited

theorem Told.trace_reconcile {wanted : List α} {r t : BfdReconciler} {ds : List Deed}
    {end_ : Except BfdFailure Unit} (connected : r.connected = true)
    (trace : Program.Trace (o.reconcile wanted r) ds (end_, t)) :
    (duty stage).discipline.allows r ds (failureIn end_) t :=
  told_settleAll h wanted r ds end_ t (trace_requireConnection connected trace)

end BfdObjects

namespace BfdReconciler

theorem told_keyObjects : keyObjects.Told .keys where
  dump := Pass.told_dump ⟨rfl, fun _ => rfl⟩ rfl
  create _ := ⟨⟨rfl, fun _ => rfl⟩, rfl⟩
  change _ _ := ⟨⟨rfl, fun _ => rfl⟩, rfl⟩
  delete _ := ⟨⟨rfl, fun _ => rfl⟩, rfl⟩
  setRegistry _ _ := rfl

theorem told_sessionObjects : sessionObjects.Told .sessions where
  dump := Pass.told_dump ⟨rfl, fun _ => rfl⟩ rfl
  create _ := ⟨⟨rfl, fun _ => rfl⟩, rfl⟩
  change _ _ := ⟨⟨rfl, fun _ => rfl⟩, rfl⟩
  delete _ := ⟨⟨rfl, fun _ => rfl⟩, rfl⟩
  setRegistry _ _ := rfl

/-- What is left of the choice of an echo source that has a dataplane. -/
def chooseEcho (echo : BfdEcho) : Step Unit := do
  modify fun r => { r with echo := ∅ }
  let tally ← Pass.sweeping (Sweep.tolerate (setEcho echo))
  finish tally

theorem told_chooseEcho (echo : BfdEcho) : (chooseEcho echo).Told (duty .echo) := by
  have reset : (modify fun r => { r with echo := ∅ } : Step PUnit).Told (duty .echo) :=
    Pass.told_modify fun _ => rfl
  refine reset.bind fun _ => Pass.obeys_sweeping ?_ told_finish
  refine Sweep.obeys_tolerate ((Pass.told_change ⟨rfl, fun _ => rfl⟩ rfl).bind fun _ => ?_)
  exact Pass.told_modify fun _ => rfl

theorem audited_reconcileEcho (wanted : List BfdEcho) :
    (reconcileEcho wanted).Audited .detection := by
  cases wanted with
  | nil => exact Pass.obeys_pure ()
  | cons echo _ => exact audited_requireConnection.bind fun _ => (told_chooseEcho echo).audited

theorem trace_reconcileEcho {wanted : List BfdEcho} {r t : BfdReconciler} {ds : List Deed}
    {end_ : Except BfdFailure Unit} (connected : r.connected = true)
    (trace : Program.Trace (reconcileEcho wanted r) ds (end_, t)) :
    (duty .echo).discipline.allows r ds (failureIn end_) t := by
  cases wanted with
  | nil =>
    cases trace
    exact (duty .echo).discipline.rest _
  | cons echo _ =>
    exact told_chooseEcho echo r ds end_ t (trace_requireConnection connected trace)

end BfdReconciler

/-! ### NAT -/

namespace NatReconciler

/-- The duty of the passes over global settings. -/
def globalDuty : Duty NatReconciler NatFailure where
  stage := .natGlobal
  word := NatFailure.message
  connected := connected

theorem audited_requireConnection : requireConnection.Audited .nat := by
  refine Pass.obeys_get.bind fun r => ?_
  split
  · exact Pass.obeys_pure ()
  · exact Pass.audited_throw _

/-- With a dataplane a pass goes on. -/
theorem trace_requireConnection {f : Unit → Step Unit} {r : NatReconciler} {ds : List Deed}
    {x : Except NatFailure Unit × NatReconciler} (connected : r.connected = true)
    (trace : Program.Trace ((requireConnection >>= f) r) ds x) : Program.Trace (f () r) ds x := by
  obtain ⟨_, _, _, _, _, _, _⟩ := r
  obtain rfl := connected
  exact trace

theorem told_applyGlobal (change : GlobalChange) : (applyGlobal change).Told globalDuty := by
  have covers : globalDuty.Covers (.nat (callFor change)) (failureOf change) := by
    cases change <;> exact ⟨rfl, fun _ => rfl⟩
  have changes : (Call.nat (callFor change)).isDump = false := by cases change <;> rfl
  exact (Pass.told_change covers changes).bind fun _ => Pass.told_modify fun _ => rfl

/-- What is left of a pass over the global settings that has a dataplane. -/
def settleGlobal (wanted : NatGlobal) : Step Unit := do
  let actual ← Pass.dump (.nat .dumpGlobal) .dumpGlobal
  if actual = wanted then modify fun r => { r with global := some wanted }
  else
    let tally ← Pass.sweeping do
      (NatGlobal.changes actual wanted).forM fun change => Sweep.tolerate (applyGlobal change)
    modify (addFailures tally.count)
    if tally.isEmpty then modify fun r => { r with global := some wanted }
    Pass.conclude tally

theorem told_settleGlobal (wanted : NatGlobal) : (settleGlobal wanted).Told globalDuty := by
  refine (Pass.told_dump ⟨rfl, fun _ => rfl⟩ rfl).bind fun actual => ?_
  split
  · exact Pass.told_modify fun _ => rfl
  · refine Pass.obeys_sweeping ?_ fun tally => Pass.Concludes.modify ?_ fun _ => ⟨.nil, .nil, rfl⟩
    · exact Sweep.obeys_forM fun change => Sweep.obeys_tolerate (told_applyGlobal change)
    · split
      · exact Pass.told_finish fun _ => rfl
      · exact Pass.concludes

theorem audited_reconcileGlobal (wanted : NatGlobal) : (reconcileGlobal wanted).Audited .nat :=
  audited_requireConnection.bind fun _ => (told_settleGlobal wanted).audited

theorem trace_reconcileGlobal {wanted : NatGlobal} {r t : NatReconciler} {ds : List Deed}
    {end_ : Except NatFailure Unit} (connected : r.connected = true)
    (trace : Program.Trace (reconcileGlobal wanted r) ds (end_, t)) :
    globalDuty.discipline.allows r ds (failureIn end_) t :=
  told_settleGlobal wanted r ds end_ t (trace_requireConnection connected trace)

theorem audited_addMapping (label : String) (m : Mapping) : (addMapping label m).Audited .nat :=
  (Pass.audited_change rfl rfl).bind fun _ => Pass.audited_modify _

theorem audited_deleteMapping (label : String) (m : Mapping) :
    (deleteMapping label m).Audited .nat :=
  (Pass.audited_change rfl rfl).bind fun _ => Pass.audited_modify _

theorem audited_createStatic (label : String) (m : StaticMapping) :
    (createStatic label m).Audited .nat := by
  have onward := (audited_addMapping label (.ofStatic m)).bind fun _ =>
    Pass.audited_modify (enrollStatic m)
  unfold createStatic
  split
  · exact (Pass.audited_throw _).bind fun _ => onward
  · exact onward

theorem audited_createIdentity (label : String) (m : IdentityMapping) :
    (createIdentity label m).Audited .nat :=
  (audited_addMapping _ _).bind fun _ => Pass.audited_modify _

theorem audited_settleStatic (label : String) (m : StaticMapping) :
    (settleStatic label m).Audited .nat := by
  refine Sweep.obeys_state.bind fun r => ?_
  split
  · exact Sweep.obeys_pure ()
  · exact Sweep.obeys_tolerate (audited_createStatic label m)

theorem audited_settleIdentity (label : String) (m : IdentityMapping) :
    (settleIdentity label m).Audited .nat := by
  refine Sweep.obeys_state.bind fun r => ?_
  split
  · exact Sweep.obeys_pure ()
  · exact Sweep.obeys_tolerate (audited_createIdentity label m)

theorem audited_createMissing (d : DestinationNat) : (createMissing d).Audited .nat :=
  (Sweep.obeys_forM (audited_settleStatic d.label)).bind fun _ =>
    Sweep.obeys_forM (audited_settleIdentity d.label)

theorem audited_deleteAll (label : String) (statics : List StaticMapping)
    (identities : List IdentityMapping) : (deleteAll label statics identities).Audited .nat :=
  (Sweep.obeys_forM fun _ => Sweep.obeys_tolerate (audited_deleteMapping _ _)).bind fun _ =>
    Sweep.obeys_forM fun _ => Sweep.obeys_tolerate (audited_deleteMapping _ _)

theorem audited_settleWanted (actual : List DestinationNat) (wanted : DestinationNat) :
    (settleWanted actual wanted).Audited .nat := by
  unfold settleWanted
  split
  · refine (Sweep.audited_update _).bind fun _ => (Sweep.audited_update _).bind fun _ => ?_
    refine (audited_createMissing _).bind fun _ => (audited_deleteAll _ _ _).bind fun _ => ?_
    exact Sweep.audited_update _
  · exact Sweep.obeys_pure ()

theorem audited_clean (actual : DestinationNat) : (clean actual).Audited .nat := by
  refine Sweep.obeys_state.bind fun r => ?_
  split
  · exact Sweep.obeys_pure ()
  · refine Sweep.obeys_failures.bind fun before => (audited_deleteAll _ _ _).bind fun _ => ?_
    refine Sweep.obeys_failures.bind fun after => ?_
    split
    · exact Sweep.audited_update _
    · exact Sweep.obeys_pure ()

theorem audited_reconcileDestinations (wanted : List DestinationNat) :
    (reconcileDestinations wanted).Audited .nat := by
  refine audited_requireConnection.bind fun _ => (Pass.audited_modify _).bind fun _ => ?_
  refine (Pass.audited_dump rfl rfl).bind fun actual => ?_
  split
  · exact Pass.obeys_pure ()
  · refine Pass.obeys_sweeping ?_ fun tally => Pass.audited_finish Pass.concludes
    refine (Sweep.obeys_forM fun _ => audited_settleWanted _ _).bind fun _ => ?_
    exact Sweep.obeys_forM audited_clean

theorem audited_configure (wanted : DestinationNat) : (configure wanted).Audited .nat := by
  refine audited_requireConnection.bind fun _ => ?_
  refine Pass.obeys_sweeping (audited_createMissing wanted) fun tally => ?_
  exact Pass.audited_finish (Pass.audited_finish Pass.concludes)

end NatReconciler

/-! ### Tasks -/

namespace Run

theorem audited_globalStage (wanted : Option NatGlobal) (r : NatReconciler) :
    (globalStage wanted r).Audited .nat := by
  cases wanted with
  | none => exact Program.audited_done _
  | some g =>
    refine ((NatReconciler.audited_reconcileGlobal g).program r).bind fun _ => ?_
    exact Program.audited_done _

theorem audited_configureMissing (wanted : List DestinationNat) (result : Except NatFailure Unit)
    (r : NatReconciler) : (configureMissing wanted result r).Audited .nat := by
  induction wanted generalizing result r with
  | nil => exact Program.audited_done _
  | cons d ds ih =>
    unfold configureMissing
    split
    · exact ih result r
    · refine ((NatReconciler.audited_configure d).program r).bind fun ⟨configured, r'⟩ => ?_
      match configured with
      | .error e => exact ih (.error e) r'
      | .ok () => exact ih result r'

theorem audited_destinationStage (wanted : List DestinationNat) (r : NatReconciler) :
    (destinationStage wanted r).Audited .nat := by
  have first := (NatReconciler.audited_reconcileDestinations wanted).program r
  refine first.bind fun ⟨result, r'⟩ => ?_
  dsimp only
  split
  · exact Program.audited_done _
  · exact audited_configureMissing wanted _ r'

/-- The tasks of a run, by the parts that they work on. -/
def task (skipRefresh : Bool) (wanted : DesiredState) : Part → Program TaskReport
  | .links => linkTask skipRefresh wanted
  | .detection => detectionTask wanted
  | .nat => natTask wanted

/-- The task for interfaces and rules leaves a trail on its part, on which the rules are reported
that wait in the end. -/
theorem trace_linkTask {skipRefresh : Bool} {wanted : DesiredState} {ds : List Deed}
    {report : TaskReport} (trace : (linkTask skipRefresh wanted).Trace ds report) :
    Trail ds ∧ (∀ x ∈ exchanges ds, x.call.part = .links) ∧
      ∀ name, name ∈ report.pendingRules ↔
        ∃ rule, rule.name = name ∧ StnReconciler.postponement rule ∈ events ds := by
  obtain ⟨⟨interfaces, r⟩, ds₁, ds', rfl, trace₁, trace'⟩ := Program.trace_bind.mp trace
  obtain ⟨⟨rules, s⟩, ds₂, ds₃, rfl, trace₂, trace₃⟩ := Program.trace_bind.mp trace'
  cases trace₃
  have first := InterfaceReconciler.audited_reconcile wanted.interfaces _ ds₁ _ _ trace₁
  obtain ⟨second, -⟩ := StnReconciler.trace_reconcile rfl trace₂
  rw [List.append_nil]
  refine ⟨first.trail.append second.trail, ?_, fun name => ?_⟩
  · rw [exchanges_append]
    exact List.forall_mem_append.mpr ⟨first.within, second.within⟩
  · simp only [events_append, List.mem_append, first.prompt, false_or]
    exact second.mem_waiting name

theorem audited_detectionTask (wanted : DesiredState) :
    (detectionTask wanted).Audited .detection := by
  have keys := BfdReconciler.told_keyObjects.audited_reconcile wanted.keys
  have sessions := BfdReconciler.told_sessionObjects.audited_reconcile wanted.sessions
  have echo := BfdReconciler.audited_reconcileEcho wanted.echoes
  refine (keys.program _).bind fun ⟨_, r⟩ => (sessions.program r).bind fun ⟨_, r'⟩ => ?_
  exact (echo.program r').bind fun _ => Program.audited_done _

theorem audited_natTask (wanted : DesiredState) : (natTask wanted).Audited .nat := by
  refine (audited_globalStage wanted.natGlobal {}).bind fun ⟨global, r⟩ => ?_
  refine Program.Audited.bind (p := pass (NatReconciler.reconcileSources _) r)
    (Program.audited_done _) fun ⟨sources, r'⟩ => ?_
  exact (audited_destinationStage _ r').bind fun _ => Program.audited_done _

/-- All calls of a task are on its part. -/
theorem within_task (skipRefresh : Bool) (wanted : DesiredState) (g : Part) :
    (task skipRefresh wanted g).Within g := by
  refine Program.within_of_trace fun ds report trace => ?_
  cases g with
  | links => exact (trace_linkTask trace).2.1
  | detection => exact (audited_detectionTask wanted ds report trace).within
  | nat => exact (audited_natTask wanted ds report trace).within

/-! ### Runs -/

/-- What is done before it is known whether a run is skipped. -/
def Prechecked (strategy : Strategy) (ds : List Deed) : Prop :=
  match strategy with
  | .full => ds = []
  | .optimizeColdStart => ∃ answer, ds = [.called (.interface .dump) answer]

theorem prechecked_of_trace {strategy : Strategy} {skipRefresh : Bool} {ds : List Deed}
    {skipped : Bool} (trace : (precheck strategy skipRefresh).Trace ds skipped) :
    Prechecked strategy ds := by
  cases strategy with
  | full =>
    cases trace
    exact rfl
  | optimizeColdStart =>
    obtain ⟨answer, ds', rfl, rest⟩ := Program.trace_ask.mp trace
    cases answer with
    | ok actual =>
      cases rest
      exact ⟨_, rfl⟩
    | error reason =>
      cases rest
      exact ⟨_, rfl⟩

/-- A run is skipped, or it does all tasks and reports what they report. -/
theorem program_cases {strategy : Strategy} {skipRefresh : Bool} {wanted : DesiredState}
    {ds : List Deed} {report : Report}
    (trace : (program strategy skipRefresh wanted).Trace ds report) :
    ∃ before, Prechecked strategy before ∧
      ((report.skipped = true ∧ report.pendingRules = [] ∧
        ds = .reported (started strategy wanted) :: before ++ [.reported (ended none).skipped]) ∨
      ∃ ds₁ ds₂ ds₃ links detection nat, (linkTask skipRefresh wanted).Trace ds₁ links ∧
        (detectionTask wanted).Trace ds₂ detection ∧ (natTask wanted).Trace ds₃ nat ∧
        report = collect links detection nat ∧
        ds = .reported (started strategy wanted) :: (before ++ (ds₁ ++ (ds₂ ++ ds₃))) ++
          [.reported (finished report)]) := by
  obtain ⟨ds', rfl, trace'⟩ := Program.trace_note.mp trace
  change ((precheck strategy skipRefresh).bind _).Trace ds' report at trace'
  obtain ⟨skipped, before, ds'', rfl, trace₀, rest⟩ := Program.trace_bind.mp trace'
  refine ⟨before, prechecked_of_trace trace₀, ?_⟩
  cases skipped with
  | true =>
    obtain ⟨-, rfl, ⟨⟩⟩ := Program.trace_note.mp rest
    exact Or.inl ⟨rfl, rfl, rfl⟩
  | false =>
    obtain ⟨links, ds₁, es, rfl, trace₁, rest'⟩ := Program.trace_bind.mp rest
    obtain ⟨detection, ds₂, es', rfl, trace₂, rest''⟩ := Program.trace_bind.mp rest'
    obtain ⟨nat, ds₃, es'', rfl, trace₃, last⟩ := Program.trace_bind.mp rest''
    obtain ⟨-, rfl, ⟨⟩⟩ := Program.trace_note.mp last
    refine Or.inr ⟨ds₁, ds₂, ds₃, links, detection, nat, trace₁, trace₂, trace₃, rfl, ?_⟩
    simp only [List.cons_append, List.append_assoc]

end Run

end DataplaneSync
