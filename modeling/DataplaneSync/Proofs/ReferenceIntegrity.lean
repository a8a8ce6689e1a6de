import DataplaneSync.Proofs.Independence
import DataplaneSync.Proofs.RegistryGrounding
import DataplaneSync.Proofs.RuleRemoval
import Mathlib.Logic.Relation

namespace DataplaneSync

/-!
# No rule is left without its interface

A rule of the dataplane names an interface by its index.  If every rule is on an interface that is
there, then that is so at every moment of a run, whatever calls are refused and in whatever order
the tasks of the run go on.

* `Links.Supported` — every rule is on an interface that is there.
* `Links.guarded` — a dataplane that is never asked to put a rule on an index where nothing is;
  `Links.Supported.answered` says what its answers keep.
* `Program.Ensures.supported` — a program that such a dataplane can serve keeps the rules
  supported.
* `Run.ensures_guarded_program` — every run is such a program.
* `Workers.Goes` — how tasks go on side by side while calls are refused at will.
* `Run.references_kept` — what is registered is there, and the rules stay supported.
-/

/-! ### Rules and interfaces -/

/-- Every rule is on an interface that is there. -/
def Links.Supported (l : Links) : Prop := ∀ a ∈ l.rules, l.Has a.index

instance (l : Links) : Decidable l.Supported :=
  decidable_of_iff (∀ a ∈ l.rules, l.interfaces.contains a.index = true)
    (forall₂_congr fun _ _ => Table.contains_iff)

/-- A dataplane with interfaces and rules that is never asked to put a rule on an index where
nothing is.  It may refuse every call; of calls about other things it takes no notice. -/
def Links.guarded : Behaviour Links where
  expects l c := ∀ rule index, c = .stn (.add rule index) → l.Has index
  answers l c :=
    match c with
    | .interface call => Effect.Gives True l (call.perform l)
    | .stn call => Effect.Gives True l (call.perform l)
    | .bfd _ => fun _ l' => l' = l
    | .nat _ => fun _ l' => l' = l

variable {l l' : Links}

/-- Only a removal takes an interface away, and it takes the rules on it along. -/
theorem InterfaceCall.supported_of_perform {c : InterfaceCall} {reply : c.Reply} (h : l.Supported)
    (carried : c.perform l = (.ok reply, l')) : l'.Supported := by
  obtain rfl | ⟨d, index, i, -, -, rfl⟩ | ⟨i, -, -, rfl⟩ | ⟨-, actual, index, -, -, rfl⟩ :=
    cases_of_perform carried
  · exact h
  · exact fun a member => (h a member).replace
  · exact fun a member => (h a member).added
  · -- the rules that stay are on other indexes
    intro a member
    obtain ⟨stays, other⟩ := List.mem_filter.mp member
    exact (h a stays).without (by simpa using other)

/-- A rule is put only where it is asked for. -/
theorem StnCall.supported_of_perform {c : StnCall} {reply : c.Reply} (h : l.Supported)
    (there : ∀ rule index, c = .add rule index → l.Has index)
    (carried : c.perform l = (.ok reply, l')) : l'.Supported := by
  obtain rfl | ⟨rule, index, same, rfl⟩ | ⟨address, index, -, rfl⟩ := cases_of_perform carried
  · exact h
  · intro a member
    rcases List.mem_append.mp member with before | new
    · exact h a before
    · obtain rfl := List.mem_singleton.mp new
      exact there rule index same
  · exact fun a member => h a (List.mem_of_mem_eraseP member)

/-- Whatever is answered to a call that is expected, the rules stay on interfaces that are
there. -/
theorem Links.Supported.answered {c : Call} {answer : Answer c} (h : l.Supported)
    (expected : guarded.expects l c) (given : guarded.answers l c answer l') : l'.Supported := by
  cases c with
  | interface call =>
    rcases given.refused_or_carried call.atomic_perform with rfl | ⟨reply, carried⟩
    · exact h
    · exact InterfaceCall.supported_of_perform h carried
  | stn call =>
    rcases given.refused_or_carried call.atomic_perform with rfl | ⟨reply, carried⟩
    · exact h
    · refine StnCall.supported_of_perform h (fun rule index same => ?_) carried
      exact expected rule index (congrArg Call.stn same)
  | bfd call =>
    obtain rfl := given
    exact h
  | nat call =>
    obtain rfl := given
    exact h

/-! ### The whole dataplane -/

/-- To its interfaces and rules, every dataplane is a guarded one. -/
theorem Simulation.guarded_of_answers {s t : Simulation} {c : Call} {answer : Answer c}
    (given : (behaviour True fun _ => True).answers s c answer t) :
    Links.guarded.answers s.links c answer t.links := by
  have elsewhere : c.part ≠ .links → t.links = s.links := by
    intro other
    rcases given with answered | ⟨-, rfl, -⟩
    · show (t.view .links).links = (s.view .links).links
      rw [view_answer?_of_ne other answered]
    · rfl
  cases c with
  | interface call =>
    exact (gives_of_answers links (fun l => { s with links := l }) rfl (fun _ _ => rfl)
      (fun _ => rfl) (Or.inr trivial) given).1
  | stn call =>
    exact (gives_of_answers links (fun l => { s with links := l }) rfl (fun _ _ => rfl)
      (fun _ => rfl) (Or.inr trivial) given).1
  | bfd call => exact elsewhere nofun
  | nat call => exact elsewhere nofun

variable {α : Type}

/-- A program that a guarded dataplane can serve keeps the rules supported. -/
theorem Program.Ensures.supported {p : Program α} {s : Simulation} {Q : α → Links → Prop}
    (h : p.Ensures Links.guarded s.links Q) (start : s.links.Supported) :
    p.Ensures (Simulation.behaviour True fun _ => True) s fun _ t => t.links.Supported := by
  -- the invariant of the transfer: the two are at the same links, and these are supported
  have mirrored := h.transfer (b := Simulation.behaviour True fun _ => True)
    (R := fun (u : Simulation) l => u.links = l ∧ l.Supported) ⟨rfl, start⟩
    (fun _ _ _ _ _ => trivial) (by
      rintro u _ c answer v ⟨rfl, supported⟩ expected given
      have guarded := Simulation.guarded_of_answers given
      exact ⟨v.links, guarded, rfl, supported.answered expected guarded⟩)
  refine mirrored.mono fun a t ends => ?_
  obtain ⟨_, ⟨rfl, supported⟩, -⟩ := ends
  exact supported

/-- A program on another part has nothing to do with interfaces and rules. -/
theorem Program.Within.ensures_guarded {g : Part} {p : Program α} (within : p.Within g)
    (other : g ≠ .links) (l : Links) : p.Ensures Links.guarded l fun _ _ => True := by
  have mirrored := Program.Ensures.transfer (b := Links.guarded) (R := fun _ _ => True) within
    trivial (s := l)
    (by
      rintro l' - c - rfl rule index rfl
      exact absurd rfl other)
    fun _ _ _ _ _ _ _ _ => ⟨(), trivial, trivial⟩
  exact mirrored.mono fun _ _ _ => trivial

/-! ### Rules on registered interfaces -/

namespace StnReconciler

variable {interfaces : Registry Interface} {wanted : List StnRule} {r : StnReconciler}

/-- Calls about rules leave it as it is that what is registered is there. -/
theorem grounded_answered {c : StnCall} {answer : Answer (.stn c)} (h : interfaces.Grounded l)
    (given : Links.guarded.answers l (.stn c) answer l') : interfaces.Grounded l' := by
  rcases given.refused_or_carried c.atomic_perform with rfl | ⟨reply, carried⟩
  · exact h
  · obtain ⟨rules, rfl⟩ := c.exists_rules_of_perform carried
    exact h

/-- A change of rules is expected unless it puts a rule where nothing is. -/
theorem ensures_change_guarded {c : StnCall} {subject : Answer (.stn c) → AuditSubject}
    {failure : String → StnFailure} (h : interfaces.Grounded l)
    (there : ∀ rule index, c = .add rule index → l.Has index) :
    Pass.Ensures Links.guarded (Pass.change (.stn c) subject failure) r l
      (fun _ _ l' => interfaces.Grounded l') (fun _ _ l' => interfaces.Grounded l') := by
  rw [Pass.ensures_change]
  refine ⟨fun rule index same => there rule index (Call.stn.inj same), fun answer l' given => ?_⟩
  have stays := grounded_answered h given
  cases answer with
  | ok reply => exact stays
  | error reason => exact stays

theorem ensures_remove_guarded (h : interfaces.Grounded l) (d : StnRuleDetails) :
    Pass.Ensures Links.guarded (remove d) r l
      (fun _ _ l' => interfaces.Grounded l') (fun _ _ l' => interfaces.Grounded l') := by
  simp only [remove, Pass.ensures_bind, Pass.ensures_modify]
  exact ensures_change_guarded h (by rintro _ _ ⟨⟩)

theorem ensures_add_guarded (h : interfaces.Grounded l) {w : StnRule} {index : UInt32}
    (there : l.Has index) :
    Pass.Ensures Links.guarded (add w index) r l
      (fun _ _ l' => interfaces.Grounded l') (fun _ _ l' => interfaces.Grounded l') := by
  simp only [add, Pass.ensures_bind, Pass.ensures_modify]
  refine ensures_change_guarded h fun rule index' same => ?_
  obtain ⟨-, rfl⟩ := StnCall.add.inj same
  exact there

/-- Rules are put on registered interfaces only. -/
theorem ensures_guarded (h : interfaces.Grounded l) :
    Pass.Ensures Links.guarded (reconcile interfaces wanted) r l (fun _ _ _ => True)
      fun _ _ _ => True := by
  by_cases connected : r.connected = true
  case neg =>
    unfold Pass.Ensures
    rw [reconcile_eq, if_neg connected]
    exact trivial
  refine ensures_reconcile (fun _ _ _ l' => interfaces.Grounded l')
    (fun _ _ l' => interfaces.Grounded l') connected (by rintro _ _ ⟨⟩)
    (fun _ _ given => grounded_answered h given) (fun _ _ _ => trivial) ?actual
    (fun _ _ _ grounded => grounded) ?settle (fun _ _ _ _ _ => trivial)
    fun _ _ _ _ _ _ => trivial
  case actual =>
    intro done d ahead x l' grounded
    unfold settleActual
    split
    · split
      · exact grounded
      · exact Sweep.ensures_tolerate.mpr (ensures_remove_guarded grounded d)
    · exact Sweep.ensures_tolerate.mpr (ensures_remove_guarded grounded d)
  case settle =>
    intro done w ahead x l' _ grounded
    unfold settleWanted
    rw [Sweep.ensures_bind, Sweep.ensures_state]
    split
    · exact grounded
    · split
      · next index data registered =>
        exact Sweep.ensures_tolerate.mpr
          (ensures_add_guarded grounded (grounded _ _ _ registered))
      · exact Sweep.ensures_tolerate.mpr grounded
end StnReconciler

namespace InterfaceReconciler

/-- A pass over the interfaces puts no rules, and what is registered in the end is there. -/
theorem ensures_guarded {wanted : List Interface} {r : InterfaceReconciler}
    (connected : r.connected = true) :
    (reconcile wanted r).Ensures Links.guarded l fun x l' => x.2.registry.Grounded l' := by
  have grounded : (reconcile wanted r).Ensures (Links.behaviour True Call.IsInterface) l _ :=
    ensures_grounded connected
  have mirrored := grounded.transfer (b := Links.guarded) (R := Eq) rfl
    (by
      rintro l' _ c rfl ⟨-, call, rfl⟩ rule index same
      contradiction)
    (by
      rintro l' _ c answer l'' rfl ⟨-, call, rfl⟩ given
      exact ⟨l'', given, rfl⟩)
  refine mirrored.mono fun x l' ends => ?_
  obtain ⟨end_, r'⟩ := x
  obtain ⟨_, rfl, reached⟩ := ends
  cases end_ with
  | ok u => exact reached.1
  | error e => exact reached

end InterfaceReconciler

/-! ### Runs -/

namespace Run

variable {skipRefresh : Bool} {wanted : DesiredState}

/-- The rules are put on what the pass over the interfaces has registered. -/
theorem ensures_guarded_linkTask :
    (linkTask skipRefresh wanted).Ensures Links.guarded l fun _ _ => True := by
  refine (Program.ensures_bind ..).mpr ?_
  refine (InterfaceReconciler.ensures_guarded rfl).mono fun x l' grounded => ?_
  refine (Program.ensures_bind ..).mpr ?_
  have rules : (StnReconciler.reconcile x.2.registry wanted.rules {}).Ensures Links.guarded l' _ :=
    StnReconciler.ensures_guarded grounded
  exact rules.mono fun _ _ _ => trivial

/-- Every task puts rules on registered interfaces only. -/
theorem ensures_guarded_task (skipRefresh : Bool) (wanted : DesiredState) (g : Part) :
    (task skipRefresh wanted g).Ensures Links.guarded l fun _ _ => True := by
  by_cases links : g = .links
  · subst links
    exact ensures_guarded_linkTask
  · exact (within_task skipRefresh wanted g).ensures_guarded links l

/-- To look whether there is anything to do puts no rule. -/
theorem ensures_guarded_precheck {strategy : Strategy} :
    (precheck strategy skipRefresh).Ensures Links.guarded l fun _ _ => True := by
  cases strategy with
  | full => exact trivial
  | optimizeColdStart =>
    refine ⟨by rintro _ _ ⟨⟩, fun answer l' _ => ?_⟩
    cases answer <;> exact trivial

/-- A whole run puts rules on registered interfaces only. -/
theorem ensures_guarded_program (strategy : Strategy) (skipRefresh : Bool)
    (wanted : DesiredState) :
    (program strategy skipRefresh wanted).Ensures Links.guarded l fun _ _ => True := by
  have all (l : Links) :
      (reconcileAll skipRefresh wanted).Ensures Links.guarded l fun _ _ => True := by
    refine (Program.ensures_bind ..).mpr ?_
    refine (ensures_guarded_task skipRefresh wanted .links).mono fun _ _ _ => ?_
    refine (Program.ensures_bind ..).mpr ?_
    refine (ensures_guarded_task skipRefresh wanted .detection).mono fun _ _ _ => ?_
    refine (Program.ensures_bind ..).mpr ?_
    exact (ensures_guarded_task skipRefresh wanted .nat).mono fun _ _ _ => trivial
  refine (Program.ensures_bind ..).mpr ?_
  refine (Program.ensures_bind ..).mpr ?_
  refine ensures_guarded_precheck.mono fun skipped l' _ => ?_
  cases skipped with
  | true => exact trivial
  | false => exact all l'

end Run

/-! ### Side by side -/

namespace Workers

/-- A task goes on: its call is answered as the dataplane does or refused without effect, or its
event is reported. -/
inductive Goes (x : Workers) : Workers → Prop where
  | answered {g : Part} {c : Call} {next : Answer c → Program Run.TaskReport} (answer : Answer c)
    (s : Simulation) (due : x.tasks g = .ask c next)
    (given : (Simulation.behaviour True fun _ => True).answers x.simulation c answer s) :
    Goes x { tasks := Function.update x.tasks g (next answer), simulation := s }
  | reported {g : Part} {e : AuditEvent} {next : Program Run.TaskReport}
    (due : x.tasks g = .note e next) :
    Goes x { x with tasks := Function.update x.tasks g next }

/-- A task that has not ended can go on, since its call may be refused. -/
theorem exists_goes {x : Workers} {g : Part} (left : (!x.isDone g) = true) : ∃ y, x.Goes y := by
  unfold isDone at left
  cases due : x.tasks g with
  | done report =>
    rw [due] at left
    contradiction
  | ask c next =>
    exact ⟨_, .answered (.error "busy") x.simulation due (Or.inr ⟨trivial, rfl, "busy", rfl⟩)⟩
  | note e next => exact ⟨_, .reported due⟩

/-- What tasks come to when they go on in any order. -/
def Reaches : Workers → Workers → Prop := Relation.ReflTransGen Goes

/-- While tasks go on, the rules are supported, what is left of the task for interfaces and rules
suits a guarded dataplane, and the others keep to their parts. -/
structure Guarded (x : Workers) : Prop where
  supported : x.simulation.links.Supported
  links : (x.tasks .links).Ensures Links.guarded x.simulation.links fun _ _ => True
  within : ∀ g, (x.tasks g).Within g

variable {x y : Workers}

theorem guarded_start {skipRefresh : Bool} {wanted : DesiredState} {s : Simulation}
    (supported : s.links.Supported) : Guarded (start skipRefresh wanted s) where
  supported := supported
  links := Run.ensures_guarded_task skipRefresh wanted .links
  within := Run.within_task skipRefresh wanted

/-- A step of any task keeps that. -/
theorem Guarded.goes (h : Guarded x) (goes : x.Goes y) : Guarded y := by
  have kept : ∀ {g : Part} {p : Program Run.TaskReport}, p.Within g →
      ∀ k, (Function.update x.tasks g p k).Within k := by
    intro g p within k
    by_cases same : k = g
    · subst same
      rw [Function.update_self]
      exact within
    · rw [Function.update_of_ne same]
      exact h.within k
  cases goes with
  | @answered g c next answer s due given =>
    have own := h.within g
    rw [due, Program.within_ask] at own
    obtain ⟨part, later⟩ := own
    have guarded := Simulation.guarded_of_answers given
    by_cases links : g = .links
    · subst links
      have now := h.links
      rw [due] at now
      refine ⟨h.supported.answered now.1 guarded, ?_, kept (later answer)⟩
      show (Function.update x.tasks .links (next answer) .links).Ensures Links.guarded s.links _
      rw [Function.update_self]
      exact now.2 answer s.links guarded
    · -- the call is about another part, so interfaces and rules stay as they are
      have same : s.links = x.simulation.links := by
        have other : c.part ≠ .links := part ▸ links
        cases c with
        | interface call => exact absurd rfl other
        | stn call => exact absurd rfl other
        | bfd call => exact guarded
        | nat call => exact guarded
      refine ⟨?_, ?_, kept (later answer)⟩
      · show s.links.Supported
        rw [same]
        exact h.supported
      · show (Function.update x.tasks g (next answer) .links).Ensures Links.guarded s.links _
        rw [Function.update_of_ne (Ne.symm links), same]
        exact h.links
  | @reported g e next due =>
    have own := h.within g
    rw [due] at own
    refine ⟨h.supported, ?_, kept own⟩
    show (Function.update x.tasks g next .links).Ensures Links.guarded x.simulation.links _
    by_cases links : g = .links
    · subst links
      have now := h.links
      rw [due] at now
      rw [Function.update_self]
      exact now
    · rw [Function.update_of_ne (Ne.symm links)]
      exact h.links

/-- So do all steps, in whatever order the tasks take turns. -/
theorem Guarded.reaches (h : Guarded x) (reached : x.Reaches y) : Guarded y := by
  induction reached with
  | refl => exact h
  | tail _ goes ih => exact ih.goes goes

end Workers

namespace Run

/-- Wherever a pass over the interfaces ends, every registered name stands for an interface that
is there.  And if every rule is on an interface that is there before a run, then that is so at its
end, and at every moment while its tasks take turns in any order.  Any of the calls may be
refused. -/
theorem references_kept :
    (∀ (wanted : List Interface) (r r' : InterfaceReconciler) (t u : Trial)
      (end_ : Except InterfaceFailure Unit), r.connected = true →
      Trial.run (InterfaceReconciler.reconcile wanted r) t = some ((end_, r'), u) →
      r'.registry.Grounded u.simulation.links) ∧
    ∀ (skipRefresh : Bool) (wanted : DesiredState),
      (∀ (strategy : Strategy) (t u : Trial) (report : Report), t.simulation.links.Supported →
        Trial.run (program strategy skipRefresh wanted) t = some (report, u) →
        u.simulation.links.Supported) ∧
      ∀ (s : Simulation) (x : Workers), s.links.Supported →
        (Workers.start skipRefresh wanted s).Reaches x → x.simulation.links.Supported := by
  refine ⟨?_, fun skipRefresh wanted => ⟨?_, ?_⟩⟩
  · intro wanted r r' t u end_ connected result
    have ensures : (InterfaceReconciler.reconcile wanted r).Ensures
        (Links.behaviour True Call.IsInterface) t.simulation.links _ :=
      InterfaceReconciler.ensures_grounded connected
    have whole := Simulation.ensures_of_links ensures (Or.inr trivial)
    obtain ⟨⟨-, reached⟩, -⟩ := Trial.result_of_ensures whole (Or.inr trivial) result
    cases end_ with
    | ok _ => exact reached.1
    | error e => exact reached
  · intro strategy t u report supported result
    have ensures := (ensures_guarded_program strategy skipRefresh wanted).supported supported
    exact (Trial.result_of_ensures ensures (Or.inr trivial) result).1
  · intro s x supported reached
    exact ((Workers.guarded_start supported).reaches reached).supported

/-- Only one of the two interfaces is wanted, with the rules on both of them. -/
def uplinkState : DesiredState := { lanState with interfaces := [{ name := "uplink" }] }

/-- If the other one cannot be removed, it stays registered and there.  If it can, its rule goes
with it, and no rule is left without its interface after the first step of the tasks either. -/
theorem references_kept_uplink :
    ∃ s e r' u v report, Simulation.ofSnapshot? lanSnapshot = some s ∧
      Trial.run (InterfaceReconciler.reconcile uplinkState.interfaces {})
        { simulation := s, refusals := [none, none, none, none, none, some "busy"] } =
        some ((.error e, r'), u) ∧
      r'.registry.contains "lan" = true ∧ r'.registry.Grounded u.simulation.links ∧
      Trial.run (program .full false uplinkState) { simulation := s } = some (report, v) ∧
      v.simulation.links.rules.length = 1 ∧ v.simulation.links.Supported ∧
      ∃ x, (Workers.start false uplinkState s).Goes x ∧ x.simulation.links.Supported := by
  have goes : (Simulation.ofSnapshot? lanSnapshot).any (fun s =>
      decide s.links.Supported && !(Workers.start false uplinkState s).isDone .links &&
      (Trial.run (InterfaceReconciler.reconcile uplinkState.interfaces {})
        { simulation := s, refusals := [none, none, none, none, none, some "busy"] }).any (fun x =>
          !x.1.1.isOk && x.1.2.registry.contains "lan") &&
      (Trial.run (program .full false uplinkState) { simulation := s }).any fun x =>
        x.2.simulation.links.rules.length == 1) = true := by
    decide +kernel
  obtain ⟨s, start, goes⟩ := (Option.any_eq_true _ _).mp goes
  simp only [Bool.and_eq_true] at goes
  obtain ⟨⟨⟨holds, left⟩, cut⟩, whole⟩ := goes
  have supported : s.links.Supported := of_decide_eq_true holds
  obtain ⟨⟨⟨end_, r'⟩, u⟩, result, stays⟩ := (Option.any_eq_true _ _).mp cut
  obtain ⟨⟨report, v⟩, result', one⟩ := (Option.any_eq_true _ _).mp whole
  have grounded := references_kept.1 _ _ _ _ _ _ rfl result
  have after := (references_kept.2 false uplinkState).1 _ _ _ _ supported result'
  cases end_ with
  | ok _ => exact nomatch stays
  | error e =>
    obtain ⟨x, step⟩ := Workers.exists_goes left
    have beside := (references_kept.2 false uplinkState).2 s x supported (.single step)
    exact ⟨s, e, r', u, v, report, start, result, stays, grounded, result', beq_iff_eq.mp one,
      after, x, step, beside⟩

end Run

end DataplaneSync
