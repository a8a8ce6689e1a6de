import DataplaneSync.Proofs.TaskParts
import Mathlib.Logic.Function.Basic
import Mathlib.Order.GameAdd

namespace DataplaneSync

/-!
# Tasks side by side

The three tasks of a run may take turns on one dataplane, call by call and in any order.

* `Workers` — tasks under way; `Workers.step?` lets one of them go on, `Workers.follow` lets them
  go on as a schedule says.
* `Workers.wellFounded_step` — no schedule goes on for ever.
* `Workers.Apart` — on its own part, each task is as far as it would be alone; every step keeps
  that.
* `Run.tasks_independent` — all schedules end as the run with one task after the other does, and
  how a task ends depends on its own part only.
-/

/-! ### Schedules -/

/-- Tasks under way on one dataplane. -/
structure Workers where
  /-- What each task has still to do. -/
  tasks : Part → Program Run.TaskReport
  simulation : Simulation

namespace Workers

/-- Let a task go on: it makes its next call, which is answered at once, or reports its next
event.  It cannot go on if it has ended, or if the indexes have run out for what it creates. -/
def step? (x : Workers) (g : Part) : Option Workers :=
  match x.tasks g with
  | .done _ => none
  | .ask c next =>
    (x.simulation.answer? c).map fun (answer, s) =>
      { tasks := Function.update x.tasks g (next answer), simulation := s }
  | .note _ next => some { x with tasks := Function.update x.tasks g next }

/-- Let tasks go on as a schedule says. -/
def follow (x : Workers) (schedule : List Part) : Option Workers := schedule.foldlM step? x

/-- The tasks of a run before any of them has gone on. -/
def start (skipRefresh : Bool) (wanted : DesiredState) (s : Simulation) : Workers where
  tasks := Run.task skipRefresh wanted
  simulation := s

/-- No task can go on. -/
def Halted (x : Workers) : Prop := ∀ g, x.step? g = none

/-- Whether a task has ended. -/
def isDone (x : Workers) (g : Part) : Bool :=
  match x.tasks g with
  | .done _ => true
  | .ask _ _ => false
  | .note _ _ => false

variable {x y : Workers} {g : Part}

/-- A task goes on by a call that is answered or by an event. -/
theorem step_cases (stepped : x.step? g = some y) :
    (∃ c next answer, x.tasks g = .ask c next ∧
      x.simulation.answer? c = some (answer, y.simulation) ∧ y.tasks g = next answer) ∨
    ∃ e next, x.tasks g = .note e next ∧ y.simulation = x.simulation ∧ y.tasks g = next := by
  unfold step? at stepped
  match due : x.tasks g with
  | .done report =>
    rw [due] at stepped
    contradiction
  | .ask c next =>
    rw [due] at stepped
    obtain ⟨⟨answer, s⟩, answered, rfl⟩ := Option.map_eq_some_iff.mp stepped
    exact Or.inl ⟨c, next, answer, rfl, answered, Function.update_self _ _ _⟩
  | .note e next =>
    rw [due] at stepped
    obtain rfl := Option.some.inj stepped
    exact Or.inr ⟨e, next, rfl, rfl, Function.update_self _ _ _⟩

/-- The other tasks stay as they are. -/
theorem tasks_of_step {h : Part} (stepped : x.step? g = some y) (other : h ≠ g) :
    y.tasks h = x.tasks h := by
  unfold step? at stepped
  split at stepped
  · contradiction
  · obtain ⟨_, -, rfl⟩ := Option.map_eq_some_iff.mp stepped
    exact Function.update_of_ne other _ _
  · obtain rfl := Option.some.inj stepped
    exact Function.update_of_ne other _ _

/-- The call that a task waits for in vain is not answered. -/
theorem answer?_of_step?_eq_none {c : Call} {next : Answer c → Program Run.TaskReport}
    (due : x.tasks g = .ask c next) (stuck : x.step? g = none) :
    x.simulation.answer? c = none := by
  unfold step? at stuck
  rw [due] at stuck
  exact Option.map_eq_none_iff.mp stuck

/-- An event is always reported. -/
theorem step?_of_note {e : AuditEvent} {next : Program Run.TaskReport}
    (due : x.tasks g = .note e next) : x.step? g ≠ none := by
  unfold step?
  rw [due]
  exact Option.some_ne_none _

/-- A task that has ended does not go on. -/
theorem step?_of_isDone (ended : x.isDone g = true) : x.step? g = none := by
  unfold isDone at ended
  unfold step?
  cases due : x.tasks g with
  | done report => rfl
  | ask c next => simp [due] at ended
  | note e next => simp [due] at ended

/-! ### Schedules end -/

/-- What is left of a program when it has gone on once. -/
inductive Later : Program Run.TaskReport → Program Run.TaskReport → Prop where
  | answered {c : Call} (next : Answer c → Program Run.TaskReport) (answer : Answer c) :
    Later (next answer) (.ask c next)
  | noted (e : AuditEvent) (next : Program Run.TaskReport) : Later next (.note e next)

theorem wellFounded_later : WellFounded Later := by
  refine ⟨fun p => ?_⟩
  induction p with
  | done report => exact ⟨_, nofun⟩
  | ask c next ih =>
    refine ⟨_, fun q h => ?_⟩
    cases h with
    | answered _ answer => exact ih answer
  | note e next ih =>
    refine ⟨_, fun q h => ?_⟩
    cases h with
    | noted => exact ih

/-- A step leaves less of the task that goes on. -/
theorem later_of_step (stepped : x.step? g = some y) : Later (y.tasks g) (x.tasks g) := by
  rcases step_cases stepped with ⟨c, next, answer, due, -, left⟩ | ⟨e, next, due, -, left⟩
  · rw [due, left]
    exact .answered next answer
  · rw [due, left]
    exact .noted e next

/-- No schedule goes on for ever. -/
theorem wellFounded_step : WellFounded fun y x : Workers => ∃ g, x.step? g = some y := by
  let left (x : Workers) := ((x.tasks .links, x.tasks .detection), x.tasks .nat)
  have triples :=
    (wellFounded_later.prod_gameAdd wellFounded_later).prod_gameAdd wellFounded_later
  refine Subrelation.wf (fun {y x} ⟨g, stepped⟩ => ?_) (InvImage.wf left triples)
  have later := later_of_step stepped
  have kept : ∀ h, h ≠ g → y.tasks h = x.tasks h := fun h => tasks_of_step stepped
  show Prod.GameAdd (Prod.GameAdd Later Later) Later
    ((y.tasks .links, y.tasks .detection), y.tasks .nat)
    ((x.tasks .links, x.tasks .detection), x.tasks .nat)
  cases g with
  | links =>
    rw [kept .detection nofun, kept .nat nofun]
    exact .fst (.fst later)
  | detection =>
    rw [kept .links nofun, kept .nat nofun]
    exact .fst (.snd later)
  | nat =>
    rw [kept .links nofun, kept .detection nofun]
    exact .snd later

/-! ### Tasks do not meet -/

/-- Each task keeps to its part, and what is left of it comes, on that part, to the same as what
was left before. -/
structure Apart (x y : Workers) : Prop where
  within : ∀ g, (y.tasks g).Within g
  same : ∀ g, (y.simulation.view g).run (y.tasks g) = (x.simulation.view g).run (x.tasks g)

theorem Apart.refl (within : ∀ g, (x.tasks g).Within g) : Apart x x := ⟨within, fun _ => rfl⟩

theorem Apart.trans {z : Workers} (first : Apart x y) (second : Apart y z) : Apart x z :=
  ⟨second.within, fun g => (second.same g).trans (first.same g)⟩

/-- A step is no matter for the parts of the other tasks. -/
theorem view_of_step {h : Part} (within : (x.tasks g).Within g) (stepped : x.step? g = some y)
    (other : h ≠ g) : y.simulation.view h = x.simulation.view h := by
  rcases step_cases stepped with ⟨c, next, answer, due, answered, -⟩ | ⟨e, next, -, same, -⟩
  · rw [due, Program.within_ask] at within
    exact Simulation.view_answer?_of_ne (fun own => other (own.symm.trans within.1)) answered
  · rw [same]

/-- The task that goes on is answered as its part alone would answer it. -/
theorem run_of_step (within : (x.tasks g).Within g) (stepped : x.step? g = some y) :
    (y.tasks g).Within g ∧
      (y.simulation.view g).run (y.tasks g) = (x.simulation.view g).run (x.tasks g) := by
  rcases step_cases stepped with ⟨c, next, answer, due, answered, left⟩ | ⟨e, next, due, same, left⟩
  · rw [due] at within ⊢
    obtain ⟨rfl, rest⟩ := Program.within_ask.mp within
    rw [left, Simulation.run_ask, Simulation.answer?_view, answered]
    exact ⟨rest answer, rfl⟩
  · rw [due] at within ⊢
    rw [left, same, Simulation.run_note]
    exact ⟨within, rfl⟩

/-- A step keeps the tasks apart. -/
theorem apart_of_step (within : ∀ g, (x.tasks g).Within g) (stepped : x.step? g = some y) :
    Apart x y := by
  obtain ⟨own, same⟩ := run_of_step (within g) stepped
  constructor
  · intro h
    by_cases other : h = g
    · subst other
      exact own
    · rw [tasks_of_step stepped other]
      exact within h
  · intro h
    by_cases other : h = g
    · subst other
      exact same
    · rw [tasks_of_step stepped other, view_of_step (within g) stepped other]

/-- So does a schedule. -/
theorem apart_of_follow {schedule : List Part} (within : ∀ g, (x.tasks g).Within g)
    (followed : x.follow schedule = some y) : Apart x y := by
  induction schedule generalizing x with
  | nil =>
    obtain rfl := Option.some.inj followed
    exact .refl within
  | cons g later ih =>
    obtain ⟨z, stepped, rest⟩ := Option.bind_eq_some_iff.mp followed
    have once := apart_of_step within stepped
    exact once.trans (ih once.within rest)

/-- A task that has come to a result on its part, and is kept apart, is done when it cannot go
on. -/
theorem done_of_apart {report : Run.TaskReport} {v : Simulation} (apart : Apart x y)
    (stuck : y.step? g = none)
    (result : (x.simulation.view g).run (x.tasks g) = some (report, v)) :
    y.tasks g = .done report ∧ y.simulation.view g = v := by
  -- what is left of the task has the same result, so it is no call without an answer
  rw [← apart.same g] at result
  have within := apart.within g
  match due : y.tasks g with
  | .done report' =>
    rw [due] at result
    obtain ⟨rfl, rfl⟩ := Prod.mk.inj (Option.some.inj result)
    exact ⟨rfl, rfl⟩
  | .ask c next =>
    rw [due] at within result
    obtain ⟨rfl, -⟩ := Program.within_ask.mp within
    rw [Simulation.run_ask, Simulation.answer?_view, answer?_of_step?_eq_none due stuck] at result
    contradiction
  | .note e next => exact absurd stuck (step?_of_note due)

/-- While indexes are left for what it creates, a task that cannot go on is done. -/
theorem exists_done (stuck : x.step? g = none)
    (room : ∀ c next, x.tasks g = .ask c next → x.simulation.hasRoom c = true) :
    ∃ report, x.tasks g = .done report := by
  match due : x.tasks g with
  | .done report => exact ⟨report, rfl⟩
  | .ask c next =>
    have answered := Simulation.isSome_answer? (room c next due)
    rw [answer?_of_step?_eq_none due stuck] at answered
    contradiction
  | .note e next => exact absurd stuck (step?_of_note due)

end Workers

/-! ### Runs -/

/-- The wanted objects of one part. -/
def DesiredState.view (d : DesiredState) : Part → DesiredState
  | .links => { interfaces := d.interfaces, rules := d.rules }
  | .detection => { sessions := d.sessions, keys := d.keys, echoes := d.echoes }
  | .nat => { natGlobal := d.natGlobal, sources := d.sources, destinations := d.destinations }

namespace Run

/-- A task looks at the wanted objects of its part only. -/
theorem task_view (skipRefresh : Bool) (wanted : DesiredState) (g : Part) :
    task skipRefresh (wanted.view g) g = task skipRefresh wanted g := by
  cases g <;> rfl

/-- What the tasks come to, each on its part, is what the run with one task after the other comes
to. -/
theorem run_program {skipRefresh : Bool} {wanted : DesiredState} {s : Simulation}
    {reports : Part → TaskReport} {views : Part → Simulation}
    (results : ∀ g, (s.view g).run (task skipRefresh wanted g) = some (reports g, views g)) :
    ∃ t, s.run (program .full skipRefresh wanted) =
        some (collect (reports .links) (reports .detection) (reports .nat), t) ∧
      ∀ g, t.view g = views g := by
  have within := within_task skipRefresh wanted
  obtain ⟨t, links, ownLinks, otherLinks⟩ :=
    Simulation.exists_run_of_view (within .links) (results .links)
  -- Each task finds its part as it was at the start.
  have detectionAlone := results .detection
  rw [← otherLinks .detection nofun] at detectionAlone
  obtain ⟨u, detection, ownDetection, otherDetection⟩ :=
    Simulation.exists_run_of_view (within .detection) detectionAlone
  have natAlone := results .nat
  rw [← otherLinks .nat nofun, ← otherDetection .nat nofun] at natAlone
  obtain ⟨v, nat, ownNat, otherNat⟩ := Simulation.exists_run_of_view (within .nat) natAlone
  refine ⟨v, ?_, ?_⟩
  · show s.run ((linkTask skipRefresh wanted).bind fun links =>
      (detectionTask wanted).bind fun detection => (natTask wanted).bind fun nat =>
        .note (finished (collect links detection nat)) (.done (collect links detection nat))) = _
    have linkRun : s.run (linkTask skipRefresh wanted) = some (reports .links, t) := links
    have detectionRun : t.run (detectionTask wanted) = some (reports .detection, u) := detection
    have natRun : u.run (natTask wanted) = some (reports .nat, v) := nat
    simp only [Simulation.run_bind, linkRun, detectionRun, natRun, Option.bind_some,
      Simulation.run_note, Simulation.run_done]
  · intro g
    cases g with
    | links => rw [otherNat .links nofun, otherDetection .links nofun, ownLinks]
    | detection => rw [otherNat .detection nofun, ownDetection]
    | nat => exact ownNat

/-- Every schedule of the tasks ends as the run does that has them one after the other.  That is
so on every dataplane, whatever calls are set to fail there, unless the indexes of interfaces run
out: a task then waits for its creation to the end.

How a task ends, and what becomes of its part, is also the same beside tasks that are after other
objects, and on a dataplane that differs in other parts or lets calls on other parts fail. -/
theorem tasks_independent (skipRefresh : Bool) (wanted : DesiredState) (s : Simulation)
    (schedule : List Part) (x : Workers)
    (followed : (Workers.start skipRefresh wanted s).follow schedule = some x)
    (halted : x.Halted)
    (room : ∀ g c next, x.tasks g = .ask c next → x.simulation.hasRoom c = true) :
    ∃ (reports : Part → TaskReport) (d : FaultyDataplane),
      (∀ g, x.tasks g = .done (reports g)) ∧
      FaultyDataplane.run (program .full skipRefresh wanted) { simulation := s } =
        (some (collect (reports .links) (reports .detection) (reports .nat)), d) ∧
      x.simulation.snapshot = d.simulation.snapshot ∧
      x.simulation.detection.echo = d.simulation.detection.echo ∧
      (∀ g, x.simulation.operations.filter (·.family.part = g) =
        d.simulation.operations.filter (·.family.part = g)) ∧
      ∀ g wanted' s' schedule' x', wanted'.view g = wanted.view g → s'.view g = s.view g →
        (Workers.start skipRefresh wanted' s').follow schedule' = some x' → x'.Halted →
        x'.tasks g = .done (reports g) ∧ x'.simulation.view g = x.simulation.view g := by
  have apart := Workers.apart_of_follow (within_task skipRefresh wanted) followed
  -- the reports of the tasks are what they come to alone, each on its part
  choose reports done using fun g => Workers.exists_done (halted g) (room g)
  have results : ∀ g, (s.view g).run (task skipRefresh wanted g) =
      some (reports g, x.simulation.view g) := by
    intro g
    have same := apart.same g
    rw [done g, Simulation.run_done] at same
    exact same.symm
  -- so they are what they come to one after the other
  obtain ⟨t, sequential, views⟩ := run_program results
  obtain ⟨d, whole, rfl⟩ :=
    FaultyDataplane.exists_run (d := { simulation := s }) ⟨rfl, rfl⟩ sequential
  obtain ⟨snapshot, echo⟩ := Simulation.snapshot_eq_of_view fun g => (views g).symm
  refine ⟨reports, d, done, whole, snapshot, echo, fun g => ?_, ?_⟩
  · exact (congrArg Simulation.operations (views g)).symm
  · intro g wanted' s' schedule' x' sameWanted sameView followed' halted'
    have apart' := Workers.apart_of_follow (within_task skipRefresh wanted') followed'
    refine Workers.done_of_apart apart' (halted' g) ?_
    show (s'.view g).run (task skipRefresh wanted' g) = _
    rw [← task_view, sameWanted, task_view, sameView, results g]

/-- Wanted objects of all three parts, with a rule that has to wait. -/
def branchState : DesiredState where
  interfaces := [{ name := "uplink" }]
  rules :=
    [{ name := "gate", address := "10.0.0.1", interface := "uplink" },
      { name := "later", address := "10.0.0.2", interface := "lan" }]
  sessions := [{ interface := "uplink", source := "10.0.0.1", destination := "10.0.0.2" }]
  echoes := [{ sourceInterface := "uplink" }]
  natGlobal := some { forwarding := true }
  destinations :=
    [{ label := "web", statics := [{ externalPort := 80, locals := [{ port := 8080 }] }] }]

/-- A dataplane with nothing but the device at index 0, on which no session can be created. -/
def bareDataplane : Simulation where
  links := { interfaces := .ofList [(0, { internalName := Interface.localName })] }
  failing := [(.bfdSession, .create)]

/-- The tasks in turns, as long as all three have something to do. -/
def inTurns : List Part :=
  (List.replicate 6 [Part.links, .detection, .nat]).flatten ++ List.replicate 5 .links

/-- The tasks come to the same in turns as one after the other. -/
theorem tasks_independent_inTurns :
    ∃ (x : Workers) (reports : Part → TaskReport) (d : FaultyDataplane),
      (Workers.start false branchState bareDataplane).follow inTurns = some x ∧ x.Halted ∧
      (∀ g, x.tasks g = .done (reports g)) ∧
      FaultyDataplane.run (program .full false branchState) { simulation := bareDataplane } =
        (some (collect (reports .links) (reports .detection) (reports .nat)), d) ∧
      x.simulation.snapshot = d.simulation.snapshot := by
  have goes : ((Workers.start false branchState bareDataplane).follow inTurns).any
      (fun x => x.isDone .links && x.isDone .detection && x.isDone .nat) = true := by
    decide +kernel
  obtain ⟨x, followed, goes⟩ := (Option.any_eq_true _ _).mp goes
  have done : ∀ g, x.isDone g = true := by
    intro g
    simp only [Bool.and_eq_true] at goes
    cases g with
    | links => exact goes.1.1
    | detection => exact goes.1.2
    | nat => exact goes.2
  have halted : x.Halted := fun g => Workers.step?_of_isDone (done g)
  obtain ⟨reports, d, ends, whole, same, -⟩ :=
    tasks_independent false branchState bareDataplane inTurns x followed halted
      fun g c next due => absurd (done g) (by simp [Workers.isDone, due])
  exact ⟨x, reports, d, followed, halted, ends, whole, same⟩

end Run

end DataplaneSync
