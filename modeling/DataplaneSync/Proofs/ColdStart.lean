import DataplaneSync.Proofs.TaskParts

namespace DataplaneSync

/-!
# Skipped runs

A run that may be skipped asks for the interfaces first.  What else the dataplane has is not asked
for.

* `Simulation.of_answer?_dump` — to ask for the interfaces leaves the dataplane as it is.
* `InterfaceReconciler.isBare_iff` — what a dump shows of which nothing is to be kept.
* `Run.skipped_only_if_bare` — when a run is skipped, and what it has done then.
* `Run.skipped_if_bare` — it is skipped whatever the other families have.
-/

/-- A dump that is not refused shows all interfaces, and leaves the dataplane as it is. -/
theorem Simulation.of_answer?_dump {s t : Simulation} {actual : Table UInt32 InterfaceDetails}
    (answered : s.answer? (.interface .dump) = some (.ok actual, t)) :
    actual = s.links.interfaces ∧ t = s := by
  unfold answer? at answered
  split at answered
  · exact nomatch answered
  · obtain ⟨shown, same⟩ := Prod.mk.inj (Option.some.inj answered)
    exact ⟨(Except.ok.inj shown).symm, same.symm⟩

/-- A dump shows nothing to reconcile if and only if it has no entry but that of the device at
index 0. -/
theorem InterfaceReconciler.isBare_iff {actual : Table UInt32 InterfaceDetails} :
    isBare actual = true ↔ ∀ index, actual.contains index = true → index = 0 := by
  have known : ∀ index, actual.contains index = true ↔ ∃ d, (index, d) ∈ actual.entries := by
    intro index
    rw [Table.contains_iff]
    exact exists_congr fun d => Table.mem_entries.symm
  have size_ : isBare actual = true ↔
      actual.entries = [] ∨ actual.entries.length = 1 ∧ actual.contains 0 = true := by
    rw [isBare, Bool.or_eq_true, Bool.and_eq_true, Table.isEmpty, List.isEmpty_iff, beq_iff_eq]
    exact Iff.rfl
  simp only [size_, known]
  have ascending := actual.ascending
  generalize actual.entries = entries at ascending ⊢
  cases entries with
  | nil => simp
  | cons x tail =>
    cases tail with
    | nil =>
      obtain ⟨index, d⟩ := x
      simp [eq_comm]
    | cons y rest =>
      -- two entries have different indexes
      have below : x.1 < y.1 := (List.pairwise_cons.mp ascending).1 y List.mem_cons_self
      constructor
      · rintro (empty | ⟨single, -⟩)
        · contradiction
        · exact absurd single (by simp)
      · intro only
        have first := only x.1 ⟨x.2, List.mem_cons_self⟩
        have second := only y.1 ⟨y.2, List.mem_cons_of_mem x List.mem_cons_self⟩
        rw [first, second] at below
        exact absurd below (UInt32.lt_irrefl 0)

namespace Run

open InterfaceReconciler (isBare isBare_iff)

variable {strategy : Strategy} {skipRefresh : Bool} {wanted : DesiredState} {ds : List Deed}
variable {report : Report} {s : Simulation} {t u : Trial}

/-- A run that does its tasks is not skipped. -/
theorem skipped_reconcileAll (trace : (reconcileAll skipRefresh wanted).Trace ds report) :
    report.skipped = false := by
  obtain ⟨links, ds₁, es, rfl, -, rest⟩ := Program.trace_bind.mp trace
  obtain ⟨detection, ds₂, es', rfl, -, rest'⟩ := Program.trace_bind.mp rest
  obtain ⟨nat, ds₃, es'', rfl, -, last⟩ := Program.trace_bind.mp rest'
  obtain ⟨-, rfl, ⟨⟩⟩ := Program.trace_note.mp last
  rfl

/-- What is left of a run that may be skipped, once the interfaces have been asked for. -/
def afterPrecheck (skipRefresh : Bool) (wanted : DesiredState) :
    Answer (.interface .dump) → Program Report
  | .ok actual =>
    if isBare actual then .note (ended none).skipped (.done { skipped := true })
    else reconcileAll skipRefresh wanted
  | .error _ => reconcileAll skipRefresh wanted

theorem program_optimizeColdStart : program .optimizeColdStart skipRefresh wanted =
    .note (started .optimizeColdStart wanted)
      (.ask (.interface .dump) (afterPrecheck skipRefresh wanted)) := by
  refine congrArg (Program.note _) (congrArg (Program.ask _) (funext fun answer => ?_))
  cases answer with
  | ok actual => rfl
  | error reason => rfl

/-- A run on the simulated dataplane that is skipped, whatever calls are refused: it is one that may
be skipped, the dataplane has no interface but that of index 0, all that has been asked for are the
interfaces, once, and nothing has been changed. -/
theorem skipped_only_if_bare {refusals : List (Option String)}
    (result : Trial.run (program strategy skipRefresh wanted)
      { simulation := s, refusals := refusals } = some (report, u))
    (skipped : report.skipped = true) :
    strategy = .optimizeColdStart ∧
      (∀ index, s.links.interfaces.contains index = true → index = 0) ∧
      u.calls = [.interface .dump] ∧ u.simulation = s := by
  cases strategy with
  | full =>
    obtain ⟨ds, -, trace⟩ := Trial.trace_of_run result
    obtain ⟨ds', -, rest⟩ := Program.trace_note.mp trace
    rw [skipped_reconcileAll rest] at skipped
    exact nomatch skipped
  | optimizeColdStart =>
    rw [program_optimizeColdStart, Trial.run_note, Trial.run_ask, Option.bind_eq_some_iff] at result
    obtain ⟨⟨answer, v⟩, answered, rest⟩ := result
    -- the tasks are not done, so the dump has been answered and shows nothing
    have bare : ∃ actual, answer = .ok actual ∧ isBare actual = true := by
      cases answer with
      | ok actual =>
        cases shown : isBare actual with
        | true => exact ⟨actual, rfl, shown⟩
        | false =>
          obtain ⟨ds, -, trace⟩ := Trial.trace_of_run rest
          rw [afterPrecheck, shown, if_neg Bool.false_ne_true] at trace
          rw [skipped_reconcileAll trace] at skipped
          exact nomatch skipped
      | error reason =>
        obtain ⟨ds, -, trace⟩ := Trial.trace_of_run rest
        rw [skipped_reconcileAll trace] at skipped
        exact nomatch skipped
    obtain ⟨actual, rfl, shown⟩ := bare
    obtain ⟨given, -, calls_⟩ := Trial.answers_of_answer? (fun _ => True)
      (Or.inr trivial : refusals = [] ∨ True) answered
    have reached : s.answer? (.interface .dump) = some (.ok actual, v.simulation) :=
      given.resolve_right fun ⟨_, _, _, refused⟩ => nomatch refused
    obtain ⟨rfl, same⟩ := Simulation.of_answer?_dump reached
    rw [afterPrecheck, if_pos shown] at rest
    obtain ⟨rfl, rfl⟩ := Prod.mk.inj (Option.some.inj rest)
    refine ⟨rfl, isBare_iff.mp shown, ?_, same⟩
    rw [Trial.calls_reported, calls_, Trial.calls_reported]
    rfl

/-- An empty dataplane has just the device at index 0, and nothing happens to it although an
interface is wanted. -/
theorem skipped_only_if_bare_empty :
    ∃ s report t, Simulation.ofSnapshot? {} = some s ∧
      Trial.run (program .optimizeColdStart false { interfaces := [{ name := "lan" }] })
        { simulation := s } = some (report, t) ∧
      report.skipped = true ∧ t.calls = [.interface .dump] ∧ t.simulation = s := by
  have goes : (Simulation.ofSnapshot? {}).any (fun s =>
      (Trial.run (program .optimizeColdStart false { interfaces := [{ name := "lan" }] })
        { simulation := s }).any fun x => x.1.skipped) = true := by
    decide +kernel
  obtain ⟨s, start, goes⟩ := (Option.any_eq_true _ _).mp goes
  obtain ⟨⟨report, t⟩, result, skipped⟩ := (Option.any_eq_true _ _).mp goes
  obtain ⟨-, -, calls_, same⟩ := skipped_only_if_bare result skipped
  exact ⟨s, report, t, start, result, skipped, calls_, same⟩

/-- A run that may be skipped is skipped if the dataplane has no interface but that of index 0 and
shows that, whatever else it has. -/
theorem skipped_if_bare (calm : s.failing = [])
    (bare : ∀ index, s.links.interfaces.contains index = true → index = 0) :
    ∃ u, Trial.run (program .optimizeColdStart skipRefresh wanted) { simulation := s } =
      some ({ skipped := true }, u) := by
  have granted : s.fails (Call.interface .dump).operation = false := by
    rw [Simulation.fails, calm]
    rfl
  have dumped : s.answer? (.interface .dump) = some (.ok s.links.interfaces, s) := by
    rw [Simulation.answer?, granted, if_neg Bool.false_ne_true]
    rfl
  have answered : ∀ ds, ∃ u, Trial.answer? (.interface .dump) { simulation := s, deeds := ds } =
      some (.ok s.links.interfaces, u) := fun ds => ⟨_, congrArg (Option.map _) dumped⟩
  rw [program_optimizeColdStart, Trial.run_note, Trial.run_ask]
  obtain ⟨u, answered⟩ := answered ([] ++ [.reported (started .optimizeColdStart wanted)])
  rw [answered, Option.bind_some, afterPrecheck, if_pos (isBare_iff.mpr bare)]
  exact ⟨_, rfl⟩

/-- A dataplane without interfaces that has a key and a group of mappings. -/
def leftoverSnapshot : Snapshot where
  keys := [{ id := 7 }]
  destinations := [{ label := "web", identities := [{ address := "192.0.2.9" }] }]

/-- A run is skipped that wants nothing at all, although the dataplane has a key and a group. -/
theorem skipped_with_leftovers :
    ∃ s report t, Simulation.ofSnapshot? leftoverSnapshot = some s ∧
      Trial.run (program .optimizeColdStart false {}) { simulation := s } = some (report, t) ∧
      report.skipped = true ∧ s.detection.keys.length = 1 ∧ s.nat.destinations.length = 1 := by
  have goes : (Simulation.ofSnapshot? leftoverSnapshot).any (fun s =>
      (Trial.run (program .optimizeColdStart false {}) { simulation := s }).any fun x =>
        x.1.skipped && s.detection.keys.length == 1 && s.nat.destinations.length == 1) = true := by
    decide +kernel
  obtain ⟨s, start, goes⟩ := (Option.any_eq_true _ _).mp goes
  obtain ⟨⟨report, t⟩, result, goes⟩ := (Option.any_eq_true _ _).mp goes
  refine ⟨s, report, t, start, result, ?_⟩
  simpa [and_assoc] using goes

end Run

end DataplaneSync
