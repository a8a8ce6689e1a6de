import DataplaneSync.Dataplane.FaultInjection
import DataplaneSync.Proofs.Traces

namespace DataplaneSync

/-!
# Views of one part

Each call works on one part of the simulated dataplane, and so do the programs that make only
calls on that part.

* `Simulation.view` — what of the dataplane concerns one part; `Simulation.answer?_view` and
  `Simulation.view_answer?_of_ne` say that a call sees and changes no other part.
* `Program.Within` — all calls are on one part, as `Program.within_of_trace` finds in the traces.
* `Simulation.run` — a run on the dataplane.  `Simulation.run_view` carries a run within a part
  from the view to the whole.
* `FaultyDataplane.exists_run` — a dataplane that has no faults runs programs likewise.
-/

/-! ### Views -/

/-- The part that calls about a family work on. -/
def Family.part : Family → Part
  | .interface => .links
  | .stnRule => .links
  | .bfdSession => .detection
  | .bfdKey => .detection
  | .bfdEcho => .detection
  | .natGlobal => .nat
  | .staticMapping => .nat
  | .balancedMapping => .nat
  | .identityMapping => .nat
  | .destinationNat => .nat

/-- A call works on the part of the family that it counts to. -/
theorem Call.part_operation (c : Call) : c.operation.family.part = c.part := by
  cases c with
  | interface call => cases call <;> rfl
  | stn call => cases call <;> rfl
  | bfd call => cases call <;> rfl
  | nat call =>
    cases call with
    | addMapping label m => cases m <;> rfl
    | deleteMapping label m => cases m <;> rfl
    | _ => rfl

namespace Simulation

/-- What concerns one part: its objects, the operations on it and the failures set for it. -/
def view (g : Part) (s : Simulation) : Simulation where
  links := if g = .links then s.links else {}
  detection := if g = .detection then s.detection else {}
  nat := if g = .nat then s.nat else {}
  operations := s.operations.filter (·.family.part = g)
  failing := s.failing.filter (·.1.part = g)

/-- Dataplanes with the same views hold the same. -/
theorem snapshot_eq_of_view {s t : Simulation} (same : ∀ g, s.view g = t.view g) :
    s.snapshot = t.snapshot ∧ s.detection.echo = t.detection.echo := by
  have links : s.links = t.links := by
    show (s.view .links).links = (t.view .links).links
    rw [same]
  have detection : s.detection = t.detection := by
    show (s.view .detection).detection = (t.view .detection).detection
    rw [same]
  have nat : s.nat = t.nat := by
    show (s.view .nat).nat = (t.view .nat).nat
    rw [same]
  refine ⟨?_, by rw [detection]⟩
  unfold snapshot
  rw [links, detection, nat]

/-- Whether a call is set to fail is seen in the view of its part. -/
theorem fails_view (s : Simulation) (c : Call) :
    (s.view c.part).fails c.operation = s.fails c.operation := by
  rw [Bool.eq_iff_iff]
  simp [fails, view, c.part_operation]

/-- A call is recorded in the view of its part as it is in the whole. -/
theorem recorded_view (s : Simulation) (c : Call) :
    (s.view c.part).recorded c = (s.recorded c).filter (·.family.part = c.part) := by
  unfold recorded
  split
  · rfl
  · simp [view, c.part_operation]

/-- A call is recorded in no view of another part. -/
theorem filter_recorded_of_ne {g : Part} {c : Call} (other : c.part ≠ g) (s : Simulation) :
    (s.recorded c).filter (·.family.part = g) = s.operations.filter (·.family.part = g) := by
  unfold recorded
  split
  · rfl
  · simp [c.part_operation, other]

/-- Carrying out a call is a matter of its part, and changes nothing else. -/
theorem perform_view (s : Simulation) (c : Call) :
    (s.view c.part).perform c = (s.perform c).map id (view c.part) := by
  cases c <;> rfl

/-- Carrying out a call leaves the operations, the set failures and the other parts alone. -/
theorem view_perform_of_ne {g : Part} {c : Call} (other : c.part ≠ g) (s : Simulation) :
    (s.perform c).2.view g = s.view g := by
  have alone := Ne.symm other
  cases c with
  | interface call => simp [perform, view, show g ≠ .links from alone]
  | stn call => simp [perform, view, show g ≠ .links from alone]
  | bfd call => simp [perform, view, show g ≠ .detection from alone]
  | nat call => simp [perform, view, show g ≠ .nat from alone]

/-- The view of its part answers a call as the whole dataplane does. -/
theorem answer?_view (s : Simulation) (c : Call) :
    (s.view c.part).answer? c = (s.answer? c).map fun x => (x.1, x.2.view c.part) := by
  unfold answer?
  rw [fails_view, perform_view]
  split
  · rfl
  · match s.perform c with
    | (.ok reply, t) =>
      show some (_, { t.view c.part with operations := (t.view c.part).recorded c }) = _
      rw [recorded_view]
      rfl
    | (.error (.refused reason), t) => rfl
    | (.error .outOfIndexes, t) => rfl

/-- A call changes no view of another part. -/
theorem view_answer?_of_ne {g : Part} {s t : Simulation} {c : Call} {answer : Answer c}
    (other : c.part ≠ g) (answered : s.answer? c = some (answer, t)) : t.view g = s.view g := by
  have kept := view_perform_of_ne other s
  unfold answer? at answered
  split at answered
  · obtain ⟨-, rfl⟩ := Prod.mk.inj (Option.some.inj answered)
    rfl
  · match performed : s.perform c with
    | (.ok reply, u) =>
      rw [performed] at answered kept
      obtain ⟨-, rfl⟩ := Prod.mk.inj (Option.some.inj answered)
      calc view g { u with operations := u.recorded c }
        _ = { view g u with operations := (u.recorded c).filter (·.family.part = g) } := rfl
        _ = view g u := by rw [filter_recorded_of_ne other]; rfl
        _ = view g s := kept
    | (.error (.refused reason), u) =>
      rw [performed] at answered kept
      obtain ⟨-, rfl⟩ := Prod.mk.inj (Option.some.inj answered)
      exact kept
    | (.error .outOfIndexes, u) =>
      rw [performed] at answered
      contradiction

end Simulation

/-! ### Programs within one part -/

/-- A dataplane of which nothing is known, except that it expects only calls on one part. -/
def Part.behaviour (g : Part) : Behaviour Unit where
  expects _ c := c.part = g
  answers _ _ _ _ := True

variable {σ ε α β : Type} {g : Part}

/-- All calls of a program are on one part, whatever they come back with. -/
def Program.Within (g : Part) (p : Program α) : Prop :=
  p.Ensures g.behaviour () fun _ _ => True

namespace Program

theorem within_done (a : α) : Within g (.done a) := trivial

theorem within_ask {c : Call} {next : Answer c → Program α} :
    Within g (.ask c next) ↔ c.part = g ∧ ∀ answer, Within g (next answer) :=
  and_congr_right fun _ => forall_congr' fun _ => ⟨fun h => h () trivial, fun h _ _ => h⟩

/-- A program is within a part if all its traces are. -/
theorem within_of_trace {p : Program α}
    (on : ∀ ds a, p.Trace ds a → ∀ x ∈ exchanges ds, x.call.part = g) : Within g p := by
  induction p with
  | done a => exact within_done a
  | ask c next ih =>
    refine within_ask.mpr ⟨?_, fun answer => ih answer fun ds a rest x hx => ?_⟩
    · obtain ⟨ds, a, rest⟩ := exists_trace (next (.error ""))
      exact on _ a (.ask _ rest) ⟨c, .error ""⟩ List.mem_cons_self
    · exact on _ a (.ask answer rest) x (List.mem_cons_of_mem _ hx)
  | note e next ih => exact ih fun ds a rest => on (.reported e :: ds) a (.note rest)

end Program

/-! ### Runs -/

namespace Simulation

/-- Something done to the dataplane, without a result if the indexes run out. -/
abbrev Action : Type → Type := StateT Simulation Option

/-- Run a program; what events it reports is of no consequence. -/
def run (s : Simulation) (p : Program α) : Option (α × Simulation) :=
  (p.run (fun c s => s.answer? c) (fun _ => pure ()) : Action α) s

@[simp] theorem run_done (s : Simulation) (a : α) : s.run (.done a) = some (a, s) := rfl

theorem run_ask (s : Simulation) (c : Call) (next : Answer c → Program α) :
    s.run (.ask c next) = (s.answer? c).bind fun x => x.2.run (next x.1) := rfl

@[simp] theorem run_note (s : Simulation) (e : AuditEvent) (next : Program α) :
    s.run (.note e next) = s.run next := rfl

/-- Going on is a run from where the first program ends. -/
theorem run_bind (s : Simulation) (p : Program α) (f : α → Program β) :
    s.run (p.bind f) = (s.run p).bind fun x => x.2.run (f x.1) := by
  induction p generalizing s with
  | done a => rfl
  | ask c next ih =>
    rw [Program.bind, run_ask, run_ask, Option.bind_assoc]
    exact congrArg _ (funext fun x => ih x.1 x.2)
  | note e next ih => exact ih s

/-- Within a part, the view of the part runs a program as the whole dataplane does. -/
theorem run_view {p : Program α} (within : p.Within g) (s : Simulation) :
    (s.view g).run p = (s.run p).map fun x => (x.1, x.2.view g) := by
  induction p generalizing s with
  | done a => rfl
  | ask c next ih =>
    obtain ⟨rfl, later⟩ := Program.within_ask.mp within
    rw [run_ask, run_ask, answer?_view, Option.bind_map, Option.map_bind]
    exact congrArg _ (funext fun x => ih x.1 (later x.1) x.2)
  | note e next ih => exact ih within s

/-- Within a part, a run changes no view of another part. -/
theorem view_run_of_ne {h : Part} {p : Program α} (within : p.Within g) (other : g ≠ h)
    {s t : Simulation} {a : α} (result : s.run p = some (a, t)) : t.view h = s.view h := by
  induction p generalizing s with
  | done b =>
    obtain ⟨-, rfl⟩ := Prod.mk.inj (Option.some.inj result)
    rfl
  | ask c next ih =>
    obtain ⟨rfl, later⟩ := Program.within_ask.mp within
    rw [run_ask, Option.bind_eq_some_iff] at result
    obtain ⟨⟨answer, u⟩, answered, rest⟩ := result
    exact (ih answer (later answer) rest).trans (view_answer?_of_ne other answered)
  | note e next ih => exact ih within result

/-- Within a part, a run that the view has is one that the whole dataplane has. -/
theorem exists_run_of_view {p : Program α} (within : p.Within g) {s v : Simulation} {a : α}
    (result : (s.view g).run p = some (a, v)) :
    ∃ t, s.run p = some (a, t) ∧ t.view g = v ∧ ∀ h, g ≠ h → t.view h = s.view h := by
  rw [run_view within, Option.map_eq_some_iff] at result
  obtain ⟨⟨b, t⟩, whole, same⟩ := result
  obtain ⟨rfl, rfl⟩ := Prod.mk.inj same
  exact ⟨t, whole, rfl, fun h other => view_run_of_ne within other whole⟩

end Simulation

namespace FaultyDataplane

/-- If no interfaces are hidden, replies stay as they are. -/
theorem conceal_nil (c : Call) (reply : c.Reply) : conceal [] c reply = reply := by
  have whole : ∀ t : Table UInt32 InterfaceDetails,
      (t.filter fun index _ => !([] : List UInt32).contains index) = t := by
    intro t
    cases t
    simp [Table.filter]
  cases c with
  | interface call =>
    cases call with
    | dump => exact whole reply
    | _ => rfl
  | stn call => rfl
  | bfd call => rfl
  | nat call => rfl

theorem run_ask_of_answered {c : Call} {next : Answer c → Program α} {d d' : FaultyDataplane}
    {answer : Answer c} (answered : answer? c d = (some answer, d')) :
    run (.ask c next) d = run (next answer) d' := by
  have unfolded : run (.ask c next) = (answer? c >>= fun answer => run (next answer)) := rfl
  rw [unfolded]
  simp only [bind, OptionT.bind, OptionT.mk, StateT.bind, answered]

/-- A dataplane without faults that hides nothing answers as the simulation does. -/
theorem answer?_of_calm {c : Call} {d : FaultyDataplane} {answer : Answer c} {s : Simulation}
    (calm : d.faults = [] ∧ d.hidden = []) (answered : d.simulation.answer? c = some (answer, s)) :
    ∃ d', answer? c d = (some answer, d') ∧ d'.simulation = s ∧
      d'.faults = [] ∧ d'.hidden = [] := by
  have shown : answer.map (conceal [] c) = answer := by
    cases answer with
    | ok reply => exact congrArg Except.ok (conceal_nil c reply)
    | error reason => rfl
  unfold answer?
  rw [calm.1, calm.2]
  simp only [Fault.strike, answered, shown]
  refine ⟨_, rfl, ?_⟩
  cases answer <;> exact ⟨rfl, rfl, rfl⟩

/-- A dataplane without faults that hides nothing runs programs as the simulation does. -/
theorem exists_run {p : Program α} {d : FaultyDataplane} {a : α} {t : Simulation}
    (calm : d.faults = [] ∧ d.hidden = []) (result : d.simulation.run p = some (a, t)) :
    ∃ d', run p d = (some a, d') ∧ d'.simulation = t := by
  induction p generalizing d with
  | done b =>
    obtain ⟨rfl, rfl⟩ := Prod.mk.inj (Option.some.inj result)
    exact ⟨d, rfl, rfl⟩
  | ask c next ih =>
    rw [Simulation.run_ask, Option.bind_eq_some_iff] at result
    obtain ⟨⟨answer, u⟩, answered, rest⟩ := result
    obtain ⟨d', faultless, rfl, calm'⟩ := answer?_of_calm calm answered
    rw [run_ask_of_answered faultless]
    exact ih answer calm' rest
  | note e next ih => exact ih calm result

end FaultyDataplane

end DataplaneSync
