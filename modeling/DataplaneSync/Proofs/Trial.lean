import DataplaneSync.Proofs.Behaviour

namespace DataplaneSync

/-!
# Trials

A run of a program against the simulated dataplane in which any call may be refused without
effect.

* `Trial` — the dataplane, which of the next calls are refused, and what was done so far.
* `Trial.run` — a run.  It has no result if the indexes of interfaces run out.
* `Trial.result_of_ensures` — what a program ensures of the simulated dataplane is so of its
  runs.
* `Trial.exists_run_of_hasRoom`, `Trial.exists_run_of_ensures` — a run has a result while indexes
  are left, and so it has one if it creates no interfaces.
* `Simulation.ensures_of_links`, `Simulation.ensures_of_detection`, `Simulation.ensures_of_nat` —
  what it ensures of the part that it works on, it ensures of the whole.
* `Trial.end_of_links`, `Trial.result_of_links` — what a pass over interfaces and rules ensures is
  so of its runs, whatever is refused.
-/

/-- What a program does. -/
inductive Deed where
  /-- It makes a call, which is answered. -/
  | called (call : Call) (answer : Answer call)
  /-- It reports an event. -/
  | reported (event : AuditEvent)

/-- The call of a deed that is one. -/
def Deed.call? : Deed → Option Call
  | called c _ => some c
  | reported _ => none

/-- A simulated dataplane that refuses calls at will. -/
structure Trial where
  simulation : Simulation
  /-- The reason why each of the next calls is refused, if it is.  All later calls reach the
  dataplane. -/
  refusals : List (Option String) := []
  /-- What was done so far, the oldest first. -/
  deeds : List Deed := []

namespace Trial

/-- Something done in a trial, without a result if the indexes run out. -/
abbrev Action : Type → Type := StateT Trial Option

/-- The calls made so far. -/
def calls (t : Trial) : List Call := t.deeds.filterMap Deed.call?

/-- Answer a call: with the refusal that is due, or as the dataplane does. -/
def answer? (c : Call) : Action (Answer c) := fun t =>
  match t.refusals with
  | some reason :: later =>
    let refused : Answer c := .error reason
    some (refused, { t with refusals := later, deeds := t.deeds ++ [.called c refused] })
  | due =>
    (t.simulation.answer? c).map fun (answer, s) =>
      (answer, { simulation := s, refusals := due.tail, deeds := t.deeds ++ [.called c answer] })

/-- Take an event. -/
def take (e : AuditEvent) : Action Unit := fun t =>
  some ((), { t with deeds := t.deeds ++ [.reported e] })

/-- Run a program. -/
def run {α : Type} (p : Program α) : Action α := p.run answer? take

end Trial

/-! ### The simulated dataplane -/

variable {α : Type} {unreliable : Prop} {allowed : Call → Prop}

namespace Simulation

/-- The simulated dataplane, which expects the calls that are allowed and, if it is unreliable,
may refuse every one of them. -/
def behaviour (unreliable : Prop) (allowed : Call → Prop) : Behaviour Simulation where
  expects _ c := allowed c
  answers s c answer t :=
    s.answer? c = some (answer, t) ∨ unreliable ∧ t = s ∧ ∃ reason, answer = .error reason

/-- Whether an index is left for what a call creates. -/
def hasRoom (s : Simulation) : Call → Bool
  | .interface (.configure _) => decide (s.links.nextIndex.toNat + 1 < UInt32.size)
  | _ => true

/-- A call is answered if an index is left for what it creates. -/
theorem isSome_answer? {c : Call} {s : Simulation} (room : s.hasRoom c = true) :
    (s.answer? c).isSome := by
  unfold answer?
  split
  · rfl
  · split
    · rfl
    · rfl
    · next t stopped =>
      obtain ⟨i, rfl, full⟩ := (atomic_perform stopped).2 rfl
      exact absurd (of_decide_eq_true room) (Nat.not_lt.mpr full)

end Simulation

namespace Trial

@[simp] theorem run_done (a : α) (t : Trial) : run (.done a) t = some (a, t) := rfl

theorem run_ask (c : Call) (next : Answer c → Program α) (t : Trial) :
    run (.ask c next) t = (answer? c t).bind fun x => run (next x.1) x.2 := rfl

theorem run_note (e : AuditEvent) (next : Program α) (t : Trial) :
    run (.note e next) t = run next { t with deeds := t.deeds ++ [.reported e] } := rfl

/-- An event is no call. -/
theorem calls_reported (t : Trial) (e : AuditEvent) :
    calls { t with deeds := t.deeds ++ [.reported e] } = t.calls := by
  simp [calls, Deed.call?]

/-- An answer in a trial is one that the dataplane may give. -/
theorem answers_of_answer? (allowed : Call → Prop) {c : Call} {t u : Trial} {answer : Answer c}
    (faults : t.refusals = [] ∨ unreliable) (h : answer? c t = some (answer, u)) :
    (Simulation.behaviour unreliable allowed).answers t.simulation c answer u.simulation ∧
      (u.refusals = [] ∨ unreliable) ∧ u.calls = t.calls ++ [c] := by
  unfold answer? at h
  split at h
  · next reason later due =>
    obtain ⟨rfl, rfl⟩ : Except.error reason = answer ∧ _ = u := by simpa using h
    -- only an unreliable dataplane is given refusals
    have faulty : unreliable := faults.resolve_left (by simp [due])
    exact ⟨Or.inr ⟨faulty, rfl, reason, rfl⟩, Or.inr faulty, by simp [calls, Deed.call?]⟩
  · obtain ⟨⟨x, s⟩, answered, same⟩ := Option.map_eq_some_iff.mp h
    obtain ⟨rfl, rfl⟩ := Prod.mk.inj same
    refine ⟨Or.inl answered, faults.imp_left fun calm => ?_, by simp [calls, Deed.call?]⟩
    exact congrArg List.tail calm

/-- A run ends as the program ensures, and makes no call that is not allowed. -/
theorem result_of_ensures {p : Program α} {Q : α → Simulation → Prop} {t u : Trial} {a : α}
    (ensures : p.Ensures (Simulation.behaviour unreliable allowed) t.simulation Q)
    (faults : t.refusals = [] ∨ unreliable) (result : run p t = some (a, u)) :
    Q a u.simulation ∧ ∀ c ∈ u.calls, c ∈ t.calls ∨ allowed c := by
  induction p generalizing t with
  | done x =>
    obtain ⟨rfl, rfl⟩ : x = a ∧ t = u := by simpa using result
    exact ⟨ensures, fun c hc => Or.inl hc⟩
  | ask c next ih =>
    rw [run_ask, Option.bind_eq_some_iff] at result
    obtain ⟨⟨answer, v⟩, answered, rest⟩ := result
    obtain ⟨given, faults', made⟩ := answers_of_answer? allowed faults answered
    obtain ⟨accepted, within⟩ := ih answer (ensures.2 answer v.simulation given) faults' rest
    refine ⟨accepted, fun d hd => ?_⟩
    rcases within d hd with earlier | ok
    · rw [made, List.mem_append, List.mem_singleton] at earlier
      rcases earlier with earlier | rfl
      · exact Or.inl earlier
      · exact Or.inr ensures.1
    · exact Or.inr ok
  | note e next ih =>
    have within := ih (t := { t with deeds := t.deeds ++ [.reported e] }) ensures faults result
    rw [calls_reported] at within
    exact within

/-- Whether an index is left each time that a program creates an interface in a trial. -/
def hasRoom : Program α → Trial → Bool
  | .done _, _ => true
  | .ask c next, t =>
    t.simulation.hasRoom c &&
      match answer? c t with
      | some (answer, u) => hasRoom (next answer) u
      | none => true
  | .note e next, t => hasRoom next { t with deeds := t.deeds ++ [.reported e] }

/-- A call is answered in a trial if an index is left for what it creates. -/
theorem isSome_answer? {c : Call} {t : Trial} (room : t.simulation.hasRoom c = true) :
    ∃ answer u, answer? c t = some (answer, u) := by
  unfold answer?
  split
  · exact ⟨_, _, rfl⟩
  · obtain ⟨⟨answer, s⟩, answered⟩ :=
      Option.isSome_iff_exists.mp (Simulation.isSome_answer? room)
    rw [answered]
    exact ⟨answer, _, rfl⟩

/-- A run has a result if indexes do not run out. -/
theorem exists_run_of_hasRoom {p : Program α} {t : Trial} (room : hasRoom p t = true) :
    ∃ a u, run p t = some (a, u) := by
  induction p generalizing t with
  | done x => exact ⟨x, t, rfl⟩
  | ask c next ih =>
    rw [hasRoom, Bool.and_eq_true] at room
    obtain ⟨answer, u, answered⟩ := isSome_answer? room.1
    rw [answered] at room
    rw [run_ask, answered]
    exact ih answer room.2
  | note e next ih => exact ih room

/-- Indexes do not run out if no interface is created. -/
theorem hasRoom_of_ensures {p : Program α} {Q : α → Simulation → Prop} {t : Trial}
    (ensures : p.Ensures (Simulation.behaviour unreliable allowed) t.simulation Q)
    (faults : t.refusals = [] ∨ unreliable)
    (noCreation : ∀ i, ¬ allowed (.interface (.configure i))) : hasRoom p t = true := by
  induction p generalizing t with
  | done x => rfl
  | ask c next ih =>
    have room : t.simulation.hasRoom c = true := by
      unfold Simulation.hasRoom
      split
      · next i => exact absurd ensures.1 (noCreation i)
      · rfl
    obtain ⟨answer, u, answered⟩ := isSome_answer? room
    obtain ⟨given, faults', -⟩ := answers_of_answer? allowed faults answered
    rw [hasRoom, answered, Bool.and_eq_true]
    exact ⟨room, ih answer (ensures.2 answer u.simulation given) faults'⟩
  | note e next ih => exact ih (t := { t with deeds := t.deeds ++ [.reported e] }) ensures faults

/-- Where no call is refused, a program that creates no interface has a run, which ends as it
ensures. -/
theorem exists_run_of_faultless {p : Program α} {Q : α → Simulation → Prop} {t : Trial}
    (ensures : p.Ensures (Simulation.behaviour False allowed) t.simulation Q)
    (faultless : t.refusals = []) (noCreation : ∀ i, ¬ allowed (.interface (.configure i))) :
    ∃ a u, run p t = some (a, u) ∧ Q a u.simulation ∧ ∀ c ∈ u.calls, c ∈ t.calls ∨ allowed c := by
  have room : hasRoom p t = true := hasRoom_of_ensures ensures (Or.inl faultless) noCreation
  obtain ⟨a, u, result⟩ := exists_run_of_hasRoom room
  exact ⟨a, u, result, result_of_ensures ensures (Or.inl faultless) result⟩

/-- So it has one where nothing has been done yet. -/
theorem exists_run_of_ensures {p : Program α} {Q : α → Simulation → Prop} {s : Simulation}
    (ensures : p.Ensures (Simulation.behaviour False allowed) s Q)
    (noCreation : ∀ i, ¬ allowed (.interface (.configure i))) :
    ∃ a u, run p { simulation := s } = some (a, u) ∧ Q a u.simulation ∧
      ∀ c ∈ u.calls, allowed c := by
  obtain ⟨a, u, result, reached, within⟩ :=
    exists_run_of_faultless (t := { simulation := s }) ensures rfl noCreation
  exact ⟨a, u, result, reached, fun c made => (within c made).resolve_left List.not_mem_nil⟩

/-- A dump of a dataplane that refuses nothing gives what it shows, and leaves it as it is. -/
theorem run_dump_bind {ε ρ : Type} {c : Call} {failure : String → ε} {f : c.Reply → Pass ρ ε α}
    {r : ρ} {s : Simulation} {reply : c.Reply} (reads : c.isDump = true)
    (performed : s.perform c = (.ok reply, s)) (calm : s.failing = []) :
    run ((Pass.dump c failure >>= f) r) { simulation := s } =
      run (f reply r) { simulation := s, deeds := [.called c (.ok reply)] } := by
  have granted : s.fails c.operation = false := by simp [Simulation.fails, calm]
  have unrecorded : s.recorded c = s.operations := if_pos reads
  have answered : s.answer? c = some (.ok reply, s) := by
    unfold Simulation.answer?
    rw [if_neg (by rw [granted]; exact Bool.false_ne_true), performed]
    dsimp only
    rw [unrecorded]
  show run (.ask c _) { simulation := s } = _
  rw [run_ask]
  unfold answer?
  dsimp only
  rw [answered]
  rfl

/-- Whether a pass comes to its end in a trial. -/
def succeeds {ε ρ : Type} (p : Program (Except ε α × ρ)) (t : Trial) : Bool :=
  (run p t).any fun x => x.1.1.isOk

theorem exists_of_succeeds {ε ρ : Type} {p : Program (Except ε α × ρ)} {t : Trial}
    (h : succeeds p t = true) : ∃ a r u, run p t = some ((.ok a, r), u) := by
  unfold succeeds at h
  generalize run p t = result at h ⊢
  obtain ⟨⟨⟨end_, r⟩, u⟩, rfl, ends⟩ := (Option.any_eq_true _ _).mp h
  cases end_ with
  | ok a => exact ⟨a, r, u, rfl⟩
  | error e => contradiction

/-- Whether a pass comes to its end in a trial, in a run that passes a check. -/
def succeedsWith {ε ρ : Type} (p : Program (Except ε α × ρ)) (t : Trial)
    (check : ρ → Trial → Bool) : Bool :=
  (run p t).any fun x => x.1.1.isOk && check x.1.2 x.2

theorem exists_of_succeedsWith {ε ρ : Type} {p : Program (Except ε α × ρ)} {t : Trial}
    {check : ρ → Trial → Bool} (h : succeedsWith p t check = true) :
    ∃ a r u, run p t = some ((.ok a, r), u) ∧ check r u = true := by
  obtain ⟨⟨⟨end_, r⟩, u⟩, result, h⟩ := (Option.any_eq_true _ _).mp h
  obtain ⟨ends, checked⟩ := (Bool.and_eq_true _ _).mp h
  cases end_ with
  | ok a => exact ⟨a, r, u, result, checked⟩
  | error e => exact absurd ends Bool.false_ne_true

/-- Whether a pass fails in a trial, in a run that passes a check. -/
def failsWith {ε ρ : Type} (p : Program (Except ε α × ρ)) (t : Trial)
    (check : ρ → Trial → Bool) : Bool :=
  (run p t).any fun x => !x.1.1.isOk && check x.1.2 x.2

theorem exists_of_failsWith {ε ρ : Type} {p : Program (Except ε α × ρ)} {t : Trial}
    {check : ρ → Trial → Bool} (h : failsWith p t check = true) :
    ∃ e r u, run p t = some ((.error e, r), u) ∧ check r u = true := by
  obtain ⟨⟨⟨end_, r⟩, u⟩, result, h⟩ := (Option.any_eq_true _ _).mp h
  obtain ⟨fails, checked⟩ := (Bool.and_eq_true _ _).mp h
  cases end_ with
  | ok a => exact absurd fails Bool.false_ne_true
  | error e => exact ⟨e, r, u, result, checked⟩

/-- Whether a pass comes to its end on the dataplane of a snapshot, in a run that passes a
check. -/
def succeedsOn {ε ρ : Type} (snapshot : Snapshot) (p : Program (Except ε α × ρ))
    (check : Simulation → ρ → Trial → Bool) : Bool :=
  (Simulation.ofSnapshot? snapshot).any fun s =>
    (run p { simulation := s }).any fun x => x.1.1.isOk && check s x.1.2 x.2

theorem exists_of_succeedsOn {ε ρ : Type} {snapshot : Snapshot} {p : Program (Except ε α × ρ)}
    {check : Simulation → ρ → Trial → Bool} (h : succeedsOn snapshot p check = true) :
    ∃ s a r u, Simulation.ofSnapshot? snapshot = some s ∧
      run p { simulation := s } = some ((.ok a, r), u) ∧ check s r u = true := by
  obtain ⟨s, start, h⟩ := (Option.any_eq_true _ _).mp h
  obtain ⟨a, r, u, result, checked⟩ := exists_of_succeedsWith h
  exact ⟨s, a, r, u, start, result, checked⟩

end Trial

/-! ### Its parts -/

namespace Simulation

/-- The whole dataplane answers a call as the part does that it works on. -/
theorem gives_of_answers {σ : Type} (get : Simulation → σ) (put : σ → Simulation)
    {s t : Simulation} {c : Call} {outcome : Except Obstacle c.Reply × σ} {answer : Answer c}
    (performed : s.perform c = outcome.map id put)
    (stored : ∀ x operations, get { put x with operations := operations } = x)
    (kept : ∀ x, (put x).failing = s.failing) (faults : s.failing = [] ∨ unreliable)
    (h : (behaviour unreliable allowed).answers s c answer t) :
    Effect.Gives unreliable (get s) outcome answer (get t) ∧ t.failing = s.failing := by
  rcases h with answered | ⟨faulty, rfl, reason, rfl⟩
  · unfold answer? at answered
    split at answered
    · next fails =>
      have faulty : unreliable := by
        refine faults.resolve_left fun calm => ?_
        simp [Simulation.fails, calm] at fails
      obtain ⟨rfl, rfl⟩ := Prod.mk.inj (Option.some.inj answered)
      exact ⟨.failed _ _ faulty, rfl⟩
    · rw [performed] at answered
      match outcome with
      | (.ok reply, x) =>
        obtain ⟨rfl, rfl⟩ := Prod.mk.inj (Option.some.inj answered)
        rw [stored]
        exact ⟨.done reply x, kept x⟩
      | (.error (.refused reason), x) =>
        obtain ⟨rfl, rfl⟩ := Prod.mk.inj (Option.some.inj answered)
        rw [show get (put x) = x from stored x (put x).operations]
        exact ⟨.refused reason x, kept x⟩
  · exact ⟨.failed _ _ faulty, rfl⟩

/-- What is ensured of a part is ensured of the whole dataplane, if the part may give each answer
that the whole gives. -/
theorem ensures_of_part {σ : Type} {b : Behaviour σ} (part : Simulation → σ) {p : Program α}
    {Q : α → σ → Prop} {s : Simulation} (h : p.Ensures b (part s) Q)
    (faults : s.failing = [] ∨ unreliable) (expects : ∀ x c, b.expects x c → allowed c)
    (answers : ∀ s c answer t, b.expects (part s) c → (s.failing = [] ∨ unreliable) →
      (behaviour unreliable allowed).answers s c answer t →
      b.answers (part s) c answer (part t) ∧ t.failing = s.failing) :
    p.Ensures (behaviour unreliable allowed) s fun a t => t.failing = s.failing ∧ Q a (part t) := by
  refine (h.transfer (R := fun u x => u.failing = s.failing ∧ part u = x) ⟨rfl, rfl⟩
    (fun _ x c _ expected => expects x c expected) fun u x c answer v mirrored expected given => ?_
    ).mono fun a t ⟨x, mirrored, accepted⟩ => ⟨mirrored.1, mirrored.2 ▸ accepted⟩
  obtain ⟨failing, rfl⟩ := mirrored
  obtain ⟨gives, kept⟩ := answers u c answer v expected (failing ▸ faults) given
  exact ⟨part v, gives, kept.trans failing, rfl⟩

/-- What is ensured of interfaces, sockets and rules is ensured of the dataplane that has them. -/
theorem ensures_of_links {p : Program α} {Q : α → Links → Prop} {s : Simulation}
    (h : p.Ensures (Links.behaviour unreliable allowed) s.links Q)
    (faults : s.failing = [] ∨ unreliable) :
    p.Ensures (behaviour unreliable allowed) s fun a t =>
      t.failing = s.failing ∧ Q a t.links := by
  refine ensures_of_part links h faults (fun _ _ => And.right) fun s c answer t expected faults => ?_
  cases c with
  | interface call =>
    exact gives_of_answers links (fun l => { s with links := l }) rfl (fun _ _ => rfl)
      (fun _ => rfl) faults
  | stn call =>
    exact gives_of_answers links (fun l => { s with links := l }) rfl (fun _ _ => rfl)
      (fun _ => rfl) faults
  | bfd call => exact absurd expected.1 nofun
  | nat call => exact absurd expected.1 nofun

/-- What is ensured of sessions, keys and the echo source is ensured of the dataplane that has
them. -/
theorem ensures_of_detection {p : Program α} {Q : α → Detection → Prop} {s : Simulation}
    (h : p.Ensures (Detection.behaviour unreliable allowed) s.detection Q)
    (faults : s.failing = [] ∨ unreliable) :
    p.Ensures (behaviour unreliable allowed) s fun a t =>
      t.failing = s.failing ∧ Q a t.detection := by
  refine ensures_of_part detection h faults (fun _ _ => And.right)
    fun s c answer t expected faults => ?_
  cases c with
  | bfd call =>
    exact gives_of_answers detection (fun d => { s with detection := d }) rfl (fun _ _ => rfl)
      (fun _ => rfl) faults
  | interface call => exact absurd expected.1 nofun
  | stn call => exact absurd expected.1 nofun
  | nat call => exact absurd expected.1 nofun

/-- What is ensured of global settings and groups is ensured of the dataplane that has them. -/
theorem ensures_of_nat {p : Program α} {Q : α → NatTables → Prop} {s : Simulation}
    (h : p.Ensures (NatTables.behaviour unreliable allowed) s.nat Q)
    (faults : s.failing = [] ∨ unreliable) :
    p.Ensures (behaviour unreliable allowed) s fun a t => t.failing = s.failing ∧ Q a t.nat := by
  refine ensures_of_part nat h faults (fun _ _ => And.right) fun s c answer t expected faults => ?_
  cases c with
  | nat call =>
    exact gives_of_answers nat (fun n => { s with nat := n }) rfl (fun _ _ => rfl)
      (fun _ => rfl) faults
  | interface call => exact absurd expected.1 nofun
  | stn call => exact absurd expected.1 nofun
  | bfd call => exact absurd expected.1 nofun

end Simulation

namespace Trial

/-- Whatever is refused, a pass over interfaces and rules ends in a run as it ensures, well or
not. -/
theorem end_of_links {ε ρ : Type} {p : Pass ρ ε α} {r r' : ρ} {t u : Trial} {end_ : Except ε α}
    {Q : α → ρ → Links → Prop} {E : ε → ρ → Links → Prop}
    (ensures : Pass.Ensures (Links.behaviour True allowed) p r t.simulation.links Q E)
    (result : run (p r) t = some ((end_, r'), u)) :
    u.simulation.failing = t.simulation.failing ∧
      ((∃ a, end_ = .ok a ∧ Q a r' u.simulation.links) ∨
        ∃ e, end_ = .error e ∧ E e r' u.simulation.links) := by
  have whole := Simulation.ensures_of_links ensures (Or.inr trivial)
  obtain ⟨⟨kept, reached⟩, -⟩ := result_of_ensures whole (Or.inr trivial) result
  refine ⟨kept, ?_⟩
  cases end_ with
  | ok a => exact Or.inl ⟨a, rfl, reached⟩
  | error e => exact Or.inr ⟨e, rfl, reached⟩

/-- If it comes to its end, it has brought about what it ensures. -/
theorem result_of_links {ε ρ : Type} {p : Pass ρ ε α} {r r' : ρ} {t u : Trial} {a : α}
    {Q : α → ρ → Links → Prop} {E : ε → ρ → Links → Prop}
    (ensures : Pass.Ensures (Links.behaviour True allowed) p r t.simulation.links Q E)
    (result : run (p r) t = some ((.ok a, r'), u)) : Q a r' u.simulation.links := by
  obtain ⟨-, ⟨b, same, reached⟩ | ⟨e, same, -⟩⟩ := end_of_links ensures result
  · obtain rfl := Except.ok.inj same
    exact reached
  · contradiction

/-- Where no call fails, a pass over interfaces and rules that cannot fail then and creates no
interface comes to its end. -/
theorem exists_run_of_links {ε ρ : Type} {p : Pass ρ ε α} {r : ρ} {s : Simulation}
    {Q : α → ρ → Links → Prop}
    (ensures : Pass.Ensures (Links.behaviour False allowed) p r s.links Q fun _ _ _ => False)
    (calm : s.failing = []) (noCreation : ∀ i, ¬ allowed (.interface (.configure i))) :
    ∃ a r' u, run (p r) { simulation := s } = some ((.ok a, r'), u) ∧ Q a r' u.simulation.links ∧
      ∀ c ∈ u.calls, allowed c := by
  have whole := Simulation.ensures_of_links ensures (Or.inl calm)
  obtain ⟨⟨end_, r'⟩, u, result, ⟨-, reached⟩, within⟩ := exists_run_of_ensures whole noCreation
  cases end_ with
  | ok a => exact ⟨a, r', u, result, reached, within⟩
  | error e => exact reached.elim

/-- So does a pass over sessions and keys that cannot fail then. -/
theorem exists_run_of_detection {ε ρ : Type} {p : Pass ρ ε α} {r : ρ} {t : Trial}
    {Q : α → ρ → Detection → Prop}
    (ensures : Pass.Ensures (Detection.behaviour False (·.part = .detection)) p r
      t.simulation.detection Q fun _ _ _ => False)
    (calm : t.simulation.failing = []) (faultless : t.refusals = []) :
    ∃ a r' u, run (p r) t = some ((.ok a, r'), u) ∧ Q a r' u.simulation.detection ∧
      u.simulation.failing = [] := by
  have whole := Simulation.ensures_of_detection ensures (Or.inl calm)
  obtain ⟨⟨end_, r'⟩, u, result, ⟨kept, reached⟩, -⟩ :=
    exists_run_of_faultless whole faultless fun _ => nofun
  cases end_ with
  | ok a => exact ⟨a, r', u, result, reached, kept.trans calm⟩
  | error e => exact reached.elim

/-- So does a pass over global settings and groups that cannot fail then. -/
theorem exists_run_of_nat {ε ρ : Type} {p : Pass ρ ε α} {r : ρ} {t : Trial}
    {Q : α → ρ → NatTables → Prop}
    (ensures : Pass.Ensures (NatTables.behaviour False (·.part = .nat)) p r
      t.simulation.nat Q fun _ _ _ => False)
    (calm : t.simulation.failing = []) (faultless : t.refusals = []) :
    ∃ a r' u, run (p r) t = some ((.ok a, r'), u) ∧ Q a r' u.simulation.nat ∧
      u.simulation.failing = [] := by
  have whole := Simulation.ensures_of_nat ensures (Or.inl calm)
  obtain ⟨⟨end_, r'⟩, u, result, ⟨kept, reached⟩, -⟩ :=
    exists_run_of_faultless whole faultless fun _ => nofun
  cases end_ with
  | ok a => exact ⟨a, r', u, result, reached, kept.trans calm⟩
  | error e => exact reached.elim

end Trial

end DataplaneSync
