import DataplaneSync.Proofs.DetectionStock

namespace DataplaneSync

/-!
# What becomes of sessions

Three keys meet in a pass over sessions: the endpoints tell which session is which, the interface
is the name under which sessions are registered, and the dataplane finds by the endpoints what it
modifies or removes.

* `BfdSession.endpoints` — the interface and both addresses.
* `BfdReconciler.sessionStock` — the sessions of the simulated dataplane.
* `BfdReconciler.reconcileSessions_converges` — whatever is refused, no wanted session is removed,
  and only what is missing or differs is created or modified; if nothing is refused, the wanted
  sessions are there, and another pass changes nothing.
* `BfdReconciler.reconcileSessions_strays` — which sessions stay that are not wanted.
* `BfdReconciler.reconcileSessions_leaves_stray` — there may be some.
-/

/-- What tells a session from others. -/
structure BfdEndpoints where
  interface : String
  source : String
  destination : String
  deriving DecidableEq

namespace BfdSession

/-- The endpoints of a session. -/
def endpoints (s : BfdSession) : BfdEndpoints := ⟨s.interface, s.source, s.destination⟩

theorem sameEndpoints_eq (s t : BfdSession) :
    s.sameEndpoints t = (s.endpoints == t.endpoints) := by
  rw [Bool.eq_iff_iff, beq_iff_eq]
  simp only [sameEndpoints, endpoints, Bool.and_eq_true, beq_iff_eq, BfdEndpoints.mk.injEq,
    and_assoc]

theorem sameEndpoints_comm (s t : BfdSession) : s.sameEndpoints t = t.sameEndpoints s := by
  rw [sameEndpoints_eq, sameEndpoints_eq, Bool.eq_iff_iff, beq_iff_eq, beq_iff_eq, eq_comm]

theorem differs_self (s : BfdSession) : s.differs s = false := by simp [differs]

/-- A session with the endpoints of another one, from which it does not differ, is that one. -/
theorem eq_of_alike {s t : BfdSession} (same : t.endpoints = s.endpoints)
    (alike : s.differs t = false) : t = s := by
  obtain ⟨_, _, _, _, _, _, _, _⟩ := s
  obtain ⟨_, _, _, _, _, _, _, _⟩ := t
  simp only [endpoints, BfdEndpoints.mk.injEq] at same
  simp only [differs, Bool.or_eq_false_iff, bne_eq_false_iff_eq] at alike
  obtain ⟨rfl, rfl, rfl⟩ := same
  obtain ⟨⟨⟨⟨rfl, rfl⟩, rfl⟩, rfl⟩, rfl⟩ := alike
  rfl

end BfdSession

/-! ### Calls about sessions -/

/-- The session that a call creates. -/
def Call.createdSession? : Call → Option BfdSession
  | bfd (.configureSession s) => some s
  | _ => none

/-- The session that a call modifies, and what it is to become. -/
def Call.modifiedSession? : Call → Option (BfdSession × BfdSession)
  | bfd (.modifySession actual wanted) => some (actual, wanted)
  | _ => none

/-- The session that a call removes. -/
def Call.removedSession? : Call → Option BfdSession
  | bfd (.deleteSession s) => some s
  | _ => none

namespace BfdReconciler

open BfdObjects

variable {actual wanted : List BfdSession}

/-- A pass creates the wanted sessions of which none is there. -/
theorem created_agenda (actual wanted : List BfdSession) (known : BfdSession → Bool) :
    ((sessionObjects.agenda actual wanted known).map Call.bfd).filterMap Call.createdSession? =
      wanted.filter fun w => !actual.any w.sameEndpoints := by
  have removals : (actual.filter (!known ·)).filterMap
      (fun a => Call.createdSession? (.bfd (sessionObjects.delete a))) = [] :=
    List.filterMap_eq_nil_iff.mpr fun _ _ => rfl
  rw [filterMap_agenda, removals, List.append_nil]
  induction wanted with
  | nil => rfl
  | cons w ws ih =>
    rw [List.flatMap_cons, ih, List.filter_cons]
    show (if actual.any w.sameEndpoints then _ else _ : List BfdCall).filterMap _ ++ _ = _
    cases actual.any w.sameEndpoints <;> simp [sessionObjects, Call.createdSession?]

/-- It modifies those that differ from wanted ones. -/
theorem modified_agenda (actual wanted : List BfdSession) (known : BfdSession → Bool) :
    ((sessionObjects.agenda actual wanted known).map Call.bfd).filterMap Call.modifiedSession? =
      wanted.flatMap fun w =>
        (actual.filter fun a => w.sameEndpoints a && w.differs a).map fun a => (a, w) := by
  have removals : (actual.filter (!known ·)).filterMap
      (fun a => Call.modifiedSession? (.bfd (sessionObjects.delete a))) = [] :=
    List.filterMap_eq_nil_iff.mpr fun _ _ => rfl
  rw [filterMap_agenda, removals, List.append_nil]
  refine congrArg (List.flatMap · wanted) (funext fun w => ?_)
  show (if actual.any w.sameEndpoints then _ else _ : List BfdCall).filterMap _ = _
  by_cases found : actual.any w.sameEndpoints = true
  · rw [if_pos found, List.filterMap_map, ← List.filterMap_eq_map]
    rfl
  · have none_ : actual.filter (fun a => w.sameEndpoints a && w.differs a) = [] := by
      refine List.filter_eq_nil_iff.mpr fun a there both => found ?_
      exact List.any_eq_true.mpr ⟨a, there, (Bool.and_eq_true _ _ ▸ both).1⟩
    rw [if_neg found, none_]
    rfl

/-- It removes those that it does not know. -/
theorem removed_agenda (actual wanted : List BfdSession) (known : BfdSession → Bool) :
    ((sessionObjects.agenda actual wanted known).map Call.bfd).filterMap Call.removedSession? =
      actual.filter (!known ·) := by
  rw [filterMap_agenda, List.flatMap_eq_nil_iff.mpr fun w _ => ?_, List.nil_append]
  · exact List.filterMap_some
  · -- neither a modification nor a creation removes anything
    split
    · rw [List.filterMap_map]
      exact List.filterMap_eq_nil_iff.mpr fun _ _ => rfl
    · rfl

/-! ### Sessions of the simulated dataplane -/

/-- A session is found if one of its endpoints is there. -/
theorem onSession_of_mem {d : Detection} {a : BfdSession}
    (there : a.endpoints ∈ d.sessions.map BfdSession.endpoints)
    (change : List BfdSession → List BfdSession) :
    Detection.onSession a change d = (.ok (), { d with sessions := change d.sessions }) := by
  obtain ⟨b, here, same⟩ := List.mem_map.mp there
  have found : (d.sessions.find? (BfdSession.sameEndpoints · a)).isSome := by
    refine List.find?_isSome.mpr ⟨b, here, ?_⟩
    rw [BfdSession.sameEndpoints_eq, same, beq_self_eq_true]
  obtain ⟨c, found⟩ := Option.isSome_iff_exists.mp found
  exact Effect.bind_of_ok (Effect.find_of_some found)

/-- The simulated dataplane finds sessions by their endpoints. -/
def sessionStock :
    sessionObjects.Stock BfdEndpoints .dumpSessions fun actual => .ok actual where
  key := BfdSession.endpoints
  nameOf := BfdEndpoints.interface
  items := Detection.sessions
  store sessions d := { d with sessions := sessions }
  items_store _ _ := rfl
  registryName _ := rfl
  counterpart w a := (w.sameEndpoints_comm a).trans (a.sameEndpoints_eq w)
  differs_self := BfdSession.differs_self
  dump calm := Trial.run_dump_bind rfl rfl calm
  create _ _ := ⟨(), rfl⟩
  change a _ _ there := by
    refine ⟨(), (onSession_of_mem there _).trans ?_⟩
    simp only [BfdSession.sameEndpoints_eq]
    rfl
  delete a _ there := by
    refine ⟨(), (onSession_of_mem there _).trans ?_⟩
    simp only [BfdSession.sameEndpoints_eq]
    rfl

/-! ### Passes over sessions -/

/-- Where no call fails, a pass over sessions comes to its end. -/
theorem exists_run_reconcileSessions (wanted : List BfdSession) {r : BfdReconciler}
    {s : Simulation} (connected : r.connected = true) (calm : s.failing = []) :
    ∃ r' t, Trial.run (reconcileSessions wanted r) { simulation := s } = some ((.ok (), r'), t) ∧
      sessionStock.Completed s.detection.sessions wanted r' t :=
  sessionStock.exists_run regular_sessionObjects told_sessionObjects wanted connected calm

/-- A session that a pass removes has the endpoints of no wanted one: its interface would be
registered. -/
theorem not_sameEndpoints_of_removed {xs : List Exchange} {end_ : Except BfdFailure Unit}
    {t : BfdReconciler} {x : BfdSession} (course : Course sessionObjects actual wanted xs end_ t)
    (removed : x ∈ (xs.map Exchange.call).filterMap Call.removedSession?) :
    x ∈ actual ∧ ∀ w ∈ wanted, w.sameEndpoints x = false := by
  rw [course.calls, removed_agenda] at removed
  obtain ⟨there, unknown⟩ := List.mem_filter.mp removed
  refine ⟨there, fun w member => Bool.eq_false_iff.mpr fun same => ?_⟩
  -- the dump has a counterpart of `w`, so the interface of `w` is registered
  have known := course.kept w member x there same
  have interface : w.interface = x.interface := by
    rw [BfdSession.sameEndpoints_eq, beq_iff_eq] at same
    exact congrArg BfdEndpoints.interface same
  have registered : (sessionObjects.registry t).contains x.interface = true := interface ▸ known
  rw [Bool.not_eq_true'] at unknown
  exact Bool.false_ne_true (unknown.symm.trans registered)

/-- A pass over sessions, whatever the dataplane shows and whatever it refuses, removes no session
that is wanted, creates each wanted session of which none is there, and modifies each that differs
from a wanted one.

If nothing is there twice, nothing is wanted twice and no call fails, each wanted session is then
there once, as it is wanted, and another pass only looks. -/
theorem reconcileSessions_converges (wanted : List BfdSession) :
    (∀ {r t : BfdReconciler} {ds : List Deed} {end_ : Except BfdFailure Unit},
      r.connected = true → Program.Trace (reconcileSessions wanted r) ds (end_, t) →
      (∃ reason, exchanges ds = [⟨.bfd .dumpSessions, .error reason⟩]) ∨
      ∃ actual xs, exchanges ds = ⟨.bfd .dumpSessions, .ok actual⟩ :: xs ∧
        (xs.map Exchange.call).filterMap Call.createdSession? =
          wanted.filter (fun w => !actual.any w.sameEndpoints) ∧
        (xs.map Exchange.call).filterMap Call.modifiedSession? =
          wanted.flatMap (fun w =>
            (actual.filter fun a => w.sameEndpoints a && w.differs a).map fun a => (a, w)) ∧
        ∀ x ∈ (xs.map Exchange.call).filterMap Call.removedSession?,
          x ∈ actual ∧ ∀ w ∈ wanted, w.sameEndpoints x = false) ∧
    ∀ {r : BfdReconciler} {s : Simulation}, r.connected = true → s.failing = [] →
      (s.detection.sessions.map BfdSession.endpoints).Nodup →
      (wanted.map BfdSession.endpoints).Nodup →
      ∃ r₁ t₁, Trial.run (reconcileSessions wanted r) { simulation := s } =
          some ((.ok (), r₁), t₁) ∧
        (∀ w ∈ wanted, t₁.simulation.detection.sessions.filter w.sameEndpoints = [w]) ∧
        r₁.connected = true ∧
        ∀ r₂ : BfdReconciler, r₂.connected = true →
          ∃ r₃ t₂, Trial.run (reconcileSessions wanted r₂) { simulation := t₁.simulation } =
              some ((.ok (), r₃), t₂) ∧
            t₂.calls = [.bfd .dumpSessions] := by
  refine ⟨fun {r t ds end_} connected trace => ?_,
    fun {r s} connected calm there wants => ?_⟩
  · rcases regular_sessionObjects.course_of_trace connected trace with
      ⟨reason, refused, -⟩ | ⟨actual, xs, made, course⟩
    · exact Or.inl ⟨reason, refused⟩
    · refine Or.inr ⟨actual, xs, made, ?_, ?_, fun x => not_sameEndpoints_of_removed course⟩
      · rw [course.calls, created_agenda]
      · rw [course.calls, modified_agenda]
  · obtain ⟨r₁, t₁, first, done⟩ := exists_run_reconcileSessions wanted connected calm
    refine ⟨r₁, t₁, first, fun w member => ?_, done.connected, fun r₂ connected₂ => ?_⟩
    · -- the one session with its endpoints does not differ from it, so it is that session
      obtain ⟨y, alike, only⟩ := sessionStock.exists_filter_settled there wants member
      rw [← sessionStock.filter_reached member, ← done.items] at only
      have found : y ∈ t₁.simulation.detection.sessions.filter
          (fun x => x.endpoints == w.endpoints) :=
        List.mem_of_mem_head? (congrArg List.head? only)
      have same : y.endpoints = w.endpoints := beq_iff_eq.mp (List.mem_filter.mp found).2
      obtain rfl := BfdSession.eq_of_alike same alike
      refine (List.filter_congr fun x _ => ?_).trans only
      exact (y.sameEndpoints_comm x).trans (x.sameEndpoints_eq y)
    · obtain ⟨r₃, t₂, second, still⟩ := exists_run_reconcileSessions wanted connected₂ done.calm
      have items : t₁.simulation.detection.sessions =
          sessionStock.reached s.detection.sessions wanted := done.items
      refine ⟨r₃, t₂, second, still.calls.trans ?_⟩
      rw [items, sessionStock.agenda_reached there wants]
      rfl

/-- Sessions as they are there and as they are wanted: one is missing, one differs, one is wanted by
nobody, and one is a stray on an interface that is wanted. -/
def ringDumped : List BfdSession :=
  [{ interface := "east", source := "10.0.0.1", destination := "10.0.0.2" },
    { interface := "east", source := "10.0.0.1", destination := "10.0.0.9" },
    { interface := "north", source := "10.0.3.1", destination := "10.0.3.2" }]

/-- The sessions that are wanted there. -/
def ringSessions : List BfdSession :=
  [{ interface := "east", source := "10.0.0.1", destination := "10.0.0.2", detectMultiplier := 5 },
    { interface := "west", source := "10.0.1.1", destination := "10.0.1.2" }]

/-- A dataplane with these sessions. -/
def ring : Simulation := { detection := { sessions := ringDumped } }

/-- If the modification is refused, the missing session is created all the same; if nothing is
refused, both wanted sessions are there, and another pass only looks. -/
theorem reconcileSessions_converges_ring :
    (∃ e r ds actual xs, Program.Trace (reconcileSessions ringSessions {}) ds (.error e, r) ∧
      exchanges ds = ⟨.bfd .dumpSessions, .ok actual⟩ :: xs ∧
      (xs.map Exchange.call).filterMap Call.createdSession? =
        ringSessions.filter (fun w => !actual.any w.sameEndpoints) ∧
      ∀ x ∈ (xs.map Exchange.call).filterMap Call.removedSession?,
        x ∈ actual ∧ ∀ w ∈ ringSessions, w.sameEndpoints x = false) ∧
    ∃ r₁ t₁ r₂ t₂, Trial.run (reconcileSessions ringSessions {}) { simulation := ring } =
        some ((.ok (), r₁), t₁) ∧
      (∀ w ∈ ringSessions, t₁.simulation.detection.sessions.filter w.sameEndpoints = [w]) ∧
      Trial.run (reconcileSessions ringSessions r₁) { simulation := t₁.simulation } =
        some ((.ok (), r₂), t₂) ∧
      t₂.calls = [.bfd .dumpSessions] := by
  obtain ⟨traces, runs⟩ := reconcileSessions_converges ringSessions
  constructor
  · have fails : Trial.failsWith (reconcileSessions ringSessions {})
        { simulation := ring, refusals := [none, some "busy"] }
        (fun _ t => (exchanges t.deeds).length == 4) = true := by
      decide +kernel
    obtain ⟨e, r, ds, trace, length⟩ :=
      Trial.trace_of_failsWith (fun xs => xs.length == 4) rfl fails
    rcases traces rfl trace with ⟨reason, only⟩ | ⟨actual, xs, asked, created, -, removed⟩
    · rw [only] at length
      exact nomatch length
    · exact ⟨e, r, _, actual, xs, trace, asked, created, removed⟩
  · obtain ⟨r₁, t₁, first, there, connected, again⟩ :=
      runs (r := {}) (s := ring) rfl rfl (by decide) (by decide)
    obtain ⟨r₂, t₂, second, quiet⟩ := again r₁ connected
    exact ⟨r₁, t₁, r₂, t₂, first, there, second, quiet⟩

/-- After a pass that nothing disturbed, each session has the endpoints of a wanted one, except
that those stay which were there before on an interface that some wanted session has: sessions are
removed by their interfaces. -/
theorem reconcileSessions_strays (wanted : List BfdSession) {r : BfdReconciler} {s : Simulation}
    (connected : r.connected = true) (calm : s.failing = []) :
    ∃ r' t, Trial.run (reconcileSessions wanted r) { simulation := s } = some ((.ok (), r'), t) ∧
      ∀ x, (∀ w ∈ wanted, w.sameEndpoints x = false) →
        (x ∈ t.simulation.detection.sessions ↔
          x ∈ s.detection.sessions ∧ ∃ w ∈ wanted, w.interface = x.interface) := by
  obtain ⟨r', t, result, done⟩ := exists_run_reconcileSessions wanted connected calm
  refine ⟨r', t, result, fun x unwanted => ?_⟩
  have items : t.simulation.detection.sessions =
      (sessionStock.settled s.detection.sessions wanted).filter (sessionObjects.claimed wanted) :=
    done.items
  -- the jobs leave the sessions with the endpoints of `x` as they were
  have untouched : (sessionStock.settled s.detection.sessions wanted).filter
      (fun y => y.endpoints == x.endpoints) =
        s.detection.sessions.filter fun y => y.endpoints == x.endpoints := by
    refine Stock.filter_settled_of_unwanted (k := sessionStock) (p := (· == x.endpoints))
      fun w member => ?_
    exact (w.sameEndpoints_eq x).symm.trans (unwanted w member)
  have settled : x ∈ sessionStock.settled s.detection.sessions wanted ↔
      x ∈ s.detection.sessions := by
    have same : (x ∈ _) = (x ∈ _) := congrArg (x ∈ ·) untouched
    simp only [List.mem_filter, beq_self_eq_true, and_true] at same
    exact Iff.of_eq same
  rw [items, List.mem_filter, settled, claimed, List.any_eq_true]
  simp only [beq_iff_eq]
  rfl

/-- The stray on the wanted interface stays, the one on the other interface goes. -/
theorem reconcileSessions_strays_ring :
    ∃ r t, Trial.run (reconcileSessions ringSessions {}) { simulation := ring } =
        some ((.ok (), r), t) ∧
      ringDumped[1] ∈ t.simulation.detection.sessions ∧
      ringDumped[2] ∉ t.simulation.detection.sessions := by
  obtain ⟨r, t, result, strays⟩ :=
    reconcileSessions_strays ringSessions (r := {}) (s := ring) rfl rfl
  refine ⟨r, t, result, (strays _ (by decide)).mpr ⟨by decide, ?_⟩, fun stays => ?_⟩
  · exact ⟨ringSessions[0], by decide, rfl⟩
  · obtain ⟨-, w, member, same⟩ := (strays _ (by decide)).mp stays
    revert w
    decide

/-- So a session may be there after a pass that nothing disturbed although no wanted one has its
endpoints. -/
theorem reconcileSessions_leaves_stray :
    ∃ s r t, Simulation.ofSnapshot? { sessions := ringDumped } = some s ∧
      Trial.run (reconcileSessions ringSessions {}) { simulation := s } = some ((.ok (), r), t) ∧
      ∃ x ∈ t.simulation.detection.sessions, ∀ w ∈ ringSessions, w.sameEndpoints x = false := by
  have goes : Trial.succeedsOn { sessions := ringDumped } (reconcileSessions ringSessions {})
      (fun _ _ t => t.simulation.detection.sessions.any fun x =>
        ringSessions.all (!·.sameEndpoints x)) = true := by
    decide +kernel
  obtain ⟨s, ⟨⟩, r, t, start, result, left⟩ := Trial.exists_of_succeedsOn goes
  obtain ⟨x, stays, apart⟩ := List.any_eq_true.mp left
  refine ⟨s, r, t, start, result, x, stays, fun w member => ?_⟩
  exact (Bool.not_eq_true' _).mp (List.all_eq_true.mp apart w member)

end BfdReconciler

end DataplaneSync
