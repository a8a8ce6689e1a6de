import DataplaneSync.Proofs.InterfaceSteps
import DataplaneSync.Proofs.Trial

namespace DataplaneSync

/-!
# Calls are atomic

A call to the simulated dataplane is carried out as a whole or has no effect, and what it changes is
its own.  That its steps have changed nothing where they are stopped is `Simulation.atomic_perform`;
here it is what an answer says of the state.

* `Holding` — what the dataplane holds, by the families whose calls change it.
* `Simulation.Agree` — two states are the same as far as one holding goes.
* `Simulation.cases_of_answer?` — an answer is a refusal without effect, or a call carried out.
* `Simulation.Changed` — what a call that is no dump does to the state.
* `Simulation.calls_atomic` — every call, whatever the state and whatever is set to fail.
-/

/-! ### Holdings -/

/-- What the calls on some families change, apart from the other ones. -/
inductive Holding where
  /-- The interfaces, the index of the next one and the ids of memif sockets. -/
  | interfaces
  | rules
  | sessions
  | keys
  | echo
  | natGlobal
  | destinations
  deriving DecidableEq

/-- What calls on a family change. -/
def Family.holding : Family → Holding
  | .interface => .interfaces
  | .bfdSession => .sessions
  | .bfdKey => .keys
  | .bfdEcho => .echo
  | .stnRule => .rules
  | .natGlobal => .natGlobal
  | .staticMapping => .destinations
  | .balancedMapping => .destinations
  | .identityMapping => .destinations
  | .destinationNat => .destinations

/-- Mappings of every kind are in the groups. -/
theorem Mapping.holding_family (m : Mapping) : m.family.holding = .destinations := by
  cases m <;> rfl

/-- Two states of a dataplane are the same as far as one holding goes. -/
def Simulation.Agree (s t : Simulation) : Holding → Prop
  | .interfaces => t.links.interfaces = s.links.interfaces ∧
      t.links.nextIndex = s.links.nextIndex ∧ t.links.sockets = s.links.sockets
  | .rules => t.links.rules = s.links.rules
  | .sessions => t.detection.sessions = s.detection.sessions
  | .keys => t.detection.keys = s.detection.keys
  | .echo => t.detection.echo = s.detection.echo
  | .natGlobal => t.nat.global = s.nat.global
  | .destinations => t.nat.destinations = s.nat.destinations

/-! ### Calls on one part -/

section

variable {l l' : Links} {d d' : Detection} {n n' : NatTables}

theorem InterfaceCall.eq_of_dump {c : InterfaceCall} {reply : c.Reply}
    (dump : c.operation.kind = .dump) (carried : c.perform l = (.ok reply, l')) : l' = l := by
  cases c with
  | dump => exact (Prod.mk.inj carried).2.symm
  | dumpSockets => exact (Prod.mk.inj carried).2.symm
  | _ => contradiction

/-- A removal takes the rules on the interface along. -/
theorem InterfaceCall.rules_of_delete {actual : Interface} {index : UInt32}
    {reply : (delete actual index).Reply}
    (carried : (delete actual index).perform l = (.ok reply, l')) :
    l'.rules = l.rules.filter (·.index != index) := by
  obtain ⟨e, present⟩ := present_of_perform rfl carried
  rw [perform_delete present] at carried
  obtain ⟨-, rfl⟩ := Prod.mk.inj carried
  rfl

/-- No other call about interfaces touches the rules. -/
theorem InterfaceCall.rules_of_perform {c : InterfaceCall} {reply : c.Reply}
    (stays : ∀ actual index, c ≠ delete actual index) (carried : c.perform l = (.ok reply, l')) :
    l'.rules = l.rules := by
  obtain rfl | ⟨e, index, i, -, -, rfl⟩ | ⟨i, -, -, rfl⟩ | ⟨-, actual, index, -, rfl, -⟩ :=
    cases_of_perform carried
  · rfl
  · rfl
  · rfl
  · exact absurd rfl (stays actual index)

theorem StnCall.eq_of_dump {c : StnCall} {reply : c.Reply} (dump : c.operation.kind = .dump)
    (carried : c.perform l = (.ok reply, l')) : l' = l := by
  cases c with
  | dump => exact (Prod.mk.inj carried).2.symm
  | _ => contradiction

/-- A change of the sessions that is not refused changes nothing else. -/
theorem Detection.eq_of_onSession {actual : BfdSession}
    {change : List BfdSession → List BfdSession} {reply : Unit}
    (carried : onSession actual change d = (.ok reply, d')) :
    d' = { d with sessions := change d.sessions } := by
  obtain ⟨x, -, changed⟩ := Effect.found_of_find_bind carried
  exact (Prod.mk.inj changed).2.symm

/-- A change of the keys that is not refused changes nothing else. -/
theorem Detection.eq_of_onKey {actual : BfdKey} {change : List BfdKey → List BfdKey}
    {reply : Unit} (carried : onKey actual change d = (.ok reply, d')) :
    d' = { d with keys := change d.keys } := by
  obtain ⟨k, -, changed⟩ := Effect.found_of_find_bind carried
  exact (Prod.mk.inj changed).2.symm

theorem BfdCall.eq_of_dump {c : BfdCall} {reply : c.Reply} (dump : c.operation.kind = .dump)
    (carried : c.perform d = (.ok reply, d')) : d' = d := by
  cases c with
  | dumpSessions => exact (Prod.mk.inj carried).2.symm
  | dumpKeys => exact (Prod.mk.inj carried).2.symm
  | _ => contradiction

/-- Calls about forwarding detection change sessions, keys or the echo source, each on its own. -/
theorem BfdCall.frame {c : BfdCall} {reply : c.Reply} (carried : c.perform d = (.ok reply, d')) :
    (c.operation.family.holding ≠ .sessions → d'.sessions = d.sessions) ∧
      (c.operation.family.holding ≠ .keys → d'.keys = d.keys) ∧
      (c.operation.family.holding ≠ .echo → d'.echo = d.echo) := by
  cases c with
  | modifySession actual wanted =>
    obtain rfl := Detection.eq_of_onSession carried
    simp [operation, Family.holding]
  | deleteSession actual =>
    obtain rfl := Detection.eq_of_onSession carried
    simp [operation, Family.holding]
  | modifyKey actual wanted =>
    obtain rfl := Detection.eq_of_onKey carried
    simp [operation, Family.holding]
  | deleteKey actual =>
    obtain rfl := Detection.eq_of_onKey carried
    simp [operation, Family.holding]
  | _ =>
    -- the other calls are never refused
    obtain ⟨-, rfl⟩ := Prod.mk.inj carried
    simp [operation, Family.holding]

theorem NatCall.eq_of_dump {c : NatCall} {reply : c.Reply} (dump : c.operation.kind = .dump)
    (carried : c.perform n = (.ok reply, n')) : n' = n := by
  cases c with
  | dumpGlobal => exact (Prod.mk.inj carried).2.symm
  | dumpDestinations => exact (Prod.mk.inj carried).2.symm
  | _ => contradiction

/-- Calls about NAT change the global settings or the groups of mappings, each on its own. -/
theorem NatCall.frame {c : NatCall} {reply : c.Reply} (carried : c.perform n = (.ok reply, n')) :
    (c.operation.family.holding ≠ .natGlobal → n'.global = n.global) ∧
      (c.operation.family.holding ≠ .destinations → n'.destinations = n.destinations) := by
  cases c with
  | addMapping label m =>
    obtain ⟨-, rfl⟩ := Prod.mk.inj carried
    exact ⟨fun _ => rfl, fun other => absurd m.holding_family other⟩
  | deleteMapping label m =>
    obtain ⟨-, rfl⟩ := Prod.mk.inj carried
    exact ⟨fun _ => rfl, fun other => absurd m.holding_family other⟩
  | _ =>
    obtain ⟨-, rfl⟩ := Prod.mk.inj carried
    simp [operation, Family.holding, NatTables.onGlobal]

end

/-! ### Calls on the whole -/

namespace Simulation

variable {s t u : Simulation} {c : Call}

/-- A dump that is carried out changes nothing. -/
theorem eq_of_perform_dump {reply : c.Reply} (dump : c.operation.kind = .dump)
    (carried : s.perform c = (.ok reply, u)) : u = s := by
  cases c with
  | interface call =>
    obtain ⟨l, performed, rfl⟩ := exists_of_interface carried
    rw [call.eq_of_dump dump performed]
  | stn call =>
    obtain ⟨l, performed, rfl⟩ := exists_of_stn carried
    rw [call.eq_of_dump dump performed]
  | bfd call =>
    obtain ⟨d, performed, rfl⟩ := exists_of_bfd carried
    rw [call.eq_of_dump dump performed]
  | nat call =>
    obtain ⟨n, performed, rfl⟩ := exists_of_nat carried
    rw [call.eq_of_dump dump performed]

/-- A call that is carried out leaves all holdings alone but its own, and a removal of an interface
those but the interfaces and the rules. -/
theorem agree_of_perform {reply : c.Reply} (carried : s.perform c = (.ok reply, u)) (h : Holding)
    (other : h ≠ c.operation.family.holding)
    (kept : ∀ actual index, c = .interface (.delete actual index) → h ≠ .rules) : s.Agree u h := by
  -- a call is about one part, so all holdings outside of that part agree by definition
  cases c with
  | interface call =>
    obtain ⟨l, performed, rfl⟩ := exists_of_interface carried
    cases h with
    | interfaces => exact absurd (by cases call <;> rfl) other
    | rules =>
      refine InterfaceCall.rules_of_perform (fun actual index same => ?_) performed
      exact kept actual index (congrArg Call.interface same) rfl
    | _ => rfl
  | stn call =>
    obtain ⟨l, performed, rfl⟩ := exists_of_stn carried
    obtain ⟨rules, rfl⟩ := call.exists_rules_of_perform performed
    cases h with
    | rules => exact absurd (by cases call <;> rfl) other
    | interfaces => exact ⟨rfl, rfl, rfl⟩
    | _ => rfl
  | bfd call =>
    obtain ⟨d, performed, rfl⟩ := exists_of_bfd carried
    obtain ⟨sessions, keys, echo⟩ := call.frame performed
    cases h with
    | sessions => exact sessions other.symm
    | keys => exact keys other.symm
    | echo => exact echo other.symm
    | interfaces => exact ⟨rfl, rfl, rfl⟩
    | _ => rfl
  | nat call =>
    obtain ⟨n, performed, rfl⟩ := exists_of_nat carried
    obtain ⟨global, destinations⟩ := call.frame performed
    cases h with
    | natGlobal => exact global other.symm
    | destinations => exact destinations other.symm
    | interfaces => exact ⟨rfl, rfl, rfl⟩
    | _ => rfl

/-- The operations are not changed while a call is carried out. -/
theorem recorded_perform (s : Simulation) (c : Call) :
    (s.perform c).2.recorded c = s.recorded c := by
  cases c <;> rfl

/-- Which calls are set to fail is not changed by a call. -/
theorem failing_perform (s : Simulation) (c : Call) : (s.perform c).2.failing = s.failing := by
  cases c <;> rfl

/-! ### Answers -/

/-- A call that is answered is refused without effect, or it is carried out and recorded. -/
theorem cases_of_answer? {answer : Answer c} (answered : s.answer? c = some (answer, t)) :
    (∃ reason, answer = .error reason ∧ t = s) ∨
      ∃ reply u, answer = .ok reply ∧ s.perform c = (.ok reply, u) ∧
        t = { u with operations := s.recorded c } := by
  have unrecorded := recorded_perform s c
  unfold answer? at answered
  split at answered
  · obtain ⟨rfl, rfl⟩ := Prod.mk.inj (Option.some.inj answered)
    exact Or.inl ⟨_, rfl, rfl⟩
  · split at answered
    · next reply u carried =>
      obtain ⟨rfl, rfl⟩ := Prod.mk.inj (Option.some.inj answered)
      rw [carried] at unrecorded
      exact Or.inr ⟨reply, u, rfl, carried, by rw [unrecorded]⟩
    · next reason u stopped =>
      -- the state is what the steps have left, and they have left it alone
      obtain ⟨rfl, rfl⟩ := Prod.mk.inj (Option.some.inj answered)
      exact Or.inl ⟨reason, rfl, (atomic_perform stopped).1⟩
    · contradiction

/-- A refusal changes nothing. -/
theorem eq_of_answer?_error {reason : String} (answered : s.answer? c = some (.error reason, t)) :
    t = s := by
  obtain ⟨-, -, rfl⟩ | ⟨reply, -, never, -⟩ := cases_of_answer? answered
  · rfl
  · contradiction

/-- A call is left without an answer only if it creates an interface for which there is no index
any more, and is not set to fail. -/
theorem answer?_eq_none_iff : s.answer? c = none ↔
    s.fails c.operation = false ∧
      ∃ i, c = .interface (.configure i) ∧ UInt32.size ≤ s.links.nextIndex.toNat + 1 := by
  constructor
  · intro unanswered
    have full : s.hasRoom c = false := by
      cases room : s.hasRoom c with
      | false => rfl
      | true => simpa [unanswered] using isSome_answer? room
    have passes : s.fails c.operation = false := by
      cases fails : s.fails c.operation with
      | false => rfl
      | true => simp [answer?, fails] at unanswered
    unfold hasRoom at full
    split at full
    · next i => exact ⟨passes, i, rfl, Nat.le_of_not_lt (of_decide_eq_false full)⟩
    · contradiction
  · rintro ⟨passes, i, rfl, full⟩
    have carried : s.perform (.interface (.configure i)) = (.error .outOfIndexes, s) := by
      have stopped := Links.create_of_full (i := i) (Nat.not_lt.mpr full)
      exact congrArg (Prod.map id fun l => { s with links := l }) stopped
    simp [answer?, passes, carried]

/-- What a call that is no dump does when it is carried out: it is recorded, and what it changes is
its own. -/
structure Changed (s : Simulation) (c : Call) (t : Simulation) : Prop where
  recorded : t.operations = s.operations ++ [c.operation]
  failing : t.failing = s.failing
  agree : ∀ h, h ≠ c.operation.family.holding →
    (∀ actual index, c = .interface (.delete actual index) → h ≠ .rules) → s.Agree t h
  /-- A removed interface takes its rules along. -/
  rules : ∀ actual index, c = .interface (.delete actual index) →
    t.links.rules = s.links.rules.filter (·.index != index)

/-- A call that is carried out and is no dump is recorded and changes only what is its own. -/
theorem changed_of_answer? {reply : c.Reply} (change : c.isDump = false)
    (answered : s.answer? c = some (.ok reply, t)) : s.Changed c t := by
  obtain ⟨reason, never, -⟩ | ⟨_, u, -, carried, rfl⟩ := cases_of_answer? answered
  · contradiction
  · have failing := failing_perform s c
    rw [carried] at failing
    refine ⟨if_neg (by simp [change]), failing, ?_, ?_⟩
    · intro h other kept
      have agree := agree_of_perform carried h other kept
      cases h <;> exact agree
    · rintro actual index rfl
      obtain ⟨l, performed, rfl⟩ := exists_of_interface carried
      exact InterfaceCall.rules_of_delete performed

/-- A dump changes nothing. -/
theorem eq_of_answer?_dump {answer : Answer c} (dump : c.isDump = true)
    (answered : s.answer? c = some (answer, t)) : t = s := by
  obtain ⟨-, -, rfl⟩ | ⟨_, u, -, carried, rfl⟩ := cases_of_answer? answered
  · rfl
  · rw [eq_of_perform_dump (beq_iff_eq.mp dump) carried, recorded, if_pos dump]

/-- Every call is answered, except for the creation of an interface when the indexes have run out,
whatever the dataplane holds and whatever is set to fail.  A call that is refused leaves the whole
state as it was, and so does a dump.  Every other call, when it is carried out, is recorded as one
operation and changes only what its family holds; a removed interface takes its rules along. -/
theorem calls_atomic (s : Simulation) (c : Call) :
    (s.answer? c = none ↔ s.fails c.operation = false ∧
      ∃ i, c = .interface (.configure i) ∧ UInt32.size ≤ s.links.nextIndex.toNat + 1) ∧
    ∀ answer t, s.answer? c = some (answer, t) →
      ((∃ reason, answer = .error reason) → t = s) ∧
      (c.isDump = true → t = s) ∧
      (∀ reply, answer = .ok reply → c.isDump = false → s.Changed c t) := by
  refine ⟨answer?_eq_none_iff, fun answer t answered => ⟨?_, fun dump => ?_, ?_⟩⟩
  · rintro ⟨reason, rfl⟩
    exact eq_of_answer?_error answered
  · exact eq_of_answer?_dump dump answered
  · rintro reply rfl change
    exact changed_of_answer? change answered

/-- Whether a call is refused for a reason. -/
def refuses (s : Simulation) (c : Call) (reason : String) : Bool :=
  (s.answer? c).any fun x =>
    match x.1 with
    | .ok _ => false
    | .error given => given == reason

theorem exists_of_refuses {reason : String} (h : s.refuses c reason = true) :
    ∃ t, s.answer? c = some (.error reason, t) := by
  obtain ⟨⟨answer, t⟩, answered, same⟩ := (Option.any_eq_true _ _).mp h
  match answer with
  | .error given =>
    obtain rfl : given = reason := beq_iff_eq.mp same
    exact ⟨t, answered⟩

/-- Two interfaces with a rule on each of them. -/
def pierSnapshot : Snapshot where
  interfaces :=
    [{ interface := { name := "pier" }, internalName := "loop1", index := 1 },
     { interface := { name := "quay" }, internalName := "loop2", index := 2 }]
  rules := [⟨"10.0.0.1", "pier", 1⟩, ⟨"10.0.0.2", "quay", 2⟩]

/-- One of them is removed with its rule, which is one operation.  There is no third one that could
be removed, and where removals are set to fail, neither can one of the two; nothing happens then. -/
theorem calls_atomic_pier :
    ∃ s t, ofSnapshot? pierSnapshot = some s ∧
      s.answer? (.interface (.delete { name := "quay" } 2)) = some (.ok (), t) ∧
      s.Changed (.interface (.delete { name := "quay" } 2)) t ∧ t.links.rules.length = 1 ∧
      s.answer? (.interface (.delete { name := "jetty" } 3)) =
        some (.error "no interface with index 3", s) ∧
      (s.failOn .interface .delete).answer? (.interface (.delete { name := "quay" } 2)) =
        some (.error "simulated interface delete failure for quay (index 2)",
          s.failOn .interface .delete) := by
  have goes : (ofSnapshot? pierSnapshot).any (fun s =>
      (s.answer? (.interface (.delete { name := "quay" } 2))).any (fun x =>
        x.1.isOk && x.2.links.rules.length == 1) &&
      s.refuses (.interface (.delete { name := "jetty" } 3)) "no interface with index 3" &&
      (s.failOn .interface .delete).refuses (.interface (.delete { name := "quay" } 2))
        "simulated interface delete failure for quay (index 2)") = true := by
    decide +kernel
  obtain ⟨s, start, goes⟩ := (Option.any_eq_true _ _).mp goes
  simp only [Bool.and_eq_true] at goes
  obtain ⟨⟨carried, missing⟩, failing⟩ := goes
  obtain ⟨⟨answer, t⟩, removed, seen⟩ := (Option.any_eq_true _ _).mp carried
  obtain ⟨ok, one⟩ := Bool.and_eq_true_iff.mp seen
  obtain ⟨t₁, refused⟩ := exists_of_refuses missing
  obtain ⟨t₂, failed⟩ := exists_of_refuses failing
  -- the states after the two refusals are known from the theorem alone
  obtain rfl := ((calls_atomic s _).2 _ t₁ refused).1 ⟨_, rfl⟩
  obtain rfl := ((calls_atomic (t₁.failOn .interface .delete) _).2 _ t₂ failed).1 ⟨_, rfl⟩
  match answer with
  | .ok () =>
    obtain ⟨-, -, changed⟩ := (calls_atomic t₁ _).2 _ t removed
    exact ⟨t₁, t, start, removed, changed () rfl rfl, beq_iff_eq.mp one, refused, failed⟩

end Simulation

end DataplaneSync
