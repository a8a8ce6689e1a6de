import DataplaneSync.Proofs.Audited
import DataplaneSync.Run

namespace DataplaneSync

/-!
# Failures and the calls to blame for them

Every refused call is a failure of the stage that makes it, and the call with the reason of the
refusal says all that is reported of it.

* `Call.stage`, `Call.failureText` — the stage that makes a call, and what it reports if the call is
  refused.
* `Blamed` — the last failure among some deeds is that of the last refused call.
* `Duty`, `Pass.Told`, `Sweep.Told` — what is done is a trail of calls of one stage, and the
  failure is the one to blame for it.
-/

/-! ### The stages of calls -/

/-- The stage that makes a call. -/
def BfdCall.stage : BfdCall → Stage
  | dumpSessions => .sessions
  | dumpKeys => .keys
  | configureSession _ => .sessions
  | modifySession _ _ => .sessions
  | deleteSession _ => .sessions
  | configureKey _ => .keys
  | modifyKey _ _ => .keys
  | deleteKey _ => .keys
  | configureEcho _ => .echo

/-- The stage that makes a call. -/
def NatCall.stage : NatCall → Stage
  | dumpGlobal => .natGlobal
  | setForwarding _ => .natGlobal
  | enableInterface _ => .natGlobal
  | disableInterface _ => .natGlobal
  | addPool _ => .natGlobal
  | deletePool _ => .natGlobal
  | dumpDestinations => .destinations
  | addMapping _ _ => .destinations
  | deleteMapping _ _ => .destinations

/-- The stage that makes a call. -/
def Call.stage : Call → Stage
  | interface _ => .interfaces
  | stn _ => .rules
  | bfd c => c.stage
  | nat c => c.stage

/-- The part of the dataplane that a stage works on. -/
def Stage.part : Stage → Part
  | interfaces => .links
  | rules => .links
  | keys => .detection
  | sessions => .detection
  | echo => .detection
  | natGlobal => .nat
  | sources => .nat
  | destinations => .nat

/-- A stage makes calls on its part only. -/
theorem Call.part_stage (c : Call) : c.stage.part = c.part := by
  cases c with
  | interface c => rfl
  | stn c => rfl
  | bfd c => cases c <;> rfl
  | nat c => cases c <;> rfl

/-! ### What is reported of a refused call -/

/-- The failure of a refused call.  Once there has been a dump, another one is to refresh the
states. -/
def InterfaceCall.failure (dumped : Bool) : InterfaceCall → String → InterfaceFailure
  | dump => if dumped then .status else .dump
  | dumpSockets => .dumpSockets
  | setTag tag index => .tag tag index
  | configure i => .configure i.name
  | modify wanted _ _ => .modify wanted.name
  | delete actual index =>
    .delete (if actual.isTagged then actual.name else Interface.placeholderName) index

/-- The failure of a refused call. -/
def StnCall.failure : StnCall → String → StnFailure
  | dump => .dump
  | add rule _ => .create rule.name
  | delete address index => .delete address index

/-- The failure of a refused call. -/
def BfdCall.failure : BfdCall → String → BfdFailure
  | dumpSessions => .dumpSessions
  | dumpKeys => .dumpKeys
  | configureSession s => .changeSession .create s.key
  | modifySession _ wanted => .changeSession .modify wanted.key
  | deleteSession s => .changeSession .delete s.key
  | configureKey k => .changeKey .create k.id
  | modifyKey _ wanted => .changeKey .modify wanted.id
  | deleteKey k => .changeKey .delete k.id
  | configureEcho e => .setEcho e.sourceInterface

/-- The failure of a refused call. -/
def NatCall.failure : NatCall → String → NatFailure
  | dumpGlobal => .dumpGlobal
  | setForwarding _ => .forwarding
  | enableInterface i => .updateInterface i.name
  | disableInterface i => .updateInterface i.name
  | addPool p => .updatePool p.first
  | deletePool p => .updatePool p.first
  | dumpDestinations => .dumpDestinations
  | addMapping label m => .createMapping label m.identifier
  | deleteMapping label m => .deleteMapping label m.identifier

/-- What is reported of a call that is refused for a reason. -/
def Call.failureText (dumped : Bool) (c : Call) (reason : String) : String :=
  match c with
  | interface c => (c.failure dumped reason).message
  | stn c => (c.failure reason).message
  | bfd c => (c.failure reason).message
  | nat c => (c.failure reason).message

/-- What is to be reported of an exchange, if the call was refused. -/
def Exchange.failureText? (dumped : Bool) (x : Exchange) : Option String :=
  x.refusal?.map (x.call.failureText dumped)

/-- What is to be reported of some exchanges, the oldest first. -/
def failureTexts (dumped : Bool) (xs : List Exchange) : List String :=
  xs.filterMap (Exchange.failureText? dumped)

@[simp] theorem failureTexts_nil (dumped : Bool) : failureTexts dumped [] = [] := rfl

@[simp] theorem failureTexts_append (dumped : Bool) (xs ys : List Exchange) :
    failureTexts dumped (xs ++ ys) = failureTexts dumped xs ++ failureTexts dumped ys :=
  List.filterMap_append

/-! ### Duties -/

/-- What the passes of a stage, which know `σ` and fail with `ε`, have to report. -/
structure Duty (σ ε : Type) where
  stage : Stage
  /-- The wording of a failure. -/
  word : ε → String
  /-- Whether interfaces have been dumped. -/
  dumped : Bool := false
  /-- Whether there is a dataplane to call, as far as that matters afterwards. -/
  connected : σ → Bool := fun _ => true

variable {σ ε α β : Type} {duty : Duty σ ε}

/-- All calls are of one stage, and the last failure is that of the last refused call. -/
structure Blamed (duty : Duty σ ε) (ds : List Deed) (e : Option ε) : Prop where
  own : ∀ x ∈ exchanges ds, x.call.stage = duty.stage
  last : (failureTexts duty.dumped (exchanges ds)).getLast? = e.map duty.word

namespace Blamed

theorem nil : Blamed duty [] none := ⟨by simp, rfl⟩

theorem append {ds ds' : List Deed} {e e' : Option ε} (first : Blamed duty ds e)
    (then_ : Blamed duty ds' e') : Blamed duty (ds ++ ds') (e'.or e) := by
  refine ⟨?_, ?_⟩
  · rw [exchanges_append]
    exact List.forall_mem_append.mpr ⟨first.own, then_.own⟩
  · rw [exchanges_append, failureTexts_append, List.getLast?_append, then_.last, first.last]
    cases e' <;> rfl

theorem next {ds ds' : List Deed} {e : Option ε} (first : Blamed duty ds none)
    (then_ : Blamed duty ds' e) : Blamed duty (ds ++ ds') e := by
  have both := first.append then_
  rwa [Option.or_none] at both

end Blamed

/-- A call is made by a stage, and if it is refused the failure says what is to be reported. -/
structure Duty.Covers (duty : Duty σ ε) (c : Call) (failure : String → ε) : Prop where
  own : c.stage = duty.stage
  worded : ∀ reason, duty.word (failure reason) = c.failureText duty.dumped reason

namespace Duty.Covers

variable {c : Call} {failure : String → ε}

/-- The failure of a call is the one to blame for it. -/
theorem blamed (covers : duty.Covers c failure) (answer : Answer c) :
    Blamed duty [.called c answer] ((failureIn answer).map failure) := by
  refine ⟨by simpa using covers.own, ?_⟩
  match answer with
  | .ok reply => rfl
  | .error reason => exact congrArg some (covers.worded reason).symm

/-- That a call is recorded is of no consequence for its failure. -/
theorem blamed_recorded (covers : duty.Covers c failure) (answer : Answer c) (e : AuditEvent) :
    Blamed duty [.called c answer, .reported e] ((failureIn answer).map failure) :=
  ⟨(covers.blamed answer).own, (covers.blamed answer).last⟩

theorem part (covers : duty.Covers c failure) : c.part = duty.stage.part := by
  rw [← covers.own, c.part_stage]

end Duty.Covers

/-! ### Passes that do their duty -/

/-- Leave a trail and fail with what is to blame.  Whether there is a dataplane does not change. -/
def Duty.discipline (duty : Duty σ ε) : Discipline σ ε where
  allows s ds e t :=
    Trail.On duty.stage.part ds ∧ Blamed duty ds e ∧ duty.connected t = duty.connected s
  rest _ := ⟨.nil, .nil, rfl⟩
  join first then_ :=
    ⟨first.1.append then_.1, first.2.1.append then_.2.1, then_.2.2.trans first.2.2⟩

/-- A pass does its duty, wherever it starts. -/
def Pass.Told (duty : Duty σ ε) (p : Pass σ ε α) : Prop := p.Obeys duty.discipline

/-- A sweep does its duty, wherever it starts. -/
def Sweep.Told (duty : Duty σ ε) (p : Sweep σ ε α) : Prop := p.Obeys duty.discipline

namespace Pass

variable {c : Call} {failure : String → ε}

/-- A pass that does its duty is audited. -/
theorem Told.audited {p : Pass σ ε α} (h : p.Told duty) : p.Audited duty.stage.part :=
  fun s ds end_ t trace => (h s ds end_ t trace).1

theorem told_modify {f : σ → σ} (keeps : ∀ s, duty.connected (f s) = duty.connected s) :
    (modify f : Pass σ ε PUnit).Told duty :=
  obeys_modify fun s => ⟨.nil, .nil, keeps s⟩

theorem told_dump (covers : duty.Covers c failure) (reads : c.isDump = true) :
    (dump c failure : Pass σ ε c.Reply).Told duty :=
  obeys_dump fun _ answer => ⟨.dump covers.part reads, covers.blamed answer, rfl⟩

theorem told_change {subject : Answer c → AuditSubject} (covers : duty.Covers c failure)
    (changes : c.isDump = false) : (change c subject failure : Pass σ ε c.Reply).Told duty :=
  obeys_change fun _ answer e recorded =>
    ⟨.change covers.part changes recorded, covers.blamed_recorded answer e, rfl⟩

/-- A pass that counts its failures and ends with the last one. -/
theorem told_finish {tally : FailureTally ε} {f : σ → σ}
    (keeps : ∀ s, duty.connected (f s) = duty.connected s) :
    (do modify f; conclude tally : Pass σ ε Unit).Concludes duty.discipline tally :=
  concludes.modify fun s => ⟨.nil, .nil, keeps s⟩

end Pass

theorem Sweep.told_update {f : σ → σ}
    (keeps : ∀ s, duty.connected (f s) = duty.connected s) :
    (update f : Sweep σ ε Unit).Told duty :=
  obeys_update fun s => ⟨.nil, .nil, keeps s⟩

end DataplaneSync
