import DataplaneSync.Proofs.Traces
import DataplaneSync.Proofs.Views
import DataplaneSync.Stn.Reconciler

namespace DataplaneSync

/-!
# Audited programs

What passes report of the calls they make, whatever a dataplane answers.

* `Exchange.RecordedBy` — the record of a call: its name, and how it was answered.
* `Trail` — each change is followed by its record, and nothing else is reported but refused
  dumps of interfaces and postponed rules.
* `Discipline` — a rule about deeds that holds of two stretches together if it holds of each;
  `Pass.Obeys` and `Sweep.Obeys` follow the steps of passes and sweeps.
* `Program.Audited`, with `Pass.Audited` and `Sweep.Audited` — all that is done is a trail, with all
  calls on one part.
-/

/-! ### Records -/

/-- The event that a rule has to wait for its interface. -/
def StnReconciler.postponement (rule : StnRule) : AuditEvent :=
  let call := StnCall.add rule 0
  ((subject rule).event call.operation.kind.category call.name).skipped

namespace Exchange

/-- The outcome of a call. -/
def outcome (x : Exchange) : AuditOutcome :=
  match x.answer with
  | .ok _ => .success
  | .error _ => .failure

/-- The reason why a call was refused, if it was. -/
def refusal? (x : Exchange) : Option String :=
  match x.answer with
  | .ok _ => none
  | .error reason => some reason

/-- An event is the record of a call: it has the name of the call and tells how the call was
answered. -/
structure RecordedBy (x : Exchange) (e : AuditEvent) : Prop where
  category : e.category = x.call.operation.kind.category
  action : e.action = x.call.name
  outcome : e.outcome = x.outcome
  error : e.error = x.refusal?

/-- The event of a call that is made of its answer is its record. -/
theorem recordedBy_succeeded (c : Call) (reply : c.Reply) (subject : AuditSubject) :
    RecordedBy ⟨c, .ok reply⟩ (subject.event c.operation.kind.category c.name).succeeded :=
  ⟨rfl, rfl, rfl, rfl⟩

theorem recordedBy_failed (c : Call) (reason : String) (subject : AuditSubject) :
    RecordedBy ⟨c, .error reason⟩
      ((subject.event c.operation.kind.category c.name).failed reason) :=
  ⟨rfl, rfl, rfl, rfl⟩

/-- A record tells of something that was tried. -/
theorem RecordedBy.outcome_ne_skipped {x : Exchange} {e : AuditEvent} (recorded : x.RecordedBy e) :
    e.outcome ≠ .skipped := by
  rw [recorded.outcome]
  unfold Exchange.outcome
  split <;> exact nofun

theorem RecordedBy.ne_postponement {x : Exchange} {e : AuditEvent} (recorded : x.RecordedBy e)
    (rule : StnRule) : StnReconciler.postponement rule ≠ e := by
  rintro rfl
  exact recorded.outcome_ne_skipped rfl

end Exchange

/-! ### Trails -/

/-- Deeds of which each change is followed at once by its record.  A dump is followed by a
record at most if it is one of interfaces that was refused.  Apart from that, only rules that
have to wait are reported. -/
inductive Trail : List Deed → Prop where
  | nil : Trail []
  | dump {c : Call} {ds : List Deed} (answer : Answer c) (reads : c.isDump = true) :
    Trail ds → Trail (.called c answer :: ds)
  | refusedDump {e : AuditEvent} {ds : List Deed} (reason : String)
      (recorded : Exchange.RecordedBy ⟨.interface .dump, .error reason⟩ e) :
    Trail ds → Trail (.called (.interface .dump) (.error reason) :: .reported e :: ds)
  | change {c : Call} {answer : Answer c} {e : AuditEvent} {ds : List Deed}
      (changes : c.isDump = false) (recorded : Exchange.RecordedBy ⟨c, answer⟩ e) :
    Trail ds → Trail (.called c answer :: .reported e :: ds)
  | postponed {ds : List Deed} (rule : StnRule) :
    Trail ds → Trail (.reported (StnReconciler.postponement rule) :: ds)

/-- A trail goes on with a trail. -/
theorem Trail.append {ds ds' : List Deed} (first : Trail ds) (then_ : Trail ds') :
    Trail (ds ++ ds') := by
  induction first with
  | nil => exact then_
  | dump answer reads _ ih => exact ih.dump answer reads
  | refusedDump reason recorded _ ih => exact ih.refusedDump reason recorded
  | change changes recorded _ ih => exact ih.change changes recorded
  | postponed rule _ ih => exact ih.postponed rule

/-- A trail of which all calls are on one part, and on which no rule has to wait. -/
structure Trail.On (g : Part) (ds : List Deed) : Prop where
  trail : Trail ds
  within : ∀ x ∈ exchanges ds, x.call.part = g
  prompt : ∀ rule, StnReconciler.postponement rule ∉ events ds

namespace Trail.On

variable {g : Part} {ds ds' : List Deed}

theorem nil : On g [] := ⟨.nil, by simp, by simp⟩

theorem append (first : On g ds) (then_ : On g ds') : On g (ds ++ ds') := by
  refine ⟨first.trail.append then_.trail, ?_, fun rule => ?_⟩
  · rw [exchanges_append]
    exact List.forall_mem_append.mpr ⟨first.within, then_.within⟩
  · rw [events_append]
    exact List.not_mem_append (first.prompt rule) (then_.prompt rule)

theorem dump {c : Call} {answer : Answer c} (on : c.part = g) (reads : c.isDump = true) :
    On g [.called c answer] :=
  ⟨.dump answer reads .nil, by simpa using on, by simp⟩

theorem refusedDump {e : AuditEvent} (reason : String)
    (recorded : Exchange.RecordedBy ⟨.interface .dump, .error reason⟩ e) :
    On .links [.called (.interface .dump) (.error reason), .reported e] := by
  refine ⟨.refusedDump reason recorded .nil, by simp [Call.part], fun rule => ?_⟩
  simpa using recorded.ne_postponement rule

theorem change {c : Call} {answer : Answer c} {e : AuditEvent} (on : c.part = g)
    (changes : c.isDump = false) (recorded : Exchange.RecordedBy ⟨c, answer⟩ e) :
    On g [.called c answer, .reported e] := by
  refine ⟨.change changes recorded .nil, by simpa using on, fun rule => ?_⟩
  simpa using recorded.ne_postponement rule

end Trail.On

/-! ### Disciplines -/

variable {σ ε α β : Type}

/-- The failure with which something ended. -/
def failureIn : Except ε α → Option ε
  | .ok _ => none
  | .error e => some e

@[simp] theorem failureIn_ok (a : α) : failureIn (.ok a : Except ε α) = none := rfl

@[simp] theorem failureIn_error (e : ε) : failureIn (.error e : Except ε α) = some e := rfl

theorem failureIn_mapError {ε' : Type} (f : ε' → ε) (end_ : Except ε' α) :
    failureIn (end_.mapError f) = (failureIn end_).map f := by
  cases end_ <;> rfl

/-- A rule about what may be done between two states, and with what failure as the last one. -/
structure Discipline (σ ε : Type) where
  allows : σ → List Deed → Option ε → σ → Prop
  /-- Nothing need be done. -/
  rest : ∀ s, allows s [] none s
  /-- One stretch may follow another; a later failure counts for more. -/
  join : ∀ {s t u ds ds' e e'}, allows s ds e t → allows t ds' e' u →
    allows s (ds ++ ds') (e'.or e) u

variable {d : Discipline σ ε} {g : Part}

/-- A stretch without failure may be followed by another one. -/
theorem Discipline.next {s t u : σ} {ds ds' : List Deed} {e : Option ε}
    (first : d.allows s ds none t) (then_ : d.allows t ds' e u) :
    d.allows s (ds ++ ds') e u := by
  have both := d.join first then_
  rwa [Option.or_none] at both

/-- All that a pass may do, its failure, and what it makes of its state, are allowed. -/
def Pass.Obeys (d : Discipline σ ε) (p : Pass σ ε α) : Prop :=
  ∀ s ds end_ t, Program.Trace (p s) ds (end_, t) → d.allows s ds (failureIn end_) t

namespace Pass

theorem obeys_pure (a : α) : (pure a : Pass σ ε α).Obeys d := by
  rintro s - - - ⟨⟩
  exact d.rest s

theorem obeys_throw {e : ε} (free : ∀ s, d.allows s [] (some e) s) :
    (throw e : Pass σ ε α).Obeys d := by
  rintro s - - - ⟨⟩
  exact free s

theorem obeys_get : (get : Pass σ ε σ).Obeys d := by
  rintro s - - - ⟨⟩
  exact d.rest s

theorem obeys_modify {f : σ → σ} (free : ∀ s, d.allows s [] none (f s)) :
    (modify f : Pass σ ε PUnit).Obeys d := by
  intro s ds end_ t trace
  cases trace
  exact free s

/-- To read the state takes no deed. -/
theorem of_trace_get {f : σ → Pass σ ε β} {s : σ} {ds : List Deed} {x : Except ε β × σ}
    (trace : Program.Trace ((get >>= f) s) ds x) : Program.Trace (f s s) ds x := trace

/-- To change the state takes no deed. -/
theorem of_trace_modify {f : PUnit → Pass σ ε β} {g : σ → σ} {s : σ} {ds : List Deed}
    {x : Except ε β × σ} (trace : Program.Trace ((modify g >>= f) s) ds x) :
    Program.Trace (f ⟨⟩ (g s)) ds x := trace

/-- What is done by two steps is what the first does, and if that does not fail, what the second
does. -/
theorem of_trace_bind {p : Pass σ ε α} {f : α → Pass σ ε β} {s u : σ} {ds : List Deed}
    {end_ : Except ε β} (trace : Program.Trace ((p >>= f) s) ds (end_, u)) :
    (∃ e, end_ = .error e ∧ Program.Trace (p s) ds (.error e, u)) ∨
      ∃ a t ds₁ ds₂, ds = ds₁ ++ ds₂ ∧ Program.Trace (p s) ds₁ (.ok a, t) ∧
        Program.Trace (f a t) ds₂ (end_, u) := by
  obtain ⟨⟨middle, t⟩, ds₁, ds₂, rfl, trace₁, trace₂⟩ := Program.trace_bind.mp trace
  match middle with
  | .ok a => exact Or.inr ⟨a, t, ds₁, ds₂, rfl, trace₁, trace₂⟩
  | .error e =>
    cases trace₂
    rw [List.append_nil]
    exact Or.inl ⟨e, rfl, trace₁⟩

/-- If two steps come to their end, each of them does. -/
theorem of_trace_bind_ok {p : Pass σ ε α} {f : α → Pass σ ε β} {s u : σ} {ds : List Deed} {b : β}
    (trace : Program.Trace ((p >>= f) s) ds (.ok b, u)) :
    ∃ a t ds₁ ds₂, ds = ds₁ ++ ds₂ ∧ Program.Trace (p s) ds₁ (.ok a, t) ∧
      Program.Trace (f a t) ds₂ (.ok b, u) := by
  rcases of_trace_bind trace with ⟨e, ended, -⟩ | went
  · exact absurd ended nofun
  · exact went

theorem Obeys.bind {p : Pass σ ε α} {f : α → Pass σ ε β} (first : p.Obeys d)
    (then_ : ∀ a, (f a).Obeys d) : (p >>= f).Obeys d := by
  intro s ds end_ u trace
  rcases of_trace_bind trace with ⟨e, rfl, trace₁⟩ | ⟨a, t, ds₁, ds₂, rfl, trace₁, trace₂⟩
  · exact first s ds _ u trace₁
  · exact d.next (first s ds₁ _ t trace₁) (then_ a t ds₂ end_ u trace₂)

/-- What is done by a program that ends without going on. -/
theorem obeys_perform {p : Program α} (free : ∀ s ds a, p.Trace ds a → d.allows s ds none s) :
    (perform p : Pass σ ε α).Obeys d := by
  intro s ds end_ t trace
  obtain ⟨a, ds₁, ds₂, rfl, trace₁, ⟨⟩⟩ := Program.trace_bind.mp trace
  rw [List.append_nil]
  exact free s ds₁ a trace₁

theorem obeys_report {e : AuditEvent} (free : ∀ s, d.allows s [.reported e] none s) :
    (perform (Program.report e) : Pass σ ε Unit).Obeys d := by
  refine obeys_perform fun s ds a trace => ?_
  obtain ⟨-, rfl, ⟨⟩⟩ := Program.trace_note.mp trace
  exact free s

/-- What is done by a dump: the call. -/
theorem of_trace_dump {c : Call} {failure : String → ε} {s t : σ} {ds : List Deed}
    {end_ : Except ε c.Reply} (trace : Program.Trace ((dump c failure) s) ds (end_, t)) :
    ∃ answer : Answer c, ds = [.called c answer] ∧ end_ = answer.mapError failure ∧ t = s := by
  obtain ⟨answer, ds', rfl, rest⟩ := Program.trace_ask.mp trace
  match answer with
  | .ok reply =>
    cases rest
    exact ⟨_, rfl, rfl, rfl⟩
  | .error reason =>
    cases rest
    exact ⟨_, rfl, rfl, rfl⟩

/-- What is done by a dump and what follows it: the refused call, or the call and what follows. -/
theorem of_trace_dump_bind {c : Call} {failure : String → ε} {f : c.Reply → Pass σ ε β} {s u : σ}
    {ds : List Deed} {end_ : Except ε β}
    (trace : Program.Trace ((dump c failure >>= f) s) ds (end_, u)) :
    (∃ reason, ds = [.called c (.error reason)] ∧ end_ = .error (failure reason) ∧ u = s) ∨
    ∃ reply ds', ds = .called c (.ok reply) :: ds' ∧
      Program.Trace (f reply s) ds' (end_, u) := by
  rcases of_trace_bind trace with ⟨e, rfl, asked⟩ | ⟨reply, t, ds₁, ds₂, rfl, asked, rest⟩
  · obtain ⟨answer, rfl, ended, rfl⟩ := of_trace_dump asked
    match answer with
    | .ok reply => exact absurd ended nofun
    | .error reason =>
      cases ended
      exact Or.inl ⟨reason, rfl, rfl, rfl⟩
  · obtain ⟨answer, rfl, ended, rfl⟩ := of_trace_dump asked
    match answer with
    | .error reason => exact absurd ended nofun
    | .ok reply' =>
      obtain rfl : reply = reply' := Except.ok.inj ended
      exact Or.inr ⟨reply, ds₂, rfl, rest⟩

/-- A refused dump fails with its reason. -/
theorem obeys_dump {c : Call} {failure : String → ε}
    (free : ∀ s answer, d.allows s [.called c answer] ((failureIn answer).map failure) s) :
    (dump c failure : Pass σ ε c.Reply).Obeys d := by
  intro s ds end_ t trace
  obtain ⟨answer, rfl, rfl, rfl⟩ := of_trace_dump trace
  rw [failureIn_mapError]
  exact free t answer

/-- What is done by a change: the call, and then its record. -/
theorem of_trace_change {c : Call} {subject : Answer c → AuditSubject} {failure : String → ε}
    {s t : σ} {ds : List Deed} {end_ : Except ε c.Reply}
    (trace : Program.Trace ((change c subject failure) s) ds (end_, t)) :
    ∃ (answer : Answer c) (e : AuditEvent), ds = [.called c answer, .reported e] ∧
      Exchange.RecordedBy ⟨c, answer⟩ e ∧ end_ = answer.mapError failure ∧ t = s := by
  obtain ⟨answer, ds', rfl, rest⟩ := Program.trace_ask.mp trace
  match answer with
  | .ok reply =>
    obtain ⟨-, rfl, ⟨⟩⟩ := Program.trace_note.mp rest
    exact ⟨_, _, rfl, Exchange.recordedBy_succeeded c reply _, rfl, rfl⟩
  | .error reason =>
    obtain ⟨-, rfl, ⟨⟩⟩ := Program.trace_note.mp rest
    exact ⟨_, _, rfl, Exchange.recordedBy_failed c reason _, rfl, rfl⟩

/-- What is done by a change and what follows it: the refused call with its record, or the call with
its record and what follows. -/
theorem of_trace_change_bind {c : Call} {subject : Answer c → AuditSubject} {failure : String → ε}
    {f : c.Reply → Pass σ ε β} {s u : σ} {ds : List Deed} {end_ : Except ε β}
    (trace : Program.Trace ((change c subject failure >>= f) s) ds (end_, u)) :
    (∃ reason e, ds = [.called c (.error reason), .reported e] ∧ end_ = .error (failure reason) ∧
      u = s) ∨
    ∃ reply e ds', ds = .called c (.ok reply) :: .reported e :: ds' ∧
      Program.Trace (f reply s) ds' (end_, u) := by
  rcases of_trace_bind trace with ⟨e, rfl, changed⟩ | ⟨reply, t, ds₁, ds₂, rfl, changed, rest⟩
  · obtain ⟨answer, e, rfl, -, ended, rfl⟩ := of_trace_change changed
    match answer with
    | .ok reply => exact absurd ended nofun
    | .error reason =>
      cases ended
      exact Or.inl ⟨reason, e, rfl, rfl, rfl⟩
  · obtain ⟨answer, e, rfl, -, ended, rfl⟩ := of_trace_change changed
    match answer with
    | .error reason => exact absurd ended nofun
    | .ok reply' =>
      obtain rfl : reply = reply' := Except.ok.inj ended
      exact Or.inr ⟨reply, e, ds₂, rfl, rest⟩

/-- A refused change fails with its reason. -/
theorem obeys_change {c : Call} {subject : Answer c → AuditSubject} {failure : String → ε}
    (free : ∀ s answer e, Exchange.RecordedBy ⟨c, answer⟩ e →
      d.allows s [.called c answer, .reported e] ((failureIn answer).map failure) s) :
    (change c subject failure : Pass σ ε c.Reply).Obeys d := by
  intro s ds end_ t trace
  obtain ⟨answer, e, rfl, recorded, rfl, rfl⟩ := of_trace_change trace
  rw [failureIn_mapError]
  exact free t answer e recorded

theorem obeys_forM {f : β → Pass σ ε PUnit} {xs : List β} (each : ∀ x ∈ xs, (f x).Obeys d) :
    (xs.forM f).Obeys d := by
  induction xs with
  | nil => exact obeys_pure ()
  | cons x xs ih =>
    refine (each x List.mem_cons_self).bind fun _ => ?_
    exact ih fun y hy => each y (List.mem_cons_of_mem x hy)

end Pass

/-- All that a sweep may do, the failures it tallies, and what it makes of the state of the pass,
are allowed. -/
def Sweep.Obeys (d : Discipline σ ε) (p : Sweep σ ε α) : Prop :=
  ∀ x ds a y, Program.Trace (p x) ds (a, y) →
    ∃ e, d.allows x.1 ds e y.1 ∧ y.2.last? = e.or x.2.last?

namespace Sweep

theorem obeys_pure (a : α) : (pure a : Sweep σ ε α).Obeys d := by
  rintro x - - - ⟨⟩
  exact ⟨none, d.rest x.1, rfl⟩

theorem obeys_state : (state : Sweep σ ε σ).Obeys d := by
  rintro x - - - ⟨⟩
  exact ⟨none, d.rest x.1, rfl⟩

theorem obeys_update {f : σ → σ} (free : ∀ s, d.allows s [] none (f s)) :
    (update f : Sweep σ ε Unit).Obeys d := by
  rintro x - - - ⟨⟩
  exact ⟨none, free x.1, rfl⟩

theorem obeys_failures : (failures : Sweep σ ε Nat).Obeys d := by
  rintro x - - - ⟨⟩
  exact ⟨none, d.rest x.1, rfl⟩

theorem Obeys.bind {p : Sweep σ ε α} {f : α → Sweep σ ε β} (first : p.Obeys d)
    (then_ : ∀ a, (f a).Obeys d) : (p >>= f).Obeys d := by
  intro x ds b z trace
  obtain ⟨⟨a, y⟩, ds₁, ds₂, rfl, trace₁, trace₂⟩ := Program.trace_bind.mp trace
  obtain ⟨e, allowed, last⟩ := first x ds₁ a y trace₁
  obtain ⟨e', allowed', last'⟩ := then_ a y ds₂ b z trace₂
  exact ⟨e'.or e, d.join allowed allowed', by rw [last', last, Option.or_assoc]⟩

theorem obeys_tolerate {p : Pass σ ε Unit} (h : p.Obeys d) : (tolerate p).Obeys d := by
  intro x ds a y trace
  obtain ⟨⟨end_, t⟩, ds₁, ds₂, rfl, trace₁, trace₂⟩ := Program.trace_bind.mp trace
  refine ⟨failureIn end_, ?_⟩
  have allowed := h x.1 ds₁ end_ t trace₁
  match end_ with
  | .ok () =>
    cases trace₂
    rw [List.append_nil]
    exact ⟨allowed, rfl⟩
  | .error e =>
    cases trace₂
    rw [List.append_nil]
    exact ⟨allowed, rfl⟩

theorem obeys_forM {f : β → Sweep σ ε PUnit} {xs : List β} (each : ∀ x, (f x).Obeys d) :
    (xs.forM f).Obeys d := by
  induction xs with
  | nil => exact obeys_pure ()
  | cons x xs ih => exact (each x).bind fun _ => ih

end Sweep

namespace Pass

/-- What is left of a pass after a sweep: nothing but to end it with the last failure. -/
def Concludes (d : Discipline σ ε) (tally : FailureTally ε) (p : Pass σ ε Unit) : Prop :=
  ∀ s ds end_ t, Program.Trace (p s) ds (end_, t) →
    ds = [] ∧ failureIn end_ = tally.last? ∧ d.allows s [] none t

variable {tally : FailureTally ε}

theorem concludes : (conclude tally).Concludes d tally := by
  rintro s - - - ⟨⟩
  refine ⟨rfl, ?_, d.rest s⟩
  obtain ⟨count, last⟩ := tally
  cases last <;> rfl

theorem Concludes.modify {f : σ → σ} {p : Pass σ ε Unit} (h : p.Concludes d tally)
    (free : ∀ s, d.allows s [] none (f s)) :
    (do modify f; p : Pass σ ε Unit).Concludes d tally := by
  intro s ds end_ t trace
  obtain ⟨rfl, last, allowed⟩ := h _ ds end_ t (of_trace_modify trace)
  exact ⟨rfl, last, d.next (free s) allowed⟩

/-- What is done by a sweep inside a pass is what the sweep does. -/
theorem of_trace_sweeping {p : Sweep σ ε Unit} {f : FailureTally ε → Pass σ ε Unit} {s t : σ}
    {ds : List Deed} {end_ : Except ε Unit}
    (trace : Program.Trace ((sweeping p >>= f) s) ds (end_, t)) :
    ∃ y ds₁ ds₂, ds = ds₁ ++ ds₂ ∧ Program.Trace (p (s, ∅)) ds₁ ((), y) ∧
      Program.Trace (f y.2 y.1) ds₂ (end_, t) := by
  obtain ⟨⟨middle, u⟩, ds', ds₂, rfl, trace', trace₂⟩ := Program.trace_bind.mp trace
  obtain ⟨⟨a, y⟩, ds₁, ds₃, rfl, trace₁, ⟨⟩⟩ := Program.trace_bind.mp trace'
  rw [List.append_nil]
  exact ⟨y, ds₁, ds₂, rfl, trace₁, trace₂⟩

/-- A pass that sweeps and then ends with the last failure. -/
theorem obeys_sweeping {p : Sweep σ ε Unit} {f : FailureTally ε → Pass σ ε Unit} (h : p.Obeys d)
    (then_ : ∀ tally, (f tally).Concludes d tally) : (sweeping p >>= f).Obeys d := by
  intro s ds end_ t trace
  obtain ⟨y, ds₁, ds₂, rfl, trace₁, trace₂⟩ := of_trace_sweeping trace
  obtain ⟨e, allowed, last⟩ := h (s, ∅) ds₁ () y trace₁
  obtain ⟨rfl, ended, allowed'⟩ := then_ y.2 _ ds₂ end_ t trace₂
  have both := d.join allowed allowed'
  have same : failureIn end_ = e := by
    rw [ended, last]
    exact Option.or_none
  simpa [same] using both

end Pass

/-! ### Audited programs -/

/-- A program leaves a trail on one part, whatever it is answered. -/
def Program.Audited (g : Part) (p : Program α) : Prop := ∀ ds a, p.Trace ds a → Trail.On g ds

namespace Program

theorem audited_done (a : α) : Audited g (.done a) := by
  rintro - - ⟨⟩
  exact .nil

theorem Audited.bind {p : Program α} {f : α → Program β} (first : p.Audited g)
    (then_ : ∀ a, (f a).Audited g) : (p.bind f).Audited g := by
  intro ds b trace
  obtain ⟨a, ds₁, ds₂, rfl, trace₁, trace₂⟩ := trace_bind.mp trace
  exact (first ds₁ a trace₁).append (then_ a ds₂ b trace₂)

end Program

/-- Leave a trail on one part.  The state may change in every way, and every failure may occur. -/
def Discipline.audit (σ ε : Type) (g : Part) : Discipline σ ε where
  allows _ ds _ _ := Trail.On g ds
  rest _ := .nil
  join := Trail.On.append

/-- A pass leaves a trail, wherever it starts. -/
def Pass.Audited (g : Part) (p : Pass σ ε α) : Prop := p.Obeys (.audit σ ε g)

/-- A sweep leaves a trail, wherever it starts. -/
def Sweep.Audited (g : Part) (p : Sweep σ ε α) : Prop := p.Obeys (.audit σ ε g)

namespace Pass

/-- What an audited pass does from some state is an audited program. -/
theorem Audited.program {p : Pass σ ε α} (h : p.Audited g) (s : σ) :
    Program.Audited g (p s : Program (Except ε α × σ)) :=
  fun ds end_ => h s ds end_.1 end_.2

theorem audited_throw (e : ε) : (throw e : Pass σ ε α).Audited g := obeys_throw fun _ => .nil

theorem audited_modify (f : σ → σ) : (modify f : Pass σ ε PUnit).Audited g :=
  obeys_modify fun _ => .nil

theorem audited_dump {c : Call} {failure : String → ε} (on : c.part = g)
    (reads : c.isDump = true) : (dump c failure : Pass σ ε c.Reply).Audited g :=
  obeys_dump fun _ _ => .dump on reads

theorem audited_change {c : Call} {subject : Answer c → AuditSubject} {failure : String → ε}
    (on : c.part = g) (changes : c.isDump = false) :
    (change c subject failure : Pass σ ε c.Reply).Audited g :=
  obeys_change fun _ _ _ recorded => .change on changes recorded

/-- After a sweep the state may change before the pass ends with the last failure. -/
theorem audited_finish {tally : FailureTally ε} {f : σ → σ} {p : Pass σ ε Unit}
    (then_ : p.Concludes (.audit σ ε g) tally) :
    (do modify f; p : Pass σ ε Unit).Concludes (.audit σ ε g) tally :=
  then_.modify fun _ => .nil

end Pass

theorem Sweep.audited_update (f : σ → σ) : (update f : Sweep σ ε Unit).Audited g :=
  obeys_update fun _ => .nil

end DataplaneSync
