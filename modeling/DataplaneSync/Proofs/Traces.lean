import DataplaneSync.Proofs.Trial

namespace DataplaneSync

/-!
# Traces

What a program may do from its start to its end, on any dataplane at all.

* `Program.Trace` — the deeds of a program on one of its branches, and the value at the end.
* `Program.trace_bind` — the deeds of two programs that follow each other.
* `exchanges` — the calls among some deeds, with their answers.
* `transcript` — a dataplane that remembers what it was asked and answers as it likes; what a
  program ensures of it, all its traces have.
* `Trial.trace_of_run` — a run is a trace.
-/

/-! ### Exchanges -/

/-- A call with its answer. -/
structure Exchange where
  call : Call
  answer : Answer call

/-- The exchange of a deed that is one. -/
def Deed.exchange? : Deed → Option Exchange
  | called c answer => some ⟨c, answer⟩
  | reported _ => none

/-- The event of a deed that is one. -/
def Deed.event? : Deed → Option AuditEvent
  | called _ _ => none
  | reported e => some e

/-- The exchanges among some deeds. -/
def exchanges (ds : List Deed) : List Exchange := ds.filterMap Deed.exchange?

/-- The events among some deeds. -/
def events (ds : List Deed) : List AuditEvent := ds.filterMap Deed.event?

section

variable {ds ds' : List Deed} {c : Call} {answer : Answer c} {e : AuditEvent}

@[simp] theorem exchanges_nil : exchanges [] = [] := rfl

@[simp] theorem exchanges_called :
    exchanges (.called c answer :: ds) = ⟨c, answer⟩ :: exchanges ds := rfl

@[simp] theorem exchanges_reported : exchanges (.reported e :: ds) = exchanges ds := rfl

@[simp] theorem exchanges_append : exchanges (ds ++ ds') = exchanges ds ++ exchanges ds' :=
  List.filterMap_append

/-- The calls of some deeds are those of their exchanges. -/
theorem map_call_exchanges (ds : List Deed) :
    (exchanges ds).map Exchange.call = ds.filterMap Deed.call? := by
  have same : (fun d => (Deed.exchange? d).map Exchange.call) = Deed.call? := by
    funext d
    cases d <;> rfl
  rw [exchanges, List.map_filterMap, same]

@[simp] theorem events_nil : events [] = [] := rfl

@[simp] theorem events_called : events (.called c answer :: ds) = events ds := rfl

@[simp] theorem events_reported : events (.reported e :: ds) = e :: events ds := rfl

@[simp] theorem events_append : events (ds ++ ds') = events ds ++ events ds' :=
  List.filterMap_append

end

/-! ### Traces of programs -/

namespace Program

variable {α β : Type} {p : Program α} {ds : List Deed} {a : α}

/-- A program may do this, from its start to its end, and end with a value. -/
inductive Trace : Program α → List Deed → α → Prop where
  | done (a : α) : Trace (.done a) [] a
  | ask {c : Call} {next : Answer c → Program α} {ds : List Deed} {a : α} (answer : Answer c) :
    Trace (next answer) ds a → Trace (.ask c next) (.called c answer :: ds) a
  | note {e : AuditEvent} {next : Program α} {ds : List Deed} {a : α} :
    Trace next ds a → Trace (.note e next) (.reported e :: ds) a

@[simp] theorem trace_done {a b : α} : (done a).Trace ds b ↔ ds = [] ∧ a = b := by
  constructor
  · rintro ⟨⟩
    exact ⟨rfl, rfl⟩
  · rintro ⟨rfl, rfl⟩
    exact .done a

theorem trace_ask {c : Call} {next : Answer c → Program α} :
    (ask c next).Trace ds a ↔
      ∃ answer ds', ds = .called c answer :: ds' ∧ (next answer).Trace ds' a := by
  constructor
  · rintro ⟨⟩
    exact ⟨_, _, rfl, ‹_›⟩
  · rintro ⟨answer, ds', rfl, rest⟩
    exact .ask answer rest

theorem trace_note {e : AuditEvent} {next : Program α} :
    (note e next).Trace ds a ↔ ∃ ds', ds = .reported e :: ds' ∧ next.Trace ds' a := by
  constructor
  · rintro ⟨⟩
    exact ⟨_, rfl, ‹_›⟩
  · rintro ⟨ds', rfl, rest⟩
    exact .note rest

/-- What is done by two programs that follow each other is what the first does and then what
the second does. -/
theorem trace_bind {f : α → Program β} {b : β} :
    (p.bind f).Trace ds b ↔
      ∃ a ds₁ ds₂, ds = ds₁ ++ ds₂ ∧ p.Trace ds₁ a ∧ (f a).Trace ds₂ b := by
  induction p generalizing ds with
  | done a =>
    constructor
    · exact fun second => ⟨a, [], ds, rfl, .done a, second⟩
    · rintro ⟨a, -, ds₂, rfl, ⟨⟩, second⟩
      exact second
  | ask c next ih =>
    simp only [bind, trace_ask, ih]
    constructor
    · rintro ⟨answer, -, rfl, a, ds₁, ds₂, rfl, first, second⟩
      exact ⟨a, _, ds₂, rfl, ⟨answer, ds₁, rfl, first⟩, second⟩
    · rintro ⟨a, -, ds₂, rfl, ⟨answer, ds₁, rfl, first⟩, second⟩
      exact ⟨answer, _, rfl, a, ds₁, ds₂, rfl, first, second⟩
  | note e next ih =>
    simp only [bind, trace_note, ih]
    constructor
    · rintro ⟨-, rfl, a, ds₁, ds₂, rfl, first, second⟩
      exact ⟨a, _, ds₂, rfl, ⟨ds₁, rfl, first⟩, second⟩
    · rintro ⟨a, -, ds₂, rfl, ⟨ds₁, rfl, first⟩, second⟩
      exact ⟨_, rfl, a, ds₁, ds₂, rfl, first, second⟩

/-- Every program comes to an end. -/
theorem exists_trace (p : Program α) : ∃ ds a, p.Trace ds a := by
  induction p with
  | done a => exact ⟨[], a, .done a⟩
  | ask c next ih =>
    obtain ⟨ds, a, rest⟩ := ih (.error "")
    exact ⟨_, a, .ask _ rest⟩
  | note e next ih =>
    obtain ⟨ds, a, rest⟩ := ih
    exact ⟨_, a, .note rest⟩

end Program

/-! ### Transcripts -/

/-- A dataplane that expects calls of one sort and answers them as it likes.  Its state is what
it was asked and answered so far. -/
def transcript (own : Call → Prop) : Behaviour (List Exchange) where
  expects _ c := own c
  answers h c answer h' := h' = h ++ [⟨c, answer⟩]

/-- What a program ensures of a dataplane that answers as it likes, its traces have. -/
theorem Program.Ensures.of_trace {α : Type} {own : Call → Prop} {p : Program α}
    {h : List Exchange} {Q : α → List Exchange → Prop} {ds : List Deed} {a : α}
    (ensures : p.Ensures (transcript own) h Q) (trace : p.Trace ds a) :
    Q a (h ++ exchanges ds) ∧ ∀ x ∈ exchanges ds, own x.call := by
  induction trace generalizing h with
  | done a =>
    rw [exchanges_nil, List.append_nil]
    exact ⟨ensures, by simp⟩
  | @ask c next ds a answer rest ih =>
    obtain ⟨accepted, within⟩ := ih (ensures.2 answer _ rfl)
    exact ⟨by simpa using accepted, by simpa using ⟨ensures.1, within⟩⟩
  | note rest ih => exact ih (h := h) ensures

/-- So do the traces of a pass, whether it comes to its end or fails. -/
theorem Pass.Ensures.of_trace {ε ρ : Type} {p : Pass ρ ε Unit} {r t : ρ} {ds : List Deed}
    {end_ : Except ε Unit} {C : Except ε Unit → ρ → List Exchange → Prop}
    (ensures : Pass.Ensures (transcript fun _ => True) p r [] (fun _ t xs => C (.ok ()) t xs)
      fun e t xs => C (.error e) t xs)
    (trace : Program.Trace (p r) ds (end_, t)) : C end_ t (exchanges ds) := by
  have reached := (Program.Ensures.of_trace ensures trace).1
  match end_ with
  | .ok () => exact reached
  | .error e => exact reached

/-! ### Runs -/

/-- The calls of a trial that has gone on are those it had made, and then those of its exchanges. -/
theorem Trial.calls_append {t u : Trial} {ds : List Deed} (deeds : u.deeds = t.deeds ++ ds) :
    u.calls = t.calls ++ (exchanges ds).map Exchange.call := by
  rw [calls, deeds, List.filterMap_append, map_call_exchanges]
  rfl

/-- What is done in a run is a trace of the program. -/
theorem Trial.trace_of_run {α : Type} {p : Program α} {t u : Trial} {a : α}
    (result : run p t = some (a, u)) : ∃ ds, u.deeds = t.deeds ++ ds ∧ p.Trace ds a := by
  induction p generalizing t with
  | done b =>
    obtain ⟨rfl, rfl⟩ := Prod.mk.inj (Option.some.inj result)
    exact ⟨[], (List.append_nil _).symm, .done b⟩
  | ask c next ih =>
    rw [run_ask, Option.bind_eq_some_iff] at result
    obtain ⟨⟨answer, v⟩, answered, rest⟩ := result
    obtain ⟨ds, deeds, trace⟩ := ih answer rest
    refine ⟨.called c answer :: ds, ?_, .ask answer trace⟩
    have noted : v.deeds = t.deeds ++ [.called c answer] := by
      unfold answer? at answered
      split at answered
      · obtain ⟨rfl, rfl⟩ := Prod.mk.inj (Option.some.inj answered)
        rfl
      · obtain ⟨⟨x, s⟩, -, same⟩ := Option.map_eq_some_iff.mp answered
        obtain ⟨rfl, rfl⟩ := Prod.mk.inj same
        rfl
    rw [deeds, noted, List.append_assoc, List.singleton_append]
  | note e next ih =>
    rw [run_note] at result
    obtain ⟨ds, deeds, trace⟩ := ih result
    refine ⟨.reported e :: ds, ?_, .note trace⟩
    rw [deeds, List.append_assoc, List.singleton_append]

/-- A pass that fails in a trial, in a run that passes a check, has a trace of that kind. -/
theorem Trial.trace_of_failsWith {ε ρ : Type} {p : Program (Except ε Unit × ρ)} {t : Trial}
    (check : List Exchange → Bool) (fresh : t.deeds = [])
    (fails : failsWith p t (fun _ u => check (exchanges u.deeds)) = true) :
    ∃ e r ds, p.Trace ds (.error e, r) ∧ check (exchanges ds) = true := by
  obtain ⟨e, r, u, result, checked⟩ := exists_of_failsWith fails
  obtain ⟨ds, deeds, trace⟩ := trace_of_run result
  rw [fresh, List.nil_append] at deeds
  exact ⟨e, r, ds, trace, deeds ▸ checked⟩

end DataplaneSync
