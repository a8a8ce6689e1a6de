import DataplaneSync.Proofs.TaskParts

namespace DataplaneSync

/-!
# Passes that end at the first refusal

A pass over the interfaces makes no call once one has been refused.  If one more call is refused in
a run, all that comes before is as it was, and nothing comes after.

* `Program.Ends`, `Program.Aborts` — a program makes no more calls, and it does so after the first
  refusal.
* `Pass.Aborts` — the same of passes, with the failure that a refusal leads to.
* `Trial.history` — the calls of a run, with what the dataplane was like just before each.
* `Trial.exists_run_of_aborts` — what becomes of such a program if one more call is refused.
* `InterfaceReconciler.reconcile_aborts` — what becomes of a pass over the interfaces.
-/

/-! ### Programs -/

namespace Program

variable {α β : Type} {P : α → Prop} {cs : List Call}

/-- A program makes no more calls, and ends with a value that `P` accepts. -/
def Ends (P : α → Prop) : Program α → Prop
  | done a => P a
  | ask _ _ => False
  | note _ next => next.Ends P

/-- A program makes no more calls once a call has been refused, after the calls `cs` and those of
its own that have been granted.  It then ends as `fails` says of those calls, of the refused one
and of the reason. -/
def Aborts (fails : List Call → Call → String → α → Prop) : List Call → Program α → Prop
  | _, done _ => True
  | cs, ask c next =>
    (∀ reason, (next (.error reason)).Ends (fails cs c reason)) ∧
      ∀ reply, (next (.ok reply)).Aborts fails (cs ++ [c])
  | cs, note _ next => next.Aborts fails cs

theorem Ends.bind {p : Program α} {f : α → Program β} {Q : β → Prop} (ends : p.Ends P)
    (onward : ∀ a, P a → (f a).Ends Q) : (p.bind f).Ends Q := by
  induction p with
  | done a => exact onward a ends
  | ask c next ih => exact ends.elim
  | note e next ih => exact ih ends

/-- Two programs that follow each other abort if both do, and if the second makes no call after
the first has failed. -/
theorem Aborts.bind {p : Program α} {f : α → Program β}
    {fails : List Call → Call → String → α → Prop} {fails' : List Call → Call → String → β → Prop}
    (first : p.Aborts fails cs)
    (failed : ∀ cs' c reason a, fails cs' c reason a → (f a).Ends (fails' cs' c reason))
    (onward : ∀ a cs', cs <+: cs' → (f a).Aborts fails' cs') : (p.bind f).Aborts fails' cs := by
  induction p generalizing cs with
  | done a => exact onward a cs (List.prefix_refl cs)
  | ask c next ih =>
    obtain ⟨refused, granted⟩ := first
    refine ⟨fun reason => (refused reason).bind (failed cs c reason), fun reply => ?_⟩
    exact ih (.ok reply) (granted reply) fun a cs' longer =>
      onward a cs' ((List.prefix_append cs [c]).trans longer)
  | note e next ih => exact ih first onward

end Program

/-! ### Passes -/

namespace Pass

variable {σ ε α β : Type} {fails : List Call → Call → String → ε → Prop} {cs : List Call}
variable {c : Call}

/-- A pass that comes after the calls `cs` makes no more calls once one has been refused, and ends
with a failure as `fails` says. -/
def Aborts (fails : List Call → Call → String → ε → Prop) (cs : List Call) (p : Pass σ ε α) :
    Prop :=
  ∀ s, Program.Aborts (fun cs' c reason x => ∃ e t, x = (.error e, t) ∧ fails cs' c reason e) cs
    (p s)

theorem aborts_pure (a : α) : (pure a : Pass σ ε α).Aborts fails cs := fun _ => trivial

theorem aborts_get : (get : Pass σ ε σ).Aborts fails cs := fun _ => trivial

theorem aborts_modify {f : σ → σ} : (modify f : Pass σ ε PUnit).Aborts fails cs := fun _ => trivial

/-- A failure of the first step is that of both, and the second step makes no call then. -/
theorem Aborts.bind {p : Pass σ ε α} {f : α → Pass σ ε β} (first : p.Aborts fails cs)
    (onward : ∀ a cs', cs <+: cs' → (f a).Aborts fails cs') : (p >>= f).Aborts fails cs := by
  intro s
  refine Program.Aborts.bind (first s) ?_ fun ⟨end_, t⟩ cs' longer => ?_
  · rintro cs' c reason _ ⟨e, t, rfl, failed⟩
    exact ⟨e, t, rfl, failed⟩
  · match end_ with
    | .ok a => exact onward a cs' longer t
    | .error e => exact trivial

theorem aborts_dump {failure : String → ε} (failed : ∀ reason, fails cs c reason (failure reason)) :
    (dump c failure : Pass σ ε c.Reply).Aborts fails cs :=
  fun s => ⟨fun reason => ⟨failure reason, s, rfl, failed reason⟩, fun _ => trivial⟩

theorem aborts_change {subject : Answer c → AuditSubject} {failure : String → ε}
    (failed : ∀ reason, fails cs c reason (failure reason)) :
    (change c subject failure : Pass σ ε c.Reply).Aborts fails cs :=
  fun s => ⟨fun reason => ⟨failure reason, s, rfl, failed reason⟩, fun _ => trivial⟩

theorem aborts_forM {f : β → Pass σ ε PUnit} {xs : List β}
    (each : ∀ x ∈ xs, ∀ cs', cs <+: cs' → (f x).Aborts fails cs') :
    (xs.forM f).Aborts fails cs := by
  induction xs generalizing cs with
  | nil => exact aborts_pure ()
  | cons x xs ih =>
    refine (each x List.mem_cons_self cs (List.prefix_refl cs)).bind fun _ cs' longer => ?_
    exact ih fun y member cs'' longer' =>
      each y (List.mem_cons_of_mem x member) cs'' (longer.trans longer')

end Pass

/-! ### Histories -/

namespace Trial

variable {α : Type} {p : Program α} {t u : Trial} {a : α}

/-- The calls that a program makes in a trial, each with what the dataplane is like just before. -/
def history : Program α → Trial → List (Call × Simulation)
  | .done _, _ => []
  | .ask c next, t => (c, t.simulation) ::
    match answer? c t with
    | some (answer, u) => history (next answer) u
    | none => []
  | .note e next, t => history next { t with deeds := t.deeds ++ [.reported e] }

theorem history_ask {c : Call} {next : Answer c → Program α} {answer : Answer c}
    (answered : answer? c t = some (answer, u)) :
    history (.ask c next) t = (c, t.simulation) :: history (next answer) u := by
  rw [history, answered]

/-- The calls of a run are those of its history. -/
theorem calls_of_run (result : run p t = some (a, u)) :
    u.calls = t.calls ++ (history p t).map Prod.fst := by
  induction p generalizing t with
  | done b =>
    obtain ⟨rfl, rfl⟩ := Prod.mk.inj (Option.some.inj result)
    exact (List.append_nil _).symm
  | ask c next ih =>
    rw [run_ask, Option.bind_eq_some_iff] at result
    obtain ⟨⟨answer, v⟩, answered, rest⟩ := result
    obtain ⟨-, -, made⟩ :=
      answers_of_answer? (fun _ => True) (Or.inr trivial : t.refusals = [] ∨ True) answered
    rw [ih answer rest, made, history_ask answered, List.append_assoc]
    rfl
  | note e next ih =>
    have later := ih (t := { t with deeds := t.deeds ++ [.reported e] }) result
    rw [calls_reported] at later
    exact later

/-- A program that makes no more calls leaves the dataplane as it is. -/
theorem exists_run_of_ends {P : α → Prop} (ends : p.Ends P) (t : Trial) :
    ∃ a u, run p t = some (a, u) ∧ P a ∧ u.simulation = t.simulation ∧ u.calls = t.calls := by
  induction p generalizing t with
  | done a => exact ⟨a, t, rfl, ends, rfl, rfl⟩
  | ask c next ih => exact ends.elim
  | note e next ih =>
    obtain ⟨a, u, result, accepted, same, calls_⟩ :=
      ih ends { t with deeds := t.deeds ++ [.reported e] }
    exact ⟨a, u, result, accepted, same, calls_.trans (calls_reported t e)⟩

/-- If a call is refused after which a program makes no more calls, it is the last one. -/
theorem exists_run_of_refused {P : α → Prop} {c : Call} {next : Answer c → Program α}
    {reason : String} (ends : (next (.error reason)).Ends P) (t : Trial) :
    ∃ a u, run (.ask c next) { t with refusals := [some reason] } = some (a, u) ∧ P a ∧
      u.simulation = t.simulation ∧ u.calls = t.calls ++ [c] := by
  obtain ⟨a, u, result, accepted, state, calls_⟩ := exists_run_of_ends ends
    { t with refusals := [], deeds := t.deeds ++ [.called c (.error reason)] }
  exact ⟨a, u, result, accepted, state, calls_.trans (by simp [calls, Deed.call?])⟩

theorem history_of_ends {P : α → Prop} (ends : p.Ends P) (t : Trial) : history p t = [] := by
  induction p generalizing t with
  | done a => rfl
  | ask c next ih => exact ends.elim
  | note e next ih => exact ih ends _

/-- A call that is not to be refused is answered as if no later one were. -/
theorem answer?_spared {c : Call} (calm : t.refusals = []) (later : List (Option String)) :
    answer? c { t with refusals := none :: later } =
      (answer? c t).map fun x => (x.1, { x.2 with refusals := later }) := by
  obtain ⟨simulation, refusals, deeds⟩ := t
  obtain rfl : refusals = [] := calm
  simp only [answer?, Option.map_map]
  rfl

theorem calm_of_answer? {c : Call} {answer : Answer c} (calm : t.refusals = [])
    (answered : answer? c t = some (answer, u)) : u.refusals = [] := by
  obtain ⟨-, calm', -⟩ :=
    answers_of_answer? (fun _ => True) (Or.inl calm : t.refusals = [] ∨ False) answered
  exact calm'.resolve_right id

/-- If one more call is refused in a trial, a program that aborts then has made the same calls up
to that one; it ends as the refusal makes it end, and the dataplane stays as it was just before. -/
theorem exists_run_of_aborts {fails : List Call → Call → String → α → Prop} {cs : List Call}
    {k : Nat} {c : Call} {s : Simulation} (aborts : p.Aborts fails cs) (calm : t.refusals = [])
    (due : (history p t)[k]? = some (c, s)) (reason : String) :
    ∃ a u, run p { t with refusals := List.replicate k none ++ [some reason] } = some (a, u) ∧
      u.calls = t.calls ++ ((history p t).take (k + 1)).map Prod.fst ∧ u.simulation = s ∧
      fails (cs ++ ((history p t).take k).map Prod.fst) c reason a := by
  induction p generalizing t cs k with
  | done b => contradiction
  | note e next ih =>
    obtain ⟨a, u, result, calls_, state, failed⟩ :=
      ih (t := { t with deeds := t.deeds ++ [.reported e] }) aborts calm due
    rw [calls_reported] at calls_
    exact ⟨a, u, result, calls_, state, failed⟩
  | ask d next ih =>
    obtain ⟨refused, granted⟩ := aborts
    cases k with
    | zero =>
      -- this very call is refused
      rw [history, List.getElem?_cons_zero] at due
      obtain ⟨rfl, rfl⟩ : d = c ∧ t.simulation = s := Prod.mk.inj (Option.some.inj due)
      obtain ⟨a, u, result, failed, state, calls_⟩ := exists_run_of_refused (refused reason) t
      refine ⟨a, u, result, ?_, state, by simpa using failed⟩
      rw [calls_, history]
      rfl
    | succ k =>
      cases answered : answer? d t with
      | none =>
        rw [history, answered] at due
        contradiction
      | some x =>
        obtain ⟨answer, v⟩ := x
        rw [history_ask answered] at due ⊢
        cases answer with
        | error reason' =>
          -- after a refusal there is no later call
          rw [history_of_ends (refused reason')] at due
          contradiction
        | ok reply =>
          obtain ⟨-, -, made⟩ :=
            answers_of_answer? (fun _ => True) (Or.inr trivial : t.refusals = [] ∨ True) answered
          obtain ⟨a, u, result, calls_, state, failed⟩ :=
            ih (.ok reply) (granted reply) (calm_of_answer? calm answered) due
          refine ⟨a, u, ?_, ?_, state, ?_⟩
          · rw [List.replicate_succ, List.cons_append, run_ask, answer?_spared calm, answered]
            exact result
          · rw [calls_, made, List.append_assoc]
            rfl
          · rw [List.append_assoc] at failed
            exact failed

end Trial

/-! ### Interfaces -/

/-- The interface and the index of a call that removes an interface. -/
def Call.removed? : Call → Option (Interface × UInt32)
  | interface (.delete actual index) => some (actual, index)
  | _ => none

namespace InterfaceReconciler

variable {wanted : List Interface} {cs : List Call}

/-- Whether interfaces are dumped by some calls. -/
def dumpedBy (cs : List Call) : Bool := cs.any fun
  | .interface .dump => true
  | _ => false

/-- The failure of a refused call that comes after others. -/
def Fails (cs : List Call) (c : Call) (reason : String) (e : InterfaceFailure) : Prop :=
  ∃ call, c = .interface call ∧ e = call.failure (dumpedBy cs) reason

theorem dumpedBy_mono {cs' : List Call} (dumped : dumpedBy cs = true) (longer : cs <+: cs') :
    dumpedBy cs' = true := by
  obtain ⟨later, rfl⟩ := longer
  rw [dumpedBy, List.any_append, Bool.or_eq_true]
  exact Or.inl dumped

/-! The steps follow a dump, so another one is to refresh the states. -/

theorem aborts_register (name : String) (index : UInt32) (i : Interface) :
    (register name index i).Aborts Fails cs := by
  refine Pass.aborts_modify.bind fun _ _ _ => Pass.aborts_get.bind fun r _ _ => ?_
  refine (Pass.aborts_change fun reason => ⟨_, rfl, rfl⟩).bind fun _ _ _ => ?_
  exact Pass.aborts_modify.bind fun _ _ _ => Pass.aborts_modify

theorem aborts_adjust (wanted actual : Interface) (index : UInt32) :
    (adjust wanted actual index).Aborts Fails cs := by
  unfold adjust
  split
  · exact Pass.aborts_pure ()
  · refine Pass.aborts_get.bind fun r _ _ => ?_
    exact (Pass.aborts_change fun reason => ⟨_, rfl, rfl⟩).bind fun _ _ _ => Pass.aborts_modify

/-- An interface is removed under its tag, or under the placeholder if it has none. -/
theorem aborts_remove {name : String} {actual : Interface} (index : UInt32)
    (named : name = (if actual.isTagged then actual.name else Interface.placeholderName)) :
    (remove name actual index).Aborts Fails cs := by
  have failed : ∀ cs' reason, Fails cs' (.interface (.delete actual index)) reason
      (.delete name index reason) := by
    intro cs' reason
    refine ⟨_, rfl, ?_⟩
    rw [named]
    rfl
  refine Pass.aborts_get.bind fun r cs' _ => (Pass.aborts_change (failed cs')).bind fun _ _ _ => ?_
  exact Pass.aborts_modify.bind fun _ _ _ => Pass.aborts_modify

theorem aborts_create (wanted : Interface) : (create wanted).Aborts Fails cs := by
  refine Pass.aborts_get.bind fun r _ _ => ?_
  refine (Pass.aborts_change fun reason => ⟨_, rfl, rfl⟩).bind fun _ _ _ => ?_
  exact Pass.aborts_modify.bind fun _ _ _ => Pass.aborts_modify.bind fun _ _ _ => Pass.aborts_modify

theorem aborts_refresh (dumped : dumpedBy cs = true) : refresh.Aborts Fails cs := by
  have failed : ∀ reason, Fails cs (.interface .dump) reason (.status reason) := by
    intro reason
    refine ⟨.dump, rfl, ?_⟩
    rw [InterfaceCall.failure, dumped, if_pos rfl]
  exact (Pass.aborts_dump failed).bind fun _ _ _ => Pass.aborts_modify

theorem aborts_settleTagged (index : UInt32) (details : InterfaceDetails) :
    (settleTagged wanted index details).Aborts Fails cs := by
  unfold settleTagged
  dsimp only
  split
  · exact aborts_register _ _ _
  · split
    · exact Pass.aborts_pure ()
    · next tagged =>
      split
      · exact (aborts_register _ _ _).bind fun _ _ _ => aborts_adjust _ _ _
      · have under : details.interface.isTagged = true := by simpa using tagged
        exact (aborts_register _ _ _).bind fun _ _ _ => aborts_remove _ (if_pos under).symm

theorem aborts_settleUntagged (index : UInt32) {details : InterfaceDetails}
    (untagged : details.interface.isTagged = false) :
    (settleUntagged wanted index details).Aborts Fails cs := by
  refine Pass.aborts_get.bind fun r _ _ => ?_
  split
  · exact (aborts_register _ _ _).bind fun _ _ _ => aborts_adjust _ _ _
  · refine (aborts_register _ _ _).bind fun _ _ _ => aborts_remove _ ?_
    rw [untagged]
    rfl

theorem aborts_settleMissing (w : Interface) : (settleMissing w).Aborts Fails cs := by
  refine Pass.aborts_get.bind fun r _ _ => ?_
  split
  · exact Pass.aborts_pure ()
  · exact aborts_create w

/-- What is left of a pass after its dump ends at the first refusal. -/
theorem aborts_settleDumped (actual : Table UInt32 InterfaceDetails) (dumped : dumpedBy cs = true) :
    (settleDumped wanted actual).Aborts Fails cs := by
  refine (Pass.aborts_forM fun x _ _ _ => aborts_settleTagged x.1 x.2).bind fun _ _ longer => ?_
  refine (Pass.aborts_forM fun x member _ _ => ?_).bind fun _ _ longer' => ?_
  · have untagged := (Bool.and_eq_true_iff.mp (List.mem_filter.mp member).2).2
    exact aborts_settleUntagged x.1 (by simpa using untagged)
  refine (Pass.aborts_forM fun w _ _ _ => aborts_settleMissing w).bind fun _ _ longer'' => ?_
  refine Pass.aborts_get.bind fun r _ longer₃ => ?_
  split
  · exact Pass.aborts_pure ()
  · exact aborts_refresh (dumpedBy_mono dumped
      (longer.trans (longer'.trans (longer''.trans longer₃))))

/-- Each pass over the interfaces ends at the first refusal. -/
theorem aborts_reconcile (wanted : List Interface) : (reconcile wanted).Aborts Fails [] := by
  intro r
  rw [reconcile_eq]
  split
  · refine ⟨fun reason => ⟨_, _, rfl, .dumpSockets, rfl, rfl⟩, fun sockets => ?_⟩
    -- the first dump of interfaces; all later calls come after it
    refine ⟨fun reason => ⟨_, _, rfl, .dump, rfl, rfl⟩, fun actual => ?_⟩
    have dumped : dumpedBy [.interface .dumpSockets, .interface .dump] = true := rfl
    exact aborts_settleDumped actual dumped _
  · exact trivial

/-! ### Two runs -/

variable {r t : InterfaceReconciler} {s : Simulation} {u : Trial} {k : Nat}
variable {end_ : Except InterfaceFailure Unit}

/-- If just one of the calls that a pass makes on the simulated dataplane is refused without effect,
the pass makes the same calls up to that one and none after it, fails as that call does with the
reason of the refusal, and leaves the dataplane as it was in the first run just before the call. -/
theorem reconcile_aborts
    (clean : Trial.run (reconcile wanted r) { simulation := s } = some ((end_, t), u))
    (due : k < u.calls.length) (reason : String) :
    ∃ call before t' v, u.calls[k]? = some (.interface call) ∧
      (Trial.history (reconcile wanted r) { simulation := s })[k]? =
        some (.interface call, before) ∧
      Trial.run (reconcile wanted r)
        { simulation := s, refusals := List.replicate k none ++ [some reason] } =
          some ((.error (call.failure (dumpedBy (u.calls.take k)) reason), t'), v) ∧
      v.calls = u.calls.take (k + 1) ∧ v.simulation = before := by
  have calls_ : u.calls = (Trial.history (reconcile wanted r) { simulation := s }).map Prod.fst :=
    Trial.calls_of_run clean
  rw [calls_, List.length_map] at due
  have there := List.getElem?_eq_getElem due
  generalize (Trial.history (reconcile wanted r) { simulation := s })[k] = x at there
  obtain ⟨c, before⟩ := x
  obtain ⟨_, v, result, made, state, e, t', rfl, call, rfl, rfl⟩ :=
    Trial.exists_run_of_aborts (aborts_reconcile wanted r) rfl there reason
  rw [calls_, ← List.map_take, ← List.map_take]
  refine ⟨call, before, t', v, ?_, there, result, made, state⟩
  rw [List.getElem?_map, there]
  rfl

/-- A dataplane with an interface that is not wanted. -/
def cellarSnapshot : Snapshot where
  interfaces := [{ interface := { name := "old" }, internalName := "loop1", index := 1 }]

/-- If the removal of that interface is refused, the wanted one is not created. -/
theorem reconcile_aborts_cellar :
    ∃ s t v, Simulation.ofSnapshot? cellarSnapshot = some s ∧
      Trial.run (reconcile [{ name := "new" }] {})
        { simulation := s, refusals := [none, none, none, none, some "busy"] } =
          some ((.error (.delete "old" 1 "busy"), t), v) ∧
      v.calls.map Call.name = ["dump_memif_socket_details", "dump_interfaces",
        "set_interface_tag", "set_interface_tag", "delete_interface"] := by
  have goes : Trial.succeedsOn cellarSnapshot (reconcile [{ name := "new" }] {}) (fun _ _ u =>
      decide ((u.calls.take 5).map Call.name = ["dump_memif_socket_details", "dump_interfaces",
        "set_interface_tag", "set_interface_tag", "delete_interface"] ∧
        u.calls[4]?.bind Call.removed? = some ({ name := "old" }, 1))) = true := by
    decide +kernel
  obtain ⟨s, _, r, u, start, clean, goes⟩ := Trial.exists_of_succeedsOn goes
  obtain ⟨names_, removal⟩ := of_decide_eq_true goes
  obtain ⟨c, there, removal⟩ := Option.bind_eq_some_iff.mp removal
  have due : 4 < u.calls.length := (List.getElem?_eq_some_iff.mp there).1
  obtain ⟨call, before, t, v, at_, -, result, made, -⟩ := reconcile_aborts clean due "busy"
  obtain rfl : c = .interface call := Option.some.inj (there.symm.trans at_)
  refine ⟨s, t, v, start, ?_, (congrArg (List.map Call.name) made).trans names_⟩
  -- the refused call is the removal, so the failure is that of a removal
  cases call with
  | delete actual index =>
    obtain ⟨rfl, rfl⟩ := Prod.mk.inj (Option.some.inj removal)
    exact result
  | _ => cases removal

end InterfaceReconciler

end DataplaneSync
