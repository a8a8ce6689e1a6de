import DataplaneSync.Dataplane.Simulation

namespace DataplaneSync

/-!
# Atomic effects

A call is carried out in steps, and the step that stops it does not take back those before it.
That a call which is stopped has no effect depends on the order of its steps.

* `Effect.Runs`, `Effect.Atomic` — an effect that nothing stops, and one that has changed nothing
  where it is stopped.  What nothing stops may follow an atomic effect (`Effect.Atomic.bind_runs`).
* `Links.atomic_take` — the one step that changes the state before it refuses the call: it takes an
  interface out of the table and only then sees whether there was one.
* `InterfaceCall.atomic_perform`, `StnCall.atomic_perform`, `BfdCall.atomic_perform` — every call is
  atomic, and none but a creation comes to the end of the indexes; `NatCall.runs_perform` — a call
  about NAT is never stopped.
-/

/-! ### Effects in sequence -/

namespace Effect

variable {σ ρ κ : Type} {e : Effect σ ρ} {f : ρ → Effect σ κ} {s t u : σ} {x : ρ} {o : Obstacle}

/-- An effect that comes to a reply is followed by what is made of the reply. -/
theorem bind_of_ok (made : e s = (.ok x, t)) : (e >>= f) s = f x t := by
  show ExceptT.bindCont f (e s).1 (e s).2 = f x t
  rw [made]
  rfl

/-- An effect that is stopped is followed by nothing. -/
theorem bind_of_error (stopped : e s = (.error o, t)) : (e >>= f) s = (.error o, t) := by
  show ExceptT.bindCont f (e s).1 (e s).2 = (.error o, t)
  rw [stopped]
  rfl

/-- Two effects in sequence are stopped in the first one or in the second one. -/
theorem cases_of_bind_error (stopped : (e >>= f) s = (.error o, u)) :
    e s = (.error o, u) ∨ ∃ x t, e s = (.ok x, t) ∧ f x t = (.error o, u) := by
  match first : e s with
  | (.ok x, t) =>
    rw [bind_of_ok first] at stopped
    exact Or.inr ⟨x, t, rfl, stopped⟩
  | (.error o', t) =>
    rw [bind_of_error first] at stopped
    cases stopped
    exact Or.inl rfl

theorem find_of_some {look : σ → Option ρ} {reason : String} (found : look s = some x) :
    find look reason s = (.ok x, s) := by
  show require (look s) reason s = (.ok x, s)
  rw [found]
  rfl

theorem find_of_none {look : σ → Option ρ} {reason : String} (missing : look s = none) :
    find look reason s = (.error (.refused reason), s) := by
  show require (look s) reason s = (.error (.refused reason), s)
  rw [missing]
  rfl

/-- What has been looked for and is not refused has been found. -/
theorem found_of_find_bind {κ : Type} {f : ρ → Effect σ κ} {y : κ} {look : σ → Option ρ}
    {reason : String} (carried : (find look reason >>= f) s = (.ok y, t)) :
    ∃ x, look s = some x ∧ f x s = (.ok y, t) := by
  cases found : look s with
  | some x =>
    rw [bind_of_ok (find_of_some found)] at carried
    exact ⟨x, rfl, carried⟩
  | none =>
    rw [bind_of_error (find_of_none found)] at carried
    cases carried

/-! ### Effects that are stopped before they change anything -/

/-- An effect that nothing stops. -/
def Runs (e : Effect σ ρ) : Prop := ∀ s o t, e s ≠ (.error o, t)

/-- An effect that has changed nothing where it is stopped, by an obstacle of a certain kind. -/
def Atomic (kind : Obstacle → Prop) (e : Effect σ ρ) : Prop :=
  ∀ s o t, e s = (.error o, t) → t = s ∧ kind o

variable {kind kind' : Obstacle → Prop}

theorem runs_pure (x : ρ) : (pure x : Effect σ ρ).Runs := fun _ _ _ h => nomatch (Prod.mk.inj h).1

theorem runs_modify (g : σ → σ) : (modify g : Effect σ Unit).Runs :=
  fun _ _ _ h => nomatch (Prod.mk.inj h).1

/-- Dumps have this form. -/
theorem runs_read (g : σ → ρ) : (get >>= fun s => pure (g s) : Effect σ ρ).Runs :=
  fun _ _ _ h => nomatch (Prod.mk.inj h).1

theorem Runs.bind (runs : e.Runs) (next : ∀ x, (f x).Runs) : (e >>= f).Runs := by
  intro s o u stopped
  rcases cases_of_bind_error stopped with first | ⟨x, t, -, second⟩
  · exact runs s o u first
  · exact next x t o u second

theorem Runs.atomic (runs : e.Runs) : e.Atomic kind :=
  fun s o t stopped => absurd stopped (runs s o t)

theorem Atomic.mono (atomic : e.Atomic kind) (wider : ∀ o, kind o → kind' o) : e.Atomic kind' :=
  fun s o t stopped => (atomic s o t stopped).imp id (wider o)

/-- What nothing stops may come after an atomic effect. -/
theorem Atomic.bind_runs (atomic : e.Atomic kind) (next : ∀ x, (f x).Runs) :
    (e >>= f).Atomic kind := by
  intro s o u stopped
  rcases cases_of_bind_error stopped with first | ⟨x, t, -, second⟩
  · exact atomic s o u first
  · exact absurd second (next x t o u)

/-- To look for something changes nothing. -/
theorem atomic_find (look : σ → Option ρ) (reason : String) :
    (find look reason).Atomic (· ≠ .outOfIndexes) := by
  intro s o t stopped
  cases found : look s with
  | some x =>
    rw [find_of_some found] at stopped
    cases stopped
  | none =>
    rw [find_of_none found] at stopped
    cases stopped
    exact ⟨rfl, nofun⟩

/-- A thing that is to be changed is looked for before anything is changed. -/
theorem atomic_find_modify (look : σ → Option ρ) (reason : String) (g : ρ → σ → σ) :
    (find look reason >>= fun x => modify (g x)).Atomic (· ≠ .outOfIndexes) :=
  (atomic_find look reason).bind_runs fun x => runs_modify (g x)

end Effect

/-! ### Calls about interfaces and rules -/

/-- Where there is no entry, none is dropped. -/
theorem Table.erase_of_get?_eq_none {κ α : Type} [LT κ] [DecidableEq κ] {t : Table κ α} {k : κ}
    (absent : t.get? k = none) : t.erase k = t := by
  refine Table.ext_entries (List.filter_eq_self.mpr fun e he => ?_)
  have other : ¬ k = e.1 := by simpa using List.lookup_eq_none_iff.mp absent e he
  exact bne_iff_ne.mpr fun same => other same.symm

namespace Links

open Effect

variable {l : Links} {index : UInt32} {d : InterfaceDetails} {i : Interface}

theorem find_of_some (present : l.interfaces.get? index = some d) : find index l = (.ok d, l) :=
  Effect.find_of_some present

theorem find_of_none (absent : l.interfaces.get? index = none) :
    find index l = (.error (.refused (missing index)), l) :=
  Effect.find_of_none absent

theorem take_of_some (present : l.interfaces.get? index = some d) :
    take index l = (.ok d, { l with interfaces := l.interfaces.erase index }) := by
  show require (l.interfaces.get? index) (missing index) _ = _
  rw [present]
  rfl

/-- Where there is no interface, the table is the same by the time that this is seen. -/
theorem take_of_none (absent : l.interfaces.get? index = none) :
    take index l = (.error (.refused (missing index)), l) := by
  show require (l.interfaces.get? index) (missing index) { l with interfaces := _ } = _
  rw [absent, Table.erase_of_get?_eq_none absent]
  rfl

/-- The table has been changed by the time that a removal is refused, but it has lost nothing. -/
theorem atomic_take (index : UInt32) : (take index).Atomic (· ≠ .outOfIndexes) := by
  intro l o t stopped
  cases found : l.interfaces.get? index with
  | some d =>
    rw [take_of_some found] at stopped
    cases stopped
  | none =>
    rw [take_of_none found] at stopped
    cases stopped
    exact ⟨rfl, nofun⟩

/-- The rules are looked at only when the interface has been there. -/
theorem atomic_remove (index : UInt32) : (remove index).Atomic (· ≠ .outOfIndexes) :=
  (atomic_take index).bind_runs fun _ => runs_modify _

theorem atomic_tag (name : String) (index : UInt32) :
    (tag name index).Atomic (· ≠ .outOfIndexes) := by
  refine (atomic_find _ _).bind_runs fun d => ?_
  split
  · exact runs_modify _
  · exact runs_pure ()

theorem atomic_reconfigure (index : UInt32) (wanted : Interface) :
    (reconfigure index wanted).Atomic (· ≠ .outOfIndexes) :=
  atomic_find_modify _ _ _

theorem create_of_room (room : l.nextIndex.toNat + 1 < UInt32.size) :
    create i l = (.ok l.nextIndex,
      { l with
        interfaces := l.interfaces.insert l.nextIndex
          ⟨i, internalName i.type l.nextIndex, l.nextIndex⟩
        nextIndex := l.nextIndex + 1
        sockets := l.openSocket i }) := by
  show (if l.nextIndex.toNat + 1 < UInt32.size then _ else throw .outOfIndexes : Effect ..) l = _
  rw [if_pos room]
  rfl

theorem create_of_full (full : ¬ l.nextIndex.toNat + 1 < UInt32.size) :
    create i l = (.error .outOfIndexes, l) := by
  show (if l.nextIndex.toNat + 1 < UInt32.size then _ else throw .outOfIndexes : Effect ..) l = _
  rw [if_neg full]
  rfl

/-- That no index is left is seen before the index of the next interface is counted up. -/
theorem atomic_create (i : Interface) : (create i).Atomic (· = .outOfIndexes) := by
  intro l o t stopped
  by_cases room : l.nextIndex.toNat + 1 < UInt32.size
  · rw [create_of_room room] at stopped
    cases stopped
  · rw [create_of_full room] at stopped
    cases stopped
    exact ⟨rfl, rfl⟩

end Links

open Effect

/-- A call about interfaces that is stopped has changed nothing, and only a creation may come to
the end of the indexes. -/
theorem InterfaceCall.atomic_perform (c : InterfaceCall) :
    c.perform.Atomic fun o => o = .outOfIndexes → ∃ i, c = configure i := by
  have refused : ∀ o : Obstacle, o ≠ .outOfIndexes → o = .outOfIndexes → ∃ i, c = configure i :=
    fun o other same => absurd same other
  cases c with
  | dump => exact (runs_read _).atomic
  | dumpSockets => exact (runs_read _).atomic
  | setTag tag index => exact (Links.atomic_tag tag index).mono refused
  | configure i => exact (Links.atomic_create i).mono fun _ _ _ => ⟨i, rfl⟩
  | modify wanted actual index => exact (Links.atomic_reconfigure index wanted).mono refused
  | delete actual index => exact (Links.atomic_remove index).mono refused

/-- A call about rules that is stopped has changed nothing. -/
theorem StnCall.atomic_perform (c : StnCall) : c.perform.Atomic (· ≠ .outOfIndexes) := by
  cases c with
  | dump => exact (runs_read _).atomic
  | add rule index => exact (runs_modify _).atomic
  | delete address index => exact atomic_find_modify _ _ _

/-- A call about rules that is carried out changes nothing, or it adds a rule or removes one. -/
theorem StnCall.cases_of_perform {l l' : Links} {c : StnCall} {reply : c.Reply}
    (carried : c.perform l = (.ok reply, l')) :
    l' = l ∨
      (∃ rule index, c = add rule index ∧
        l' = { l with rules := l.rules ++ [⟨rule.address, rule.interface, index⟩] }) ∨
      ∃ address index, c = delete address index ∧
        l' = { l with rules := l.rules.eraseP (·.isAt address index) } := by
  cases c with
  | dump => exact Or.inl (Prod.mk.inj carried).2.symm
  | add rule index =>
    exact Or.inr (Or.inl ⟨rule, index, rfl, (Prod.mk.inj carried).2.symm⟩)
  | delete address index =>
    obtain ⟨rule, -, removed⟩ := found_of_find_bind carried
    exact Or.inr (Or.inr ⟨address, index, rfl, (Prod.mk.inj removed).2.symm⟩)

/-- It changes nothing but rules. -/
theorem StnCall.exists_rules_of_perform {l l' : Links} {c : StnCall} {reply : c.Reply}
    (carried : c.perform l = (.ok reply, l')) : ∃ rules, l' = { l with rules := rules } := by
  obtain rfl | ⟨rule, index, -, rfl⟩ | ⟨address, index, -, rfl⟩ := cases_of_perform carried
  · exact ⟨l'.rules, rfl⟩
  · exact ⟨_, rfl⟩
  · exact ⟨_, rfl⟩

/-! ### Calls about forwarding detection and NAT -/

/-- A call about forwarding detection that is stopped has changed nothing. -/
theorem BfdCall.atomic_perform (c : BfdCall) : c.perform.Atomic (· ≠ .outOfIndexes) := by
  cases c with
  | dumpSessions => exact (runs_read _).atomic
  | dumpKeys => exact (runs_read _).atomic
  | configureSession session => exact (runs_modify _).atomic
  | modifySession actual wanted => exact atomic_find_modify _ _ _
  | deleteSession actual => exact atomic_find_modify _ _ _
  | configureKey key => exact (runs_modify _).atomic
  | modifyKey actual wanted => exact atomic_find_modify _ _ _
  | deleteKey actual => exact atomic_find_modify _ _ _
  | configureEcho echo => exact (runs_modify _).atomic

/-- A call about NAT is never stopped: it adds the group that it does not find. -/
theorem NatCall.runs_perform (c : NatCall) : c.perform.Runs := by
  cases c with
  | dumpGlobal => exact runs_read _
  | dumpDestinations => exact runs_read _
  | deleteMapping label m => exact (runs_modify _).bind fun _ => runs_modify _
  | _ => exact runs_modify _

/-! ### All calls -/

namespace Simulation

variable {s u : Simulation}

/-- What is made of the state when a call has come to an outcome on its part. -/
theorem exists_of_map {σ ρ : Type} {f : σ → Simulation} {outcome : Except Obstacle ρ × σ}
    {result : Except Obstacle ρ} (came : outcome.map id f = (result, u)) :
    ∃ x, outcome = (result, x) ∧ u = f x := by
  obtain ⟨rfl, rfl⟩ := Prod.mk.inj came
  exact ⟨outcome.2, rfl, rfl⟩

theorem exists_of_interface {call : InterfaceCall} {result : Except Obstacle call.Reply}
    (came : s.perform (.interface call) = (result, u)) :
    ∃ l, call.perform s.links = (result, l) ∧ u = { s with links := l } :=
  exists_of_map came

theorem exists_of_stn {call : StnCall} {result : Except Obstacle call.Reply}
    (came : s.perform (.stn call) = (result, u)) :
    ∃ l, call.perform s.links = (result, l) ∧ u = { s with links := l } :=
  exists_of_map came

theorem exists_of_bfd {call : BfdCall} {result : Except Obstacle call.Reply}
    (came : s.perform (.bfd call) = (result, u)) :
    ∃ d, call.perform s.detection = (result, d) ∧ u = { s with detection := d } :=
  exists_of_map came

theorem exists_of_nat {call : NatCall} {result : Except Obstacle call.Reply}
    (came : s.perform (.nat call) = (result, u)) :
    ∃ n, call.perform s.nat = (result, n) ∧ u = { s with nat := n } :=
  exists_of_map came

/-- A call that is stopped has changed nothing, and it has come to the end of the indexes only if
it creates an interface and there is no index left. -/
theorem atomic_perform {c : Call} {o : Obstacle}
    (stopped : s.perform c = (.error o, u)) :
    u = s ∧ (o = .outOfIndexes → ∃ i, c = .interface (.configure i) ∧
      UInt32.size ≤ s.links.nextIndex.toNat + 1) := by
  cases c with
  | interface call =>
    obtain ⟨l, there, rfl⟩ := exists_of_interface stopped
    obtain ⟨rfl, creates⟩ := call.atomic_perform s.links o l there
    refine ⟨rfl, fun ends => ?_⟩
    obtain ⟨i, rfl⟩ := creates ends
    refine ⟨i, rfl, Nat.le_of_not_lt fun room => ?_⟩
    cases (Links.create_of_room room).symm.trans there
  | stn call =>
    obtain ⟨l, there, rfl⟩ := exists_of_stn stopped
    obtain ⟨rfl, refused⟩ := call.atomic_perform s.links o l there
    exact ⟨rfl, fun ends => absurd ends refused⟩
  | bfd call =>
    obtain ⟨d, there, rfl⟩ := exists_of_bfd stopped
    obtain ⟨rfl, refused⟩ := call.atomic_perform s.detection o d there
    exact ⟨rfl, fun ends => absurd ends refused⟩
  | nat call =>
    obtain ⟨n, there, rfl⟩ := exists_of_nat stopped
    exact absurd there (call.runs_perform s.nat o n)

end Simulation

end DataplaneSync
