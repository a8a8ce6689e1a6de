import DataplaneSync.Proofs.CallAtomicity
import DataplaneSync.Proofs.RegistryGrounding
import DataplaneSync.Proofs.Traces

namespace DataplaneSync

/-!
# Histories of the dataplane

What the simulated dataplane can come to, whatever is asked of it.

* `Simulation.Serves` — from one state to another by the answers to some calls, while other calls
  may be set to fail in between.
* `Simulation.serves_of_serve?` — a list of calls, asked one after the other, is a history.
* `Simulation.Serves.operations`, `Simulation.Serves.eq_of_idle` — the record of a history holds the
  changes that were carried out, and without any of them nothing is changed.
* `Simulation.Turn` — what one exchange does to the interfaces; `Simulation.turn_of_answer?` says
  that it does nothing else.
-/

/-- The operation of an exchange in which something is changed. -/
def Exchange.operation? (x : Exchange) : Option Operation :=
  match x.answer with
  | .ok _ => if x.call.isDump then none else some x.call.operation
  | .error _ => none

namespace Simulation

variable {s t u : Simulation} {xs ys : List Exchange} {x : Exchange}

/-! ### Histories -/

/-- From one state to another by these exchanges, the oldest first.  Which calls are set to fail may
change between them. -/
inductive Serves (s : Simulation) : List Exchange → Simulation → Prop where
  | start : Serves s [] s
  | answered {xs : List Exchange} {t u : Simulation} (x : Exchange) : Serves s xs t →
    t.answer? x.call = some (x.answer, u) → Serves s (xs ++ [x]) u
  | armed {xs : List Exchange} {t : Simulation} (failing : List (Family × CallKind)) :
    Serves s xs t → Serves s xs { t with failing := failing }

/-- One history goes on where another one ends. -/
theorem Serves.trans (first : s.Serves xs t) (second : t.Serves ys u) : s.Serves (xs ++ ys) u := by
  induction second with
  | start => rwa [List.append_nil]
  | answered x _ given ih =>
    rw [← List.append_assoc]
    exact ih.answered x given
  | armed failing _ ih => exact ih.armed failing

/-- Ask for one thing after the other. -/
def serve? (s : Simulation) : List Call → Option (List Exchange × Simulation)
  | [] => some ([], s)
  | c :: later => do
    let (answer, t) ← s.answer? c
    let (xs, u) ← t.serve? later
    pure (⟨c, answer⟩ :: xs, u)

/-- What is asked one after the other is a history. -/
theorem serves_of_serve? {calls : List Call} (result : s.serve? calls = some (xs, t)) :
    s.Serves xs t := by
  induction calls generalizing s xs with
  | nil =>
    obtain ⟨rfl, rfl⟩ := Prod.mk.inj (Option.some.inj result)
    exact .start
  | cons c later ih =>
    simp only [serve?, Option.bind_eq_bind, Option.bind_eq_some_iff] at result
    obtain ⟨⟨answer, v⟩, given, ⟨ys, w⟩, rest, same⟩ := result
    obtain ⟨rfl, rfl⟩ := Prod.mk.inj (Option.some.inj same)
    exact (Serves.start.answered ⟨c, answer⟩ given).trans (ih rest)

/-! ### Records -/

/-- A call is recorded if something is changed. -/
theorem operations_of_answer? (given : s.answer? x.call = some (x.answer, t)) :
    t.operations = s.operations ++ x.operation?.toList := by
  obtain ⟨c, answer⟩ := x
  cases answer with
  | error reason =>
    obtain rfl := eq_of_answer?_error given
    exact (List.append_nil _).symm
  | ok reply =>
    cases dump : c.isDump with
    | true =>
      obtain rfl := eq_of_answer?_dump dump given
      simp [Exchange.operation?, dump]
    | false =>
      rw [(changed_of_answer? dump given).recorded]
      simp [Exchange.operation?, dump]

/-- The record of a history holds the changes that were carried out, in their order, and nothing
else. -/
theorem Serves.operations (served : s.Serves xs t) :
    t.operations = s.operations ++ xs.filterMap Exchange.operation? := by
  induction served with
  | start => simp
  | answered x _ given ih =>
    rw [operations_of_answer? given, ih, List.filterMap_append, List.append_assoc]
    cases h : x.operation? <;> simp [h]
  | armed failing _ ih => exact ih

/-- If nothing is changed, everything stays as it was. -/
theorem Serves.eq_of_idle (served : s.Serves xs t) (idle : ∀ x ∈ xs, x.operation? = none) :
    t = { s with failing := t.failing } := by
  induction served with
  | start => rfl
  | @answered xs t u x _ given ih =>
    have before := ih fun y member => idle y (List.mem_append_left [x] member)
    have last := idle x (List.mem_append_right xs (List.mem_singleton_self x))
    obtain ⟨c, answer⟩ := x
    have same : u = t := by
      cases answer with
      | error reason => exact eq_of_answer?_error given
      | ok reply =>
        refine eq_of_answer?_dump ?_ given
        simpa [Exchange.operation?] using last
    rw [same]
    exact before
  | armed failing _ ih =>
    rw [ih idle]

end Simulation

/-! ### Interfaces -/

namespace Exchange

/-- The index of the interface that an exchange creates. -/
def created? : Exchange → Option UInt32
  | ⟨.interface (.configure _), .ok index⟩ => some index
  | _ => none

/-- The index of the interface that an exchange removes. -/
def removed? : Exchange → Option UInt32
  | ⟨.interface (.delete _ index), .ok _⟩ => some index
  | _ => none

/-- A refused call creates nothing and removes nothing. -/
theorem created?_refused (c : Call) (reason : String) :
    created? ⟨c, .error reason⟩ = none ∧ removed? ⟨c, .error reason⟩ = none := by
  cases c with
  | interface call => cases call <;> exact ⟨rfl, rfl⟩
  | _ => exact ⟨rfl, rfl⟩

end Exchange

namespace Simulation

open InterfaceCall

/-- What an exchange does to the interfaces: nothing, or it puts another one in the place of one
that is there, or it creates one or removes one. -/
inductive Turn (s : Simulation) : Exchange → Simulation → Prop where
  | kept {x : Exchange} {t : Simulation} (created : x.created? = none) (removed : x.removed? = none)
    (agree : s.Agree t .interfaces) : Turn s x t
  | replaced {x : Exchange} {t : Simulation} {index : UInt32} {d : InterfaceDetails}
    {i : Interface} (created : x.created? = none) (removed : x.removed? = none)
    (present : s.links.interfaces.get? index = some d)
    (links : t.links = s.links.replace d index i) : Turn s x t
  | created {i : Interface} {t : Simulation} (room : s.links.nextIndex.toNat + 1 < UInt32.size)
    (links : t.links = added s.links i) :
    Turn s ⟨.interface (.configure i), .ok s.links.nextIndex⟩ t
  | removed {actual : Interface} {index : UInt32} {d : InterfaceDetails} {t : Simulation}
    (present : s.links.interfaces.get? index = some d)
    (links : t.links = without s.links index) :
    Turn s ⟨.interface (.delete actual index), .ok ()⟩ t

variable {s t : Simulation} {x : Exchange}

/-- What is answered does nothing else to the interfaces. -/
theorem turn_of_answer? (given : s.answer? x.call = some (x.answer, t)) : s.Turn x t := by
  obtain ⟨c, answer⟩ := x
  change s.answer? c = some (answer, t) at given
  obtain ⟨reason, rfl, rfl⟩ | ⟨reply, u, rfl, carried, rfl⟩ := cases_of_answer? given
  · obtain ⟨created, removed⟩ := Exchange.created?_refused c reason
    exact .kept created removed ⟨rfl, rfl, rfl⟩
  · cases c with
    | interface call =>
      obtain ⟨l, performed, rfl⟩ := exists_of_interface carried
      -- what is required to be there has been there, as the call is carried out
      cases call with
      | dump =>
        obtain rfl := InterfaceCall.eq_of_dump rfl performed
        exact .kept rfl rfl ⟨rfl, rfl, rfl⟩
      | dumpSockets =>
        obtain rfl := InterfaceCall.eq_of_dump rfl performed
        exact .kept rfl rfl ⟨rfl, rfl, rfl⟩
      | setTag tag index =>
        obtain ⟨d, present⟩ := present_of_perform rfl performed
        rw [perform_setTag present] at performed
        obtain ⟨-, rfl⟩ := Prod.mk.inj performed
        by_cases device : index = 0
        · rw [tagged, if_pos device]
          exact .kept rfl rfl ⟨rfl, rfl, rfl⟩
        · rw [tagged, if_neg device]
          exact .replaced rfl rfl present rfl
      | configure i =>
        by_cases room : s.links.nextIndex.toNat + 1 < UInt32.size
        · rw [perform_configure room] at performed
          cases performed
          exact .created room rfl
        · cases (Links.create_of_full room).symm.trans performed
      | modify wanted actual index =>
        obtain ⟨d, present⟩ := present_of_perform rfl performed
        rw [perform_modify present] at performed
        obtain ⟨-, rfl⟩ := Prod.mk.inj performed
        exact .replaced rfl rfl present rfl
      | delete actual index =>
        obtain ⟨d, present⟩ := present_of_perform rfl performed
        rw [perform_delete present] at performed
        obtain ⟨-, rfl⟩ := Prod.mk.inj performed
        exact .removed present rfl
    | stn call =>
      obtain ⟨l, performed, rfl⟩ := exists_of_stn carried
      obtain ⟨rules, rfl⟩ := call.exists_rules_of_perform performed
      exact .kept rfl rfl ⟨rfl, rfl, rfl⟩
    | bfd call =>
      obtain ⟨d, -, rfl⟩ := exists_of_bfd carried
      exact .kept rfl rfl ⟨rfl, rfl, rfl⟩
    | nat call =>
      obtain ⟨n, -, rfl⟩ := exists_of_nat carried
      exact .kept rfl rfl ⟨rfl, rfl, rfl⟩

end Simulation

end DataplaneSync
