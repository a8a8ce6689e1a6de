import DataplaneSync.Audit.Event
import DataplaneSync.Dataplane.Call

namespace DataplaneSync

/-!
# Programs against a dataplane

A program is the tree of everything it may do: each call it makes continues in one way for
every answer, be it a reply or a refusal.  The tree fixes no dataplane, so what holds of all its
branches holds whatever a dataplane does.

* `Program` — calls, audit events, and a value at the end.
* `Program.run` — a run against something that answers calls and takes events.
* the monad laws.
-/

/-- What a call comes back with: a reply, or the reason why it was refused. -/
abbrev Answer (c : Call) : Type := Except String c.Reply

/-- A program that calls a dataplane, reports events and ends with a value. -/
inductive Program (α : Type) : Type where
  /-- The end. -/
  | done (value : α)
  /-- Make a call and go on with its answer. -/
  | ask (call : Call) (next : Answer call → Program α)
  /-- Report an event and go on. -/
  | note (event : AuditEvent) (next : Program α)

namespace Program

variable {α β : Type}

/-- Go on with the value at the end of a program. -/
def bind : Program α → (α → Program β) → Program β
  | done a, f => f a
  | ask c next, f => ask c fun r => (next r).bind f
  | note e next, f => note e (next.bind f)

instance : Monad Program where
  pure := done
  bind := bind

/-- Make one call. -/
def call (c : Call) : Program (Answer c) := ask c done

/-- Report one event. -/
def report (e : AuditEvent) : Program Unit := note e (done ())

/-- Run a program against something that answers calls and takes events. -/
def run {m : Type → Type} [Monad m] (answer : (c : Call) → m (Answer c))
    (take : AuditEvent → m Unit) : Program α → m α
  | done a => pure a
  | ask c next => do run answer take (next (← answer c))
  | note e next => do
    take e
    run answer take next

/-! ### Laws -/

@[simp] theorem pure_eq (a : α) : (pure a : Program α) = done a := rfl
@[simp] theorem bind_eq (p : Program α) (f : α → Program β) : p >>= f = p.bind f := rfl

/-- A program is itself when it goes on by ending. -/
theorem bind_done (p : Program α) : p.bind done = p := by
  induction p with
  | done a => rfl
  | ask c next ih => exact congrArg (ask c) (funext ih)
  | note e next ih => exact congrArg (note e) ih

/-- Going on twice is going on with both steps. -/
theorem bind_assoc {γ : Type} (p : Program α) (f : α → Program β) (g : β → Program γ) :
    (p.bind f).bind g = p.bind fun a => (f a).bind g := by
  induction p with
  | done a => rfl
  | ask c next ih => exact congrArg (ask c) (funext ih)
  | note e next ih => exact congrArg (note e) ih

instance : LawfulMonad Program := LawfulMonad.mk' Program bind_done (fun _ _ => rfl) bind_assoc

end Program

end DataplaneSync
