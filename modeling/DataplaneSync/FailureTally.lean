namespace DataplaneSync

/-!
# Failure tallies

A pass that goes on after a failed change counts its failures and reports the last one.
-/

/-- The failures of a pass so far. -/
structure FailureTally (ε : Type) where
  /-- How many there were. -/
  count : Nat := 0
  /-- The last of them. -/
  last? : Option ε := none

namespace FailureTally

variable {ε : Type}

instance : EmptyCollection (FailureTally ε) := ⟨{}⟩
instance : Inhabited (FailureTally ε) := ⟨∅⟩

/-- Count one more failure, which becomes the reported one. -/
def record (t : FailureTally ε) (failure : ε) : FailureTally ε := ⟨t.count + 1, some failure⟩

/-- Whether nothing failed. -/
def isEmpty (t : FailureTally ε) : Bool := t.count == 0

/-- How the pass ends: well if nothing failed, and otherwise with the last failure. -/
def toExcept (t : FailureTally ε) : Except ε Unit :=
  match t.last? with
  | some failure => .error failure
  | none => .ok ()

@[simp] theorem count_record (t : FailureTally ε) (failure : ε) :
    (t.record failure).count = t.count + 1 := rfl

@[simp] theorem toExcept_empty : (∅ : FailureTally ε).toExcept = .ok () := rfl

@[simp] theorem toExcept_record (t : FailureTally ε) (failure : ε) :
    (t.record failure).toExcept = .error failure := rfl

end FailureTally

end DataplaneSync
