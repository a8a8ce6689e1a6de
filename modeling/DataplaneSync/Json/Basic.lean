import DataplaneSync.Json.Binary64

namespace DataplaneSync

/-!
# JSON values

Values of the interchange format, with whole and other numbers told apart as they are written.
-/

/-- A JSON value.  Members of an object stand in the order in which they are written. -/
inductive Json where
  | null
  | bool (value : Bool)
  /-- A number written without fraction and exponent. -/
  | int (value : Int)
  /-- Any other number. -/
  | real (value : Binary64)
  | str (value : String)
  | arr (items : List Json)
  | obj (members : List (String × Json))

namespace Json

instance : Inhabited Json := ⟨.null⟩

/-- The value of a member of an object. -/
def member? : Json → String → Option Json
  | obj members, name => members.lookup name
  | _, _ => none

/-- A natural number. -/
def nat (n : Nat) : Json := .int n

/-- A 32-bit number. -/
def word (n : UInt32) : Json := .int n.toNat

/-- An optional value, `null` if there is none. -/
def opt {α : Type} (f : α → Json) : Option α → Json
  | none => .null
  | some a => f a

end Json

end DataplaneSync
