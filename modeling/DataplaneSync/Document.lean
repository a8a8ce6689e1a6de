import DataplaneSync.Address.Error
import DataplaneSync.Json.Basic
import DataplaneSync.Json.Complaint

namespace DataplaneSync

/-!
# Documents

What a configuration value can be read from, whatever notation it was written in.

* `Document δ` — the questions a reader may put to a value of the notation `δ`.
* `DecodeError` — why a document is not the value it should be.
* JSON values are documents.
-/

/-- The questions that a reader puts to a written value. -/
class Document (δ : Type) where
  /-- The value as a text. -/
  text? : δ → Option String
  /-- The value as a 32-bit number. -/
  word? : δ → Option UInt32
  /-- The value as a truth value. -/
  flag? : δ → Option Bool
  /-- The value as the name of one of several alternatives. -/
  alternative? : δ → Option String
  /-- Whether the value says that an optional value is missing. -/
  isAbsent : δ → Bool
  /-- The value as a list. -/
  items? : δ → Option (List δ)
  /-- The value as named members, in the order in which they are read. -/
  members? : δ → Option (List (String × δ))

/-- Why a document is not the value it should be. -/
inductive DecodeError where
  /-- A value of another shape stands where one was expected. -/
  | shape
  /-- A text is not the address it should be. -/
  | address (cause : AddressError)
  deriving DecidableEq

/-- What is said about a JSON value, where the reader has its own words for the fault. -/
def DecodeError.complaint? : DecodeError → Option Json.Complaint
  | .shape => none
  | .address cause => some (.ofText cause.message)

/-! ### JSON values -/

namespace Json

/-- A number from 0 to `2^32 - 1`, written as a whole number. -/
def asWord? : Json → Option UInt32
  | .int i => if 0 ≤ i ∧ i.toNat < UInt32.size then some (UInt32.ofNat i.toNat) else none
  | _ => none

/-- A truth value. -/
def asFlag? : Json → Option Bool
  | .bool b => some b
  | _ => none

/-- A text. -/
def asText? : Json → Option String
  | .str s => some s
  | _ => none

/-- The name of an alternative: a text, or the only member of an object, which is `null`. -/
def asAlternative? : Json → Option String
  | .str s => some s
  | .obj [(name, .null)] => some name
  | _ => none

/-- Whether the value is `null`. -/
def isNull : Json → Bool
  | .null => true
  | _ => false

/-- A list. -/
def asItems? : Json → Option (List Json)
  | .arr items => some items
  | _ => none

/-- The members of an object. -/
def asMembers? : Json → Option (List (String × Json))
  | .obj members => some members
  | _ => none

instance : Document Json where
  text? := asText?
  word? := asWord?
  flag? := asFlag?
  alternative? := asAlternative?
  isAbsent := isNull
  items? := asItems?
  members? := asMembers?

end Json

end DataplaneSync
