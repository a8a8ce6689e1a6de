import DataplaneSync.Text.Numeral

namespace DataplaneSync.Json

/-!
# Complaints about JSON values

What is said about a JSON value that is not what it should be: a wording, and possibly the place
of the fault.

* `Complaint.ofText` — a complaint from its text; a text may end with a place.
* `Complaint.toText` — the text of a complaint, with the place at its end.

Lines count from 1, and line 0 stands for no place.  So a text that ends with a place of its own
comes back with plain numbers, and without the place if that is in line 0.
-/

/-- The place of a fault. -/
structure Place where
  line : Nat
  column : Nat
  deriving DecidableEq

/-- A wording and the place that it is about. -/
structure Complaint where
  wording : List Char
  place : Place
  deriving DecidableEq

namespace Complaint

/-- What stands before an ending. -/
def before? (ending cs : List Char) : Option (List Char) :=
  if ending.isSuffixOf cs then some (cs.take (cs.length - ending.length)) else none

/-- The number of 64 bits at the end of a text, with what stands before its digits. -/
def numberAtEnd? (cs : List Char) : Option (List Char × Nat) :=
  let digits := (cs.reverse.takeWhile Char.isDigit).reverse
  (Text.unsigned? (UInt64.size - 1) digits).map fun n =>
    (cs.take (cs.length - digits.length), n)

/-- The text before the line. -/
def lineMark : List Char := " at line ".toList

/-- The text between the line and the column. -/
def columnMark : List Char := " column ".toList

/-- The complaint whose text ends with a place, if it does. -/
def withPlace? (cs : List Char) : Option Complaint := do
  let (cs, column) ← numberAtEnd? cs
  let cs ← before? columnMark cs
  let (cs, line) ← numberAtEnd? cs
  let cs ← before? lineMark cs
  pure ⟨cs, ⟨line, column⟩⟩

/-- The complaint with the given text. -/
def ofText (text : String) : Complaint :=
  (withPlace? text.toList).getD ⟨text.toList, ⟨0, 0⟩⟩

/-- The text of a complaint. -/
def toText (c : Complaint) : String :=
  String.ofList <|
    if c.place.line = 0 then c.wording
    else c.wording ++ lineMark ++ Text.decimal c.place.line ++ columnMark ++
      Text.decimal c.place.column

end Complaint

end DataplaneSync.Json
