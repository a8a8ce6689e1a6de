import DataplaneSync.Document
import DataplaneSync.Table

namespace DataplaneSync

/-!
# Codecs

How the values of a type are read from documents and written as JSON.

* `Codec α` — a reader for any notation, and a writer.
* `Codec.text`, `Codec.word`, `Codec.flag`, `Codec.choice` — plain values.
* `Codec.option`, `Codec.list`, `Codec.dictionary` — collections.
* `Codec.record` — structures, from one `Field` per member.

Reading a record starts from a given value, whose members the document replaces one by one:
members that the document leaves out keep their starting values, members that the record does
not know are passed over, and no known member may occur twice.
-/

/-- How values of a type are read from documents and written as JSON. -/
structure Codec (α : Type) where
  /-- The value that a document stands for. -/
  read : {δ : Type} → [Document δ] → δ → Except DecodeError α
  /-- The JSON form of a value. -/
  write : α → Json

/-- A named member of a record `ρ`. -/
structure Field (ρ : Type) where
  /-- The name in the document. -/
  name : String
  /-- Put the value that a document stands for into the record. -/
  read : {δ : Type} → [Document δ] → δ → ρ → Except DecodeError ρ
  /-- The JSON form of the member. -/
  write : ρ → Json

namespace Codec

variable {α β ρ : Type}

/-- What was found, or the complaint that the document has another shape. -/
def expected (found : Option α) : Except DecodeError α :=
  match found with
  | some a => .ok a
  | none => .error .shape

/-! ### Plain values -/

/-- Texts. -/
def text : Codec String where
  read d := expected (Document.text? d)
  write s := .str s

/-- Numbers of 32 bits. -/
def word : Codec UInt32 where
  read d := expected (Document.word? d)
  write n := Json.word n

/-- Truth values. -/
def flag : Codec Bool where
  read d := expected (Document.flag? d)
  write b := .bool b

/-- Alternatives, each with its name. -/
def choice (name : α → String) (alternatives : List α) : Codec α where
  read d := expected ((Document.alternative? d).bind fun t => alternatives.find? (name · == t))
  write a := .str (name a)

/-- Addresses, by their texts. -/
def address (parse : String → Except AddressError α) (toText : α → String) : Codec α where
  read d := do
    let s ← expected (Document.text? d)
    (parse s).mapError .address
  write a := .str (toText a)

/-! ### Collections -/

/-- Optional values; nothing is written as `null`. -/
def option (c : Codec α) : Codec (Option α) where
  read d := if Document.isAbsent d then .ok none else (c.read d).map some
  write := Json.opt c.write

/-- Lists. -/
def list (c : Codec α) : Codec (List α) where
  read d := do
    let ds ← expected (Document.items? d)
    ds.mapM c.read
  write as := .arr (as.map c.write)

/-- Tables from texts; the last of several entries of a name counts. -/
def dictionary (c : Codec α) : Codec (Table String α) where
  read d := do
    let ms ← expected (Document.members? d)
    ms.foldlM (fun t m => (c.read m.2).map (t.insert m.1)) ∅
  write t := .obj (t.entries.map fun e => (e.1, c.write e.2))

/-! ### Records -/

end Codec

/-- A member that is read and written by a codec. -/
def Field.make {α ρ : Type} (name : String) (c : Codec α) (get : ρ → α) (set : α → ρ → ρ) :
    Field ρ where
  name := name
  read d r := (c.read d).map fun a => set a r
  write r := c.write (get r)

namespace Codec

variable {ρ : Type}

/-- A record under construction. -/
structure Partial (ρ : Type) where
  /-- The record with the members read so far. -/
  value : ρ
  /-- The names of those members. -/
  seen : List String

/-- Take one member of a document into a record. -/
def Partial.take {δ : Type} [Document δ] (fields : List (Field ρ)) (p : Partial ρ)
    (m : String × δ) : Except DecodeError (Partial ρ) :=
  match fields.find? (·.name == m.1) with
  | none => .ok p
  | some f =>
    if m.1 ∈ p.seen then .error .shape
    else (f.read m.2 p.value).map fun r => ⟨r, m.1 :: p.seen⟩

/-- Records with the given members, starting from `start`. -/
def record (start : ρ) (fields : List (Field ρ)) : Codec ρ where
  read d := do
    let ms ← expected (Document.members? d)
    let p ← ms.foldlM (Partial.take fields) ⟨start, []⟩
    pure p.value
  write r := .obj (fields.map fun f => (f.name, f.write r))

end Codec

end DataplaneSync
