import DataplaneSync.Table

namespace DataplaneSync

/-!
# Name registries

What a reconciler remembers about the objects of one family: which stable name stands for
which index, with metadata.

* `Registry μ` — names to an index and metadata, with a reverse view from indexes to names.
* `register`, `unregister` — the only operations that change it; a look-up never does.
* `Registry.toList` — the registrations that the reverse view shows, in index order.
* `IndexCounter` — mints indexes for families that the dataplane does not number.

Several names may share an index.  The reverse view then shows the name registered last, and
removing another of the names leaves that view alone.
-/

/-- Registrations of names under indexes, with metadata `μ`. -/
structure Registry (μ : Type) where
  /-- Index and metadata of each registered name. -/
  byName : Table String (UInt32 × μ) := ∅
  /-- The name registered last under each index. -/
  byIndex : Table UInt32 String := ∅

/-- A name was looked for that is not registered. -/
structure NotRegistered where
  /-- The name asked for. -/
  name : String
  deriving DecidableEq

/-- The wording of the failure. -/
def NotRegistered.message (e : NotRegistered) : String := s!"name not registered: {e.name}"

namespace Registry

variable {μ : Type}

/-- The registry in which nothing is registered. -/
def empty : Registry μ := {}

instance : EmptyCollection (Registry μ) := ⟨empty⟩
instance : Inhabited (Registry μ) := ⟨empty⟩

/-! ### Reading -/

/-- The number of registered names. -/
def size (r : Registry μ) : Nat := r.byName.size

/-- Whether no name is registered. -/
def isEmpty (r : Registry μ) : Bool := r.byName.isEmpty

/-- Whether `name` is registered. -/
def contains (r : Registry μ) (name : String) : Bool := r.byName.contains name

/-- Index and metadata registered under `name`. -/
def lookup? (r : Registry μ) (name : String) : Option (UInt32 × μ) := r.byName.get? name

/-- The name registered last under `index`, with its metadata. -/
def nameAt? (r : Registry μ) (index : UInt32) : Option (String × μ) := do
  let name ← r.byIndex.get? index
  let entry ← r.byName.get? name
  pure (name, entry.2)

/-- Name, index and metadata along the reverse view, in increasing index order. -/
def toList (r : Registry μ) : List (String × UInt32 × μ) :=
  r.byIndex.entries.filterMap fun (index, name) =>
    (r.byName.get? name).map fun entry => (name, index, entry.2)

/-! ### Changing -/

/-- The reverse view without `index`, provided it shows `name` there. -/
def forget (names : Table UInt32 String) (index : UInt32) (name : String) : Table UInt32 String :=
  if names.get? index = some name then names.erase index else names

/-- The reverse view once `name` has moved away from the index it had, if it had another. -/
def leave (r : Registry μ) (name : String) (index : UInt32) : Table UInt32 String :=
  match r.byName.get? name with
  | some (old, _) => if old = index then r.byIndex else forget r.byIndex old name
  | none => r.byIndex

/-- Register `name` under `index`, in place of any earlier registration of the name. -/
def register (r : Registry μ) (name : String) (index : UInt32) (data : μ) : Registry μ where
  byName := r.byName.insert name (index, data)
  byIndex := (r.leave name index).insert index name

/-- Remove `name`, giving back the index and the metadata it had. -/
def unregister (r : Registry μ) (name : String) :
    Except NotRegistered ((UInt32 × μ) × Registry μ) :=
  match r.byName.get? name with
  | none => .error ⟨name⟩
  | some entry =>
    .ok (entry, { byName := r.byName.erase name, byIndex := forget r.byIndex entry.1 name })

/-! ### Look-ups after a change -/

@[simp] theorem lookup?_empty (name : String) : (∅ : Registry μ).lookup? name = none := rfl

/-- Registering a name changes the look-up of that name alone. -/
@[simp] theorem lookup?_register (r : Registry μ) (name : String) (index : UInt32) (data : μ)
    (other : String) :
    (r.register name index data).lookup? other =
      if other = name then some (index, data) else r.lookup? other := by
  simp [lookup?, register]

/-- A removal succeeds exactly on registered names, gives back what was registered, and
changes the look-up of that name alone. -/
theorem unregister_eq_ok_iff {r s : Registry μ} {name : String} {entry : UInt32 × μ} :
    r.unregister name = .ok (entry, s) ↔
      r.lookup? name = some entry ∧
        s = { byName := r.byName.erase name, byIndex := forget r.byIndex entry.1 name } := by
  unfold unregister lookup?
  split
  · next h => simp [h]
  · next e h => simp only [h, Except.ok.injEq, Prod.mk.injEq, Option.some.injEq]; grind

end Registry

/-! ### Minted indexes -/

/-- A counter that mints indexes for objects the dataplane does not number. -/
structure IndexCounter where
  /-- The index minted next. -/
  next : UInt32 := 0
  deriving DecidableEq

/-- The next index, and the counter after it; after the largest index comes 0. -/
def IndexCounter.mint (c : IndexCounter) : UInt32 × IndexCounter := (c.next, ⟨c.next + 1⟩)

/-- The next `n` indexes. -/
def IndexCounter.take : Nat → IndexCounter → List UInt32
  | 0, _ => []
  | n + 1, c => c.mint.1 :: IndexCounter.take n c.mint.2

end DataplaneSync
