namespace DataplaneSync

/-!
# Sorted tables

A finite map kept as the list of its entries in increasing key order.

* `KeyOrder κ` — keys with a strict linear order; numbers and texts are keys.
* `Table κ α` — the entries with the proof that their keys ascend, so each key occurs once
  and a table is determined by what `get?` finds in it.
* `Table.insert`, `Table.erase`, `Table.ofList` — each keeps the order by construction.
* `get?_insert`, `get?_erase` — what an operation does to every look-up.
-/

/-! ### Keys -/

/-- Keys with a strict linear order. -/
class KeyOrder (κ : Type) [LT κ] : Prop where
  /-- No key lies below itself. -/
  irrefl : ∀ a : κ, ¬ a < a
  /-- The order composes. -/
  trans : ∀ {a b c : κ}, a < b → b < c → a < c
  /-- Two keys that the order does not separate are equal. -/
  connected : ∀ {a b : κ}, ¬ a < b → ¬ b < a → a = b

instance : KeyOrder UInt32 where
  irrefl := UInt32.lt_irrefl
  trans := UInt32.lt_trans
  connected := fun h h' => UInt32.le_antisymm (UInt32.not_lt.mp h') (UInt32.not_lt.mp h)

instance : KeyOrder String where
  irrefl := String.lt_irrefl
  trans := String.lt_trans
  connected := fun h h' => String.le_antisymm (String.not_lt.mp h') (String.not_lt.mp h)

/-! ### Entry lists -/

/-- Keys ascend strictly from each entry to every later one. -/
abbrev Ascending {κ α : Type} [LT κ] (entries : List (κ × α)) : Prop :=
  entries.Pairwise (fun e f => e.1 < f.1)

/-- A finite map from keys to values, kept as its entries in increasing key order. -/
structure Table (κ α : Type) [LT κ] where
  /-- The entries, by increasing key. -/
  entries : List (κ × α)
  /-- Each key lies below all later ones. -/
  ascending : Ascending entries

namespace Table

variable {κ α β : Type} [LT κ]

/-- A table is determined by its entries. -/
@[ext] theorem ext_entries {s t : Table κ α} (h : s.entries = t.entries) : s = t := by
  cases s; cases t; cases h; rfl

instance [DecidableEq κ] [DecidableEq α] : DecidableEq (Table κ α) := fun s t =>
  decidable_of_iff (s.entries = t.entries) ⟨ext_entries, fun h => h ▸ rfl⟩

/-- The table without entries. -/
def empty : Table κ α := ⟨[], List.Pairwise.nil⟩

instance : EmptyCollection (Table κ α) := ⟨empty⟩
instance : Inhabited (Table κ α) := ⟨empty⟩

@[simp] theorem entries_empty : (∅ : Table κ α).entries = [] := rfl

/-- The number of entries. -/
def size (t : Table κ α) : Nat := t.entries.length

/-- Whether there is no entry at all. -/
def isEmpty (t : Table κ α) : Bool := t.entries.isEmpty

/-- The keys in increasing order. -/
def keys (t : Table κ α) : List κ := t.entries.map Prod.fst

/-- The values in the order of their keys. -/
def values (t : Table κ α) : List α := t.entries.map Prod.snd

/-- The entry with the largest key. -/
def last? (t : Table κ α) : Option (κ × α) := t.entries.getLast?

/-- Apply `f` to every value, keeping the keys. -/
def map (f : α → β) (t : Table κ α) : Table κ β where
  entries := t.entries.map (fun e => (e.1, f e.2))
  ascending := List.pairwise_map.mpr t.ascending

/-- Keep the entries that `p` accepts. -/
def filter (p : κ → α → Bool) (t : Table κ α) : Table κ α where
  entries := t.entries.filter (fun e => p e.1 e.2)
  ascending := t.ascending.filter _

section Search

variable [DecidableEq κ]

/-- The value under `k`, if there is one. -/
def get? (t : Table κ α) (k : κ) : Option α := t.entries.lookup k

/-- Whether `k` has an entry. -/
def contains (t : Table κ α) (k : κ) : Bool := (t.get? k).isSome

/-- Drop the entry of `k`, if there is one. -/
def erase (t : Table κ α) (k : κ) : Table κ α := t.filter (fun j _ => j != k)

@[simp] theorem get?_empty (k : κ) : (∅ : Table κ α).get? k = none := rfl

end Search

section Insertion

variable [DecidableLT κ]

/-- Put `v` under `k` at its place in an entry list, taking the place of an entry whose key
the order does not separate from `k`. -/
def insertEntry (k : κ) (v : α) : List (κ × α) → List (κ × α)
  | [] => [(k, v)]
  | e :: es =>
    if k < e.1 then (k, v) :: e :: es
    else if e.1 < k then e :: insertEntry k v es
    else (k, v) :: es

/-- Insertion adds no entry but the new one. -/
theorem mem_insertEntry {k : κ} {v : α} {e : κ × α} {es : List (κ × α)}
    (h : e ∈ insertEntry k v es) : e = (k, v) ∨ e ∈ es := by
  induction es with
  | nil => exact Or.inl (List.mem_singleton.mp h)
  | cons f fs ih =>
    unfold insertEntry at h
    split at h
    · exact (List.mem_cons.mp h)
    · split at h
      · rcases List.mem_cons.mp h with h | h
        · exact Or.inr (h ▸ List.mem_cons_self)
        · exact (ih h).imp id (List.mem_cons_of_mem f)
      · exact (List.mem_cons.mp h).imp id (List.mem_cons_of_mem f)

/-- Insertion keeps an entry list ascending. -/
theorem ascending_insertEntry [KeyOrder κ] (k : κ) (v : α) {es : List (κ × α)}
    (h : Ascending es) : Ascending (insertEntry k v es) := by
  induction es with
  | nil => exact List.pairwise_singleton _ _
  | cons f fs ih =>
    have ⟨below, rest⟩ := List.pairwise_cons.mp h
    unfold insertEntry
    split
    · next lt =>
      refine List.pairwise_cons.mpr ⟨fun e he => ?_, h⟩
      rcases List.mem_cons.mp he with rfl | he
      · exact lt
      · exact KeyOrder.trans lt (below e he)
    · next notBelow =>
      split
      · next gt =>
        refine List.pairwise_cons.mpr ⟨fun e he => ?_, ih rest⟩
        rcases mem_insertEntry he with rfl | he
        · exact gt
        · exact below e he
      · next notAbove =>
        have same : k = f.1 := KeyOrder.connected notBelow notAbove
        exact List.pairwise_cons.mpr ⟨fun e he => same ▸ below e he, rest⟩

/-- Put `v` under `k`, in place of the value there before. -/
def insert [KeyOrder κ] (t : Table κ α) (k : κ) (v : α) : Table κ α :=
  ⟨insertEntry k v t.entries, ascending_insertEntry k v t.ascending⟩

/-- The table of a list of entries; a later entry takes the place of an earlier one with the
same key. -/
def ofList [KeyOrder κ] (entries : List (κ × α)) : Table κ α :=
  entries.foldl (fun t e => t.insert e.1 e.2) ∅

end Insertion

/-! ### Look-ups after an operation -/

section Laws

variable [DecidableEq κ]

omit [LT κ] in
/-- A look-up compares with the first key and then goes on. -/
theorem lookup_cons (j : κ) (e : κ × α) (es : List (κ × α)) :
    (e :: es).lookup j = if j = e.1 then some e.2 else es.lookup j := by
  obtain ⟨k, v⟩ := e
  rw [List.lookup_cons]
  by_cases h : j = k
  · rw [if_pos h, beq_iff_eq.mpr h]
  · rw [if_neg h, beq_false_of_ne h]

/-- Insertion into an entry list, seen through look-ups. -/
theorem lookup_insertEntry [DecidableLT κ] [KeyOrder κ] (k : κ) (v : α) (j : κ)
    (es : List (κ × α)) :
    (insertEntry k v es).lookup j = if j = k then some v else es.lookup j := by
  induction es with
  | nil => simp [insertEntry, lookup_cons]
  | cons f fs ih =>
    unfold insertEntry
    split
    · simp [lookup_cons]
    · next notBelow =>
      split
      · next above =>
        have apart : f.1 ≠ k := fun e => KeyOrder.irrefl k (e ▸ above)
        by_cases h : j = f.1
        · simp [lookup_cons, h, apart]
        · simp [lookup_cons, h, ih]
      · next notAbove =>
        have same : k = f.1 := KeyOrder.connected notBelow notAbove
        by_cases h : j = f.1 <;> simp [lookup_cons, same, h]

/-- After an insertion the key finds the new value and every other key what it found before. -/
@[simp] theorem get?_insert [DecidableLT κ] [KeyOrder κ] (t : Table κ α) (k : κ) (v : α) (j : κ) :
    (t.insert k v).get? j = if j = k then some v else t.get? j :=
  lookup_insertEntry k v j t.entries

omit [LT κ] in
/-- Filtering a key out hides it and nothing else. -/
theorem lookup_filter_ne (k j : κ) (es : List (κ × α)) :
    (es.filter (fun e => e.1 != k)).lookup j = if j = k then none else es.lookup j := by
  induction es with
  | nil => simp
  | cons f fs ih =>
    by_cases hf : f.1 = k
    · by_cases hj : j = k
      · rw [List.filter_cons_of_neg (by simp [hf]), ih, if_pos hj, if_pos hj]
      · rw [List.filter_cons_of_neg (by simp [hf]), ih, if_neg hj, if_neg hj, lookup_cons,
          if_neg (fun e => hj (e.trans hf))]
    · rw [List.filter_cons_of_pos (by simp [hf]), lookup_cons, ih, lookup_cons]
      by_cases hj : j = f.1
      · simp [hj, hf]
      · simp [hj]

/-- After a removal the key finds nothing and every other key what it found before. -/
@[simp] theorem get?_erase (t : Table κ α) (k j : κ) :
    (t.erase k).get? j = if j = k then none else t.get? j :=
  lookup_filter_ne k j t.entries

end Laws

end Table

end DataplaneSync
