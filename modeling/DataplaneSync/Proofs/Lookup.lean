import DataplaneSync.Registry

namespace DataplaneSync

/-!
# Look-ups in tables and registries

* `Table.mem_entries` — the entries of a table are what look-ups find in it.
* `Table.get?_ofList` — look-ups in a table that is made of a list.
* `Table.ofList_entries`, `Table.size_insert` — a table is made of its entries, and a new key adds
  one to them.
* `Table.lt_last` — no key lies above the last one.
* `Registry.drop` — a registry once a name has been removed from it, if it was there.
* `Registry.Truthful` — the reverse view shows nothing but registrations; every change keeps it so.
* `Registry.Faithful` — the reverse view shows exactly the registrations; registering under a
  free index and removing keep it so.
* `Registry.mem_toList`, `Registry.pairwise_toList`, `Registry.Truthful.nodup_names` — the listing
  of a registry.
-/

namespace Table

variable {κ α : Type} [LT κ]

/-! ### Entries -/

/-- Two entries of a table with one key have one value. -/
theorem eq_of_mem_entries [KeyOrder κ] {t : Table κ α} {k : κ} {v w : α} (hv : (k, v) ∈ t.entries)
    (hw : (k, w) ∈ t.entries) : v = w := by
  have apart : ∀ {e f : κ × α}, e ∈ t.entries → f ∈ t.entries → e.1 = f.1 → e = f := by
    intro e f he hf same
    obtain ⟨i, hi, rfl⟩ := List.getElem_of_mem he
    obtain ⟨j, hj, rfl⟩ := List.getElem_of_mem hf
    -- of two entries at different places, one has the smaller key
    have below := List.pairwise_iff_getElem.mp t.ascending
    rcases Nat.lt_trichotomy i j with lt | rfl | gt
    · exact absurd (below i j hi hj lt) (same ▸ KeyOrder.irrefl _)
    · rfl
    · exact absurd (below j i hj hi gt) (same ▸ KeyOrder.irrefl _)
  exact congrArg Prod.snd (apart hv hw rfl)

variable [DecidableEq κ]

/-- What a look-up finds is an entry. -/
theorem mem_of_get? {t : Table κ α} {k : κ} {v : α} (h : t.get? k = some v) :
    (k, v) ∈ t.entries := by
  unfold get? at h
  generalize t.entries = es at h
  induction es with
  | nil => simp at h
  | cons e es ih =>
    rw [lookup_cons] at h
    split at h
    · next same =>
      obtain rfl := Option.some.inj h
      exact same ▸ List.mem_cons_self
    · exact List.mem_cons_of_mem e (ih h)

/-- The entries of a table are exactly what look-ups find. -/
theorem mem_entries [KeyOrder κ] {t : Table κ α} {k : κ} {v : α} :
    (k, v) ∈ t.entries ↔ t.get? k = some v := by
  refine ⟨fun h => ?_, mem_of_get?⟩
  -- a look-up finds some value, and there is only one
  have found : (t.get? k).isSome := by
    unfold get?
    generalize t.entries = es at h
    induction es with
    | nil => simp at h
    | cons e es ih =>
      rw [lookup_cons]
      split
      · rfl
      · next other =>
        rcases List.mem_cons.mp h with rfl | h
        · exact absurd rfl other
        · exact ih h
  obtain ⟨w, hw⟩ := Option.isSome_iff_exists.mp found
  rw [hw, eq_of_mem_entries h (mem_of_get? hw)]

/-- Whether a key has an entry is whether a look-up finds one. -/
theorem contains_iff {t : Table κ α} {k : κ} : t.contains k = true ↔ ∃ v, t.get? k = some v :=
  Option.isSome_iff_exists

/-- Where no key comes twice, the table of a list of entries has just those. -/
theorem get?_ofList [DecidableLT κ] [KeyOrder κ] {entries : List (κ × α)}
    (once : (entries.map Prod.fst).Nodup) {k : κ} {v : α} :
    (ofList entries).get? k = some v ↔ (k, v) ∈ entries := by
  -- what a table has already stays, unless its key is among those that are put
  have put : ∀ (t : Table κ α), (entries.foldl (fun t e => t.insert e.1 e.2) t).get? k = some v ↔
      (k, v) ∈ entries ∨ k ∉ entries.map Prod.fst ∧ t.get? k = some v := by
    induction entries with
    | nil => simp
    | cons e es ih =>
      intro t
      obtain ⟨apart, once⟩ := List.nodup_cons.mp once
      rw [List.foldl_cons, ih once, get?_insert]
      grind
  rw [ofList, put]
  simp

omit [LT κ] [DecidableEq κ] in
/-- No key comes twice among entries that are made of things with keys of their own. -/
theorem nodup_keys_filterMap {β : Type} {things : List β} {key : β → κ} {f : β → Option (κ × α)}
    (once : (things.map key).Nodup) (kept : ∀ x e, f x = some e → e.1 = key x) :
    ((things.filterMap f).map Prod.fst).Nodup := by
  have apart := List.pairwise_map.mp (List.nodup_iff_pairwise_ne.mp once)
  refine List.nodup_iff_pairwise_ne.mpr (List.pairwise_map.mpr
    (apart.filterMap f fun x y other d made e made' => ?_))
  rw [kept x d made, kept y e made']
  exact other

/-- Every entry but the last one lies below it. -/
theorem lt_last {t : Table κ α} {k l : κ} {v w : α} (last : t.last? = some (l, w))
    (h : t.get? k = some v) : k < l ∨ k = l := by
  obtain ⟨es, split_⟩ := List.getLast?_eq_some_iff.mp last
  have hk : (k, v) ∈ es ++ [(l, w)] := split_ ▸ mem_of_get? h
  rcases List.mem_append.mp hk with earlier | final
  · have below := (List.pairwise_append.mp (split_ ▸ t.ascending)).2.2
    exact Or.inl (below (k, v) earlier (l, w) (List.mem_singleton_self _))
  · exact Or.inr (congrArg Prod.fst (List.mem_singleton.mp final))

/-! ### Insertion -/

section Insertion

variable [DecidableLT κ] [KeyOrder κ]

omit [DecidableEq κ] in
/-- An entry with a key above all others goes to the end of a table. -/
theorem insertEntry_last {k : κ} {v : α} {es : List (κ × α)} (above : ∀ e ∈ es, e.1 < k) :
    insertEntry k v es = es ++ [(k, v)] := by
  induction es with
  | nil => rfl
  | cons e rest ih =>
    have lower : e.1 < k := above e List.mem_cons_self
    have not_above : ¬ k < e.1 := fun upper => KeyOrder.irrefl k (KeyOrder.trans upper lower)
    rw [insertEntry, if_neg not_above, if_pos lower,
      ih fun f member => above f (List.mem_cons_of_mem e member), List.cons_append]

/-- What is found in a table that is made of a list is in the list. -/
theorem mem_of_get?_ofList {entries : List (κ × α)} {k : κ} {v : α}
    (found : (ofList entries).get? k = some v) : (k, v) ∈ entries := by
  have put : ∀ (t : Table κ α), (entries.foldl (fun t e => t.insert e.1 e.2) t).get? k = some v →
      (k, v) ∈ entries ∨ t.get? k = some v := by
    clear found
    induction entries with
    | nil => exact fun t found => Or.inr found
    | cons e rest ih =>
      intro t found
      rcases ih (t.insert e.1 e.2) found with later | before
      · exact Or.inl (List.mem_cons_of_mem e later)
      · rw [get?_insert] at before
        split at before
        · next same =>
          obtain rfl := Option.some.inj before
          exact Or.inl (same ▸ List.mem_cons_self)
        · exact Or.inr before
  exact (put ∅ found).resolve_right (by simp [get?_empty])

omit [DecidableEq κ] in
/-- A table is made of its entries. -/
theorem ofList_entries (t : Table κ α) : ofList t.entries = t := by
  -- what has been put so far are the first entries, and the next one comes behind them
  have put : ∀ (es : List (κ × α)) (u : Table κ α), u.entries ++ es = t.entries →
      es.foldl (fun t e => t.insert e.1 e.2) u = t := by
    intro es
    induction es with
    | nil =>
      intro u parts
      exact ext_entries (by simpa using parts)
    | cons e rest ih =>
      intro u parts
      have ascending := t.ascending
      rw [← parts, Ascending, List.pairwise_append] at ascending
      have last : (u.insert e.1 e.2).entries = u.entries ++ [e] :=
        insertEntry_last fun f member => ascending.2.2 f member e List.mem_cons_self
      exact ih (u.insert e.1 e.2) (by rw [last, List.append_assoc]; exact parts)
  exact put t.entries ∅ rfl

/-- A new key adds one entry to a table. -/
theorem size_insert {t : Table κ α} {k : κ} (absent : t.get? k = none) (v : α) :
    (t.insert k v).size = t.size + 1 := by
  show (insertEntry k v t.entries).length = t.entries.length + 1
  unfold get? at absent
  generalize t.entries = es at absent
  induction es with
  | nil => rfl
  | cons e rest ih =>
    rw [lookup_cons] at absent
    split at absent
    · contradiction
    · next other =>
      unfold insertEntry
      split
      · rfl
      · next notBelow =>
        split
        · rw [List.length_cons, ih absent, List.length_cons]
        · next notAbove => exact absurd (KeyOrder.connected notBelow notAbove) other

end Insertion

end Table

namespace Registry

variable {μ : Type}

/-! ### Removing a name -/

theorem contains_iff {r : Registry μ} {name : String} :
    r.contains name = true ↔ ∃ index data, r.lookup? name = some (index, data) := by
  simp [contains, lookup?, Table.contains_iff]

/-- After a registration its name is registered, and every name that was before. -/
@[simp] theorem contains_register (r : Registry μ) (name : String) (index : UInt32) (data : μ)
    (other : String) :
    (r.register name index data).contains other = (decide (other = name) || r.contains other) := by
  simp only [contains, register, Table.contains, Table.get?_insert]
  split <;> simp [*]

/-- The registry without a name, whether it was registered or not. -/
def drop (r : Registry μ) (name : String) : Registry μ :=
  match r.unregister name with
  | .ok (_, s) => s
  | .error _ => r

/-- Dropping a name changes the look-up of that name alone. -/
@[simp] theorem lookup?_drop (r : Registry μ) (name other : String) :
    (r.drop name).lookup? other = if other = name then none else r.lookup? other := by
  unfold drop unregister
  cases h : r.byName.get? name with
  | some entry => simp [lookup?]
  | none =>
    by_cases same : other = name
    · simp [lookup?, same, h]
    · simp [same]

/-! ### The reverse view -/

theorem nameAt?_eq_some {r : Registry μ} {name : String} {index : UInt32} {data : μ} :
    r.nameAt? index = some (name, data) ↔
      r.byIndex.get? index = some name ∧ ∃ j, r.lookup? name = some (j, data) := by
  simp only [nameAt?, lookup?, Option.bind_eq_bind, Option.bind_eq_some_iff, Option.pure_def,
    Option.some.injEq, Prod.mk.injEq]
  constructor
  · rintro ⟨_, shown, ⟨j, _⟩, found, rfl, rfl⟩
    exact ⟨shown, j, found⟩
  · rintro ⟨shown, j, found⟩
    exact ⟨name, shown, (j, data), found, rfl, rfl⟩

/-- The reverse view shows nothing but registrations.  It need not show all of them, as names may
share an index. -/
def Truthful (r : Registry μ) : Prop :=
  ∀ name index, r.byIndex.get? index = some name → ∃ data, r.lookup? name = some (index, data)

theorem truthful_empty : (∅ : Registry μ).Truthful := nofun

namespace Truthful

variable {r : Registry μ} (h : r.Truthful) {name other : String} {index j : UInt32} {data : μ}

include h

/-- The reverse view shows a name under the index it has. -/
theorem eq_of_shown (shown : r.byIndex.get? index = some name)
    (found : r.lookup? name = some (j, data)) : index = j := by
  obtain ⟨d, registered⟩ := h name index shown
  exact (Prod.mk.inj (Option.some.inj (registered.symm.trans found))).1

/-- When a name is about to be registered anew, it leaves the index that it had before, and no
other name leaves its index. -/
theorem get?_leave (elsewhere : j ≠ index) :
    (r.leave name index).get? j = some other ↔
      other ≠ name ∧ r.byIndex.get? j = some other := by
  unfold leave
  cases old : r.byName.get? name with
  | none =>
    have absent : r.byIndex.get? j ≠ some name := by
      intro shown
      obtain ⟨d, found⟩ := h name j shown
      exact nomatch old.symm.trans found
    grind
  | some entry =>
    obtain ⟨k, d⟩ := entry
    have apart : r.byIndex.get? j = some name → j = k := fun shown => h.eq_of_shown shown old
    simp only [forget]
    split
    · grind
    · split
      · rw [Table.get?_erase]
        grind
      · grind

/-- Removing a name hides it, and no other name. -/
theorem get?_drop (name : String) : (r.drop name).byIndex.get? j = some other ↔
    other ≠ name ∧ r.byIndex.get? j = some other := by
  unfold drop unregister
  cases old : r.byName.get? name with
  | none =>
    have absent : r.byIndex.get? j ≠ some name := by
      intro shown
      obtain ⟨d, found⟩ := h name j shown
      exact nomatch old.symm.trans found
    grind
  | some entry =>
    obtain ⟨k, d⟩ := entry
    have apart : r.byIndex.get? j = some name → j = k := fun shown => h.eq_of_shown shown old
    simp only [forget]
    split
    · rw [Table.get?_erase]
      grind
    · grind

theorem register (name : String) (index : UInt32) (data : μ) :
    (r.register name index data).Truthful := by
  intro other j shown
  have shown' : ((r.leave name index).insert index name).get? j = some other := shown
  rw [Table.get?_insert] at shown'
  rw [lookup?_register]
  split at shown'
  · next same => exact ⟨data, by rw [if_pos (Option.some.inj shown').symm, same]⟩
  · next elsewhere =>
    obtain ⟨apart, before⟩ := (h.get?_leave elsewhere).mp shown'
    rw [if_neg apart]
    exact h other j before

theorem drop (name : String) : (r.drop name).Truthful := by
  intro other j shown
  obtain ⟨apart, before⟩ := (h.get?_drop name).mp shown
  rw [lookup?_drop, if_neg apart]
  exact h other j before

end Truthful

/-- The reverse view shows every registration, and nothing else. -/
def Faithful (r : Registry μ) : Prop :=
  ∀ name index, r.byIndex.get? index = some name ↔ ∃ data, r.lookup? name = some (index, data)

theorem faithful_empty : (∅ : Registry μ).Faithful := by
  intro name index
  constructor
  · intro h
    exact nomatch h
  · rintro ⟨_, h⟩
    exact nomatch h

theorem Faithful.truthful {r : Registry μ} (h : r.Faithful) : r.Truthful :=
  fun name index => (h name index).mp

/-- A faithful registry finds by index what it finds by name. -/
theorem Faithful.nameAt?_eq_some {r : Registry μ} (h : r.Faithful) {name : String}
    {index : UInt32} {data : μ} :
    r.nameAt? index = some (name, data) ↔ r.lookup? name = some (index, data) := by
  rw [Registry.nameAt?_eq_some]
  constructor
  · rintro ⟨shown, j, found⟩
    rwa [h.truthful.eq_of_shown shown found]
  · exact fun registered => ⟨(h name index).mpr ⟨data, registered⟩, index, registered⟩

/-- A registration under an index that no other name has keeps the registry faithful. -/
theorem Faithful.register {r : Registry μ} (h : r.Faithful) {name : String} {index : UInt32}
    (data : μ) (free : ∀ other d, r.lookup? other = some (index, d) → other = name) :
    (r.register name index data).Faithful := by
  intro other j
  rw [lookup?_register]
  show ((r.leave name index).insert index name).get? j = some other ↔ _
  rw [Table.get?_insert]
  by_cases hj : j = index
  · subst hj
    by_cases same : other = name
    · simp [same]
    · simp only [if_true, if_neg same, Option.some.injEq]
      constructor
      · exact fun e => absurd e.symm same
      · rintro ⟨d, found⟩
        exact absurd (free other d found) same
  · rw [if_neg hj, h.truthful.get?_leave hj, h other j]
    by_cases same : other = name
    · simp only [same, ne_eq, not_true, false_and, if_true, Option.some.injEq, Prod.mk.injEq,
        false_iff]
      rintro ⟨d, e, -⟩
      exact hj e.symm
    · simp [same]

/-- A removal keeps the registry faithful. -/
theorem Faithful.drop {r : Registry μ} (h : r.Faithful) (name : String) :
    (r.drop name).Faithful := by
  intro other j
  rw [h.truthful.get?_drop, lookup?_drop, h other j]
  by_cases e : other = name
  · simp [e]
  · simp [e]

/-! ### The listing -/

/-- The listing has what the reverse view finds. -/
theorem mem_toList {r : Registry μ} {name : String} {index : UInt32} {data : μ} :
    (name, index, data) ∈ r.toList ↔ r.nameAt? index = some (name, data) := by
  simp only [toList, List.mem_filterMap, Option.map_eq_some_iff, Prod.exists, Prod.mk.injEq]
  rw [nameAt?_eq_some]
  constructor
  · rintro ⟨_, _, entry, j, _, found, rfl, rfl, rfl⟩
    exact ⟨Table.mem_entries.mp entry, j, found⟩
  · rintro ⟨shown, j, found⟩
    exact ⟨index, name, Table.mem_entries.mpr shown, j, data, found, rfl, rfl, rfl⟩

/-- The listing goes by increasing indexes. -/
theorem pairwise_toList (r : Registry μ) :
    r.toList.Pairwise fun x y => x.2.1 < y.2.1 := by
  refine List.Pairwise.filterMap _ (fun e f below x hx y hy => ?_) r.byIndex.ascending
  obtain ⟨_, -, rfl⟩ := Option.map_eq_some_iff.mp hx
  obtain ⟨_, -, rfl⟩ := Option.map_eq_some_iff.mp hy
  exact below

/-- No name is listed twice. -/
theorem Truthful.nodup_names {r : Registry μ} (h : r.Truthful) : (r.toList.map Prod.fst).Nodup := by
  rw [List.nodup_iff_pairwise_ne, List.pairwise_map]
  refine r.pairwise_toList.imp_of_mem fun {x y} hx hy below same => ?_
  obtain ⟨name, i, _⟩ := x
  obtain ⟨other, j, _⟩ := y
  obtain rfl : name = other := same
  obtain ⟨shown, -⟩ := nameAt?_eq_some.mp (mem_toList.mp hx)
  obtain ⟨shown', -⟩ := nameAt?_eq_some.mp (mem_toList.mp hy)
  -- a name has one index, and indexes increase
  obtain ⟨_, found⟩ := h name j shown'
  exact UInt32.lt_irrefl j (h.eq_of_shown shown found ▸ below)

end Registry

end DataplaneSync
