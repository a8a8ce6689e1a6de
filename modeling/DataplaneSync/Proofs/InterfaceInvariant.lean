import DataplaneSync.Proofs.InterfaceSteps

namespace DataplaneSync

/-!
# Invariants of a pass over the interfaces

What holds of the registry and of the dataplane between any two steps of a pass, while some of
the dumped interfaces are still ahead of it.

* `Underway` — the interfaces ahead are as they were dumped, every other one will do for a wanted
  one, and what is registered is there.
* `Table.WellTagged` — names tell the entries of a dump apart.
* `Orderly` — the names still do so, and every interface that is not ahead is registered.

For each there is one lemma about an entry that is put, and one about an entry that is removed.
-/

/-! ### Names of entries -/

/-- The name under which an entry of a dump is registered, unless it is an interface without a
tag: the tag, or the name that the dataplane gave the device at index 0. -/
def InterfaceDetails.nameAt (d : InterfaceDetails) (index : UInt32) : String :=
  if index = 0 then d.internalName else d.interface.name

@[simp] theorem InterfaceDetails.nameAt_zero (d : InterfaceDetails) :
    d.nameAt 0 = d.internalName := rfl

theorem InterfaceDetails.nameAt_of_ne {index : UInt32} (d : InterfaceDetails)
    (device : index ≠ 0) : d.nameAt index = d.interface.name := if_neg device

/-- No entry but the one at an index has a name. -/
def Table.Unclaimed (t : Table UInt32 InterfaceDetails) (name : String) (index : UInt32) : Prop :=
  ∀ j d, t.get? j = some d → j ≠ index → d.nameAt j ≠ name

/-- Names tell the entries of a dump apart, except for interfaces without a tag, and the device
at index 0 is the local one. -/
structure Table.WellTagged (t : Table UInt32 InterfaceDetails) : Prop where
  device : ∃ d, t.get? 0 = some d ∧ d.internalName = Interface.localName
  distinct : ∀ i j d e, t.get? i = some d → t.get? j = some e → d.nameAt i = e.nameAt j →
    d.nameAt i ≠ "" → i = j

/-- Whether a table is well tagged is a matter of its entries. -/
theorem Table.wellTagged_iff {t : Table UInt32 InterfaceDetails} :
    t.WellTagged ↔ (t.get? 0).any (fun d => d.internalName == Interface.localName) = true ∧
      ∀ x ∈ t.entries, ∀ y ∈ t.entries, x.2.nameAt x.1 = y.2.nameAt y.1 →
        x.2.nameAt x.1 ≠ "" → x.1 = y.1 := by
  rw [Option.any_eq_true]
  constructor
  · rintro ⟨⟨d, there, isLocal⟩, distinct⟩
    refine ⟨⟨d, there, beq_iff_eq.mpr isLocal⟩, fun x hx y hy => ?_⟩
    exact distinct x.1 y.1 x.2 y.2 (Table.mem_entries.mp hx) (Table.mem_entries.mp hy)
  · rintro ⟨⟨d, there, isLocal⟩, distinct⟩
    refine ⟨⟨d, there, beq_iff_eq.mp isLocal⟩, fun i j d e hd he => ?_⟩
    exact distinct (i, d) (Table.mem_entries.mpr hd) (j, e) (Table.mem_entries.mpr he)

instance (t : Table UInt32 InterfaceDetails) : Decidable t.WellTagged :=
  decidable_of_iff _ Table.wellTagged_iff.symm

namespace Table.WellTagged

variable {t t' : Table UInt32 InterfaceDetails} {index : UInt32} {d : InterfaceDetails}

/-- Nothing else has the name of an entry. -/
theorem unclaimed (h : t.WellTagged) (present : t.get? index = some d)
    (named : d.nameAt index ≠ "") : t.Unclaimed (d.nameAt index) index := by
  intro j e there other same
  exact other (h.distinct index j d e present there same.symm named).symm

/-- An entry may be put whose name nothing else has. -/
theorem put (h : t.WellTagged) (unclaimed : t.Unclaimed (d.nameAt index) index)
    (device : index = 0 → d.internalName = Interface.localName)
    (changed : ∀ j, t'.get? j = if j = index then some d else t.get? j) : t'.WellTagged where
  device := by
    by_cases zero : index = 0
    · exact ⟨d, by rw [changed, if_pos zero.symm], device zero⟩
    · rw [changed, if_neg (Ne.symm zero)]
      exact h.device
  distinct := by
    intro i j a b ha hb same named
    rw [changed] at ha hb
    -- the entry that is put shares its name with no entry that stays
    by_cases hi : i = index <;> by_cases hj : j = index
    · exact hi.trans hj.symm
    · rw [if_pos hi, Option.some.injEq] at ha
      rw [if_neg hj] at hb
      subst hi ha
      exact absurd same.symm (unclaimed j b hb hj)
    · rw [if_neg hi] at ha
      rw [if_pos hj, Option.some.injEq] at hb
      subst hj hb
      exact absurd same (unclaimed i a ha hi)
    · rw [if_neg hi] at ha
      rw [if_neg hj] at hb
      exact h.distinct i j a b ha hb same named

/-- Every entry but the device may be removed. -/
theorem removed (h : t.WellTagged) (device : index ≠ 0)
    (changed : ∀ j, t'.get? j = if j = index then none else t.get? j) : t'.WellTagged where
  device := by
    rw [changed, if_neg (Ne.symm device)]
    exact h.device
  distinct := by
    intro i j a b ha hb
    rw [changed] at ha hb
    split at ha
    · contradiction
    · split at hb
      · contradiction
      · exact h.distinct i j a b ha hb

/-- A table that finds the same everywhere is as well tagged. -/
theorem congr (h : t.WellTagged) (same : ∀ j, t'.get? j = t.get? j) : t'.WellTagged where
  device := by
    rw [same]
    exact h.device
  distinct i j a b ha hb := h.distinct i j a b (same i ▸ ha) (same j ▸ hb)

end Table.WellTagged

/-! ### Indexes -/

/-- Every interface lies below the index of the next new one, which is not the device's. -/
structure Links.Bounded (l : Links) : Prop where
  positive : 0 < l.nextIndex
  below : ∀ j d, l.interfaces.get? j = some d → j < l.nextIndex

namespace Links.Bounded

variable {l l' : Links} {index : UInt32} {entry : Option InterfaceDetails}

/-- A change of an interface that is there keeps the indexes below. -/
theorem updated (h : l.Bounded) (there : ∃ d, l.interfaces.get? index = some d)
    (changed : l.Updated index entry l') : l'.Bounded where
  positive := changed.nextIndex ▸ h.positive
  below := by
    obtain ⟨old, present⟩ := there
    intro j d found
    rw [changed.nextIndex]
    by_cases same : j = index
    · exact same ▸ h.below index old present
    · exact h.below j d (changed.get?_ne same ▸ found)

/-- Nothing is at the index of the next new interface. -/
theorem fresh (h : l.Bounded) : l.interfaces.get? l.nextIndex = none := by
  cases found : l.interfaces.get? l.nextIndex with
  | none => rfl
  | some d => exact absurd (h.below _ d found) (UInt32.lt_irrefl _)

/-- The index after the next lies above the next, if it is one. -/
theorem lt_next (l : Links) (room : l.nextIndex.toNat + 1 < UInt32.size) :
    l.nextIndex < l.nextIndex + 1 := by
  rw [UInt32.lt_iff_toNat_lt, UInt32.toNat_add]
  have one : (1 : UInt32).toNat = 1 := rfl
  simp only [UInt32.size] at room
  omega

/-- A new interface keeps the indexes below, if there is one left for the next. -/
theorem added (h : l.Bounded) (room : l.nextIndex.toNat + 1 < UInt32.size) (i : Interface) :
    (InterfaceCall.added l i).Bounded where
  positive := UInt32.lt_trans h.positive (lt_next l room)
  below := by
    intro j d found
    show j < l.nextIndex + 1
    rw [InterfaceCall.get?_added] at found
    split at found
    · next same => exact same ▸ lt_next l room
    · exact UInt32.lt_trans (h.below j d found) (lt_next l room)

end Links.Bounded

/-! ### What lies ahead -/

/-- Whether an index has an entry in a list. -/
def Among (entries : List (UInt32 × InterfaceDetails)) (j : UInt32) : Prop :=
  ∃ d, (j, d) ∈ entries

theorem not_among_nil (j : UInt32) : ¬ Among [] j := by
  rintro ⟨d, there⟩
  exact nomatch there

theorem among_nil : Among [] = fun _ => False :=
  funext fun j => propext ⟨not_among_nil j, False.elim⟩

/-- No two entries of a table have one index, so what is ahead after the first of some of them
is at another index. -/
theorem among_rest {t : Table UInt32 InterfaceDetails} {x : UInt32 × InterfaceDetails}
    {rest : List (UInt32 × InterfaceDetails)} (sub : (x :: rest).Sublist t.entries) (j : UInt32) :
    Among rest j ↔ Among (x :: rest) j ∧ j ≠ x.1 := by
  have below := (List.pairwise_cons.mp (t.ascending.sublist sub)).1
  constructor
  · rintro ⟨d, there⟩
    refine ⟨⟨d, List.mem_cons_of_mem x there⟩, ?_⟩
    rintro rfl
    exact UInt32.lt_irrefl _ (below (x.1, d) there)
  · rintro ⟨⟨d, there⟩, other⟩
    rcases List.mem_cons.mp there with rfl | there
    · exact absurd rfl other
    · exact ⟨d, there⟩

open Interface

variable {wanted : List Interface} {actual : Table UInt32 InterfaceDetails}
variable {ahead ahead' : UInt32 → Prop} {registry : Registry Interface} {l l' : Links}
variable {index : UInt32} {d : InterfaceDetails} {name : String}

/-- How things stand while the interfaces at some indexes are still ahead of a pass. -/
structure Underway (wanted : List Interface) (actual : Table UInt32 InterfaceDetails)
    (ahead : UInt32 → Prop) (registry : Registry Interface) (l : Links) : Prop where
  /-- What is ahead is as it was dumped. -/
  untouched : ∀ j, ahead j → l.interfaces.get? j = actual.get? j
  /-- What is not ahead will do for a wanted interface of its name. -/
  settled : ∀ j d, l.interfaces.get? j = some d → j ≠ 0 →
    ahead j ∨ ∃ w ∈ wanted, w.name = d.interface.name ∧ Suits w d.interface
  /-- What is registered is not ahead, and has the name under which it is registered. -/
  registered : ∀ name index data, registry.lookup? name = some (index, data) →
    ¬ ahead index ∧ ∃ d, l.interfaces.get? index = some d ∧ d.nameAt index = name
  bounded : l.Bounded

namespace Underway

/-- Nothing is registered under an index that is ahead, or at which there is nothing. -/
theorem unregistered (h : Underway wanted actual ahead registry l)
    (free : ahead index ∨ l.interfaces.get? index = none) (name : String) (data : Interface) :
    registry.lookup? name ≠ some (index, data) := by
  intro found
  obtain ⟨passed, d, there, -⟩ := h.registered name index data found
  rcases free with here | nothing
  · exact passed here
  · exact nomatch there.symm.trans nothing

/-- Once an entry has been put, its name may be registered. -/
theorem put (h : Underway wanted actual ahead registry l)
    (free : ahead index ∨ l.interfaces.get? index = none)
    (passed : ∀ j, ahead' j ↔ ahead j ∧ j ≠ index)
    (changed : ∀ j, l'.interfaces.get? j = if j = index then some d else l.interfaces.get? j)
    (bounded : l'.Bounded)
    (fits : index ≠ 0 → ∃ w ∈ wanted, w.name = d.interface.name ∧ Suits w d.interface)
    (data : Interface) :
    Underway wanted actual ahead' (registry.register (d.nameAt index) index data) l' where
  untouched j hj := by
    obtain ⟨before, other⟩ := (passed j).mp hj
    rw [changed, if_neg other, h.untouched j before]
  settled := by
    intro j e found device
    rw [changed] at found
    by_cases here : j = index
    · rw [if_pos here, Option.some.injEq] at found
      subst here found
      exact Or.inr (fits device)
    · rw [if_neg here] at found
      exact (h.settled j e found device).imp_left fun before => (passed j).mpr ⟨before, here⟩
  registered := by
    intro name j e found
    rw [Registry.lookup?_register] at found
    split at found
    · next same =>
      obtain ⟨rfl, rfl⟩ := Prod.mk.inj (Option.some.inj found)
      exact ⟨fun still => ((passed _).mp still).2 rfl, d, by rw [changed, if_pos rfl], same.symm⟩
    · -- what was registered before is at another index, as nothing was registered here
      obtain ⟨gone, e', there, named⟩ := h.registered name j e found
      have other : j ≠ index := by
        rintro rfl
        exact h.unregistered free name e found
      refine ⟨fun still => gone ((passed j).mp still).1, e', ?_, named⟩
      rw [changed, if_neg other, there]
  bounded := bounded

/-- Once an entry has been removed, no name need be registered for it. -/
theorem removed (h : Underway wanted actual ahead registry l) (here : ahead index)
    (passed : ∀ j, ahead' j ↔ ahead j ∧ j ≠ index) (changed : l.Updated index none l')
    (bounded : l'.Bounded) (name : String) (data : Interface) :
    Underway wanted actual ahead' ((registry.register name index data).drop name) l' where
  untouched j hj := by
    obtain ⟨before, other⟩ := (passed j).mp hj
    rw [changed.get?_ne other, h.untouched j before]
  settled := by
    intro j e found device
    rw [changed.get?] at found
    split at found
    · contradiction
    · next other =>
      exact (h.settled j e found device).imp_left fun before => (passed j).mpr ⟨before, other⟩
  registered := by
    intro other j e found
    rw [Registry.lookup?_drop, Registry.lookup?_register] at found
    by_cases same : other = name
    · rw [if_pos same] at found
      contradiction
    · rw [if_neg same, if_neg same] at found
      obtain ⟨gone, e', there, named⟩ := h.registered other j e found
      -- what is registered is not ahead, so it is not what has been removed
      have apart : j ≠ index := by
        rintro rfl
        exact gone here
      refine ⟨fun still => gone ((passed j).mp still).1, e', ?_, named⟩
      rw [changed.get?_ne apart, there]
  bounded := bounded

/-- At the start everything is ahead. -/
theorem start (bounded : l.Bounded) (all : ∀ j d, l.interfaces.get? j = some d → ahead j) :
    Underway wanted l.interfaces ahead ∅ l where
  untouched _ _ := rfl
  settled j d found _ := Or.inl (all j d found)
  registered _ _ _ found := nomatch found
  bounded := bounded

end Underway

/-! ### Registering everything -/

/-- While names tell the interfaces apart, everything that is not ahead of a pass is
registered. -/
structure Orderly (ahead : UInt32 → Prop) (registry : Registry Interface) (l : Links) : Prop where
  tagged : l.interfaces.WellTagged
  complete : ∀ j d, l.interfaces.get? j = some d →
    ahead j ∨ ∃ data, registry.lookup? (d.nameAt j) = some (j, data)
  faithful : registry.Faithful

namespace Orderly

/-- Nothing but what is ahead has a name that is not registered. -/
theorem unclaimed (h : Orderly ahead registry l) (unregistered : registry.contains name = false)
    (others : ∀ j d, l.interfaces.get? j = some d → ahead j → j ≠ index → d.nameAt j ≠ name) :
    l.interfaces.Unclaimed name index := by
  intro j e there other
  rcases h.complete j e there with before | ⟨data, found⟩
  · exact others j e there before other
  · rintro rfl
    have known : registry.contains (e.nameAt j) = true :=
      Registry.contains_iff.mpr ⟨j, data, found⟩
    rw [unregistered] at known
    contradiction

/-- An entry may be put and registered under a name that nothing else has. -/
theorem put (h : Orderly ahead registry l) (u : Underway wanted actual ahead registry l)
    (free : ahead index ∨ l.interfaces.get? index = none)
    (passed : ∀ j, ahead' j ↔ ahead j ∧ j ≠ index)
    (changed : ∀ j, l'.interfaces.get? j = if j = index then some d else l.interfaces.get? j)
    (unclaimed : l.interfaces.Unclaimed (d.nameAt index) index)
    (device : index = 0 → d.internalName = localName) (data : Interface) :
    Orderly ahead' (registry.register (d.nameAt index) index data) l' where
  tagged := h.tagged.put unclaimed device changed
  complete := by
    intro j e found
    rw [changed] at found
    rw [Registry.lookup?_register]
    by_cases here : j = index
    · rw [if_pos here, Option.some.injEq] at found
      subst here found
      exact Or.inr ⟨data, if_pos rfl⟩
    · -- the new registration replaces no other, since nothing else has the name
      rw [if_neg here] at found
      rw [if_neg (unclaimed j e found here)]
      exact (h.complete j e found).imp_left fun before => (passed j).mpr ⟨before, here⟩
  faithful := h.faithful.register data fun other e found =>
    absurd found (u.unregistered free other e)

/-- An entry may be removed whose name, while it is registered, nothing else has. -/
theorem removed (h : Orderly ahead registry l) (u : Underway wanted actual ahead registry l)
    (here : ahead index) (passed : ∀ j, ahead' j ↔ ahead j ∧ j ≠ index) (device : index ≠ 0)
    (changed : l.Updated index none l') (unclaimed : l.interfaces.Unclaimed name index)
    (data : Interface) :
    Orderly ahead' ((registry.register name index data).drop name) l' where
  tagged := h.tagged.removed device changed.get?
  complete := by
    intro j e found
    rw [changed.get?] at found
    split at found
    · contradiction
    · next other =>
      -- nothing else has the name that is dropped
      rw [Registry.lookup?_drop, Registry.lookup?_register, if_neg (unclaimed j e found other),
        if_neg (unclaimed j e found other)]
      exact (h.complete j e found).imp_left fun before => (passed j).mpr ⟨before, other⟩
  faithful := (h.faithful.register data fun other e found =>
    absurd found (u.unregistered (Or.inl here) other e)).drop name

/-- At the start everything is ahead. -/
theorem start (tagged : l.interfaces.WellTagged)
    (all : ∀ j d, l.interfaces.get? j = some d → ahead j) : Orderly ahead ∅ l where
  tagged := tagged
  complete j d found := Or.inl (all j d found)
  faithful := Registry.faithful_empty

end Orderly

end DataplaneSync
