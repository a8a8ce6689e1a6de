import DataplaneSync.Dataplane.Simulation
import DataplaneSync.Proofs.Pairing

namespace DataplaneSync

/-!
# Groups of mappings in the dataplane

What the calls about mappings do to the group of each label.

* `groupOf` — the group of a label.
* `Regrouped` — one group has become another one, all others are as they were.
* `regrouped_add`, `regrouped_delete` — adding and removing mappings.
* `DestinationNat.reconciled` — what a group becomes: what is missing is added, and what is
  surplus is removed.
-/

/-! ### The group of a label -/

/-- The group of a label, without mappings if the dataplane has none. -/
def groupOf (ds : List DestinationNat) (label : String) : DestinationNat :=
  (ds.find? (·.label == label)).getD { label := label }

variable {ds ds' ds'' : List DestinationNat} {label : String} {d : DestinationNat}

theorem groupOf_cons (d : DestinationNat) (ds : List DestinationNat) (label : String) :
    groupOf (d :: ds) label = if d.label = label then d else groupOf ds label := by
  by_cases same : d.label = label <;> simp [groupOf, same]

@[simp] theorem label_groupOf (ds : List DestinationNat) (label : String) :
    (groupOf ds label).label = label := by
  induction ds with
  | nil => rfl
  | cons d ds ih =>
    rw [groupOf_cons]
    split
    · assumption
    · exact ih

/-- What is found under a label is the group of the label. -/
theorem groupOf_of_find (found : ds.find? (·.label == label) = some d) : groupOf ds label = d := by
  simp [groupOf, found]

/-- If labels differ, each group is the one of its label. -/
theorem groupOf_of_mem (distinct : (ds.map (·.label)).Nodup) (there : d ∈ ds) :
    groupOf ds d.label = d := by
  induction ds with
  | nil => exact absurd there List.not_mem_nil
  | cons e ds ih =>
    obtain ⟨other, distinct'⟩ := List.nodup_cons.mp distinct
    rw [groupOf_cons]
    rcases List.mem_cons.mp there with rfl | there
    · exact if_pos rfl
    · have apart : e.label ≠ d.label := by
        intro same
        exact other (List.mem_map.mpr ⟨d, there, same.symm⟩)
      rw [if_neg apart]
      exact ih distinct' there

/-- A label that no group has stands for no mappings. -/
theorem groupOf_of_not_mem (absent : label ∉ ds.map (·.label)) :
    groupOf ds label = { label := label } := by
  have none_ : ds.find? (·.label == label) = none := by
    rw [List.find?_eq_none]
    intro d there
    simpa using fun same : d.label = label => absent (same ▸ List.mem_map_of_mem there)
  simp [groupOf, none_]

/-- A change under a label changes the group of that label alone. -/
theorem groupOf_onLabel {change : DestinationNat → DestinationNat}
    (kept : ∀ d, (change d).label = d.label) (ds : List DestinationNat) (label other : String) :
    groupOf (onLabel label change ds) other =
      if other = label then change (groupOf ds label) else groupOf ds other := by
  induction ds with
  | nil =>
    rw [onLabel, groupOf_cons, kept]
    by_cases same : other = label
    · rw [if_pos same.symm, if_pos same]
      rfl
    · rw [if_neg (Ne.symm same), if_neg same]
  | cons d ds ih =>
    rw [onLabel]
    by_cases here : d.label = label
    · rw [if_pos (beq_iff_eq.mpr here), groupOf_cons, groupOf_cons, groupOf_cons, kept,
        if_pos here]
      by_cases same : other = label
      · rw [if_pos (here.trans same.symm), if_pos same]
      · have apart : d.label ≠ other := fun e => same (e.symm.trans here)
        rw [if_neg apart, if_neg same, if_neg apart]
    · rw [if_neg (mt beq_iff_eq.mp here), groupOf_cons, groupOf_cons, groupOf_cons, ih,
        if_neg here]
      by_cases same : other = label
      · rw [if_neg fun e => here (e.trans same), if_pos same, if_pos same]
      · rw [if_neg same, if_neg same]

/-- The labels after a change under a label, which is new if no group had it. -/
theorem labels_onLabel {change : DestinationNat → DestinationNat}
    (kept : ∀ d, (change d).label = d.label) (ds : List DestinationNat) (label : String) :
    (onLabel label change ds).map (·.label) =
      if label ∈ ds.map (·.label) then ds.map (·.label) else ds.map (·.label) ++ [label] := by
  induction ds with
  | nil => simp [onLabel, kept]
  | cons d ds ih =>
    rw [onLabel]
    by_cases here : d.label = label
    · simp [here, kept]
    · have there : label ∈ (d :: ds).map (·.label) ↔ label ∈ ds.map (·.label) := by
        simp [Ne.symm here]
      simp only [beq_iff_eq, if_neg here, List.map_cons, ih]
      simp only [List.map_cons] at there
      split <;> simp_all

/-- Groups without mappings do not count. -/
theorem groupOf_filter (distinct : (ds.map (·.label)).Nodup) (label : String) :
    groupOf (ds.filter (!·.isEmpty)) label = groupOf ds label := by
  induction ds with
  | nil => rfl
  | cons d ds ih =>
    obtain ⟨other, distinct'⟩ := List.nodup_cons.mp distinct
    rw [groupOf_cons]
    cases empty : d.isEmpty with
    | false => rw [List.filter_cons_of_pos (by simp [empty]), groupOf_cons, ih distinct']
    | true =>
      rw [List.filter_cons_of_neg (by simp [empty]), ih distinct']
      split
      · next same =>
        -- the group that goes had no mappings, and no other group has its label
        have none_ : d.statics = [] ∧ d.identities = [] := by
          simpa [DestinationNat.isEmpty] using empty
        rw [groupOf_of_not_mem (same ▸ other), ← same]
        obtain ⟨l, statics, identities⟩ := d
        obtain ⟨rfl, rfl⟩ := none_
        rfl
      · rfl

/-! ### Changes of one group -/

/-- The group of a label has become `d`; all others are as they were. -/
structure Regrouped (ds : List DestinationNat) (label : String) (d : DestinationNat)
    (ds' : List DestinationNat) : Prop where
  distinct : (ds'.map (·.label)).Nodup
  group : ∀ other, groupOf ds' other = if other = label then d else groupOf ds other

namespace Regrouped

variable {d' : DestinationNat}

theorem refl (distinct : (ds.map (·.label)).Nodup) (label : String) :
    Regrouped ds label (groupOf ds label) ds where
  distinct := distinct
  group other := by
    split
    · next same => rw [same]
    · rfl

theorem group_self (h : Regrouped ds label d ds') : groupOf ds' label = d := by
  rw [h.group, if_pos rfl]

theorem group_ne (h : Regrouped ds label d ds') {other : String} (apart : other ≠ label) :
    groupOf ds' other = groupOf ds other := by
  rw [h.group, if_neg apart]

/-- The later of two changes of one group counts. -/
theorem trans (h : Regrouped ds label d ds') (h' : Regrouped ds' label d' ds'') :
    Regrouped ds label d' ds'' where
  distinct := h'.distinct
  group other := by
    rw [h'.group, h.group]
    split <;> rfl

end Regrouped

/-- Adding mappings keeps the label. -/
theorem Mapping.label_addTo (m : Mapping) (d : DestinationNat) : (m.addTo d).label = d.label := by
  cases m <;> rfl

/-- Removing mappings keeps the label. -/
theorem Mapping.label_deleteFrom (m : Mapping) (d : DestinationNat) :
    (m.deleteFrom d).label = d.label := by
  cases m <;> rfl

/-- A change under a label keeps labels different. -/
theorem nodup_labels_onLabel {change : DestinationNat → DestinationNat}
    (kept : ∀ d, (change d).label = d.label) (distinct : (ds.map (·.label)).Nodup)
    (label : String) : ((onLabel label change ds).map (·.label)).Nodup := by
  rw [labels_onLabel kept]
  split
  · exact distinct
  · next new =>
    rw [List.nodup_append]
    exact ⟨distinct, List.nodup_cons.mpr ⟨List.not_mem_nil, List.nodup_nil⟩, by grind⟩

/-- The groups once a mapping has been added. -/
theorem regrouped_add (distinct : (ds.map (·.label)).Nodup) (label : String) (m : Mapping) :
    Regrouped ds label (m.addTo (groupOf ds label)) (onLabel label m.addTo ds) where
  distinct := nodup_labels_onLabel m.label_addTo distinct label
  group other := groupOf_onLabel m.label_addTo ds label other

/-- The groups once a mapping has been removed, and with it the groups without mappings. -/
theorem regrouped_delete (distinct : (ds.map (·.label)).Nodup) (label : String) (m : Mapping) :
    Regrouped ds label (m.deleteFrom (groupOf ds label))
      ((onLabel label m.deleteFrom ds).filter (!·.isEmpty)) := by
  have distinct' := nodup_labels_onLabel m.label_deleteFrom distinct label
  refine ⟨distinct'.sublist (List.filter_sublist.map _), fun other => ?_⟩
  rw [groupOf_filter distinct', groupOf_onLabel m.label_deleteFrom]

/-! ### Mappings of a group -/

namespace DestinationNat

/-- The mappings of a group, in the order in which they are created. -/
def mappings (d : DestinationNat) : List Mapping :=
  d.statics.map .ofStatic ++ d.identities.map .identity

/-- The wanted mappings that an actual group does not have. -/
def missing (wanted actual : DestinationNat) : List Mapping :=
  (wanted.statics.filter
      (· ∉ (pairOff StaticMapping.isFor wanted.statics actual.statics).found)).map .ofStatic ++
    (wanted.identities.filter
      (· ∉ (pairOff IdentityMapping.isFor wanted.identities actual.identities).found)).map .identity

/-- The mappings of an actual group that are not wanted. -/
def surplus (wanted actual : DestinationNat) : List Mapping :=
  (pairOff StaticMapping.isFor wanted.statics actual.statics).leftover.map .ofStatic ++
    (pairOff IdentityMapping.isFor wanted.identities actual.identities).leftover.map .identity

/-- What becomes of an actual group. -/
def reconciled (wanted actual : DestinationNat) : DestinationNat where
  label := actual.label
  statics := settled StaticMapping.isFor wanted.statics actual.statics
  identities := settled IdentityMapping.isFor wanted.identities actual.identities

end DestinationNat

theorem Mapping.addTo_ofStatic (m : StaticMapping) (d : DestinationNat) :
    (ofStatic m).addTo d = { d with statics := d.statics ++ [m] } := by
  unfold ofStatic
  split <;> rfl

theorem Mapping.deleteFrom_ofStatic (m : StaticMapping) (d : DestinationNat) :
    (ofStatic m).deleteFrom d = { d with statics := d.statics.filter (· != m) } := by
  unfold ofStatic
  split <;> rfl

/-- Adding static mappings one after the other. -/
theorem foldl_addTo_statics (ms : List StaticMapping) (d : DestinationNat) :
    (ms.map Mapping.ofStatic).foldl (fun d m => m.addTo d) d =
      { d with statics := d.statics ++ ms } := by
  induction ms generalizing d with
  | nil => simp
  | cons m ms ih =>
    rw [List.map_cons, List.foldl_cons, Mapping.addTo_ofStatic, ih]
    simp

/-- Adding identity mappings one after the other. -/
theorem foldl_addTo_identities (ms : List IdentityMapping) (d : DestinationNat) :
    (ms.map Mapping.identity).foldl (fun d m => m.addTo d) d =
      { d with identities := d.identities ++ ms } := by
  induction ms generalizing d with
  | nil => simp
  | cons m ms ih =>
    rw [List.map_cons, List.foldl_cons, ih]
    simp [Mapping.addTo]

/-- Removing one element and then others. -/
theorem filter_ne_filter_not_mem {α : Type} [DecidableEq α] (x : α) (xs ys : List α) :
    (ys.filter (· != x)).filter (· ∉ xs) = ys.filter (· ∉ x :: xs) := by
  rw [List.filter_filter]
  refine List.filter_congr fun y _ => ?_
  by_cases same : y = x <;> simp [same]

/-- Removing static mappings one after the other. -/
theorem foldl_deleteFrom_statics (ms : List StaticMapping) (d : DestinationNat) :
    (ms.map Mapping.ofStatic).foldl (fun d m => m.deleteFrom d) d =
      { d with statics := d.statics.filter (· ∉ ms) } := by
  induction ms generalizing d with
  | nil => simp
  | cons m ms ih =>
    rw [List.map_cons, List.foldl_cons, Mapping.deleteFrom_ofStatic, ih]
    simp only [filter_ne_filter_not_mem]

/-- Removing identity mappings one after the other. -/
theorem foldl_deleteFrom_identities (ms : List IdentityMapping) (d : DestinationNat) :
    (ms.map Mapping.identity).foldl (fun d m => m.deleteFrom d) d =
      { d with identities := d.identities.filter (· ∉ ms) } := by
  induction ms generalizing d with
  | nil => simp
  | cons m ms ih =>
    rw [List.map_cons, List.foldl_cons, ih]
    simp only [Mapping.deleteFrom, filter_ne_filter_not_mem]

/-- Whether pairing puts things into the right place: each counts as itself, none is there twice. -/
structure Pairable {α : Type} (isFor : α → α → Bool) (wanted : List α) : Prop where
  self : ∀ w ∈ wanted, isFor w w = true
  once : wanted.Nodup

/-- Adding what was not found and then removing what is left over gives what is settled: nothing
that has been added is removed again. -/
theorem filter_append_leftover {α : Type} [DecidableEq α] {isFor : α → α → Bool}
    {wanted : List α} (pairable : Pairable isFor wanted) (actual : List α) :
    (actual ++ wanted.filter (· ∉ (pairOff isFor wanted actual).found)).filter
        (· ∉ (pairOff isFor wanted actual).leftover) =
      settled isFor wanted actual := by
  rw [settled, List.filter_append]
  congr 1
  refine List.filter_eq_self.mpr fun w added => ?_
  obtain ⟨member, missing⟩ := List.mem_filter.mp added
  -- what has been added counts as itself, and nothing left over counts as it
  have fits := pairable.self w member
  refine decide_eq_true fun left => ?_
  rw [not_isFor_leftover member (of_decide_eq_true missing) w left] at fits
  contradiction

/-- Adding what is missing and then removing what is surplus. -/
theorem foldl_missing_surplus {wanted : DestinationNat}
    (statics : Pairable StaticMapping.isFor wanted.statics)
    (identities : Pairable IdentityMapping.isFor wanted.identities) (actual : DestinationNat) :
    (wanted.surplus actual).foldl (fun d m => m.deleteFrom d)
        ((wanted.missing actual).foldl (fun d m => m.addTo d) actual) =
      wanted.reconciled actual := by
  simp only [DestinationNat.missing, DestinationNat.surplus, List.foldl_append,
    foldl_addTo_statics, foldl_addTo_identities, foldl_deleteFrom_statics,
    foldl_deleteFrom_identities, filter_append_leftover statics, filter_append_leftover identities,
    DestinationNat.reconciled]

/-- After reconciliation nothing is missing and nothing is surplus. -/
theorem missing_surplus_reconciled {wanted actual : DestinationNat}
    (statics : Pairable StaticMapping.isFor wanted.statics)
    (identities : Pairable IdentityMapping.isFor wanted.identities)
    (once : actual.statics.Nodup ∧ actual.identities.Nodup) :
    wanted.missing (wanted.reconciled actual) = [] ∧
      wanted.surplus (wanted.reconciled actual) = [] := by
  obtain ⟨found, leftover⟩ := pairOff_settled statics.self statics.once once.1
  obtain ⟨found', leftover'⟩ := pairOff_settled identities.self identities.once once.2
  constructor
  · simp only [DestinationNat.missing, DestinationNat.reconciled, found, found']
    simp
  · simp only [DestinationNat.surplus, DestinationNat.reconciled, leftover, leftover']
    rfl

end DataplaneSync
