import DataplaneSync.Nat44.Reconciler
import DataplaneSync.Proofs.Behaviour
import DataplaneSync.Proofs.DestinationGroups
import DataplaneSync.Proofs.Lookup

namespace DataplaneSync

/-!
# Steps of a pass over groups of mappings

What each step does to what is known and to the groups of the dataplane, which refuses no call.

* `NatReconciler.Learned` — more mappings are known, and nothing else has changed but counts.
* `ensures_settleMappings`, `ensures_deletions` — the mappings of one group.
* `ensures_settle` — a wanted group that the dataplane has.
-/

/-! ### What is known -/

/-- The name under which a mapping is known: the identifier, apart for static and identity
mappings. -/
def Mapping.key : Mapping → String ⊕ String
  | single m => .inl m.identifier
  | balanced m => .inl m.identifier
  | identity m => .inr m.identifier

theorem Mapping.key_ofStatic (m : StaticMapping) : (ofStatic m).key = .inl m.identifier := by
  unfold ofStatic
  split <;> rfl

/-- A mapping that can be created, in the form in which it is. -/
inductive Mapping.Creatable : Mapping → Prop where
  | static (m : StaticMapping) : m.locals ≠ [] → Creatable (ofStatic m)
  | identity (m : IdentityMapping) : Creatable (identity m)

namespace NatReconciler

/-- Whether a mapping is registered. -/
def knows (r : NatReconciler) : String ⊕ String → Bool
  | .inl identifier => r.statics.contains identifier
  | .inr identifier => r.identities.contains identifier

/-- Some mappings have been registered. -/
structure Learned (r : NatReconciler) (keys : List (String ⊕ String)) (r' : NatReconciler) :
    Prop where
  knows : ∀ key, r'.knows key = true ↔ r.knows key = true ∨ key ∈ keys
  labels : r'.labels = r.labels
  connected : r'.connected = r.connected

variable {r r' r'' : NatReconciler} {keys keys' : List (String ⊕ String)}

namespace Learned

theorem refl (r : NatReconciler) : Learned r [] r := ⟨by simp, rfl, rfl⟩

theorem trans (h : Learned r keys r') (h' : Learned r' keys' r'') :
    Learned r (keys ++ keys') r'' where
  knows key := by rw [h'.knows, h.knows, List.mem_append, or_assoc]
  labels := h'.labels.trans h.labels
  connected := h'.connected.trans h.connected

/-- Which mappings have been registered is a matter of the set of their keys. -/
theorem congr (h : Learned r keys r') (same : ∀ key, key ∈ keys' ↔ key ∈ keys) :
    Learned r keys' r' := ⟨fun key => by rw [h.knows, same], h.labels, h.connected⟩

end Learned

theorem learned_enrollStatic (r : NatReconciler) (m : StaticMapping) :
    Learned r [.inl m.identifier] (enrollStatic m r) := by
  refine ⟨fun key => ?_, rfl, rfl⟩
  cases key <;> simp [knows, enrollStatic, or_comm]

theorem learned_enrollIdentity (r : NatReconciler) (m : IdentityMapping) :
    Learned r [.inr m.identifier] (enrollIdentity m r) := by
  refine ⟨fun key => ?_, rfl, rfl⟩
  cases key <;> simp [knows, enrollIdentity, or_comm]

/-- A wanted static mapping that was found is registered. -/
theorem learned_enrollFoundStatic {wanted : DestinationNat} {m : StaticMapping}
    (member : m ∈ wanted.statics) (r : NatReconciler) :
    Learned r [.inl m.identifier] (enrollFoundStatic wanted m r) := by
  unfold enrollFoundStatic
  split
  · next n found =>
    have same : n.identifier = m.identifier := by simpa using List.find?_some found
    exact same ▸ learned_enrollStatic r n
  · next none_ =>
    exact absurd (beq_self_eq_true m.identifier) (List.find?_eq_none.mp none_ m member)

/-- A wanted identity mapping that was found is registered. -/
theorem learned_enrollFoundIdentity {wanted : DestinationNat} {m : IdentityMapping}
    (member : m ∈ wanted.identities) (r : NatReconciler) :
    Learned r [.inr m.identifier] (enrollFoundIdentity wanted m r) := by
  unfold enrollFoundIdentity
  split
  · next n found =>
    have same : n.identifier = m.identifier := by simpa using List.find?_some found
    exact same ▸ learned_enrollIdentity r n
  · next none_ =>
    exact absurd (beq_self_eq_true m.identifier) (List.find?_eq_none.mp none_ m member)

/-- Besides the group that is registered last, the groups are those that were registered before. -/
theorem contains_enrollLabel (learned : Learned r keys r') (d : DestinationNat) (label : String) :
    (enrollLabel d r').labels.contains label =
      (decide (label = d.label) || r.labels.contains label) := by
  rw [← learned.labels]
  exact Registry.contains_register ..

/-- Registering one mapping after the other. -/
theorem learned_foldl {α : Type} {enroll : α → NatReconciler → NatReconciler}
    {key : α → String ⊕ String} (found : List α) (r : NatReconciler)
    (step : ∀ m ∈ found, ∀ r, Learned r [key m] (enroll m r)) :
    Learned r (found.map key) (found.foldl (fun r m => enroll m r) r) := by
  induction found generalizing r with
  | nil => exact Learned.refl r
  | cons m rest ih =>
    have first := step m List.mem_cons_self r
    exact first.trans (ih _ fun n hn => step n (List.mem_cons_of_mem m hn))

/-! ### Single mappings -/

section Steps

variable {allowed : Call → Prop} {s : NatTables} {tally : FailureTally NatFailure}
variable {label : String} {m : Mapping}

/-- A change that can be carried out is. -/
theorem ensures_change {c : NatCall} {reply : c.Reply} {s' : NatTables}
    {subject : Answer (.nat c) → AuditSubject} {failure : String → NatFailure}
    {Q : c.Reply → NatReconciler → NatTables → Prop}
    {E : NatFailure → NatReconciler → NatTables → Prop}
    (carried : c.perform s = (.ok reply, s')) (permitted : allowed (.nat c))
    (done : Q reply r s') :
    Pass.Ensures (NatTables.behaviour False allowed) (Pass.change (.nat c) subject failure) r s
      Q E := by
  rw [Pass.ensures_change]
  refine ⟨⟨rfl, permitted⟩, fun answer t given => ?_⟩
  rcases Effect.Gives.of_carried given carried with ⟨rfl, rfl⟩ | ⟨never, -⟩
  · exact done
  · exact never.elim

/-- Create a mapping unless it is registered. -/
def settleMapping (label : String) : Mapping → SweepStep Unit
  | .single m => settleStatic label m
  | .balanced m => settleStatic label m
  | .identity m => settleIdentity label m

theorem settleMapping_ofStatic (label : String) (m : StaticMapping) :
    settleMapping label (.ofStatic m) = settleStatic label m := by
  unfold Mapping.ofStatic
  split <;> rfl

theorem createMissing_eq (d : DestinationNat) :
    createMissing d = d.mappings.forM (settleMapping d.label) := by
  unfold createMissing DestinationNat.mappings
  simp only [List.forM_eq_forM, List.forM_append, List.forM_map, settleMapping_ofStatic]
  rfl

theorem deleteAll_eq (label : String) (statics : List StaticMapping)
    (identities : List IdentityMapping) :
    deleteAll label statics identities =
      (statics.map Mapping.ofStatic ++ identities.map Mapping.identity).forM
        fun m => Sweep.tolerate (deleteMapping label m) := by
  unfold deleteAll
  simp only [List.forM_eq_forM, List.forM_append, List.forM_map]

/-- A mapping is created unless it is known. -/
theorem ensures_settleMapping
    {Q : Unit → NatReconciler × FailureTally NatFailure → NatTables → Prop}
    (creatable : m.Creatable)
    (permitted : r.knows m.key = false → allowed (.nat (.addMapping label m)))
    (known : r.knows m.key = true → Q () (r, tally) s)
    (created : r.knows m.key = false → ∀ r', Learned r [m.key] r' →
      Q () (r', tally) { s with destinations := onLabel label m.addTo s.destinations }) :
    Sweep.Ensures (NatTables.behaviour False allowed) (settleMapping label m) (r, tally) s Q := by
  cases creatable with
  | static m endpoint =>
    rw [Mapping.key_ofStatic] at permitted known created
    rw [settleMapping_ofStatic]
    simp only [settleStatic, Sweep.ensures_bind, Sweep.ensures_state]
    split
    · next h => exact known h
    · next h =>
      have unknown : r.knows (.inl m.identifier) = false := Bool.eq_false_iff.mpr h
      have some_ : m.locals.isEmpty = false := by simpa using endpoint
      simp only [Sweep.ensures_tolerate, createStatic, some_, Bool.false_eq_true, if_false,
        addMapping, Pass.ensures_bind, Pass.ensures_modify]
      refine ensures_change rfl (permitted unknown) (created unknown _ ?_)
      have learned := learned_enrollStatic r m
      exact ⟨learned.knows, learned.labels, learned.connected⟩
  | identity m =>
    show Sweep.Ensures _ (settleIdentity label m) (r, tally) s Q
    simp only [settleIdentity, Sweep.ensures_bind, Sweep.ensures_state]
    split
    · next h => exact known h
    · next h =>
      have unknown : r.knows (.inr m.identifier) = false := Bool.eq_false_iff.mpr h
      simp only [Sweep.ensures_tolerate, createIdentity, addMapping, Pass.ensures_bind,
        Pass.ensures_modify]
      refine ensures_change rfl (permitted unknown) (created unknown _ ?_)
      have learned := learned_enrollIdentity r m
      exact ⟨learned.knows, learned.labels, learned.connected⟩

/-! ### Mappings of one group -/

/-- The mappings of a list that are not known are created; then all are. -/
theorem ensures_settleMappings {ms : List Mapping} (creatable : ∀ m ∈ ms, m.Creatable)
    (once : (ms.map Mapping.key).Nodup) (distinct : (s.destinations.map (·.label)).Nodup)
    (permitted : ∀ m ∈ ms, r.knows m.key = false → allowed (.nat (.addMapping label m))) :
    Sweep.Ensures (NatTables.behaviour False allowed) (ms.forM (settleMapping label)) (r, tally) s
      fun _ x s' => Learned r (ms.map Mapping.key) x.1 ∧ x.2 = tally ∧
        Regrouped s.destinations label
          ((ms.filter fun m => !r.knows m.key).foldl (fun d m => m.addTo d)
            (groupOf s.destinations label)) s'.destinations := by
  induction ms generalizing r s with
  | nil => exact ⟨Learned.refl r, rfl, Regrouped.refl distinct label⟩
  | cons m rest ih =>
    obtain ⟨other, once'⟩ := List.nodup_cons.mp once
    have creatable' := fun n hn => creatable n (List.mem_cons_of_mem m hn)
    rw [Sweep.ensures_forM_cons]
    refine ensures_settleMapping (creatable m List.mem_cons_self) (permitted m List.mem_cons_self)
      (fun known => ?_) (fun unknown r' learned => ?_)
    · -- nothing happens to a mapping that is known
      refine (ih creatable' once' distinct
        fun n hn => permitted n (List.mem_cons_of_mem m hn)).mono fun _ x s' state => ?_
      obtain ⟨learned, same, regrouped⟩ := state
      refine ⟨⟨fun key => ?_, learned.labels, learned.connected⟩, same, ?_⟩
      · rw [learned.knows, List.map_cons, List.mem_cons]
        constructor
        · exact Or.imp_right Or.inr
        · rintro (before | rfl | later)
          · exact Or.inl before
          · exact Or.inl known
          · exact Or.inr later
      · rwa [List.filter_cons_of_neg (by simp [known])]
    · -- the others are known as before, since their keys are different
      have kept : ∀ n ∈ rest, r'.knows n.key = r.knows n.key := by
        intro n hn
        have apart : n.key ≠ m.key := fun same => other (same ▸ List.mem_map_of_mem hn)
        rw [Bool.eq_iff_iff, learned.knows]
        simp [apart]
      have added := regrouped_add distinct label m
      refine (ih (s := { s with destinations := onLabel label m.addTo s.destinations }) creatable'
        once' added.distinct fun n hn new => permitted n (List.mem_cons_of_mem m hn)
          (kept n hn ▸ new)).mono fun _ x s' state => ?_
      obtain ⟨learned', same, regrouped⟩ := state
      refine ⟨learned.trans learned', same, added.trans ?_⟩
      rw [added.group_self, List.filter_congr fun n hn => by rw [kept n hn]] at regrouped
      rwa [List.filter_cons_of_pos (by simp [unknown]), List.foldl_cons]

/-- The mappings of a list are removed. -/
theorem ensures_deletions {ms : List Mapping} (distinct : (s.destinations.map (·.label)).Nodup)
    (permitted : ∀ m ∈ ms, allowed (.nat (.deleteMapping label m))) :
    Sweep.Ensures (NatTables.behaviour False allowed)
      (ms.forM fun m => Sweep.tolerate (deleteMapping label m)) (r, tally) s
      fun _ x s' => Learned r [] x.1 ∧ x.2 = tally ∧
        Regrouped s.destinations label
          (ms.foldl (fun d m => m.deleteFrom d) (groupOf s.destinations label))
          s'.destinations := by
  induction ms generalizing r s with
  | nil => exact ⟨Learned.refl r, rfl, Regrouped.refl distinct label⟩
  | cons m rest ih =>
    simp only [Sweep.ensures_forM_cons, Sweep.ensures_tolerate, deleteMapping, Pass.ensures_bind,
      Pass.ensures_modify]
    refine ensures_change rfl (permitted m List.mem_cons_self) ?_
    have removed := regrouped_delete distinct label m
    refine (ih (s := { s with
        destinations := (onLabel label m.deleteFrom s.destinations).filter (!·.isEmpty) })
      removed.distinct fun n hn => permitted n (List.mem_cons_of_mem m hn)).mono
        fun _ x s' state => ?_
    obtain ⟨learned, same, regrouped⟩ := state
    refine ⟨⟨learned.knows, learned.labels, learned.connected⟩, same, removed.trans ?_⟩
    rwa [removed.group_self] at regrouped

/-! ### Whole groups -/

/-- What is promised of the mappings of a wanted group: each can be created, counts as itself and
has a key of its own. -/
structure Sound (wanted : DestinationNat) : Prop where
  creatable : ∀ m ∈ wanted.mappings, m.Creatable
  statics : Pairable StaticMapping.isFor wanted.statics
  identities : Pairable IdentityMapping.isFor wanted.identities
  once : (wanted.mappings.map Mapping.key).Nodup

variable {wanted actual : DestinationNat}

/-- The keys of a group are those of its static and of its identity mappings. -/
theorem keys_mappings (d : DestinationNat) :
    d.mappings.map Mapping.key =
      d.statics.map (fun m => .inl m.identifier) ++
        d.identities.map fun m => .inr m.identifier := by
  simp only [DestinationNat.mappings, List.map_append, List.map_map]
  congr 1
  refine List.map_congr_left fun m _ => ?_
  exact Mapping.key_ofStatic m

/-- Among wanted things with keys of their own, those that are not known are those that were not
found, if just the found ones are known. -/
theorem filter_not_knows {α : Type} [DecidableEq α] {key : α → String ⊕ String}
    {found things : List α} (once : (things.map key).Nodup) (within : found.Sublist things)
    (known : ∀ x ∈ things, r.knows (key x) = true ↔ key x ∈ found.map key) :
    (things.filter fun x => !r.knows (key x)) = things.filter (· ∉ found) := by
  refine List.filter_congr fun x hx => ?_
  rw [Bool.eq_iff_iff, Bool.not_eq_true', Bool.eq_false_iff, ne_eq, known x hx,
    decide_eq_true_iff, List.mem_map]
  refine not_congr ⟨?_, fun there => ⟨x, there, rfl⟩⟩
  rintro ⟨y, there, same⟩
  exact List.inj_on_of_nodup_map once (within.subset there) hx same ▸ there

/-- The keys of the wanted mappings that were found. -/
def foundKeys (found : DestinationNat.Resolution) : List (String ⊕ String) :=
  found.statics.found.map (fun m => .inl m.identifier) ++
    found.identities.found.map fun m => .inr m.identifier

/-- What was found is registered. -/
theorem learned_found (wanted actual : DestinationNat) (r : NatReconciler) :
    Learned r (foundKeys (wanted.resolve actual.statics actual.identities))
      ((wanted.resolve actual.statics actual.identities).identities.found.foldl
        (fun r m => enrollFoundIdentity wanted m r)
        ((wanted.resolve actual.statics actual.identities).statics.found.foldl
          (fun r m => enrollFoundStatic wanted m r) r)) := by
  refine Learned.trans (learned_foldl _ r ?statics) (learned_foldl _ _ ?identities)
  case statics => exact fun m hm => learned_enrollFoundStatic (found_sublist.subset hm)
  case identities => exact fun m hm => learned_enrollFoundIdentity (found_sublist.subset hm)

/-- Once what was found is registered, the mappings that are not known are the missing ones. -/
theorem filter_unknown (sound : Sound wanted)
    (fresh : ∀ key ∈ wanted.mappings.map Mapping.key, r.knows key = false)
    (learned : Learned r (foundKeys (wanted.resolve actual.statics actual.identities)) r') :
    (wanted.mappings.filter fun m => !r'.knows m.key) = wanted.missing actual := by
  have once := sound.once
  rw [keys_mappings] at once fresh
  obtain ⟨statics, identities, -⟩ := List.nodup_append.mp once
  have static : ∀ m, (Mapping.ofStatic m).key = .inl m.identifier := Mapping.key_ofStatic
  rw [DestinationNat.mappings, DestinationNat.missing, List.filter_append, List.filter_map,
    List.filter_map]
  simp only [Function.comp_def, static]
  show List.map _ _ ++ List.map _
    (wanted.identities.filter fun m => !r'.knows (.inr m.identifier)) = _
  rw [filter_not_knows statics found_sublist, filter_not_knows identities found_sublist]
  · intro m hm
    have new := fresh (.inr m.identifier) (List.mem_append_right _ (List.mem_map.mpr ⟨m, hm, rfl⟩))
    rw [learned.knows, new]
    simp [foundKeys, DestinationNat.resolve]
  · intro m hm
    have new := fresh (.inl m.identifier) (List.mem_append_left _ (List.mem_map.mpr ⟨m, hm, rfl⟩))
    rw [learned.knows, new]
    simp [foundKeys, DestinationNat.resolve]

/-- A wanted group that the dataplane has becomes what it should be, and is registered. -/
theorem ensures_settle (sound : Sound wanted)
    (fresh : ∀ key ∈ wanted.mappings.map Mapping.key, r.knows key = false)
    (distinct : (s.destinations.map (·.label)).Nodup)
    (here : groupOf s.destinations wanted.label = actual)
    (add : ∀ m ∈ wanted.missing actual, allowed (.nat (.addMapping wanted.label m)))
    (delete : ∀ m ∈ wanted.surplus actual, allowed (.nat (.deleteMapping wanted.label m))) :
    Sweep.Ensures (NatTables.behaviour False allowed) (settle wanted actual) (r, tally) s
      fun _ x s' => (∃ r₁, Learned r (wanted.mappings.map Mapping.key) r₁ ∧
          x.1 = enrollLabel wanted r₁) ∧ x.2 = tally ∧
        Regrouped s.destinations wanted.label (wanted.reconciled actual) s'.destinations := by
  simp only [settle, Sweep.ensures_bind, Sweep.ensures_update, createMissing_eq, deleteAll_eq]
  have found := learned_found wanted actual r
  have unknown := filter_unknown sound fresh found
  refine (ensures_settleMappings sound.creatable sound.once distinct fun m hm new => ?_).mono
    fun _ x s₁ state => ?_
  · refine add m ?_
    rw [← unknown, List.mem_filter]
    exact ⟨hm, by rw [new]; rfl⟩
  -- once the missing mappings are there, the surplus ones are removed
  obtain ⟨x, tally₁⟩ := x
  obtain ⟨learned, rfl, added⟩ := state
  rw [unknown, here] at added
  refine (ensures_deletions added.distinct delete).mono fun _ y s₂ state => ?_
  obtain ⟨learned', same, removed⟩ := state
  rw [added.group_self] at removed
  have all : Learned r (wanted.mappings.map Mapping.key) y.1 := by
    refine ((found.trans learned).trans learned').congr fun key => ?_
    have within : key ∈ foundKeys (wanted.resolve actual.statics actual.identities) →
        key ∈ wanted.mappings.map Mapping.key := by
      rw [keys_mappings]
      exact fun there => ((found_sublist.map _).append (found_sublist.map _)).subset there
    simp only [List.mem_append, List.not_mem_nil, or_false]
    exact ⟨Or.inr, fun h => h.elim within id⟩
  refine ⟨⟨y.1, all, rfl⟩, same, added.trans ?_⟩
  rwa [← foldl_missing_surplus sound.statics sound.identities]

end Steps

end NatReconciler

end DataplaneSync
