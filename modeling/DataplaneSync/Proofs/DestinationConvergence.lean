import DataplaneSync.Proofs.DestinationAgenda
import DataplaneSync.Proofs.DestinationIdempotence

namespace DataplaneSync

/-!
# Convergence of the reconciliation of destination NAT

After a stage without failure every mapping in the dataplane is wanted under its label, and every
wanted mapping is there, be it that another wanted one has its identifier.

* `Mapping.isFor` — when a mapping of either kind counts as a wanted one.
* `Converging` — what holds while the jobs of an agenda are done one after the other.
* `Run.destinationStage_converges` — a stage on the simulated dataplane.
* `Run.destinationStage_diverges` — a stage that ends without just the wanted mappings, because one
  is wanted under two labels or there twice, or because two groups have one label.
-/

/-! ### Mappings of either kind -/

namespace Mapping

/-- When an actual mapping counts as a wanted one. -/
def isFor : (actual wanted : Mapping) → Bool
  | single a, single w => a.isFor w
  | single a, balanced w => a.isFor w
  | single _, identity _ => false
  | balanced a, single w => a.isFor w
  | balanced a, balanced w => a.isFor w
  | balanced _, identity _ => false
  | identity a, identity w => a.isFor w
  | identity _, single _ => false
  | identity _, balanced _ => false

@[simp] theorem isFor_ofStatic (a w : StaticMapping) :
    (ofStatic a).isFor (ofStatic w) = a.isFor w := by
  unfold ofStatic
  split <;> split <;> rfl

@[simp] theorem isFor_identity (a w : IdentityMapping) :
    (identity a).isFor (identity w) = a.isFor w := rfl

theorem isFor_ofStatic_identity (a : StaticMapping) (w : IdentityMapping) :
    (ofStatic a).isFor (identity w) = false := by
  unfold ofStatic
  split <;> rfl

theorem isFor_identity_ofStatic (a : IdentityMapping) (w : StaticMapping) :
    (identity a).isFor (ofStatic w) = false := by
  unfold ofStatic
  split <;> rfl

theorem ofStatic_ne_identity (m : StaticMapping) (i : IdentityMapping) :
    ofStatic m ≠ identity i := by
  unfold ofStatic
  split <;> exact nofun

/-- A mapping that can be created counts as itself. -/
theorem Creatable.isFor_self {m : Mapping} (creatable : m.Creatable) : m.isFor m = true := by
  cases creatable with
  | static m endpoint => rw [isFor_ofStatic, StaticMapping.isFor_self endpoint]
  | identity m => rw [isFor_identity, IdentityMapping.isFor_self]

/-- A mapping in the form in which the mappings of a group are given. -/
inductive Formed : Mapping → Prop where
  | static (m : StaticMapping) : Formed (ofStatic m)
  | identity (m : IdentityMapping) : Formed (identity m)

theorem Creatable.formed {m : Mapping} (creatable : m.Creatable) : m.Formed := by
  cases creatable with
  | static m _ => exact .static m
  | identity m => exact .identity m

end Mapping

namespace DestinationNat

variable {d : DestinationNat} {a m : Mapping}

@[simp] theorem ofStatic_mem_mappings {s : StaticMapping} :
    .ofStatic s ∈ d.mappings ↔ s ∈ d.statics := by
  simp [mappings, Mapping.ofStatic_injective.eq_iff, (Mapping.ofStatic_ne_identity _ _).symm]

@[simp] theorem identity_mem_mappings {i : IdentityMapping} :
    .identity i ∈ d.mappings ↔ i ∈ d.identities := by
  simp [mappings, Mapping.ofStatic_ne_identity]

theorem formed_of_mem (there : m ∈ d.mappings) : m.Formed := by
  rcases List.mem_append.mp there with there | there
  · obtain ⟨s, -, rfl⟩ := List.mem_map.mp there
    exact .static s
  · obtain ⟨i, -, rfl⟩ := List.mem_map.mp there
    exact .identity i

theorem mem_mappings : m ∈ d.mappings ↔
    (∃ s ∈ d.statics, .ofStatic s = m) ∨ ∃ i ∈ d.identities, .identity i = m := by
  simp [mappings]

theorem filter_mappings (p : Mapping → Bool) : d.mappings.filter p =
    (d.statics.filter fun m => p (.ofStatic m)).map .ofStatic ++
      (d.identities.filter fun m => p (.identity m)).map .identity := by
  rw [mappings, List.filter_append, List.filter_map, List.filter_map]
  rfl

/-- A mapping that is added is there besides the others. -/
theorem mem_mappings_addTo (formed : m.Formed) :
    a ∈ (m.addTo d).mappings ↔ a ∈ d.mappings ∨ a = m := by
  cases formed with
  | static s =>
    rw [Mapping.addTo_ofStatic]
    simp only [mem_mappings, List.mem_append, List.mem_singleton]
    grind
  | identity i =>
    simp only [Mapping.addTo, mem_mappings, List.mem_append, List.mem_singleton]
    grind

/-- A mapping that is removed is gone, and no other one. -/
theorem mem_mappings_deleteFrom (formed : m.Formed) :
    a ∈ (m.deleteFrom d).mappings ↔ a ∈ d.mappings ∧ a ≠ m := by
  cases formed with
  | static s =>
    have apart : ∀ i, Mapping.identity i ≠ .ofStatic s :=
      fun i same => Mapping.ofStatic_ne_identity s i same.symm
    have injective := fun t => (Mapping.ofStatic_injective.eq_iff (a := t) (b := s))
    rw [Mapping.deleteFrom_ofStatic]
    simp only [mem_mappings, List.mem_filter, bne_iff_ne]
    grind
  | identity i =>
    have apart := fun s => Mapping.ofStatic_ne_identity s i
    simp only [Mapping.deleteFrom, mem_mappings, List.mem_filter, bne_iff_ne]
    grind

end DestinationNat

/-! ### While an agenda is done -/

/-- A wanted mapping of some label, in the form in which it is created. -/
def Wanted (wanted : List DestinationNat) (label : String) (m : Mapping) : Prop :=
  ∃ w ∈ wanted, w.label = label ∧ m ∈ w.mappings

/-- What is to be done about a dump makes sense. -/
structure Coherent (wanted dump : List DestinationNat) (jobs : List Job) : Prop where
  /-- What is kept is there, counts as a wanted mapping, and is not removed. -/
  keep : ∀ label m a, Job.keep label m a ∈ jobs → Wanted wanted label m ∧
    a ∈ (groupOf dump label).mappings ∧ a.isFor m = true ∧ Job.delete label a ∉ jobs
  /-- What is created is wanted, and is not removed. -/
  create : ∀ label m, Job.create label m ∈ jobs →
    Wanted wanted label m ∧ m.Creatable ∧ Job.delete label m ∉ jobs
  delete : ∀ label a, Job.delete label a ∈ jobs → a.Formed

/-- A mapping that counts as a wanted one is in the group of a label, and no job removes it. -/
def Serves (jobs : List Job) (ds : List DestinationNat) (label : String) (m : Mapping) : Prop :=
  ∃ a ∈ (groupOf ds label).mappings, a.isFor m = true ∧ Job.delete label a ∉ jobs

/-- What holds when `ahead` is what is left to do of `jobs`, and nothing has failed. -/
structure Converging (wanted dump : List DestinationNat) (jobs ahead : List Job)
    (known : List MappingKey) (last : Option NatFailure) (s : NatTables) : Prop where
  within : ahead ⊆ jobs
  well : last = none
  distinct : (s.destinations.map (·.label)).Nodup
  /-- What is there is wanted or will be removed. -/
  justified : ∀ label, ∀ a ∈ (groupOf s.destinations label).mappings,
    Job.delete label a ∈ ahead ∨ ∃ m, Wanted wanted label m ∧ a.isFor m = true
  /-- What is wanted is known or will be. -/
  covered : ∀ label m, Wanted wanted label m →
    m.key ∈ known ∨ Job.create label m ∈ ahead ∨ ∃ a, Job.keep label m a ∈ ahead
  /-- What is known is there. -/
  present : ∀ key ∈ known,
    ∃ label m, Wanted wanted label m ∧ m.key = key ∧ Serves jobs s.destinations label m
  /-- What was there is still there unless it is to be removed. -/
  stays : ∀ label, ∀ a ∈ (groupOf dump label).mappings, Job.delete label a ∉ jobs →
    a ∈ (groupOf s.destinations label).mappings

namespace Converging

variable {wanted dump : List DestinationNat} {label : String} {m a : Mapping} {job : Job}
variable {jobs ahead : List Job} {known known' : List MappingKey} {last : Option NatFailure}
variable {s t : NatTables}

/-- When a job has been done, what it was about is known, and nothing that stays is gone. -/
theorem next (h : Converging wanted dump jobs (job :: ahead) known last s)
    (distinct : (t.destinations.map (·.label)).Nodup)
    (justified : ∀ label, ∀ a ∈ (groupOf t.destinations label).mappings,
      a ∈ (groupOf s.destinations label).mappings ∧ job ≠ .delete label a ∨
        ∃ m, Wanted wanted label m ∧ a.isFor m = true)
    (settled : ∀ label m, job = .create label m ∨ (∃ a, job = .keep label m a) → m.key ∈ known')
    (more : known ⊆ known')
    (present : ∀ key ∈ known', key ∈ known ∨
      ∃ label m, Wanted wanted label m ∧ m.key = key ∧ Serves jobs t.destinations label m)
    (stays : ∀ label, ∀ a ∈ (groupOf s.destinations label).mappings, Job.delete label a ∉ jobs →
      a ∈ (groupOf t.destinations label).mappings) :
    Converging wanted dump jobs ahead known' last t where
  within := List.Subset.trans (List.subset_cons_self job ahead) h.within
  well := h.well
  distinct := distinct
  justified l a there := by
    rcases justified l a there with ⟨before, other⟩ | want
    · refine (h.justified l a before).imp_left fun due => ?_
      exact (List.mem_cons.mp due).resolve_left (Ne.symm other)
    · exact Or.inr want
  covered l m want := by
    rcases h.covered l m want with found | due | ⟨a, due⟩
    · exact Or.inl (more found)
    · rcases List.mem_cons.mp due with own | due
      · exact Or.inl (settled l m (Or.inl own.symm))
      · exact Or.inr (Or.inl due)
    · rcases List.mem_cons.mp due with own | due
      · exact Or.inl (settled l m (Or.inr ⟨a, own.symm⟩))
      · exact Or.inr (Or.inr ⟨a, due⟩)
  present key found := by
    rcases present key found with before | new
    · obtain ⟨l, m, want, same, a, there, fits, kept⟩ := h.present key before
      exact ⟨l, m, want, same, a, stays l a there kept, fits, kept⟩
    · exact new
  stays l a there kept := stays l a (h.stays l a there kept) kept

/-- A mapping that was found becomes known. -/
theorem keep (coherent : Coherent wanted dump jobs)
    (h : Converging wanted dump jobs (.keep label m a :: ahead) known last s) :
    Converging wanted dump jobs ahead (m.key :: known) last s := by
  obtain ⟨want, there, fits, kept⟩ := coherent.keep label m a (h.within List.mem_cons_self)
  refine h.next h.distinct (fun l x there => Or.inl ⟨there, nofun⟩) ?_ (List.subset_cons_self _ _)
    (fun key found => ?_) fun _ _ there _ => there
  · rintro l n (own | ⟨x, own⟩)
    · contradiction
    · obtain ⟨-, rfl, -⟩ := Job.keep.inj own
      exact List.mem_cons_self
  · rcases List.mem_cons.mp found with rfl | found
    · exact Or.inr ⟨label, m, want, rfl, a, h.stays label a there kept, fits, kept⟩
    · exact Or.inl found

/-- A mapping that is known need not be created. -/
theorem skip (h : Converging wanted dump jobs (.create label m :: ahead) known last s)
    (found : m.key ∈ known) : Converging wanted dump jobs ahead known last s := by
  refine h.next h.distinct (fun l x there => Or.inl ⟨there, nofun⟩) ?_ (List.Subset.refl known)
    (fun _ => Or.inl) fun _ _ there _ => there
  rintro l n (own | ⟨x, own⟩)
  · obtain ⟨-, rfl⟩ := Job.create.inj own
    exact found
  · contradiction

/-- A mapping that has been created is there and known. -/
theorem create (coherent : Coherent wanted dump jobs)
    (h : Converging wanted dump jobs (.create label m :: ahead) known last s)
    (regrouped : Regrouped s.destinations label (m.addTo (groupOf s.destinations label))
      t.destinations) :
    Converging wanted dump jobs ahead (m.key :: known) last t := by
  obtain ⟨want, creatable, kept⟩ := coherent.create label m (h.within List.mem_cons_self)
  have formed := creatable.formed
  have there : m ∈ (groupOf t.destinations label).mappings := by
    rw [regrouped.group_self, DestinationNat.mem_mappings_addTo formed]
    exact Or.inr rfl
  have before : ∀ l x, x ∈ (groupOf t.destinations l).mappings ↔
      x ∈ (groupOf s.destinations l).mappings ∨ l = label ∧ x = m := by
    intro l x
    rw [regrouped.group]
    split
    · next same =>
      subst same
      rw [DestinationNat.mem_mappings_addTo formed, and_iff_right rfl]
    · next other => exact (or_iff_left fun own => other own.1).symm
  refine h.next regrouped.distinct (fun l x mem => ?_) ?_ (List.subset_cons_self _ _)
    (fun key found => ?_) fun l x mem _ => (before l x).mpr (Or.inl mem)
  · rcases (before l x).mp mem with mem | ⟨rfl, rfl⟩
    · exact Or.inl ⟨mem, nofun⟩
    · exact Or.inr ⟨x, want, creatable.isFor_self⟩
  · rintro l n (own | ⟨x, own⟩)
    · obtain ⟨-, rfl⟩ := Job.create.inj own
      exact List.mem_cons_self
    · contradiction
  · rcases List.mem_cons.mp found with rfl | found
    · exact Or.inr ⟨label, m, want, rfl, m, there, creatable.isFor_self, kept⟩
    · exact Or.inl found

/-- A mapping that has been removed is gone. -/
theorem delete (coherent : Coherent wanted dump jobs)
    (h : Converging wanted dump jobs (.delete label a :: ahead) known last s)
    (regrouped : Regrouped s.destinations label (a.deleteFrom (groupOf s.destinations label))
      t.destinations) :
    Converging wanted dump jobs ahead known last t := by
  have due : Job.delete label a ∈ jobs := h.within List.mem_cons_self
  have formed := coherent.delete label a due
  have after : ∀ l x, x ∈ (groupOf t.destinations l).mappings ↔
      x ∈ (groupOf s.destinations l).mappings ∧ ¬ (l = label ∧ x = a) := by
    intro l x
    rw [regrouped.group]
    split
    · next same =>
      subst same
      rw [DestinationNat.mem_mappings_deleteFrom formed]
      simp
    · next other => exact (and_iff_left fun own => other own.1).symm
  refine h.next regrouped.distinct (fun l x mem => ?_) ?_ (List.Subset.refl known)
    (fun _ => Or.inl) fun l x mem kept => ?_
  · obtain ⟨mem, other⟩ := (after l x).mp mem
    refine Or.inl ⟨mem, fun own => other ?_⟩
    obtain ⟨rfl, rfl⟩ := Job.delete.inj own
    exact ⟨rfl, rfl⟩
  · rintro l m (own | ⟨x, own⟩) <;> exact Job.noConfusion own
  · refine (after l x).mpr ⟨mem, fun ⟨sameLabel, same⟩ => kept ?_⟩
    rwa [sameLabel, same]

/-- All this survives every job, on a dataplane that refuses nothing. -/
theorem handles (coherent : Coherent wanted dump jobs) :
    Handles (NatTables.behaviour False fun c => c.part = .nat)
      (Converging wanted dump jobs) where
  keep := keep coherent
  skip := skip
  barren h _ barren := by
    have creatable := (coherent.create _ _ (h.within List.mem_cons_self)).2.1
    exact absurd barren (Mapping.creatable_ofStatic.mp creatable)
  create h _ _ := by
    refine ⟨⟨rfl, rfl⟩, fun answer t given => ?_⟩
    rcases Effect.Gives.of_carried given rfl with ⟨rfl, rfl⟩ | ⟨never, -⟩
    · exact h.create coherent (regrouped_add h.distinct _ _)
    · exact never.elim
  delete h := by
    refine ⟨⟨rfl, rfl⟩, fun answer t given => ?_⟩
    rcases Effect.Gives.of_carried given rfl with ⟨rfl, rfl⟩ | ⟨never, -⟩
    · exact h.delete coherent (regrouped_delete h.distinct _ _)
    · exact never.elim

end Converging

/-! ### Agendas make sense -/

section Agendas

variable {wanted dump : List DestinationNat} {w d : DestinationNat} {label : String}
variable {taken : List String} {m a : Mapping}

theorem of_mem_unplaced (mem : w ∈ unplaced taken wanted) : w ∈ wanted ∧ w.label ∉ taken := by
  induction wanted generalizing taken with
  | nil => exact absurd mem List.not_mem_nil
  | cons v wanted ih =>
    rw [unplaced] at mem
    split at mem
    · exact (ih mem).imp_left (List.mem_cons_of_mem v)
    · next new =>
      rcases List.mem_cons.mp mem with rfl | mem
      · exact ⟨List.mem_cons_self, new⟩
      · obtain ⟨member, other⟩ := ih mem
        exact ⟨List.mem_cons_of_mem v member, mt (List.mem_cons_of_mem _) other⟩

/-- If labels differ, no group is left out for another one of its label. -/
theorem mem_unplaced (labels : (wanted.map (·.label)).Nodup) (member : w ∈ wanted)
    (new : w.label ∉ taken) : w ∈ unplaced taken wanted := by
  induction wanted generalizing taken with
  | nil => exact absurd member List.not_mem_nil
  | cons v wanted ih =>
    obtain ⟨apart, labels'⟩ := List.nodup_cons.mp labels
    rw [unplaced]
    rcases List.mem_cons.mp member with rfl | member
    · rw [if_neg new]
      exact List.mem_cons_self
    · split
      · exact ih labels' member new
      · refine List.mem_cons_of_mem v (ih labels' member ?_)
        refine List.not_mem_cons_of_ne_of_not_mem (fun same => apart ?_) new
        exact List.mem_map.mpr ⟨w, member, same⟩

theorem mem_jobsIn {job : Job} : job ∈ w.jobsIn dump ↔
    ∃ d, dump.find? (·.label == w.label) = some d ∧ job ∈ w.jobs d := by
  unfold DestinationNat.jobsIn
  cases dump.find? (·.label == w.label) <;> simp

theorem mem_cleaning {job : Job} : job ∈ d.cleaning wanted ↔
    d.label ∉ wanted.map (·.label) ∧ ∃ a ∈ d.mappings, .delete d.label a = job := by
  unfold DestinationNat.cleaning
  split
  · next there => exact iff_of_false List.not_mem_nil fun h => h.1 there
  · next absent => rw [List.mem_map, and_iff_right absent]

/-- What there is to do about a group that is wanted and there, about one that is only there, and
about one that is only wanted. -/
theorem mem_agenda {job : Job} : job ∈ agenda wanted dump ↔
    (∃ w ∈ wanted, ∃ d, dump.find? (·.label == w.label) = some d ∧ job ∈ w.jobs d) ∨
    (∃ d ∈ dump, d.label ∉ wanted.map (·.label) ∧ ∃ a ∈ d.mappings, .delete d.label a = job) ∨
    ∃ w ∈ unplaced (dump.map (·.label)) wanted, ∃ m ∈ w.mappings, .create w.label m = job := by
  simp only [agenda, List.mem_append, List.mem_flatMap, mem_jobsIn, mem_cleaning,
    DestinationNat.creations, List.mem_map, or_assoc]

theorem mem_jobs {job : Job} : job ∈ w.jobs d ↔
    job ∈ w.keeps d ∨ (∃ m ∈ w.missing d, .create w.label m = job) ∨
      ∃ a ∈ w.surplus d, .delete w.label a = job := by
  simp only [DestinationNat.jobs, List.mem_append, List.mem_map, or_assoc]

/-- A job to keep a mapping is about a pair. -/
theorem mem_keeps {job : Job} : job ∈ w.keeps d ↔
    (∃ p ∈ (pairOff StaticMapping.isFor w.statics d.statics).pairs,
      .keep w.label (.ofStatic p.1) (.ofStatic p.2) = job) ∨
    ∃ p ∈ (pairOff IdentityMapping.isFor w.identities d.identities).pairs,
      .keep w.label (.identity p.1) (.identity p.2) = job := by
  simp only [DestinationNat.keeps, List.mem_append, List.mem_map]

@[simp] theorem ofStatic_mem_surplus {s : StaticMapping} : .ofStatic s ∈ w.surplus d ↔
    s ∈ (pairOff StaticMapping.isFor w.statics d.statics).leftover := by
  simp [DestinationNat.surplus, Mapping.ofStatic_injective.eq_iff,
    (Mapping.ofStatic_ne_identity _ _).symm]

@[simp] theorem identity_mem_surplus {i : IdentityMapping} : .identity i ∈ w.surplus d ↔
    i ∈ (pairOff IdentityMapping.isFor w.identities d.identities).leftover := by
  simp [DestinationNat.surplus, Mapping.ofStatic_ne_identity]

/-- A mapping that is to be removed is surplus in its group, or the group is not wanted. -/
theorem of_delete_mem (mem : Job.delete label a ∈ agenda wanted dump) :
    (∃ w ∈ wanted, ∃ d, dump.find? (·.label == w.label) = some d ∧ w.label = label ∧
      a ∈ w.surplus d) ∨
    label ∉ wanted.map (·.label) ∧ ∃ d ∈ dump, d.label = label ∧ a ∈ d.mappings := by
  rcases mem_agenda.mp mem with ⟨w, hw, d, found, due⟩ | ⟨d, hd, unwanted, x, hx, same⟩ |
    ⟨w, hw, m, hm, same⟩
  · rcases mem_jobs.mp due with due | ⟨m, hm, same⟩ | ⟨x, hx, same⟩
    · rcases mem_keeps.mp due with ⟨p, hp, same⟩ | ⟨p, hp, same⟩ <;> contradiction
    · contradiction
    · obtain ⟨rfl, rfl⟩ := Job.delete.inj same
      exact Or.inl ⟨w, hw, d, found, rfl, hx⟩
  · obtain ⟨rfl, rfl⟩ := Job.delete.inj same
    exact Or.inr ⟨unwanted, d, hd, rfl, hx⟩
  · contradiction

/-- A mapping of a wanted group is not removed unless it is surplus. -/
theorem delete_not_mem (labels : (wanted.map (·.label)).Nodup) (member : w ∈ wanted)
    (kept : ∀ d, dump.find? (·.label == w.label) = some d → a ∉ w.surplus d) :
    Job.delete w.label a ∉ agenda wanted dump := by
  intro mem
  rcases of_delete_mem mem with ⟨v, hv, d, found, same, surplus⟩ | ⟨unwanted, -⟩
  · obtain rfl : v = w := List.inj_on_of_nodup_map labels hv member same
    exact kept d found surplus
  · exact unwanted (List.mem_map_of_mem member)

/-- No mapping that counts as a wanted one is in a group twice. -/
def Once (w d : DestinationNat) : Prop := (d.mappings.filter fun a => w.mappings.any a.isFor).Nodup

instance : Decidable (Once w d) := inferInstanceAs (Decidable (List.Nodup _))

theorem Once.statics (once : Once w d) :
    (d.statics.filter fun a => w.mappings.any (Mapping.ofStatic a).isFor).Nodup := by
  rw [Once, DestinationNat.filter_mappings] at once
  exact once.of_append_left.of_map _

theorem Once.identities (once : Once w d) :
    (d.identities.filter fun a => w.mappings.any (Mapping.identity a).isFor).Nodup := by
  rw [Once, DestinationNat.filter_mappings] at once
  exact once.of_append_right.of_map _

/-- A mapping that is found is wanted and there, and not surplus unless it is there twice. -/
theorem of_keep_mem {l : String} (mem : Job.keep l m a ∈ w.keeps d) :
    l = w.label ∧ m ∈ w.mappings ∧ a ∈ d.mappings ∧ a.isFor m = true ∧
      (Once w d → a ∉ w.surplus d) := by
  rcases mem_keeps.mp mem with ⟨⟨n, x⟩, pair, same⟩ | ⟨⟨n, x⟩, pair, same⟩
  · obtain ⟨rfl, rfl, rfl⟩ := Job.keep.inj same
    obtain ⟨member, there, fits⟩ := of_mem_pairs pair
    rw [← DestinationNat.ofStatic_mem_mappings] at member there
    rw [← Mapping.isFor_ofStatic] at fits
    refine ⟨rfl, member, there, fits, fun once => ?_⟩
    rw [ofStatic_mem_surplus]
    exact not_mem_leftover once.statics (List.any_eq_true.mpr ⟨_, member, fits⟩) pair
  · obtain ⟨rfl, rfl, rfl⟩ := Job.keep.inj same
    obtain ⟨member, there, fits⟩ := of_mem_pairs pair
    rw [← DestinationNat.identity_mem_mappings] at member there
    rw [← Mapping.isFor_identity] at fits
    refine ⟨rfl, member, there, fits, fun once => ?_⟩
    rw [identity_mem_surplus]
    exact not_mem_leftover once.identities (List.any_eq_true.mpr ⟨_, member, fits⟩) pair

/-- A mapping that is missing is wanted, and nothing surplus counts as it. -/
theorem of_mem_missing (missing : m ∈ w.missing d) :
    m ∈ w.mappings ∧ ∀ a ∈ w.surplus d, a.isFor m = false := by
  rcases List.mem_append.mp missing with mem | mem
  · obtain ⟨n, due, rfl⟩ := List.mem_map.mp mem
    obtain ⟨member, absent⟩ := List.mem_filter.mp due
    refine ⟨DestinationNat.ofStatic_mem_mappings.mpr member, fun a surplus => ?_⟩
    rcases List.mem_append.mp surplus with mem | mem
    · obtain ⟨x, left, rfl⟩ := List.mem_map.mp mem
      rw [Mapping.isFor_ofStatic]
      exact not_isFor_leftover member (of_decide_eq_true absent) x left
    · obtain ⟨x, -, rfl⟩ := List.mem_map.mp mem
      exact Mapping.isFor_identity_ofStatic x n
  · obtain ⟨n, due, rfl⟩ := List.mem_map.mp mem
    obtain ⟨member, absent⟩ := List.mem_filter.mp due
    refine ⟨DestinationNat.identity_mem_mappings.mpr member, fun a surplus => ?_⟩
    rcases List.mem_append.mp surplus with mem | mem
    · obtain ⟨x, -, rfl⟩ := List.mem_map.mp mem
      exact Mapping.isFor_ofStatic_identity x n
    · obtain ⟨x, left, rfl⟩ := List.mem_map.mp mem
      rw [Mapping.isFor_identity]
      exact not_isFor_leftover member (of_decide_eq_true absent) x left

/-- Every mapping that is there is found or surplus. -/
theorem found_or_surplus (there : a ∈ d.mappings) :
    (∃ m, Job.keep w.label m a ∈ w.keeps d) ∨ a ∈ w.surplus d := by
  rcases DestinationNat.mem_mappings.mp there with ⟨x, own, rfl⟩ | ⟨x, own, rfl⟩
  · rw [ofStatic_mem_surplus]
    rcases mem_pairs_or_mem_leftover own with ⟨n, pair⟩ | left
    · exact Or.inl ⟨.ofStatic n, mem_keeps.mpr (Or.inl ⟨(n, x), pair, rfl⟩)⟩
    · exact Or.inr left
  · rw [identity_mem_surplus]
    rcases mem_pairs_or_mem_leftover own with ⟨n, pair⟩ | left
    · exact Or.inl ⟨.identity n, mem_keeps.mpr (Or.inr ⟨(n, x), pair, rfl⟩)⟩
    · exact Or.inr left

/-- Every wanted mapping is found or missing. -/
theorem found_or_missing (member : m ∈ w.mappings) :
    (∃ a, Job.keep w.label m a ∈ w.keeps d) ∨ m ∈ w.missing d := by
  rcases DestinationNat.mem_mappings.mp member with ⟨n, own, rfl⟩ | ⟨n, own, rfl⟩
  · by_cases found : n ∈ (pairOff StaticMapping.isFor w.statics d.statics).found
    · obtain ⟨⟨_, x⟩, pair, rfl⟩ := List.mem_map.mp found
      exact Or.inl ⟨.ofStatic x, mem_keeps.mpr (Or.inl ⟨_, pair, rfl⟩)⟩
    · refine Or.inr (List.mem_append_left _ (List.mem_map_of_mem (List.mem_filter.mpr ?_)))
      exact ⟨own, decide_eq_true found⟩
  · by_cases found : n ∈ (pairOff IdentityMapping.isFor w.identities d.identities).found
    · obtain ⟨⟨_, x⟩, pair, rfl⟩ := List.mem_map.mp found
      exact Or.inl ⟨.identity x, mem_keeps.mpr (Or.inr ⟨_, pair, rfl⟩)⟩
    · refine Or.inr (List.mem_append_right _ (List.mem_map_of_mem (List.mem_filter.mpr ?_)))
      exact ⟨own, decide_eq_true found⟩

/-- What there is to do makes sense if labels differ, every wanted mapping can be created, and none
is there twice. -/
theorem coherent_agenda (labels : (wanted.map (·.label)).Nodup)
    (creatable : ∀ w ∈ wanted, ∀ m ∈ w.mappings, m.Creatable)
    (once : ∀ w ∈ wanted, ∀ d ∈ dump, d.label = w.label → Once w d) :
    Coherent wanted dump (agenda wanted dump) where
  keep l m a mem := by
    rcases mem_agenda.mp mem with ⟨w, hw, d, found, due⟩ | ⟨d, hd, unwanted, x, hx, same⟩ |
      ⟨w, hw, n, hn, same⟩
    · rcases mem_jobs.mp due with due | ⟨n, hn, same⟩ | ⟨x, hx, same⟩
      · obtain ⟨rfl, member, there, fits, kept⟩ := of_keep_mem due
        have sameLabel : d.label = w.label := by simpa using List.find?_some found
        refine ⟨⟨w, hw, rfl, member⟩, ?_, fits, delete_not_mem labels hw fun d' found' => ?_⟩
        · rwa [groupOf_of_find found]
        · obtain rfl : d = d' := Option.some.inj (found.symm.trans found')
          exact kept (once w hw d (List.mem_of_find?_eq_some found) sameLabel)
      · contradiction
      · contradiction
    · contradiction
    · contradiction
  create l m mem := by
    rcases mem_agenda.mp mem with ⟨w, hw, d, found, due⟩ | ⟨d, hd, unwanted, x, hx, same⟩ |
      ⟨w, hw, n, hn, same⟩
    · rcases mem_jobs.mp due with due | ⟨n, hn, same⟩ | ⟨x, hx, same⟩
      · rcases mem_keeps.mp due with ⟨p, hp, same⟩ | ⟨p, hp, same⟩ <;> contradiction
      · obtain ⟨rfl, rfl⟩ := Job.create.inj same
        obtain ⟨member, apart⟩ := of_mem_missing hn
        refine ⟨⟨w, hw, rfl, member⟩, creatable w hw n member,
          delete_not_mem labels hw fun d' found' surplus => ?_⟩
        -- nothing surplus counts as what is missing, but `n` counts as itself
        obtain rfl : d = d' := Option.some.inj (found.symm.trans found')
        have self := (creatable w hw n member).isFor_self
        rw [apart n surplus] at self
        contradiction
      · contradiction
    · contradiction
    · obtain ⟨rfl, rfl⟩ := Job.create.inj same
      obtain ⟨member, absent⟩ := of_mem_unplaced hw
      refine ⟨⟨w, member, rfl, hn⟩, creatable w member n hn,
        delete_not_mem labels member fun d' found' => ?_⟩
      have there := List.mem_map_of_mem (f := (·.label)) (List.mem_of_find?_eq_some found')
      have same : d'.label = w.label := by simpa using List.find?_some found'
      exact absurd (same ▸ there) absent
  delete l a mem := by
    rcases of_delete_mem mem with ⟨w, -, d, -, -, surplus⟩ | ⟨-, d, -, -, there⟩
    · rcases List.mem_append.mp surplus with mem | mem
      · obtain ⟨x, -, rfl⟩ := List.mem_map.mp mem
        exact .static x
      · obtain ⟨x, -, rfl⟩ := List.mem_map.mp mem
        exact .identity x
    · exact DestinationNat.formed_of_mem there

/-- Before anything has been done, what is there is found, surplus or unwanted, and what is wanted
is found, missing or without a group. -/
theorem converging_agenda (labels : (wanted.map (·.label)).Nodup) (s : NatTables)
    (distinct : (s.destinations.map (·.label)).Nodup) :
    Converging wanted s.destinations (agenda wanted s.destinations)
      (agenda wanted s.destinations) [] none s where
  within := List.Subset.refl _
  well := rfl
  distinct := distinct
  justified l a there := by
    cases found : s.destinations.find? (·.label == l) with
    | none => exact absurd there (by simp [groupOf, found, DestinationNat.mappings])
    | some d =>
      rw [groupOf_of_find found] at there
      obtain rfl : d.label = l := by simpa using List.find?_some found
      by_cases want : d.label ∈ wanted.map (·.label)
      · obtain ⟨w, hw, same⟩ := List.mem_map.mp want
        rw [← same] at found ⊢
        rcases found_or_surplus there with ⟨m, kept⟩ | surplus
        · obtain ⟨-, member, -, fits, -⟩ := of_keep_mem kept
          exact Or.inr ⟨m, ⟨w, hw, rfl, member⟩, fits⟩
        · refine Or.inl (mem_agenda.mpr (Or.inl ⟨w, hw, d, found, mem_jobs.mpr ?_⟩))
          exact Or.inr (Or.inr ⟨a, surplus, rfl⟩)
      · refine Or.inl (mem_agenda.mpr (Or.inr (Or.inl ?_)))
        exact ⟨d, List.mem_of_find?_eq_some found, want, a, there, rfl⟩
  covered l m want := by
    obtain ⟨w, hw, rfl, member⟩ := want
    refine Or.inr ?_
    cases found : s.destinations.find? (·.label == w.label) with
    | none =>
      have absent : w.label ∉ s.destinations.map (·.label) := by
        simpa using List.find?_eq_none.mp found
      refine Or.inl (mem_agenda.mpr (Or.inr (Or.inr ?_)))
      exact ⟨w, mem_unplaced labels hw absent, m, member, rfl⟩
    | some d =>
      rcases found_or_missing (d := d) member with ⟨a, kept⟩ | missing
      · refine Or.inr ⟨a, mem_agenda.mpr (Or.inl ⟨w, hw, d, found, mem_jobs.mpr ?_⟩)⟩
        exact Or.inl kept
      · refine Or.inl (mem_agenda.mpr (Or.inl ⟨w, hw, d, found, mem_jobs.mpr ?_⟩))
        exact Or.inr (Or.inl ⟨m, missing, rfl⟩)
  present key found := absurd found List.not_mem_nil
  stays l a there _ := there

end Agendas

/-! ### A stage -/

/-- When nothing is left to do, what is there is wanted. -/
theorem Converging.wanted_of_mem {wanted dump : List DestinationNat} {jobs : List Job}
    {known : List MappingKey} {last : Option NatFailure} {s : NatTables} {d : DestinationNat}
    {a : Mapping} (h : Converging wanted dump jobs [] known last s) (hd : d ∈ s.destinations)
    (there : a ∈ d.mappings) : ∃ m, Wanted wanted d.label m ∧ a.isFor m = true := by
  rw [← groupOf_of_mem h.distinct hd] at there
  exact (h.justified d.label a there).resolve_left List.not_mem_nil

/-- When nothing is left to do, what is wanted is there. -/
theorem Converging.serves_of_wanted {wanted dump : List DestinationNat} {jobs : List Job}
    {known : List MappingKey} {last : Option NatFailure} {s : NatTables} {label : String}
    {m : Mapping} (h : Converging wanted dump jobs [] known last s)
    (want : Wanted wanted label m) : ∃ label' n, Wanted wanted label' n ∧ n.key = m.key ∧
      ∃ a ∈ (groupOf s.destinations label').mappings, a.isFor n = true := by
  have found : m.key ∈ known := by
    rcases h.covered label m want with found | due | ⟨a, due⟩
    · exact found
    · exact absurd due List.not_mem_nil
    · exact absurd due List.not_mem_nil
  obtain ⟨label', n, want', same, a, there, fits, -⟩ := h.present m.key found
  exact ⟨label', n, want', same, a, there, fits⟩

namespace Run

/-- A stage on a dataplane that refuses nothing ends well, with its agenda done. -/
theorem ensures_destinationStage_converging {wanted : List DestinationNat} {s : NatTables}
    (labels : (wanted.map (·.label)).Nodup)
    (creatable : ∀ w ∈ wanted, ∀ m ∈ w.mappings, m.Creatable)
    (distinct : (s.destinations.map (·.label)).Nodup)
    (once : ∀ w ∈ wanted, ∀ d ∈ s.destinations, d.label = w.label → Once w d) :
    Program.Ensures (NatTables.behaviour False fun c => c.part = .nat) (destinationStage wanted {})
      s fun end_ t => end_.1 = .ok () ∧ ∃ known,
        Converging wanted s.destinations (agenda wanted s.destinations) [] known none t := by
  have rule := Converging.handles (coherent_agenda labels creatable once)
  refine (ensures_destinationStage_jobs rule rfl ⟨rfl, rfl⟩ fun dump t given => ?_).mono ?_
  · rcases Effect.Gives.of_carried given rfl with ⟨answered, rfl⟩ | ⟨never, -⟩
    · obtain rfl := Except.ok.inj answered
      exact converging_agenda labels _ distinct
    · exact never.elim
  · rintro ⟨end_, r⟩ t (⟨reason, -, refused⟩ | ⟨known, last, ended, converged⟩)
    · rcases Effect.Gives.of_carried refused rfl with ⟨answered, -⟩ | ⟨never, -⟩
      · contradiction
      · exact never.elim
    · obtain rfl := converged.well
      exact ⟨ended, known, converged⟩

/-- Reconciling groups with distinct labels and creatable mappings comes to its end.  Then every
mapping in the dataplane counts as one that is wanted under its label, and for every wanted mapping
there is one that counts as it, or as another wanted one that has its identifier. -/
theorem destinationStage_converges (wanted : List DestinationNat) {snapshot : Snapshot}
    {s : Simulation}
    (start : Simulation.ofSnapshot? snapshot = some s)
    (labels : (wanted.map (·.label)).Nodup)
    (endpoints : ∀ w ∈ wanted, ∀ m ∈ w.statics, m.locals ≠ [])
    (distinct : (snapshot.destinations.map (·.label)).Nodup)
    (once : ∀ w ∈ wanted, ∀ d ∈ snapshot.destinations, d.label = w.label → Once w d) :
    ∃ r t, Trial.run (destinationStage wanted {}) { simulation := s } = some ((.ok (), r), t) ∧
      (∀ w ∈ wanted, ∀ m ∈ w.mappings, ∃ v ∈ wanted, ∃ n ∈ v.mappings, n.key = m.key ∧
        ∃ a ∈ (groupOf t.simulation.nat.destinations v.label).mappings, a.isFor n = true) ∧
      ∀ d ∈ t.simulation.nat.destinations, ∀ a ∈ d.mappings,
        ∃ w ∈ wanted, w.label = d.label ∧ ∃ m ∈ w.mappings, a.isFor m = true := by
  obtain ⟨same, calm⟩ := Simulation.destinations_of_ofSnapshot? start
  rw [← same] at distinct once
  have creatable : ∀ w ∈ wanted, ∀ m ∈ w.mappings, m.Creatable := by
    intro w hw m hm
    rcases DestinationNat.mem_mappings.mp hm with ⟨n, hn, rfl⟩ | ⟨n, -, rfl⟩
    · exact .static n (endpoints w hw n hn)
    · exact .identity n
  have ensures : Program.Ensures (Simulation.behaviour False fun c => c.part = .nat)
      (destinationStage wanted {}) s _ :=
    Simulation.ensures_of_nat
      (ensures_destinationStage_converging labels creatable distinct once) (Or.inl calm)
  have room : Trial.hasRoom (destinationStage wanted {}) { simulation := s } = true :=
    Trial.hasRoom_of_ensures ensures (Or.inl rfl) fun _ => Part.noConfusion
  obtain ⟨⟨end_, r⟩, t, result⟩ := Trial.exists_run_of_hasRoom room
  obtain ⟨⟨-, ended, known, converged⟩, -⟩ :=
    Trial.result_of_ensures ensures (Or.inl rfl) result
  obtain rfl : end_ = .ok () := ended
  refine ⟨r, t, result, fun w hw m hm => ?_, fun d hd a there => ?_⟩
  · obtain ⟨-, n, ⟨v, hv, rfl, hn⟩, found⟩ := converged.serves_of_wanted ⟨w, hw, rfl, hm⟩
    exact ⟨v, hv, n, hn, found⟩
  · obtain ⟨m, ⟨w, hw, sameLabel, hm⟩, fits⟩ := converged.wanted_of_mem hd there
    exact ⟨w, hw, sameLabel, m, hm, fits⟩

/-- Two groups with one mapping in common. -/
def sharingGroups : List DestinationNat :=
  [{ label := "web"
     statics :=
      [{ externalAddress := "192.0.2.1", externalPort := 80
         locals := [{ address := "10.0.0.1", port := 8080 }] },
        { externalAddress := "192.0.2.1", externalPort := 443
          locals := [{ address := "10.0.0.1", port := 8443 }] }] },
    { label := "mirror"
      statics :=
        [{ externalAddress := "192.0.2.1", externalPort := 80
           locals := [{ address := "10.0.0.1", port := 8080 }] }]
      identities := [{ address := "192.0.2.1", port := 22 }] }]

/-- Groups that share a mapping replace the groups of a dataplane that has others. -/
theorem destinationStage_converges_web :
    ∃ s r t, Simulation.ofSnapshot? webSnapshot = some s ∧
      Trial.run (destinationStage sharingGroups {}) { simulation := s } = some ((.ok (), r), t) ∧
      (∀ w ∈ sharingGroups, ∀ m ∈ w.mappings, ∃ v ∈ sharingGroups, ∃ n ∈ v.mappings,
        n.key = m.key ∧
        ∃ a ∈ (groupOf t.simulation.nat.destinations v.label).mappings, a.isFor n = true) ∧
      ∀ d ∈ t.simulation.nat.destinations, ∀ a ∈ d.mappings,
        ∃ w ∈ sharingGroups, w.label = d.label ∧ ∃ m ∈ w.mappings, a.isFor m = true := by
  obtain ⟨s, start⟩ : ∃ s, Simulation.ofSnapshot? webSnapshot = some s :=
    Option.isSome_iff_exists.mp (by decide +kernel)
  obtain ⟨r, t, result, converged⟩ :=
    destinationStage_converges sharingGroups start (by decide +kernel) (by decide +kernel)
      (by decide +kernel) (by decide +kernel)
  exact ⟨s, r, t, start, result, converged⟩

/-- Groups have the wanted mappings under their labels, and no others. -/
def HaveJust (wanted groups : List DestinationNat) : Prop :=
  (∀ w ∈ wanted, ∀ m ∈ w.mappings,
    ∃ d ∈ groups, d.label = w.label ∧ ∃ a ∈ d.mappings, a.isFor m = true) ∧
  ∀ d ∈ groups, ∀ a ∈ d.mappings,
    ∃ w ∈ wanted, w.label = d.label ∧ ∃ m ∈ w.mappings, a.isFor m = true

instance (wanted groups : List DestinationNat) : Decidable (HaveJust wanted groups) :=
  inferInstanceAs (Decidable (_ ∧ _))

/-- A stage for groups with distinct labels and creatable mappings comes to its end, but then the
dataplane does not have just the wanted mappings. -/
structure Diverges (wanted : List DestinationNat) (snapshot : Snapshot) : Prop where
  labels : (wanted.map (·.label)).Nodup
  endpoints : ∀ w ∈ wanted, ∀ m ∈ w.statics, m.locals ≠ []
  run : ∃ s r t, Simulation.ofSnapshot? snapshot = some s ∧
    Trial.run (destinationStage wanted {}) { simulation := s } = some ((.ok (), r), t) ∧
    ¬ HaveJust wanted t.simulation.nat.destinations

theorem Diverges.of_any {wanted : List DestinationNat} {snapshot : Snapshot}
    (labels : (wanted.map (·.label)).Nodup)
    (endpoints : ∀ w ∈ wanted, ∀ m ∈ w.statics, m.locals ≠ [])
    (goes : ((Simulation.ofSnapshot? snapshot).any fun s =>
      (Trial.run (destinationStage wanted {}) { simulation := s }).any fun x =>
        x.1.1.isOk && !decide (HaveJust wanted x.2.simulation.nat.destinations)) = true) :
    Diverges wanted snapshot := by
  obtain ⟨s, start, ran⟩ := (Option.any_eq_true _ _).mp goes
  obtain ⟨⟨⟨end_, r⟩, t⟩, result, ended⟩ := (Option.any_eq_true _ _).mp ran
  obtain ⟨well, missed⟩ := Bool.and_eq_true_iff.mp ended
  cases end_ with
  | ok _ => exact ⟨labels, endpoints, s, r, t, start, result, by simpa using missed⟩
  | error e => exact Bool.noConfusion well

/-- A group with one mapping. -/
def plainGroup : DestinationNat where
  label := "web"
  statics :=
    [{ externalAddress := "192.0.2.1", externalPort := 80
       locals := [{ address := "10.0.0.1", port := 8080 }] }]

/-- A mapping that is wanted under two labels is created under the first one only.  If a wanted
mapping is there twice, both are removed as soon as one of them is surplus.  Of two groups with one
label only the first is looked at. -/
theorem destinationStage_diverges :
    Diverges sharingGroups {} ∧
    Diverges [plainGroup]
      { destinations := [{ plainGroup with statics := plainGroup.statics ++ plainGroup.statics }] } ∧
    Diverges [plainGroup]
      { destinations :=
          [plainGroup, { label := "web", identities := [{ address := "192.0.2.9" }] }] } :=
  ⟨.of_any (by decide +kernel) (by decide +kernel) (by decide +kernel),
    .of_any (by decide +kernel) (by decide +kernel) (by decide +kernel),
    .of_any (by decide +kernel) (by decide +kernel) (by decide +kernel)⟩

end Run

end DataplaneSync
