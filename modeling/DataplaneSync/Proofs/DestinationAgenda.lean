import DataplaneSync.Proofs.DestinationSteps
import DataplaneSync.Run

namespace DataplaneSync

/-!
# The agenda of the reconciliation of destination NAT

What a stage has to do is settled by the wanted groups and the dump.  What is left open is only
whether a mapping that is due for creation is known by then, and how calls are answered.

* `Job`, `agenda` — what there is to do, in order.
* `Handles` — an invariant about the jobs still ahead that survives every way to deal with one.
* `Works` — a step of the stage that does some jobs.
* `Run.ensures_destinationStage_jobs` — the whole stage does its agenda, on every dataplane.
-/

/-! ### Agendas -/

/-- What there is to do about a mapping in the group of a label. -/
inductive Job where
  /-- Register a wanted mapping as which an actual one counts. -/
  | keep (label : String) (wanted actual : Mapping)
  /-- Create a wanted mapping, unless it is registered by then. -/
  | create (label : String) (wanted : Mapping)
  /-- Remove an actual mapping. -/
  | delete (label : String) (actual : Mapping)

namespace DestinationNat

/-- The wanted mappings that an actual group has. -/
def keeps (wanted actual : DestinationNat) : List Job :=
  (pairOff StaticMapping.isFor wanted.statics actual.statics).pairs.map
      (fun p => .keep wanted.label (.ofStatic p.1) (.ofStatic p.2)) ++
    (pairOff IdentityMapping.isFor wanted.identities actual.identities).pairs.map
      fun p => .keep wanted.label (.identity p.1) (.identity p.2)

/-- What there is to do about a wanted group that the dataplane has. -/
def jobs (wanted actual : DestinationNat) : List Job :=
  wanted.keeps actual ++ (wanted.missing actual).map (.create wanted.label) ++
    (wanted.surplus actual).map (.delete wanted.label)

/-- What there is to do about a wanted group if the dataplane has one of its label. -/
def jobsIn (dump : List DestinationNat) (wanted : DestinationNat) : List Job :=
  match dump.find? (·.label == wanted.label) with
  | some actual => wanted.jobs actual
  | none => []

/-- What there is to do about an actual group that may not be wanted. -/
def cleaning (wanted : List DestinationNat) (actual : DestinationNat) : List Job :=
  if actual.label ∈ wanted.map (·.label) then [] else actual.mappings.map (.delete actual.label)

/-- What there is to do about a wanted group that the dataplane does not have. -/
def creations (wanted : DestinationNat) : List Job := wanted.mappings.map (.create wanted.label)

end DestinationNat

/-- The groups with labels that are not taken, the first one of each label. -/
def unplaced : List String → List DestinationNat → List DestinationNat
  | _, [] => []
  | taken, d :: ds =>
    if d.label ∈ taken then unplaced taken ds else d :: unplaced (d.label :: taken) ds

/-- What there is to do in a stage that finds some groups in the dataplane. -/
def agenda (wanted dump : List DestinationNat) : List Job :=
  wanted.flatMap (DestinationNat.jobsIn dump) ++ dump.flatMap (DestinationNat.cleaning wanted) ++
    (unplaced (dump.map (·.label)) wanted).flatMap DestinationNat.creations

/-- Where there is nothing, all wanted groups are to be created. -/
theorem agenda_nil (wanted : List DestinationNat) :
    agenda wanted [] = (unplaced [] wanted).flatMap DestinationNat.creations := by
  simp [agenda, DestinationNat.jobsIn]

/-! ### Mappings in the form in which they are created -/

namespace Mapping

theorem key_identity (m : IdentityMapping) : (identity m).key = .inr m.identifier := rfl

theorem ofStatic_injective : Function.Injective ofStatic := by
  intro m n same
  unfold ofStatic at same
  split at same <;> split at same <;> simp_all

/-- Only a static mapping without endpoint cannot be created. -/
theorem creatable_ofStatic {m : StaticMapping} : (ofStatic m).Creatable ↔ m.locals ≠ [] := by
  constructor
  · generalize form : ofStatic m = x
    rintro (⟨n, endpoint⟩ | _)
    · rwa [ofStatic_injective form]
    · unfold ofStatic at form
      split at form <;> contradiction
  · exact .static m

end Mapping

/-! ### Invariants about what is ahead -/

/-- The name under which a mapping is known. -/
abbrev MappingKey : Type := String ⊕ String

variable {σ : Type}

/-- An invariant about the jobs ahead, the mappings that are known and the last failure survives
every way in which a stage may deal with a job. -/
structure Handles (b : Behaviour σ)
    (I : List Job → List MappingKey → Option NatFailure → σ → Prop) : Prop where
  keep : ∀ {label wanted actual jobs known last s},
    I (.keep label wanted actual :: jobs) known last s → I jobs (wanted.key :: known) last s
  /-- A mapping that is known is not created. -/
  skip : ∀ {label m jobs known last s}, I (.create label m :: jobs) known last s → m.key ∈ known →
    I jobs known last s
  /-- A static mapping without endpoint is a failure. -/
  barren : ∀ {label m jobs known last s}, I (.create label (.ofStatic m) :: jobs) known last s →
    (Mapping.ofStatic m).key ∉ known → m.locals = [] →
    I jobs known (some (.noEndpoint label m.identifier)) s
  create : ∀ {label m jobs known last s}, I (.create label m :: jobs) known last s →
    m.key ∉ known → m.Creatable → b.expects s (.nat (.addMapping label m)) ∧
      ∀ answer t, b.answers s (.nat (.addMapping label m)) answer t →
        match answer with
        | .ok () => I jobs (m.key :: known) last t
        | .error reason => I jobs known (some (.createMapping label m.identifier reason)) t
  delete : ∀ {label m jobs known last s}, I (.delete label m :: jobs) known last s →
    b.expects s (.nat (.deleteMapping label m)) ∧
      ∀ answer t, b.answers s (.nat (.deleteMapping label m)) answer t →
        match answer with
        | .ok () => I jobs known last t
        | .error reason => I jobs known (some (.deleteMapping label m.identifier reason)) t

namespace NatReconciler

/-- What is known in the middle of a sweep, and that the sweep did not start without a dump. -/
structure Knowing (known : List MappingKey) (x : NatReconciler × FailureTally NatFailure) :
    Prop where
  knows : ∀ key, x.1.knows key = true ↔ key ∈ known
  connected : x.1.connected = true
  dumped : ∀ reason, x.2.last? ≠ some (.dumpDestinations reason)

/-- Before anything has failed, no dump has. -/
theorem undumped (r : NatReconciler) (reason : String) :
    (r, (∅ : FailureTally NatFailure)).2.last? ≠ some (.dumpDestinations reason) :=
  (Option.some_ne_none _).symm

/-- A step that does some jobs while the registered groups stay the same, if some mappings are
known before it.  The last failure is that of the sweep or else an earlier one. -/
def Works (b : Behaviour σ) (I : List Job → List MappingKey → Option NatFailure → σ → Prop)
    (labels : Registry DestinationNat) (needs : List MappingKey) (jobs : List Job)
    (p : SweepStep Unit) : Prop :=
  ∀ rest known last x s, needs ⊆ known → Knowing known x → x.1.labels = labels →
    I (jobs ++ rest) known (x.2.last?.or last) s →
    Sweep.Ensures b p x s fun _ y t => ∃ known', known ⊆ known' ∧ Knowing known' y ∧
      y.1.labels = labels ∧ I rest known' (y.2.last?.or last) t

variable {b : Behaviour σ} {I : List Job → List MappingKey → Option NatFailure → σ → Prop}
variable {labels : Registry DestinationNat} {needs : List MappingKey} {jobs jobs' : List Job}

theorem works_pure : Works b I labels needs [] (pure ()) :=
  fun _ known _ _ _ _ knowing same inv => ⟨known, List.Subset.refl known, knowing, same, inv⟩

theorem Works.bind {p : SweepStep Unit} {q : Unit → SweepStep Unit}
    (first : Works b I labels needs jobs p) (then_ : Works b I labels needs jobs' (q ())) :
    Works b I labels needs (jobs ++ jobs') (p >>= q) := by
  intro rest known last x s have_ knowing same inv
  rw [List.append_assoc] at inv
  rw [Sweep.ensures_bind]
  refine (first _ known last x s have_ knowing same inv).mono fun _ y t state => ?_
  obtain ⟨known₁, more, knowing₁, same₁, inv₁⟩ := state
  refine (then_ rest known₁ last y t (List.Subset.trans have_ more) knowing₁ same₁ inv₁).mono ?_
  rintro _ z u ⟨known₂, more', knowing₂, same₂, inv₂⟩
  exact ⟨known₂, List.Subset.trans more more', knowing₂, same₂, inv₂⟩

theorem works_forM {α : Type} {f : α → SweepStep PUnit} {jobsOf : α → List Job} {xs : List α}
    (each : ∀ x ∈ xs, Works b I labels needs (jobsOf x) (f x)) :
    Works b I labels needs (xs.flatMap jobsOf) (xs.forM f) := by
  induction xs with
  | nil => exact works_pure
  | cons x xs ih =>
    rw [List.flatMap_cons]
    exact (each x List.mem_cons_self).bind (ih fun y hy => each y (List.mem_cons_of_mem x hy))

/-- A loop over things of which some are due. -/
theorem works_forM_filter {α : Type} {f : α → SweepStep PUnit} {due : α → Bool} {job : α → Job}
    {xs : List α} (does : ∀ x ∈ xs, due x = true → Works b I labels needs [job x] (f x))
    (idle : ∀ x ∈ xs, due x = false → Works b I labels needs [] (f x)) :
    Works b I labels needs ((xs.filter due).map job) (xs.forM f) := by
  have same : (xs.filter due).map job = xs.flatMap fun x => if due x then [job x] else [] := by
    clear does idle
    induction xs with
    | nil => rfl
    | cons x xs ih => by_cases h : due x <;> simp [h, ih]
  rw [same]
  refine works_forM fun x hx => ?_
  split
  · next h => exact does x hx h
  · next h => exact idle x hx (by simpa using h)

/-- A step that deals with one mapping in a pass of its own, whose failure is tallied. -/
theorem ensures_tolerate {p : Step Unit} {rest : List Job} {known : List MappingKey}
    {last : Option NatFailure} {x : NatReconciler × FailureTally NatFailure} {s : σ}
    (knowing : Knowing known x)
    (does : Pass.Ensures b p x.1 s
      (fun _ r t => ∃ known', known ⊆ known' ∧ Knowing known' (r, ∅) ∧ r.labels = x.1.labels ∧
        I rest known' (x.2.last?.or last) t)
      fun e r t => (∀ reason, e ≠ .dumpDestinations reason) ∧ Knowing known (r, ∅) ∧
        r.labels = x.1.labels ∧ I rest known (some e) t) :
    Sweep.Ensures b (Sweep.tolerate p) x s fun _ y t => ∃ known', known ⊆ known' ∧
      Knowing known' y ∧ y.1.labels = x.1.labels ∧ I rest known' (y.2.last?.or last) t := by
  rw [Sweep.ensures_tolerate]
  refine does.mono ?_ ?_
  · rintro _ r t ⟨known', more, knowing', same, inv⟩
    exact ⟨known', more, ⟨knowing'.knows, knowing'.connected, knowing.dumped⟩, same, inv⟩
  · rintro e r t ⟨other, knowing', same, inv⟩
    refine ⟨known, List.Subset.refl known, ⟨knowing'.knows, knowing'.connected, ?_⟩, same, inv⟩
    exact fun reason dumped => other reason (Option.some.inj dumped)

/-- What is registered besides is known besides. -/
theorem Knowing.learn {known keys : List MappingKey} {r r' : NatReconciler}
    {tally : FailureTally NatFailure} (knowing : Knowing known (r, tally))
    (learned : Learned r keys r') : Knowing (keys.reverse ++ known) (r', tally) where
  knows key := by
    rw [learned.knows, knowing.knows, List.mem_append, List.mem_reverse, or_comm]
  connected := learned.connected.trans knowing.connected
  dumped := knowing.dumped

/-- A static mapping that is known is left alone. -/
theorem works_settleStatic_nil (label : String) {m : StaticMapping}
    (found : .inl m.identifier ∈ needs) : Works b I labels needs [] (settleStatic label m) := by
  rintro rest known last ⟨r, tally⟩ s have_ knowing rfl inv
  simp only [settleStatic, Sweep.ensures_bind, Sweep.ensures_state]
  have known_ : r.statics.contains m.identifier = true :=
    (knowing.knows (.inl m.identifier)).mpr (have_ found)
  rw [if_pos known_]
  exact ⟨known, List.Subset.refl known, knowing, rfl, inv⟩

/-- An identity mapping that is known is left alone. -/
theorem works_settleIdentity_nil (label : String) {m : IdentityMapping}
    (found : .inr m.identifier ∈ needs) : Works b I labels needs [] (settleIdentity label m) := by
  rintro rest known last ⟨r, tally⟩ s have_ knowing rfl inv
  simp only [settleIdentity, Sweep.ensures_bind, Sweep.ensures_state]
  have known_ : r.identities.contains m.identifier = true :=
    (knowing.knows (.inr m.identifier)).mpr (have_ found)
  rw [if_pos known_]
  exact ⟨known, List.Subset.refl known, knowing, rfl, inv⟩

section

variable (rule : Handles b I)

include rule

/-- A mapping that is not known is created and registered, if the dataplane does not refuse. -/
theorem ensures_create {label : String} {m : Mapping} {enroll : NatReconciler → NatReconciler}
    {rest : List Job} {known : List MappingKey} {last : Option NatFailure} {r : NatReconciler}
    {s : σ} (learned : ∀ r, Learned r [m.key] (enroll r)) (knowing : Knowing known (r, ∅))
    (unknown : m.key ∉ known) (creatable : m.Creatable)
    (inv : I (.create label m :: rest) known last s) :
    Pass.Ensures b (addMapping label m >>= fun _ => modify enroll) r s
      (fun _ r' t => ∃ known', known ⊆ known' ∧ Knowing known' (r', ∅) ∧ r'.labels = r.labels ∧
        I rest known' last t)
      fun e r' t => (∀ reason, e ≠ .dumpDestinations reason) ∧ Knowing known (r', ∅) ∧
        r'.labels = r.labels ∧ I rest known (some e) t := by
  obtain ⟨expected, answered⟩ := rule.create inv unknown creatable
  simp only [addMapping, Pass.ensures_bind, Pass.ensures_modify]
  rw [Pass.ensures_change]
  refine ⟨expected, fun answer t given => ?_⟩
  have inv' := answered answer t given
  cases answer with
  | ok _ =>
    let counted := { r with
      stats := { r.stats with mappingsCreated := r.stats.mappingsCreated + 1 } }
    have knowing' : Knowing known (counted, ∅) := ⟨knowing.knows, knowing.connected, undumped _⟩
    exact ⟨m.key :: known, List.subset_cons_self _ _, knowing'.learn (learned counted),
      (learned counted).labels, inv'⟩
  | error reason => exact ⟨by simp, knowing, rfl, inv'⟩

/-- A static mapping is created unless it is known. -/
theorem works_settleStatic (label : String) (m : StaticMapping) :
    Works b I labels needs [.create label (.ofStatic m)] (settleStatic label m) := by
  rintro rest known last ⟨r, tally⟩ s - knowing rfl inv
  have key := Mapping.key_ofStatic m
  simp only [settleStatic, Sweep.ensures_bind, Sweep.ensures_state]
  split
  · next found =>
    have there : (Mapping.ofStatic m).key ∈ known := key ▸ (knowing.knows _).mp found
    exact ⟨known, List.Subset.refl known, knowing, rfl, rule.skip inv there⟩
  · next absent =>
    have unknown : (Mapping.ofStatic m).key ∉ known := key ▸ mt (knowing.knows _).mpr absent
    have knowing' : Knowing known (r, ∅) := ⟨knowing.knows, knowing.connected, undumped r⟩
    refine ensures_tolerate knowing ?_
    by_cases barren : m.locals = []
    · have inv' := rule.barren inv unknown barren
      simp only [createStatic, barren, List.isEmpty_nil, if_true, Pass.ensures_bind,
        Pass.ensures_throw]
      exact ⟨by simp, knowing', trivial, inv'⟩
    · have some_ : m.locals.isEmpty = false := by simpa using barren
      simp only [createStatic, some_, Bool.false_eq_true, if_false]
      refine ensures_create rule (fun r => ?_) knowing' unknown
        (Mapping.creatable_ofStatic.mpr barren) inv
      exact key ▸ learned_enrollStatic r m

/-- An identity mapping is created unless it is known. -/
theorem works_settleIdentity (label : String) (m : IdentityMapping) :
    Works b I labels needs [.create label (.identity m)] (settleIdentity label m) := by
  rintro rest known last ⟨r, tally⟩ s - knowing rfl inv
  simp only [settleIdentity, Sweep.ensures_bind, Sweep.ensures_state]
  split
  · next found =>
    have there : (Mapping.identity m).key ∈ known := (knowing.knows (.inr _)).mp found
    exact ⟨known, List.Subset.refl known, knowing, rfl, rule.skip inv there⟩
  · next absent =>
    have unknown : (Mapping.identity m).key ∉ known := mt (knowing.knows (.inr _)).mpr absent
    have knowing' : Knowing known (r, ∅) := ⟨knowing.knows, knowing.connected, undumped r⟩
    refine ensures_tolerate knowing ?_
    exact ensures_create rule (learned_enrollIdentity · m) knowing' unknown (.identity m) inv

/-- A mapping is removed, if the dataplane does not refuse. -/
theorem works_deleteMapping (label : String) (m : Mapping) :
    Works b I labels needs [.delete label m] (Sweep.tolerate (deleteMapping label m)) := by
  rintro rest known last ⟨r, tally⟩ s - knowing rfl inv
  obtain ⟨expected, answered⟩ := rule.delete inv
  refine ensures_tolerate knowing ?_
  simp only [deleteMapping, Pass.ensures_bind, Pass.ensures_modify]
  rw [Pass.ensures_change]
  refine ⟨expected, fun answer t given => ?_⟩
  have inv' := answered answer t given
  cases answer with
  | ok _ =>
    exact ⟨known, List.Subset.refl known, ⟨knowing.knows, knowing.connected, undumped _⟩, rfl,
      inv'⟩
  | error reason =>
    exact ⟨by simp, ⟨knowing.knows, knowing.connected, undumped r⟩, rfl, inv'⟩

/-! ### Groups -/

/-- Once the mappings that were found are known, the missing ones are created. -/
theorem works_createMissing (wanted actual : DestinationNat) :
    Works b I labels (foundKeys (wanted.resolve actual.statics actual.identities))
      ((wanted.missing actual).map (.create wanted.label)) (createMissing wanted) := by
  rw [DestinationNat.missing, List.map_append, List.map_map, List.map_map]
  refine Works.bind (works_forM_filter ?_ ?_) (works_forM_filter ?_ ?_)
  · exact fun m _ _ => works_settleStatic rule wanted.label m
  · intro m _ found
    refine works_settleStatic_nil wanted.label (List.mem_append_left _ ?_)
    exact List.mem_map_of_mem (by simpa [DestinationNat.resolve] using found)
  · exact fun m _ _ => works_settleIdentity rule wanted.label m
  · intro m _ found
    refine works_settleIdentity_nil wanted.label (List.mem_append_right _ ?_)
    exact List.mem_map_of_mem (by simpa [DestinationNat.resolve] using found)

/-- The mappings of a list are removed. -/
theorem works_deleteAll (label : String) (statics : List StaticMapping)
    (identities : List IdentityMapping) :
    Works b I labels needs
      ((statics.map Mapping.ofStatic ++ identities.map Mapping.identity).map (.delete label))
      (deleteAll label statics identities) := by
  rw [deleteAll_eq, List.map_eq_flatMap (f := Job.delete label)]
  exact works_forM fun m _ => works_deleteMapping rule label m

/-- A group is removed unless its label is registered. -/
theorem works_clean {wanted : List DestinationNat} {actual : DestinationNat}
    (registered : labels.contains actual.label = true ↔ actual.label ∈ wanted.map (·.label)) :
    Works b I labels needs (actual.cleaning wanted) (clean actual) := by
  rintro rest known last x s have_ knowing rfl inv
  simp only [clean, Sweep.ensures_bind, Sweep.ensures_state]
  unfold DestinationNat.cleaning at inv
  split
  · next found =>
    rw [if_pos (registered.mp found)] at inv
    exact ⟨known, List.Subset.refl known, knowing, rfl, inv⟩
  · next absent =>
    rw [if_neg (mt registered.mpr absent)] at inv
    simp only [Sweep.ensures_bind, Sweep.ensures_failures]
    refine (works_deleteAll rule _ _ _ rest known last x s have_ knowing rfl inv).mono ?_
    rintro _ y t ⟨known', more, knowing', same, inv'⟩
    split
    · exact ⟨known', more, ⟨knowing'.knows, knowing'.connected, knowing'.dumped⟩, same, inv'⟩
    · exact ⟨known', more, knowing', same, inv'⟩

/-- Mappings that were found become known. -/
theorem known_keeps {α : Type} {form : α → Mapping} {label : String} {pairs : List (α × α)}
    {rest : List Job} {known : List MappingKey} {last : Option NatFailure} {s : σ}
    (inv : I (pairs.map (fun p => .keep label (form p.1) (form p.2)) ++ rest) known last s) :
    I rest ((pairs.map fun p => (form p.1).key).reverse ++ known) last s := by
  induction pairs generalizing known with
  | nil => exact inv
  | cons p pairs ih =>
    rw [List.map_cons, List.reverse_cons, List.append_assoc]
    exact ih (rule.keep inv)

/-- What was found of a wanted group becomes known. -/
theorem known_found {wanted actual : DestinationNat} {rest : List Job} {known : List MappingKey}
    {last : Option NatFailure} {s : σ} (inv : I (wanted.keeps actual ++ rest) known last s) :
    I rest ((foundKeys (wanted.resolve actual.statics actual.identities)).reverse ++ known)
      last s := by
  rw [DestinationNat.keeps, List.append_assoc] at inv
  have inv' := known_keeps rule (known_keeps rule inv)
  simpa [foundKeys, DestinationNat.resolve, Pairing.found, Mapping.key_ofStatic,
    Mapping.key_identity, Function.comp_def] using inv'

/-- A wanted group that the dataplane has is dealt with and registered. -/
theorem ensures_settle_jobs {wanted actual : DestinationNat} {rest : List Job}
    {known : List MappingKey} {last : Option NatFailure}
    {x : NatReconciler × FailureTally NatFailure} {s : σ} (knowing : Knowing known x)
    (inv : I (wanted.jobs actual ++ rest) known (x.2.last?.or last) s) :
    Sweep.Ensures b (settle wanted actual) x s fun _ y t => ∃ known', Knowing known' y ∧
      (∀ label, y.1.labels.contains label =
        (decide (label = wanted.label) || x.1.labels.contains label)) ∧
      I rest known' (y.2.last?.or last) t := by
  obtain ⟨r, tally⟩ := x
  have learned := learned_found wanted actual r
  have have_ : foundKeys (wanted.resolve actual.statics actual.identities) ⊆
      (foundKeys (wanted.resolve actual.statics actual.identities)).reverse ++ known :=
    fun key there => List.mem_append_left known (List.mem_reverse.mpr there)
  rw [DestinationNat.jobs, List.append_assoc, List.append_assoc] at inv
  have inv' := known_found rule inv
  rw [← List.append_assoc] at inv'
  have works : Works b I r.labels _ _ (createMissing wanted >>= fun _ => deleteAll wanted.label
      (wanted.resolve actual.statics actual.identities).statics.leftover
      (wanted.resolve actual.statics actual.identities).identities.leftover) :=
    (works_createMissing rule wanted actual).bind (works_deleteAll rule wanted.label _ _)
  simp only [settle, Sweep.ensures_bind, Sweep.ensures_update]
  refine Sweep.ensures_bind.mp
    ((works rest _ last _ s have_ (knowing.learn learned) learned.labels inv').mono ?_)
  rintro _ ⟨r', tally'⟩ t ⟨known', more, knowing', same, inv''⟩
  refine ⟨known', ⟨knowing'.knows, knowing'.connected, knowing'.dumped⟩, fun label => ?_, inv''⟩
  have kept : r'.labels = r.labels := same
  rw [← kept]
  exact Registry.contains_register ..

/-! ### The stage -/

/-- How things stand when the groups of a dump have been dealt with: the groups that are both
wanted and there are registered, and the other wanted ones are still to be created. -/
def Placed (I : List Job → List MappingKey → Option NatFailure → σ → Prop)
    (wanted dump : List DestinationNat) (last : Option NatFailure) (r : NatReconciler) (s : σ) :
    Prop :=
  ∃ known, Knowing known (r, ∅) ∧
    (∀ label, r.labels.contains label = true ↔
      label ∈ wanted.map (·.label) ∧ label ∈ dump.map (·.label)) ∧
    I ((unplaced (dump.map (·.label)) wanted).flatMap DestinationNat.creations) known last s

/-- The wanted groups that the dataplane has are dealt with and registered. -/
theorem ensures_settleWanted_jobs {dump wanted : List DestinationNat} {rest : List Job}
    {known : List MappingKey} {last : Option NatFailure}
    {x : NatReconciler × FailureTally NatFailure} {s : σ} (knowing : Knowing known x)
    (inv : I (wanted.flatMap (DestinationNat.jobsIn dump) ++ rest) known (x.2.last?.or last) s) :
    Sweep.Ensures b (wanted.forM (settleWanted dump)) x s fun _ y t => ∃ known', Knowing known' y ∧
      (∀ label, y.1.labels.contains label = true ↔ x.1.labels.contains label = true ∨
        label ∈ wanted.map (·.label) ∧ label ∈ dump.map (·.label)) ∧
      I rest known' (y.2.last?.or last) t := by
  induction wanted generalizing known x s with
  | nil => exact ⟨known, knowing, fun label => by simp, inv⟩
  | cons w wanted ih =>
    rw [List.flatMap_cons, List.append_assoc] at inv
    rw [Sweep.ensures_forM_cons]
    cases found : dump.find? (·.label == w.label) with
    | some a =>
      have there : w.label ∈ dump.map (·.label) := by
        refine List.mem_map.mpr ⟨a, List.mem_of_find?_eq_some found, ?_⟩
        simpa using List.find?_some found
      have step : settleWanted dump w = settle w a := by rw [settleWanted, found]
      have own : w.jobsIn dump = w.jobs a := by rw [DestinationNat.jobsIn, found]
      rw [own] at inv
      rw [step]
      refine (ensures_settle_jobs rule knowing inv).mono ?_
      rintro _ y t ⟨known₁, knowing₁, labels₁, inv₁⟩
      refine (ih knowing₁ inv₁).mono ?_
      rintro _ z u ⟨known₂, knowing₂, labels₂, inv₂⟩
      refine ⟨known₂, knowing₂, fun label => ?_, inv₂⟩
      rw [labels₂, labels₁, Bool.or_eq_true, decide_eq_true_iff, List.map_cons, List.mem_cons]
      constructor
      · rintro ((rfl | before) | ⟨later, placed⟩)
        · exact Or.inr ⟨Or.inl rfl, there⟩
        · exact Or.inl before
        · exact Or.inr ⟨Or.inr later, placed⟩
      · rintro (before | ⟨rfl | later, placed⟩)
        · exact Or.inl (Or.inr before)
        · exact Or.inl (Or.inl rfl)
        · exact Or.inr ⟨later, placed⟩
    | none =>
      have absent : w.label ∉ dump.map (·.label) := by
        intro there
        obtain ⟨d, hd, same⟩ := List.mem_map.mp there
        exact absurd same (by simpa using List.find?_eq_none.mp found d hd)
      have step : settleWanted dump w = pure () := by rw [settleWanted, found]
      have own : w.jobsIn dump = [] := by rw [DestinationNat.jobsIn, found]
      rw [own] at inv
      rw [step, Sweep.ensures_pure]
      refine (ih knowing inv).mono ?_
      rintro _ z u ⟨known', knowing', labels', inv'⟩
      refine ⟨known', knowing', fun label => ?_, inv'⟩
      rw [labels', List.map_cons, List.mem_cons]
      refine or_congr_right (and_congr_left fun placed => (or_iff_right ?_).symm)
      exact fun same => absent (same ▸ placed)

/-- The groups that the dataplane has are dealt with.  What is left to do is to create the
others. -/
theorem ensures_reconcileDestinations_jobs {wanted : List DestinationNat} {r : NatReconciler}
    {s : σ} (connected : r.connected = true) (expected : b.expects s (.nat .dumpDestinations))
    (dumped : ∀ dump t, b.answers s (.nat .dumpDestinations) (.ok dump) t →
      I (agenda wanted dump) [] none t) :
    Pass.Ensures b (reconcileDestinations wanted) r s
      (fun _ r' t => ∃ dump, Placed I wanted dump none r' t)
      fun e r' t =>
        (∃ reason, e = .dumpDestinations reason ∧
          b.answers s (.nat .dumpDestinations) (.error reason) t) ∨
        (∀ reason, e ≠ .dumpDestinations reason) ∧ ∃ dump, Placed I wanted dump (some e) r' t := by
  simp only [reconcileDestinations, requireConnection, Pass.ensures_bind, Pass.ensures_get,
    connected, if_true, Pass.ensures_pure, Pass.ensures_modify]
  rw [Pass.ensures_dump]
  refine ⟨expected, fun answer t given => ?_⟩
  cases answer with
  | error reason => exact Or.inl ⟨reason, rfl, given⟩
  | ok dump =>
    have inv := dumped dump t given
    have knowing : Knowing [] (({ global := r.global, stats := r.stats } : NatReconciler),
        (∅ : FailureTally NatFailure)) := by
      refine ⟨fun key => ?_, rfl, undumped _⟩
      cases key <;> exact iff_of_false Bool.false_ne_true List.not_mem_nil
    dsimp only
    split
    · next bare =>
      obtain rfl := List.isEmpty_iff.mp bare
      rw [agenda_nil] at inv
      exact ⟨[], [], knowing, fun label => iff_of_false Bool.false_ne_true (by simp), inv⟩
    · simp only [Pass.ensures_bind, Pass.ensures_sweeping, Sweep.ensures_bind, Pass.ensures_modify,
        Pass.ensures_conclude]
      rw [agenda, List.append_assoc] at inv
      refine (ensures_settleWanted_jobs rule knowing inv).mono ?_
      rintro _ y u ⟨known, knowing', labels, inv'⟩
      have registered : ∀ label, y.1.labels.contains label = true ↔
          label ∈ wanted.map (·.label) ∧ label ∈ dump.map (·.label) := by
        intro label
        rw [labels]
        exact or_iff_right Bool.false_ne_true
      have cleaning : Works b I y.1.labels [] _ (dump.forM clean) :=
        works_forM fun a ha => works_clean rule <|
          (registered a.label).trans (and_iff_left (List.mem_map_of_mem ha))
      refine (cleaning _ known none y u (List.nil_subset known) knowing' rfl inv').mono ?_
      rintro _ z v ⟨known₂, -, knowing₂, same, inv₂⟩
      have placed : Placed I wanted dump z.2.last? (addFailures z.2.count z.1) v := by
        refine ⟨known₂, ⟨knowing₂.knows, knowing₂.connected, undumped _⟩, fun label => ?_, ?_⟩
        · rw [← registered, ← same]
          rfl
        · rwa [Option.or_none] at inv₂
      split
      · next e failed =>
        rw [failed] at placed
        exact Or.inr ⟨fun reason same => knowing₂.dumped reason (same ▸ failed), dump, placed⟩
      · next well =>
        rw [well] at placed
        exact ⟨dump, placed⟩

/-- All mappings of a group that the dataplane does not have are created. -/
theorem works_createAll (wanted : DestinationNat) :
    Works b I labels [] wanted.creations (createMissing wanted) := by
  have works : Works b I labels _ _ (createMissing wanted) := works_createMissing rule wanted {}
  simpa [DestinationNat.missing, DestinationNat.resolve, pairOff_nil, Pairing.found, foundKeys,
    DestinationNat.creations, DestinationNat.mappings] using works

/-- A group is configured and registered. -/
theorem ensures_configure_jobs {wanted : DestinationNat} {rest : List Job} {known : List MappingKey}
    {last : Option NatFailure} {r : NatReconciler} {s : σ} (knowing : Knowing known (r, ∅))
    (inv : I (wanted.creations ++ rest) known last s) :
    Pass.Ensures b (configure wanted) r s
      (fun _ r' t => ∃ known', Knowing known' (r', ∅) ∧
        (∀ label, r'.labels.contains label =
          (decide (label = wanted.label) || r.labels.contains label)) ∧ I rest known' last t)
      fun e r' t => ∃ known', Knowing known' (r', ∅) ∧
        (∀ label, r'.labels.contains label =
          (decide (label = wanted.label) || r.labels.contains label)) ∧
        I rest known' (some e) t := by
  have connected : r.connected = true := knowing.connected
  simp only [configure, requireConnection, Pass.ensures_bind, Pass.ensures_get, connected, if_true,
    Pass.ensures_pure, Pass.ensures_sweeping, Pass.ensures_modify, Pass.ensures_conclude]
  refine (works_createAll rule wanted rest known last (r, ∅) s (List.nil_subset known) knowing rfl
    inv).mono ?_
  rintro _ y t ⟨known', -, knowing', same, inv'⟩
  have kept : y.1.labels = r.labels := same
  have known_ : Knowing known' (addFailures y.2.count (enrollLabel wanted y.1), ∅) :=
    ⟨knowing'.knows, knowing'.connected, undumped _⟩
  have labels' : ∀ label, (enrollLabel wanted y.1).labels.contains label =
      (decide (label = wanted.label) || r.labels.contains label) := by
    intro label
    rw [← kept]
    exact Registry.contains_register ..
  split
  · next e failed =>
    rw [failed] at inv'
    exact ⟨known', known_, labels', inv'⟩
  · next well =>
    rw [well] at inv'
    exact ⟨known', known_, labels', inv'⟩

end

end NatReconciler

/-- How something ends whose last failure is known. -/
def resultOf {ε : Type} : Option ε → Except ε Unit
  | some e => .error e
  | none => .ok ()

namespace Run

open NatReconciler

variable {b : Behaviour σ} {I : List Job → List MappingKey → Option NatFailure → σ → Prop}

/-- The wanted groups that are not registered are configured, the first one of each label. -/
theorem ensures_configureMissing_jobs (rule : Handles b I) {wanted : List DestinationNat}
    {taken : List String} {known : List MappingKey} {last : Option NatFailure} {r : NatReconciler}
    {s : σ} (knowing : Knowing known (r, ∅))
    (labels : ∀ d ∈ wanted, r.labels.contains d.label = true ↔ d.label ∈ taken)
    (inv : I ((unplaced taken wanted).flatMap DestinationNat.creations) known last s) :
    Program.Ensures b (configureMissing wanted (resultOf last) r) s fun end_ t =>
      ∃ known' last', end_.1 = resultOf last' ∧ I [] known' last' t := by
  induction wanted generalizing taken known last r s with
  | nil => exact ⟨known, last, rfl, inv⟩
  | cons d wanted ih =>
    have later := fun e he => labels e (List.mem_cons_of_mem d he)
    have here := labels d List.mem_cons_self
    rw [unplaced] at inv
    unfold configureMissing
    split
    · next found =>
      rw [if_pos (here.mp found)] at inv
      exact ih knowing later inv
    · next absent =>
      rw [if_neg (mt here.mpr absent), List.flatMap_cons] at inv
      have registered : ∀ {r' : NatReconciler}, (∀ label, r'.labels.contains label =
          (decide (label = d.label) || r.labels.contains label)) →
          ∀ e ∈ wanted, r'.labels.contains e.label = true ↔ e.label ∈ d.label :: taken := by
        intro r' labels' e he
        rw [labels', Bool.or_eq_true, decide_eq_true_iff, List.mem_cons, later e he]
      refine (Program.ensures_bind _ _ s _).mpr ?_
      have configured := ensures_configure_jobs rule knowing inv
      refine Program.Ensures.mono configured fun end_ t state => ?_
      match end_ with
      | (.ok (), r') =>
        obtain ⟨known', knowing', labels', inv'⟩ := state
        exact ih knowing' (registered labels') inv'
      | (.error e, r') =>
        obtain ⟨known', knowing', labels', inv'⟩ := state
        exact @ih (d.label :: taken) known' (some e) r' t knowing' (registered labels') inv'

/-- Whatever a dataplane answers, a stage deals with its agenda, and ends with the last failure.
If the dump is refused, the stage ends there. -/
theorem ensures_destinationStage_jobs (rule : Handles b I) {wanted : List DestinationNat}
    {r : NatReconciler} {s : σ} (connected : r.connected = true)
    (expected : b.expects s (.nat .dumpDestinations))
    (dumped : ∀ dump t, b.answers s (.nat .dumpDestinations) (.ok dump) t →
      I (agenda wanted dump) [] none t) :
    Program.Ensures b (destinationStage wanted r) s fun end_ t =>
      (∃ reason, end_.1 = .error (.dumpDestinations reason) ∧
        b.answers s (.nat .dumpDestinations) (.error reason) t) ∨
      ∃ known last, end_.1 = resultOf last ∧ I [] known last t := by
  refine (Program.ensures_bind _ _ s _).mpr ?_
  refine Program.Ensures.mono (ensures_reconcileDestinations_jobs rule connected expected dumped)
    fun end_ t state => ?_
  have onward : ∀ last dump r' t, Placed I wanted dump last r' t →
      Program.Ensures b (configureMissing wanted (resultOf last) r') t fun end_ t =>
        ∃ known last, end_.1 = resultOf last ∧ I [] known last t := by
    rintro last dump r' t ⟨known, knowing, labels, inv⟩
    refine ensures_configureMissing_jobs rule knowing (fun d hd => ?_) inv
    rw [labels]
    exact and_iff_right (List.mem_map_of_mem hd)
  match end_ with
  | (.ok (), r') =>
    obtain ⟨dump, placed⟩ := state
    exact (onward none dump r' t placed).mono fun _ _ => Or.inr
  | (.error e, r') =>
    rcases state with ⟨reason, rfl, refused⟩ | ⟨other, dump, placed⟩
    · exact Or.inl ⟨reason, rfl, refused⟩
    · cases e with
      | dumpDestinations reason => exact absurd rfl (other reason)
      | _ => exact (onward (some _) dump r' t placed).mono fun _ _ => Or.inr

end Run

end DataplaneSync
