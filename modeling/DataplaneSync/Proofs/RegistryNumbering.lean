import DataplaneSync.Proofs.DestinationSteps
import DataplaneSync.Proofs.DetectionJobs
import DataplaneSync.Proofs.IndexDraws

namespace DataplaneSync

/-!
# Registries with drawn indexes

What each pass makes of its registries and of the counter that it draws their indexes from, whatever
it is answered.

* `BfdObjects.numbered_of_trace`, `StnReconciler.numbered_of_trace`,
  `NatReconciler.numbered_of_trace` — passes that reset their counter and register everything anew.
* `BfdReconciler.sound_of_echo` — the choice of an echo source, which draws nothing.
* `NatReconciler.Numbering` — three registries with one counter, which not all passes reset.
* `NatReconciler.numbering_of_configure`, `NatReconciler.numbering_of_global` — those that do not.
-/

/-! ### Forwarding detection -/

namespace BfdReconciler

/-- Without a dataplane nothing is done. -/
theorem of_trace_disconnected {f : Unit → Step Unit} {r t : BfdReconciler} {ds : List Deed}
    {end_ : Except BfdFailure Unit} (disconnected : r.connected = false)
    (trace : Program.Trace ((requireConnection >>= f) r) ds (end_, t)) : ds = [] ∧ t = r := by
  obtain ⟨_, _, _, _, _, _⟩ := r
  obtain rfl := disconnected
  cases trace
  exact ⟨rfl, rfl⟩

end BfdReconciler

namespace BfdObjects

open BfdReconciler

variable {α : Type} {o : BfdObjects α} {K : BfdReconciler → Prop} {dumping : BfdCall}
variable {dumped : List α → Answer (.bfd dumping)}

/-- What the passes over some objects leave alone, and which of their calls create something. -/
structure Minds (o : BfdObjects α) (K : BfdReconciler → Prop) : Prop where
  setRegistry : ∀ {r}, K r → ∀ registry, K (o.setRegistry registry r)
  counter : ∀ {r}, K r → ∀ counter, K { r with counter := counter }
  stats : ∀ {r}, K r → ∀ stats, K { r with stats := stats }
  create : ∀ x, (Call.bfd (o.create x)).operation.kind = .create
  change : ∀ actual wanted, (Call.bfd (o.change actual wanted)).operation.kind ≠ .create
  delete : ∀ x, (Call.bfd (o.delete x)).operation.kind ≠ .create

/-- In the middle of a pass as many indexes have been drawn since it started. -/
structure Numbering (o : BfdObjects α) (K : BfdReconciler → Prop) (n : Nat) (r : BfdReconciler) :
    Prop where
  rest : K r
  counter : r.counter.Drew n
  registry : n ≤ UInt32.size → (o.registry r).Numbered n

/-- The number of indexes drawn for wanted objects that the dataplane has. -/
def countKept (o : BfdObjects α) (wanted actual : List α) : Nat :=
  (wanted.map fun w => (actual.filter (o.counterpart w)).length).sum

section Steps

variable (h : o.Regular dumping dumped) (minds : o.Minds K)

include h minds

theorem numbering_enroll (x : α) (n : Nat) (r : BfdReconciler) (held : o.Numbering K n r) :
    o.Numbering K (n + 1) (o.enroll x r) := by
  obtain ⟨drawn, after⟩ := held.counter.mint
  refine ⟨minds.counter (minds.setRegistry held.rest _) _, after, fun room => ?_⟩
  rw [enroll, h.registry_counter, h.registry_setRegistry, drawn]
  exact (held.registry (Nat.le_of_succ_le room)).register room _ _

theorem numbering_stats (stats : BfdReconciler → BfdStats) (n : Nat) (r : BfdReconciler)
    (held : o.Numbering K n r) : o.Numbering K n { r with stats := stats r } := by
  refine ⟨minds.stats held.rest _, held.counter, ?_⟩
  rw [h.registry_stats]
  exact held.registry

/-- What changes or removes an object draws nothing. -/
theorem drawing_apply {call : BfdCall} {kind : CallKind} (x : α)
    (other : (Call.bfd call).operation.kind ≠ .create) :
    (o.apply call kind x id).Obeys (.drawing (o.Numbering K)) := by
  refine Sweep.obeys_tolerate ((Pass.drawing_change other).bind fun _ => ?_)
  refine (Pass.drawing_modify fun _ _ => id).bind fun _ => Pass.drawing_modify ?_
  exact numbering_stats h minds _

theorem draws_keep (wanted actual : α) :
    (o.keep wanted actual).Draws (o.Numbering K) 1 := by
  refine (Sweep.draws_update (numbering_enroll h minds wanted)).bind (l := 0) fun _ => ?_
  split
  · exact (drawing_apply h minds wanted (minds.change actual wanted)).draws
  · exact Sweep.draws_pure ()

theorem draws_settle (actual : List α) (wanted : α) :
    (o.settle actual wanted).Draws (o.Numbering K)
      (actual.filter (o.counterpart wanted)).length := by
  unfold settle
  dsimp only
  split
  · next missing =>
    rw [List.isEmpty_iff.mp missing]
    refine (Sweep.obeys_tolerate ((Pass.creates_change (minds.create wanted)).drawing ?_)).draws
    -- what is created is registered, and then only counted
    rintro - r - - - ⟨⟩
    refine ⟨rfl, fun n held => ?_⟩
    exact numbering_stats h minds (fun r => o.count .create r.stats) _ _
      (numbering_enroll h minds wanted n r held)
  · have rounds := Sweep.draws_forM (actual.filter (o.counterpart wanted))
      fun a _ => draws_keep h minds wanted a
    simpa using rounds

theorem draws_clean (actual : α) : (o.clean actual).Draws (o.Numbering K) 0 := by
  refine Sweep.Obeys.draws (Sweep.obeys_state.bind fun r => ?_)
  split
  · exact Sweep.obeys_pure ()
  · exact drawing_apply h minds actual (minds.delete actual)

theorem drawing_finish (tally : FailureTally BfdFailure) :
    (finish tally).Obeys (.drawing (o.Numbering K)) := by
  refine (Pass.drawing_modify (numbering_stats h minds _)).bind fun _ => ?_
  exact Pass.drawing_conclude tally

/-- A pass draws indexes from a new counter, provided that it may read the objects. -/
theorem numbered_of_trace {wanted : List α} {r t : BfdReconciler} {ds : List Deed}
    {end_ : Except BfdFailure Unit} (connected : r.connected = true) (rest : K r)
    (trace : Program.Trace (o.reconcile wanted r) ds (end_, t)) :
    (∃ reason, exchanges ds = [⟨.bfd dumping, .error reason⟩] ∧ o.Numbering K 0 t) ∨
    ∃ actual xs, exchanges ds = ⟨.bfd dumping, dumped actual⟩ :: xs ∧
      o.Numbering K (o.countKept wanted actual + creationCount xs) t := by
  have start : o.Numbering K 0 { o.setRegistry ∅ r with counter := {} } := by
    refine ⟨minds.counter (minds.setRegistry rest _) _, IndexCounter.drew_start, fun _ => ?_⟩
    rw [h.registry_counter, h.registry_setRegistry]
    exact Registry.numbered_empty 0
  have onward : Program.Trace (o.settleAll wanted r) ds (end_, t) :=
    trace_requireConnection connected trace
  rcases h.dump (Pass.of_trace_modify onward) with
    ⟨reason, rfl, -, rfl⟩ | ⟨actual, ds', rfl, rest⟩
  · exact Or.inl ⟨reason, rfl, start⟩
  · have loops : Sweep.Draws (o.Numbering K) (o.countKept wanted actual) (do
        wanted.forM (o.settle actual)
        actual.forM o.clean) := by
      refine (Sweep.draws_forM _ fun w _ => draws_settle h minds actual w).bind (l := 0) fun _ => ?_
      have rounds := Sweep.draws_forM actual fun a _ => draws_clean h minds a
      simpa using rounds
    have reached := Pass.drawn_of_sweeping loops (drawing_finish h minds) rest start
    rw [Nat.zero_add] at reached
    exact Or.inr ⟨actual, exchanges ds', rfl, reached⟩

end Steps

end BfdObjects

namespace BfdReconciler

/-- How things stand between two passes. -/
structure Sound (n : Nat) (r : BfdReconciler) : Prop where
  sessions : r.sessions.Faithful
  keys : r.keys.Faithful
  echo : r.echo.Faithful
  counter : r.counter.Drew n

theorem Sound.counted {n : Nat} {r : BfdReconciler} (h : r.Sound n) (stats : BfdStats) :
    Sound n { r with stats := stats } := ⟨h.sessions, h.keys, h.echo, h.counter⟩

theorem minds_sessionObjects :
    sessionObjects.Minds fun r => r.keys.Faithful ∧ r.echo.Faithful where
  setRegistry held _ := held
  counter held _ := held
  stats held _ := held
  create _ := rfl
  change _ _ := nofun
  delete _ := nofun

theorem minds_keyObjects :
    keyObjects.Minds fun r => r.sessions.Faithful ∧ r.echo.Faithful where
  setRegistry held _ := held
  counter held _ := held
  stats held _ := held
  create _ := rfl
  change _ _ := nofun
  delete _ := nofun

variable {n : Nat} {r t : BfdReconciler}

theorem sound_of_sessions (room : n ≤ UInt32.size)
    (h : sessionObjects.Numbering (fun r => r.keys.Faithful ∧ r.echo.Faithful) n t) : t.Sound n :=
  ⟨(h.registry room).faithful, h.rest.1, h.rest.2, h.counter⟩

theorem sound_of_keys (room : n ≤ UInt32.size)
    (h : keyObjects.Numbering (fun r => r.sessions.Faithful ∧ r.echo.Faithful) n t) : t.Sound n :=
  ⟨h.rest.1, (h.registry room).faithful, h.rest.2, h.counter⟩

/-- At most one echo source is registered, and it draws no index. -/
theorem sound_of_echo {wanted : List BfdEcho} {ds : List Deed} {end_ : Except BfdFailure Unit}
    (h : r.Sound n) (trace : Program.Trace (reconcileEcho wanted r) ds (end_, t)) : t.Sound n := by
  match wanted with
  | [] =>
    cases trace
    exact h
  | echo :: _ =>
    cases connected : r.connected with
    | false =>
      obtain ⟨-, rfl⟩ := of_trace_disconnected connected trace
      exact h
    | true =>
      -- only one name is ever registered after the reset
      let J : Nat → BfdReconciler → Prop := fun _ r =>
        r.Sound n ∧ ∀ name entry, r.echo.lookup? name = some entry → name = echo.sourceInterface
      have start : J 0 { r with echo := ∅ } :=
        ⟨⟨h.sessions, h.keys, Registry.faithful_empty, h.counter⟩, nofun⟩
      have set_ : (setEcho echo).Obeys (.drawing J) := by
        refine (Pass.obeys_change fun _ _ _ _ _ held => held).bind fun _ => ?_
        refine Pass.drawing_modify fun _ r ⟨sound, only⟩ => ⟨?_, fun name entry found => ?_⟩
        · refine ⟨sound.sessions, sound.keys, ?_, sound.counter⟩
          exact sound.echo.register echo fun other _ found => only other _ found
        · rw [Registry.lookup?_register] at found
          split at found
          · assumption
          · exact only name entry found
      have finish_ : ∀ tally, (finish tally).Obeys (.drawing J) := by
        intro tally
        refine (Pass.drawing_modify fun _ r held => ⟨held.1.counted _, held.2⟩).bind fun _ => ?_
        exact Pass.drawing_conclude tally
      have onward : Program.Trace (chooseEcho echo r) ds (end_, t) :=
        trace_requireConnection connected trace
      exact (Pass.drawn_of_sweeping (n := 0) (Sweep.obeys_tolerate set_).draws finish_
        (Pass.of_trace_modify onward) start).1

end BfdReconciler

/-! ### Rules -/

namespace StnReconciler

/-- As many indexes have been drawn for the rules. -/
structure Numbering (n : Nat) (r : StnReconciler) : Prop where
  counter : r.counter.Drew n
  registry : n ≤ UInt32.size → r.rules.Numbered n

/-- Whether a rule of the dump is kept. -/
def keeps {μ : Type} (interfaces : Registry μ) (wanted : List StnRule)
    (actual : StnRuleDetails) : Bool :=
  interfaces.contains actual.interface && (wanted.find? actual.isFor).isSome

variable {μ : Type} {interfaces : Registry μ} {wanted : List StnRule}

theorem numbering_enroll (rule : StnRule) (n : Nat) (r : StnReconciler) (held : Numbering n r) :
    Numbering (n + 1) (enroll rule r) := by
  obtain ⟨drawn, after⟩ := held.counter.mint
  refine ⟨after, fun room => ?_⟩
  show (r.rules.register _ r.counter.mint.1 rule).Numbered (n + 1)
  rw [drawn]
  exact (held.registry (Nat.le_of_succ_le room)).register room _ _

theorem drawing_remove (actual : StnRuleDetails) :
    (Sweep.tolerate (remove actual)).Obeys (.drawing Numbering) := by
  have removes : (Call.stn (.delete actual.address actual.index)).operation.kind ≠ .create := nofun
  refine Sweep.obeys_tolerate ((Pass.drawing_change removes).bind fun _ => ?_)
  exact Pass.drawing_modify fun _ _ held => ⟨held.counter, held.registry⟩

theorem draws_settleActual (actual : StnRuleDetails) :
    (settleActual interfaces wanted actual).Draws Numbering
      (if keeps interfaces wanted actual then 1 else 0) := by
  unfold settleActual keeps
  cases interfaces.contains actual.interface with
  | false => exact (drawing_remove actual).draws
  | true =>
    cases wanted.find? actual.isFor with
    | none => exact (drawing_remove actual).draws
    | some w => exact Sweep.draws_update (numbering_enroll w)

theorem draws_settleActuals (actual : List StnRuleDetails) :
    (actual.forM (settleActual interfaces wanted)).Draws Numbering
      (actual.countP (keeps interfaces wanted)) := by
  induction actual with
  | nil => exact Sweep.draws_pure ()
  | cons a rest ih =>
    rw [List.countP_cons, Nat.add_comm]
    exact (draws_settleActual a).bind fun _ => ih

theorem drawing_settleWanted (rule : StnRule) :
    (settleWanted interfaces rule).Obeys (.drawing Numbering) := by
  refine Sweep.obeys_state.bind fun r => ?_
  split
  · exact Sweep.obeys_pure ()
  · split
    · refine Sweep.obeys_tolerate ((Pass.creates_change rfl).drawing ?_)
      -- what is added is registered, and then only counted
      rintro - r - - - ⟨⟩
      refine ⟨rfl, fun n held => ?_⟩
      have added := numbering_enroll rule n r held
      exact ⟨added.counter, added.registry⟩
    · refine Sweep.obeys_tolerate ((Pass.drawing_modify ?_).bind fun _ => ?_)
      · exact fun _ _ held => ⟨held.counter, held.registry⟩
      · exact Pass.obeys_report fun _ _ held => held

/-- A pass draws indexes from a new counter, provided that it may read the rules. -/
theorem numbered_of_trace {r t : StnReconciler} {ds : List Deed} {end_ : Except StnFailure Unit}
    (connected : r.connected = true)
    (trace : Program.Trace (reconcile interfaces wanted r) ds (end_, t)) :
    (∃ reason, exchanges ds = [⟨.stn .dump, .error reason⟩] ∧ Numbering 0 t) ∨
    ∃ actual xs, exchanges ds = ⟨.stn .dump, .ok actual⟩ :: xs ∧
      Numbering (actual.countP (keeps interfaces wanted) + creationCount xs) t := by
  have start : Numbering 0 r.forget :=
    ⟨IndexCounter.drew_start, fun _ => Registry.numbered_empty 0⟩
  rw [reconcile_eq, if_pos connected] at trace
  rcases Pass.of_trace_dump_bind trace with ⟨reason, rfl, -, rfl⟩ | ⟨actual, ds', rfl, rest⟩
  · exact Or.inl ⟨reason, rfl, start⟩
  · have loops : Sweep.Draws Numbering (actual.countP (keeps interfaces wanted)) (do
        actual.forM (settleActual interfaces wanted)
        wanted.forM (settleWanted interfaces)) := by
      refine (draws_settleActuals actual).bind (l := 0) fun _ => ?_
      exact (Sweep.obeys_forM drawing_settleWanted).draws
    have finish_ : ∀ tally : FailureTally StnFailure,
        (do
          modify fun r : StnReconciler =>
            { r with stats := { r.stats with failures := r.stats.failures + tally.count } }
          Pass.conclude tally : Step Unit).Obeys (.drawing Numbering) := by
      intro tally
      refine (Pass.drawing_modify fun _ _ held => ⟨held.counter, held.registry⟩).bind fun _ => ?_
      exact Pass.drawing_conclude tally
    have reached := Pass.drawn_of_sweeping loops finish_ rest start
    rw [Nat.zero_add] at reached
    exact Or.inr ⟨actual, exchanges ds', rfl, reached⟩

end StnReconciler

/-! ### NAT -/

namespace NatReconciler

/-- Three registries with indexes below a number, none of which they share. -/
structure Numbered (n : Nat) (r : NatReconciler) : Prop where
  statics : r.statics.Numbered n
  identities : r.identities.Numbered n
  labels : r.labels.Numbered n
  statics_identities : r.statics.Apart r.identities
  statics_labels : r.statics.Apart r.labels
  identities_labels : r.identities.Apart r.labels

/-- As many indexes have been drawn for mappings and groups. -/
structure Numbering (n : Nat) (r : NatReconciler) : Prop where
  counter : r.counter.Drew n
  registries : n ≤ UInt32.size → r.Numbered n

variable {n : Nat} {r t : NatReconciler} {ds : List Deed} {end_ : Except NatFailure Unit}

/-- Nothing else matters. -/
theorem Numbering.congr (h : Numbering n r) (counter : t.counter = r.counter := by rfl)
    (statics : t.statics = r.statics := by rfl)
    (identities : t.identities = r.identities := by rfl)
    (labels : t.labels = r.labels := by rfl) : Numbering n t := by
  refine ⟨counter ▸ h.counter, fun room => ?_⟩
  obtain ⟨h₁, h₂, h₃, h₄, h₅, h₆⟩ := h.registries room
  constructor <;> simpa only [statics, identities, labels]

theorem numbering_enrollStatic (m : StaticMapping) (n : Nat) (r : NatReconciler)
    (held : Numbering n r) : Numbering (n + 1) (enrollStatic m r) := by
  obtain ⟨drawn, after⟩ := held.counter.mint
  refine ⟨after, fun room => ?_⟩
  -- the index is above all of the three registries, so that none of them has it
  have now := held.registries (Nat.le_of_succ_le room)
  have own : (enrollStatic m r).statics =
      r.statics.register m.identifier (UInt32.ofNat n) m := by rw [← drawn]; rfl
  constructor
  · exact own ▸ now.statics.register room _ _
  · exact now.identities.succ
  · exact now.labels.succ
  · exact own ▸ now.statics_identities.register now.identities room _ _
  · exact own ▸ now.statics_labels.register now.labels room _ _
  · exact now.identities_labels

theorem numbering_enrollIdentity (m : IdentityMapping) (n : Nat) (r : NatReconciler)
    (held : Numbering n r) : Numbering (n + 1) (enrollIdentity m r) := by
  obtain ⟨drawn, after⟩ := held.counter.mint
  refine ⟨after, fun room => ?_⟩
  have now := held.registries (Nat.le_of_succ_le room)
  have own : (enrollIdentity m r).identities =
      r.identities.register m.identifier (UInt32.ofNat n) m := by rw [← drawn]; rfl
  constructor
  · exact now.statics.succ
  · exact own ▸ now.identities.register room _ _
  · exact now.labels.succ
  · exact own ▸ (now.statics_identities.symm.register now.statics room _ _).symm
  · exact now.statics_labels
  · exact own ▸ now.identities_labels.register now.labels room _ _

theorem numbering_enrollLabel (d : DestinationNat) (n : Nat) (r : NatReconciler)
    (held : Numbering n r) : Numbering (n + 1) (enrollLabel d r) := by
  obtain ⟨drawn, after⟩ := held.counter.mint
  refine ⟨after, fun room => ?_⟩
  have now := held.registries (Nat.le_of_succ_le room)
  have own : (enrollLabel d r).labels =
      r.labels.register d.label (UInt32.ofNat n) d := by rw [← drawn]; rfl
  constructor
  · exact now.statics.succ
  · exact now.identities.succ
  · exact own ▸ now.labels.register room _ _
  · exact now.statics_identities
  · exact own ▸ (now.statics_labels.symm.register now.statics room _ _).symm
  · exact own ▸ (now.identities_labels.symm.register now.identities room _ _).symm

/-- A mapping that was found has an index drawn. -/
theorem numbering_enrollFoundStatic {wanted : DestinationNat} {m : StaticMapping}
    (member : m ∈ wanted.statics) (n : Nat) (r : NatReconciler) (held : Numbering n r) :
    Numbering (n + 1) (enrollFoundStatic wanted m r) := by
  unfold enrollFoundStatic
  split
  · exact numbering_enrollStatic _ n r held
  · next missing => exact absurd (List.find?_eq_none.mp missing m member) (by simp)

theorem numbering_enrollFoundIdentity {wanted : DestinationNat} {m : IdentityMapping}
    (member : m ∈ wanted.identities) (n : Nat) (r : NatReconciler) (held : Numbering n r) :
    Numbering (n + 1) (enrollFoundIdentity wanted m r) := by
  unfold enrollFoundIdentity
  split
  · exact numbering_enrollIdentity _ n r held
  · next missing => exact absurd (List.find?_eq_none.mp missing m member) (by simp)

/-- So does each of several. -/
theorem numbering_foldl {α : Type} {enroll : NatReconciler → α → NatReconciler} {xs : List α}
    (each : ∀ x ∈ xs, ∀ n r, Numbering n r → Numbering (n + 1) (enroll r x)) (n : Nat)
    (r : NatReconciler) (held : Numbering n r) : Numbering (n + xs.length) (xs.foldl enroll r) := by
  induction xs generalizing n r with
  | nil => exact held
  | cons x xs ih =>
    rw [List.foldl_cons, List.length_cons, Nat.add_comm xs.length, ← Nat.add_assoc]
    refine ih (fun y member => each y (List.mem_cons_of_mem x member)) (n + 1) _ ?_
    exact each x List.mem_cons_self n r held

/-- Telling the dataplane of a mapping is a creation. -/
theorem creates_addMapping (label : String) (m : Mapping) :
    (addMapping label m).Creates Numbering :=
  (Pass.creates_change rfl).modify fun _ _ held => held.congr

theorem drawing_createStatic (label : String) (m : StaticMapping) :
    (createStatic label m).Obeys (.drawing Numbering) := by
  have onward : (addMapping label (.ofStatic m) >>= fun _ => modify (enrollStatic m) :
      Step PUnit).Obeys (.drawing Numbering) := by
    refine (creates_addMapping label (.ofStatic m)).drawing ?_
    rintro - r - - - ⟨⟩
    exact ⟨rfl, fun n held => numbering_enrollStatic m n r held⟩
  unfold createStatic
  split
  · exact (Pass.drawing_throw _).bind fun _ => onward
  · exact onward

theorem drawing_createIdentity (label : String) (m : IdentityMapping) :
    (createIdentity label m).Obeys (.drawing Numbering) := by
  refine (creates_addMapping label (.identity m)).drawing ?_
  rintro - r - - - ⟨⟩
  exact ⟨rfl, fun n held => numbering_enrollIdentity m n r held⟩

theorem drawing_createMissing (d : DestinationNat) :
    (createMissing d).Obeys (.drawing Numbering) := by
  refine (Sweep.obeys_forM fun m => ?_).bind fun _ => Sweep.obeys_forM fun m => ?_
  · refine Sweep.obeys_state.bind fun r => ?_
    split
    · exact Sweep.obeys_pure ()
    · exact Sweep.obeys_tolerate (drawing_createStatic d.label m)
  · refine Sweep.obeys_state.bind fun r => ?_
    split
    · exact Sweep.obeys_pure ()
    · exact Sweep.obeys_tolerate (drawing_createIdentity d.label m)

theorem drawing_deleteMapping (label : String) (m : Mapping) :
    (deleteMapping label m).Obeys (.drawing Numbering) := by
  have removes : (Call.nat (.deleteMapping label m)).operation.kind ≠ .create := nofun
  exact (Pass.drawing_change removes).bind fun _ => Pass.drawing_modify fun _ _ held => held.congr

theorem drawing_deleteAll (label : String) (statics : List StaticMapping)
    (identities : List IdentityMapping) :
    (deleteAll label statics identities).Obeys (.drawing Numbering) :=
  (Sweep.obeys_forM fun _ => Sweep.obeys_tolerate (drawing_deleteMapping _ _)).bind fun _ =>
    Sweep.obeys_forM fun _ => Sweep.obeys_tolerate (drawing_deleteMapping _ _)

/-- The number of indexes drawn for a wanted group and for the mappings of it that the dataplane
has, if it has the group. -/
def countFound (dump : List DestinationNat) (wanted : DestinationNat) : Nat :=
  match dump.find? (·.label == wanted.label) with
  | some actual =>
    let found := wanted.resolve actual.statics actual.identities
    found.statics.found.length + found.identities.found.length + 1
  | none => 0

theorem draws_settleWanted (dump : List DestinationNat) (wanted : DestinationNat) :
    (settleWanted dump wanted).Draws Numbering (countFound dump wanted) := by
  unfold settleWanted countFound
  cases dump.find? (·.label == wanted.label) with
  | none => exact Sweep.draws_pure ()
  | some actual =>
    let found := wanted.resolve actual.statics actual.identities
    have statics : (Sweep.update fun r =>
        found.statics.found.foldl (fun r m => enrollFoundStatic wanted m r) r :
          SweepStep Unit).Draws Numbering found.statics.found.length :=
      Sweep.draws_update <| numbering_foldl fun m member =>
        numbering_enrollFoundStatic (found_sublist.subset member)
    have identities : (Sweep.update fun r =>
        found.identities.found.foldl (fun r m => enrollFoundIdentity wanted m r) r :
          SweepStep Unit).Draws Numbering found.identities.found.length :=
      Sweep.draws_update <| numbering_foldl fun m member =>
        numbering_enrollFoundIdentity (found_sublist.subset member)
    have label : (Sweep.update (enrollLabel wanted) : SweepStep Unit).Draws Numbering 1 :=
      Sweep.draws_update (numbering_enrollLabel wanted)
    have rest := (drawing_createMissing wanted).draws.bind fun _ =>
      (drawing_deleteAll wanted.label found.statics.leftover found.identities.leftover).draws.bind
        fun _ => label
    have all := statics.bind fun _ => identities.bind fun _ => rest
    rwa [Nat.zero_add, Nat.zero_add, ← Nat.add_assoc] at all

theorem drawing_clean (actual : DestinationNat) : (clean actual).Obeys (.drawing Numbering) := by
  refine Sweep.obeys_state.bind fun r => ?_
  split
  · exact Sweep.obeys_pure ()
  · refine Sweep.obeys_failures.bind fun before => (drawing_deleteAll _ _ _).bind fun _ => ?_
    refine Sweep.obeys_failures.bind fun after => ?_
    split
    · exact Sweep.obeys_update fun _ _ held => held.congr
    · exact Sweep.obeys_pure ()

theorem drawing_finish (tally : FailureTally NatFailure) :
    (do modify (addFailures tally.count); Pass.conclude tally : Step Unit).Obeys
      (.drawing Numbering) :=
  (Pass.drawing_modify fun _ _ held => held.congr).bind fun _ => Pass.drawing_conclude tally

/-- Without a dataplane nothing is done. -/
theorem of_trace_disconnected {f : Unit → Step Unit} (disconnected : r.connected = false)
    (trace : Program.Trace ((requireConnection >>= f) r) ds (end_, t)) : ds = [] ∧ t = r := by
  obtain ⟨_, _, _, _, _, _, _⟩ := r
  obtain rfl := disconnected
  cases trace
  exact ⟨rfl, rfl⟩

/-- What is left of a pass over the groups that has a dataplane. -/
def settleGroups (wanted : List DestinationNat) : Step Unit := do
  modify fun r => { r with statics := ∅, identities := ∅, labels := ∅, counter := {} }
  let actual ← Pass.dump (.nat .dumpDestinations) .dumpDestinations
  if actual.isEmpty then pure ()
  else
    let tally ← Pass.sweeping do
      wanted.forM (settleWanted actual)
      actual.forM clean
    modify (addFailures tally.count)
    Pass.conclude tally

/-- A pass over the groups draws indexes from a new counter, provided that it may read them. -/
theorem numbered_of_trace {wanted : List DestinationNat} (connected : r.connected = true)
    (trace : Program.Trace (reconcileDestinations wanted r) ds (end_, t)) :
    (∃ reason, exchanges ds = [⟨.nat .dumpDestinations, .error reason⟩] ∧ Numbering 0 t) ∨
    ∃ dump xs, exchanges ds = ⟨.nat .dumpDestinations, .ok dump⟩ :: xs ∧
      Numbering ((wanted.map (countFound dump)).sum + creationCount xs) t := by
  have start : Numbering 0
      { r with statics := ∅, identities := ∅, labels := ∅, counter := {} } := by
    refine ⟨IndexCounter.drew_start, fun _ => ?_⟩
    constructor
    · exact Registry.numbered_empty 0
    · exact Registry.numbered_empty 0
    · exact Registry.numbered_empty 0
    · exact Registry.apart_empty
    · exact Registry.apart_empty
    · exact Registry.apart_empty
  have onward : Program.Trace (settleGroups wanted r) ds (end_, t) :=
    trace_requireConnection connected trace
  rcases Pass.of_trace_dump_bind (Pass.of_trace_modify onward) with
    ⟨reason, rfl, -, rfl⟩ | ⟨dump, ds', rfl, rest⟩
  · exact Or.inl ⟨reason, rfl, start⟩
  · refine Or.inr ⟨dump, exchanges ds', rfl, ?_⟩
    split at rest
    · next empty =>
      -- a dataplane without groups has none of the wanted ones
      cases rest
      obtain rfl := List.isEmpty_iff.mp empty
      have nothing : (wanted.map (countFound [])).sum = 0 := by
        have none_ : countFound [] = fun _ => 0 := rfl
        simp [none_]
      rwa [nothing]
    · have loops : Sweep.Draws Numbering (wanted.map (countFound dump)).sum (do
          wanted.forM (settleWanted dump)
          dump.forM clean) := by
        refine (Sweep.draws_forM _ fun w _ => draws_settleWanted dump w).bind (l := 0) fun _ => ?_
        exact (Sweep.obeys_forM drawing_clean).draws
      have reached := Pass.drawn_of_sweeping loops drawing_finish rest start
      rwa [Nat.zero_add] at reached

/-- To configure a group goes on with the counter, and draws one index for the group itself. -/
theorem numbering_of_configure {wanted : DestinationNat} (connected : r.connected = true)
    (held : Numbering n r) (trace : Program.Trace (configure wanted r) ds (end_, t)) :
    Numbering (n + creationCount (exchanges ds) + 1) t := by
  have onward : Program.Trace ((Pass.sweeping (createMissing wanted) >>= fun tally => do
      modify (enrollLabel wanted)
      modify (addFailures tally.count)
      Pass.conclude tally : Step Unit) r) ds (end_, t) := trace_requireConnection connected trace
  obtain ⟨y, ds₁, ds₂, rfl, swept, rest⟩ := Pass.of_trace_sweeping onward
  -- the group is registered whatever was refused
  have created := (drawing_createMissing wanted).draws n _ ds₁ _ y swept held
  cases rest
  rw [List.append_nil]
  exact (numbering_enrollLabel wanted _ _ created).congr

/-- Global settings have no registry. -/
theorem numbering_of_global {wanted : NatGlobal} (held : Numbering n r)
    (trace : Program.Trace (reconcileGlobal wanted r) ds (end_, t)) : Numbering n t := by
  cases connected : r.connected with
  | false =>
    obtain ⟨-, rfl⟩ := of_trace_disconnected connected trace
    exact held
  | true =>
    have onward : Program.Trace (settleGlobal wanted r) ds (end_, t) :=
      trace_requireConnection connected trace
    have kept : (settleGlobal wanted).Obeys (.drawing fun _ => Numbering n) := by
      refine (Pass.obeys_dump fun _ _ _ held => held).bind fun actual => ?_
      split
      · exact Pass.drawing_modify fun _ _ held => held.congr
      · refine Pass.obeys_sweeping (Sweep.obeys_forM fun change => ?_) fun tally => ?_
        · refine Sweep.obeys_tolerate ((Pass.obeys_change fun _ _ _ _ _ held => held).bind ?_)
          exact fun _ => Pass.drawing_modify fun _ _ held => held.congr
        · refine Pass.Concludes.modify ?_ fun _ _ held => held.congr
          split
          · exact Pass.concludes.modify fun _ _ held => held.congr
          · exact Pass.concludes
    exact kept r ds end_ t onward 0 held

end NatReconciler

end DataplaneSync
