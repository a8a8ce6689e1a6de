import DataplaneSync.Proofs.DetectionJobs

namespace DataplaneSync

/-!
# Sessions and keys on the simulated dataplane

The simulated dataplane keeps sessions and keys in lists, and finds them by what identifies them.
While it refuses nothing, what a pass makes of such a list follows from the list and the wanted
objects, and so do its calls.

* `BfdObjects.Stock` — where the dataplane keeps the objects, and what it does to them.
* `Stock.settled` — the objects once the jobs are done; `Stock.filter_settled` takes it apart by
  what identifies them.
* `Stock.reached` — the objects after a pass; `Stock.agenda_reached` says that another one then has
  nothing to do, if nothing was there or wanted twice.
* `Stock.exists_run` — a pass comes to its end and reaches that.
-/

/-! ### Lists with keys -/

section Keyed

variable {α κ : Type} [DecidableEq κ] {key : α → κ} {xs : List α} {x w : α} {c : κ}

/-- An element that takes the place of one with the same key leaves the keys as they are. -/
theorem map_replaceFirst (same : key w = c) :
    (replaceFirst (key · == c) w xs).map key = xs.map key := by
  induction xs with
  | nil => rfl
  | cons x xs ih =>
    unfold replaceFirst
    by_cases here : key x = c
    · rw [if_pos (beq_iff_eq.mpr here), List.map_cons, List.map_cons, same, here]
    · rw [if_neg (by simpa using here), List.map_cons, List.map_cons, ih]

/-- It is seen only among the elements with such keys. -/
theorem filter_replaceFirst (same : key w = c) (p : κ → Bool) :
    (replaceFirst (key · == c) w xs).filter (fun x => p (key x)) =
      if p c then replaceFirst (key · == c) w (xs.filter fun x => p (key x))
      else xs.filter fun x => p (key x) := by
  induction xs with
  | nil => simp [replaceFirst]
  | cons x xs ih =>
    rw [replaceFirst]
    by_cases here : key x = c
    · rw [if_pos (beq_iff_eq.mpr here), List.filter_cons, List.filter_cons, same, here]
      by_cases chosen : p c = true
      · simp [chosen, replaceFirst, here]
      · simp [chosen]
    · rw [if_neg (by simpa using here), List.filter_cons, List.filter_cons, ih]
      by_cases chosen : p c = true
      · by_cases own : p (key x) = true
        · simp [chosen, own, replaceFirst, here]
        · simp [chosen, own]
      · simp [chosen]

/-- To take the first element of a key away takes the key away once. -/
theorem map_eraseP_key (xs : List α) (c : κ) :
    (xs.eraseP (key · == c)).map key = (xs.map key).erase c := by
  rw [List.erase_eq_eraseP', List.eraseP_map]
  rfl

/-- It is not missed among the elements with other keys. -/
theorem filter_eraseP_key {p : κ → Bool} (other : p c = false) :
    (xs.eraseP (key · == c)).filter (fun x => p (key x)) = xs.filter fun x => p (key x) := by
  induction xs with
  | nil => rfl
  | cons x xs ih =>
    by_cases here : key x = c
    · simp [here, other]
    · simp only [List.eraseP_cons, beq_eq_false_iff_ne.mpr here, List.filter_cons, ih,
        cond_false]

/-- If no key occurs twice, an element is the only one with its key. -/
theorem filter_key_eq_singleton (distinct : (xs.map key).Nodup) (member : x ∈ xs) :
    xs.filter (fun y => key y == key x) = [x] := by
  induction xs with
  | nil => exact absurd member List.not_mem_nil
  | cons y ys ih =>
    obtain ⟨fresh, distinct'⟩ := List.nodup_cons.mp distinct
    rcases List.mem_cons.mp member with rfl | later
    · have none_ : ys.filter (fun y => key y == key x) = [] :=
        List.filter_eq_nil_iff.mpr fun z there same =>
          fresh (List.mem_map.mpr ⟨z, there, beq_iff_eq.mp same⟩)
      rw [List.filter_cons, beq_self_eq_true, if_pos rfl, none_]
    · have other : key y ≠ key x :=
        fun same => fresh (List.mem_map.mpr ⟨x, later, same.symm⟩)
      rw [List.filter_cons, beq_eq_false_iff_ne.mpr other, if_neg Bool.false_ne_true,
        ih distinct' later]

end Keyed

namespace BfdObjects

open BfdReconciler

variable {α κ : Type} [DecidableEq κ] {o : BfdObjects α}
variable {dumping : BfdCall} {dumped : List α → Answer (.bfd dumping)}

/-- Whether an object has the name of a wanted one. -/
def claimed (o : BfdObjects α) (wanted : List α) (x : α) : Bool :=
  wanted.any fun w => o.registryName w == o.registryName x

/-- The object that a job creates, if it creates one. -/
def Job.created? : Job α → Option α
  | keep _ _ => none
  | create w => some w

/-- Where the simulated dataplane keeps objects, and how it finds them: by a key, from which their
names follow. -/
structure Stock (o : BfdObjects α) (κ : Type) [DecidableEq κ] (dumping : BfdCall)
    (dumped : List α → Answer (.bfd dumping)) where
  key : α → κ
  /-- The name of the objects with a key. -/
  nameOf : κ → String
  items : Detection → List α
  store : List α → Detection → Detection
  items_store : ∀ xs d, items (store xs d) = xs
  registryName : ∀ x, o.registryName x = nameOf (key x)
  counterpart : ∀ w a, o.counterpart w a = (key a == key w)
  differs_self : ∀ x, o.differs x x = false
  /-- A dump shows the objects and leaves the dataplane as it is. -/
  dump : ∀ {f : List α → BfdReconciler.Step Unit} {r : BfdReconciler} {s : Simulation},
    s.failing = [] → Trial.run ((o.dump >>= f) r) { simulation := s } =
      Trial.run (f (items s.detection) r)
        { simulation := s, deeds := [.called (.bfd dumping) (dumped (items s.detection))] }
  create : ∀ x d, ∃ reply, (o.create x).perform d = (.ok reply, store (items d ++ [x]) d)
  change : ∀ a w d, key a ∈ (items d).map key → ∃ reply, (o.change a w).perform d =
    (.ok reply, store (replaceFirst (key · == key a) w (items d)) d)
  delete : ∀ a d, key a ∈ (items d).map key → ∃ reply, (o.delete a).perform d =
    (.ok reply, store ((items d).eraseP (key · == key a)) d)

namespace Stock

variable (k : o.Stock κ dumping dumped)

/-! ### The objects once the jobs are done -/

/-- The objects after a job. -/
def after (xs : List α) : Job α → List α
  | .keep w a => if o.differs w a then replaceFirst (k.key · == k.key a) w xs else xs
  | .create w => xs ++ [w]

/-- The objects after all jobs. -/
def settled (actual wanted : List α) : List α := (o.jobs actual wanted).foldl k.after actual

/-- A job that fits keeps only an object that is its own. -/
def Fits (j : Job α) : Prop := ∀ w a, j = .keep w a → k.key w = k.key a

variable {k} {actual wanted : List α} {js : List (Job α)} {j : Job α} {w a : α}

theorem fits_of_mem_jobs (member : j ∈ o.jobs actual wanted) : k.Fits j := by
  rintro w a rfl
  obtain ⟨-, -, same⟩ := keep_mem_jobs.mp member
  rw [k.counterpart, beq_iff_eq] at same
  exact same.symm

theorem map_after (fits : k.Fits j) (xs : List α) :
    (k.after xs j).map k.key = xs.map k.key ++ j.created?.toList.map k.key := by
  cases j with
  | create w => exact List.map_append
  | keep w a =>
    show (if _ then _ else xs).map k.key = _ ++ []
    rw [List.append_nil]
    split
    · exact map_replaceFirst (fits w a rfl)
    · rfl

/-- The keys are those that there were, and those that are created. -/
theorem map_foldl_after (fits : ∀ j ∈ js, k.Fits j) (xs : List α) :
    (js.foldl k.after xs).map k.key = xs.map k.key ++ (js.filterMap Job.created?).map k.key := by
  induction js generalizing xs with
  | nil => exact (List.append_nil _).symm
  | cons j js ih =>
    obtain ⟨first, later⟩ := List.forall_mem_cons.mp fits
    rw [List.foldl_cons, ih later, map_after first, List.append_assoc, List.filterMap_cons]
    cases j <;> rfl

/-- A job is seen only among the objects with such keys as its own. -/
theorem filter_after (fits : k.Fits j) (p : κ → Bool) (xs : List α) :
    (k.after xs j).filter (fun x => p (k.key x)) =
      if p (k.key j.wanted) then k.after (xs.filter fun x => p (k.key x)) j
      else xs.filter fun x => p (k.key x) := by
  by_cases chosen : p (k.key j.wanted) = true
  case pos =>
    rw [if_pos chosen]
    cases j with
    | create w =>
      have own : [w].filter (fun x => p (k.key x)) = [w] := List.filter_cons_of_pos chosen
      show (xs ++ [w]).filter _ = _ ++ [w]
      rw [List.filter_append, own]
    | keep w a =>
      have own := fits w a rfl
      have chosen : p (k.key a) = true := own ▸ chosen
      show (if _ then _ else xs).filter _ = if _ then _ else _
      split
      · rw [filter_replaceFirst own, if_pos chosen]
      · rfl
  case neg =>
    rw [if_neg chosen]
    cases j with
    | create w =>
      have other : [w].filter (fun x => p (k.key x)) = [] := List.filter_cons_of_neg chosen
      show (xs ++ [w]).filter _ = _
      rw [List.filter_append, other, List.append_nil]
    | keep w a =>
      have own := fits w a rfl
      have other : ¬p (k.key a) = true := own ▸ chosen
      show (if _ then _ else xs).filter _ = _
      split
      · rw [filter_replaceFirst own, if_neg other]
      · rfl

/-- Among the objects with certain keys only the jobs for such objects are seen. -/
theorem filter_foldl_after (fits : ∀ j ∈ js, k.Fits j) (p : κ → Bool) (xs : List α) :
    (js.foldl k.after xs).filter (fun x => p (k.key x)) =
      (js.filter fun j => p (k.key j.wanted)).foldl k.after (xs.filter fun x => p (k.key x)) := by
  induction js generalizing xs with
  | nil => rfl
  | cons j js ih =>
    obtain ⟨first, later⟩ := List.forall_mem_cons.mp fits
    rw [List.foldl_cons, ih later, filter_after first, List.filter_cons]
    split <;> rfl

/-- The jobs for some of the wanted objects are some of the jobs. -/
theorem filter_jobs (p : α → Bool) :
    (o.jobs actual wanted).filter (fun j => p j.wanted) = o.jobs actual (wanted.filter p) := by
  have own : ∀ w, ∀ j ∈ o.jobsFor actual w, j.wanted = w := by
    intro w j member
    have alone : j ∈ o.jobs actual [w] :=
      List.mem_flatMap.mpr ⟨w, List.mem_singleton_self w, member⟩
    exact List.mem_singleton.mp (wanted_of_mem_jobs alone)
  induction wanted with
  | nil => rfl
  | cons w ws ih =>
    rw [jobs, List.flatMap_cons, List.filter_append, List.filter_cons]
    by_cases chosen : p w = true
    · rw [if_pos chosen, List.filter_eq_self.mpr fun j member => own w j member ▸ chosen]
      exact congrArg _ ih
    · rw [if_neg chosen, List.filter_eq_nil_iff.mpr fun j member => own w j member ▸ chosen]
      exact ih

/-- What becomes of the objects with certain keys is a matter of the wanted ones with such keys. -/
theorem filter_settled (k : o.Stock κ dumping dumped) (actual wanted : List α) (p : κ → Bool) :
    (k.settled actual wanted).filter (fun x => p (k.key x)) =
      (o.jobs actual (wanted.filter fun w => p (k.key w))).foldl k.after
        (actual.filter fun x => p (k.key x)) := by
  rw [settled, filter_foldl_after fun j => fits_of_mem_jobs, ← filter_jobs]

/-- Objects with keys that nothing wanted has stay as they were. -/
theorem filter_settled_of_unwanted {p : κ → Bool} (unwanted : ∀ w ∈ wanted, p (k.key w) = false) :
    (k.settled actual wanted).filter (fun x => p (k.key x)) =
      actual.filter fun x => p (k.key x) := by
  have none_ : wanted.filter (fun w => p (k.key w)) = [] :=
    List.filter_eq_nil_iff.mpr fun w member => by rw [unwanted w member]; exact Bool.false_ne_true
  rw [k.filter_settled, none_]
  rfl

/-- If nothing is there twice and nothing is wanted twice, there is then one object for each wanted
one, from which it does not differ. -/
theorem exists_filter_settled (there : (actual.map k.key).Nodup) (wants : (wanted.map k.key).Nodup)
    (member : w ∈ wanted) : ∃ y, o.differs w y = false ∧
      (k.settled actual wanted).filter (fun x => k.key x == k.key w) = [y] := by
  have counterparts : actual.filter (o.counterpart w) =
      actual.filter fun a => k.key a == k.key w :=
    List.filter_congr fun a _ => k.counterpart w a
  -- only the jobs for `w` are seen, and there is only one
  rw [k.filter_settled actual wanted (· == k.key w), filter_key_eq_singleton wants member, jobs,
    List.flatMap_singleton, jobsFor, counterparts]
  by_cases found : ∃ a ∈ actual, k.key a = k.key w
  · obtain ⟨a, here, same⟩ := found
    rw [← same, filter_key_eq_singleton there here]
    by_cases differs : o.differs w a = true
    · exact ⟨w, k.differs_self w, by simp [after, differs, replaceFirst]⟩
    · exact ⟨a, Bool.eq_false_iff.mpr differs, by simp [after, differs]⟩
  · have none_ : actual.filter (fun a => k.key a == k.key w) = [] :=
      List.filter_eq_nil_iff.mpr fun a here same => found ⟨a, here, beq_iff_eq.mp same⟩
    exact ⟨w, k.differs_self w, by simp [none_, after]⟩

/-! ### The objects after a pass -/

variable (k) in
/-- The objects after a pass: those with the names of wanted ones. -/
def reached (actual wanted : List α) : List α :=
  (k.settled actual wanted).filter (o.claimed wanted)

/-- A wanted object has its own name. -/
theorem claimed_of_mem (member : w ∈ wanted) : o.claimed wanted w = true :=
  List.any_eq_true.mpr ⟨w, member, beq_self_eq_true _⟩

/-- Names follow from keys. -/
theorem claimed_congr (k : o.Stock κ dumping dumped) {x y : α} (same : k.key x = k.key y) :
    o.claimed wanted x = o.claimed wanted y := by
  unfold claimed
  rw [k.registryName x, k.registryName y, same]

/-- What a pass leaves of the objects with a key that is wanted is what its jobs leave. -/
theorem filter_reached (member : w ∈ wanted) :
    (k.reached actual wanted).filter (fun x => k.key x == k.key w) =
      (k.settled actual wanted).filter fun x => k.key x == k.key w := by
  rw [reached, List.filter_filter]
  refine List.filter_congr fun x _ => ?_
  by_cases same : k.key x = k.key w
  · rw [k.claimed_congr same, claimed_of_mem member, Bool.and_true]
  · rw [beq_eq_false_iff_ne.mpr same, Bool.false_and]

/-- Each wanted object finds one of its key. -/
theorem key_mem_reached (actual : List α) (member : w ∈ wanted) :
    k.key w ∈ (k.reached actual wanted).map k.key := by
  -- it was there before, or it has been created
  have there : k.key w ∈ (k.settled actual wanted).map k.key := by
    rw [settled, map_foldl_after fun j => fits_of_mem_jobs, List.mem_append]
    obtain ⟨j, todo, rfl⟩ := exists_job (o := o) actual member
    cases j with
    | create w => exact Or.inr (List.mem_map_of_mem (List.mem_filterMap.mpr ⟨_, todo, rfl⟩))
    | keep w a =>
      obtain ⟨-, here, -⟩ := keep_mem_jobs.mp todo
      exact Or.inl (List.mem_map.mpr ⟨a, here, (fits_of_mem_jobs todo w a rfl).symm⟩)
  obtain ⟨y, kept, same⟩ := List.mem_map.mp there
  refine List.mem_map.mpr ⟨y, List.mem_filter.mpr ⟨kept, ?_⟩, same⟩
  rw [k.claimed_congr same, claimed_of_mem member]

/-- If nothing is there twice and nothing is wanted twice, another pass has nothing to do. -/
theorem agenda_reached (there : (actual.map k.key).Nodup) (wants : (wanted.map k.key).Nodup) :
    o.agenda (k.reached actual wanted) wanted (o.claimed wanted) = [] := by
  -- each wanted object finds one of its key, from which it does not differ
  have settling : ∀ j ∈ o.jobs (k.reached actual wanted) wanted, o.call? j = none := by
    intro j todo
    have member := wanted_of_mem_jobs todo
    obtain ⟨y, alike, only⟩ := exists_filter_settled there wants member
    rw [← filter_reached member] at only
    have found : ∀ a, a ∈ k.reached actual wanted ∧ k.key a = k.key j.wanted ↔ a = y := by
      intro a
      have chosen : a ∈ [y] ↔ a = y := List.mem_singleton
      rwa [← only, List.mem_filter, beq_iff_eq] at chosen
    cases j with
    | create w =>
      obtain ⟨here, same⟩ := (found y).mpr rfl
      have counts := (create_mem_jobs.mp todo).2 y here
      rw [k.counterpart, beq_eq_false_iff_ne] at counts
      exact absurd same counts
    | keep w a =>
      obtain ⟨-, here, -⟩ := keep_mem_jobs.mp todo
      obtain rfl := (found a).mp ⟨here, (fits_of_mem_jobs todo w a rfl).symm⟩
      exact if_neg (Bool.eq_false_iff.mp alike)
  have cleaning : (k.reached actual wanted).filter (!o.claimed wanted ·) = [] := by
    refine List.filter_eq_nil_iff.mpr fun x left => ?_
    rw [(List.mem_filter.mp left).2]
    exact Bool.false_ne_true
  rw [agenda, List.filterMap_eq_nil_iff.mpr settling, cleaning]
  rfl

/-! ### Passes that nothing disturbs -/

variable {x x' : BfdReconciler × FailureTally BfdFailure} {d d' : Detection}
variable {done : List (Job α)} {ahead xs : List α}

omit [DecidableEq κ] in
/-- A change that can be carried out is, where no call fails. -/
theorem ensures_apply_carried {c : BfdCall} {kind : CallKind} {v : α}
    {after : BfdReconciler → BfdReconciler} {reply : c.Reply}
    {Q : Unit → BfdReconciler × FailureTally BfdFailure → Detection → Prop}
    (carried : c.perform d = (.ok reply, d'))
    (reached : Q () ({ after x.1 with stats := o.count kind (after x.1).stats }, x.2) d') :
    Sweep.Ensures (Detection.behaviour False (·.part = .detection)) (o.apply c kind v after) x d
      Q := by
  refine ensures_apply.mpr ⟨⟨rfl, rfl⟩, fun answer t given => ?_⟩
  rcases Effect.Gives.of_carried given carried with ⟨rfl, rfl⟩ | ⟨never, -⟩
  · exact reached
  · exact never.elim

/-- How things stand while a pass does its jobs: nothing has failed, the objects are what the jobs
made of them, and all their names are registered. -/
structure Settling (k : o.Stock κ dumping dumped) (actual : List α) (done : List (Job α))
    (x : BfdReconciler × FailureTally BfdFailure) (d : Detection) : Prop where
  well : x.2.last? = none
  fits : ∀ j ∈ done, k.Fits j
  items : k.items d = done.foldl k.after actual
  enrolled : ∀ j ∈ done, (o.registry x.1).contains (o.registryName j.wanted) = true

/-- One more job is done. -/
theorem Settling.next (h : o.Regular dumping dumped) (before : Settling k actual done x d)
    (fits : k.Fits j) (well : x'.2 = x.2)
    (registry : o.registry x'.1 = o.registry (o.enroll j.wanted x.1))
    (items : k.items d' = k.after (k.items d) j) : Settling k actual (done ++ [j]) x' d' where
  well := well ▸ before.well
  fits i member := by
    rcases List.mem_append.mp member with earlier | last
    · exact before.fits i earlier
    · exact List.mem_singleton.mp last ▸ fits
  items := by
    rw [items, before.items, List.foldl_append]
    rfl
  enrolled i member := by
    rw [registry, h.contains_enroll, Bool.or_eq_true, decide_eq_true_eq]
    rcases List.mem_append.mp member with earlier | last
    · exact Or.inr (before.enrolled i earlier)
    · exact Or.inl (by rw [List.mem_singleton.mp last])

/-- Each job can be done, since what is dumped is still there under its key. -/
theorem Settling.ensures_work (h : o.Regular dumping dumped) (before : Settling k actual done x d)
    (todo : j ∈ o.jobs actual wanted) :
    Sweep.Ensures (Detection.behaviour False (·.part = .detection)) (o.work j) x d
      fun _ x' d' => Settling k actual (done ++ [j]) x' d' := by
  have fits := k.fits_of_mem_jobs todo
  cases j with
  | create w =>
    obtain ⟨reply, carried⟩ := k.create w d
    refine ensures_apply_carried carried (before.next h fits rfl (h.registry_stats ..) ?_)
    exact k.items_store _ _
  | keep w a =>
    unfold work keep
    rw [Sweep.ensures_bind, Sweep.ensures_update]
    by_cases differs : o.differs w a = true
    · rw [if_pos differs]
      have there : k.key a ∈ (k.items d).map k.key := by
        rw [before.items, map_foldl_after before.fits]
        exact List.mem_append_left _ (List.mem_map_of_mem (keep_mem_jobs.mp todo).2.1)
      obtain ⟨reply, carried⟩ := k.change a w d there
      refine ensures_apply_carried carried (before.next h fits rfl (h.registry_stats ..) ?_)
      rw [k.items_store, after, if_pos differs]
    · rw [if_neg differs]
      refine before.next h fits rfl rfl ?_
      rw [after, if_neg differs]

/-- How things stand while a pass removes what nothing registered: such objects are those that are
still ahead, and all others are as the jobs left them. -/
structure Clearing (k : o.Stock κ dumping dumped) (settled ahead : List α)
    (x : BfdReconciler × FailureTally BfdFailure) (d : Detection) : Prop where
  well : x.2.last? = none
  strays : (((k.items d).map k.key).filter fun c => !(o.registry x.1).contains (k.nameOf c)).Perm
    ((ahead.map k.key).filter fun c => !(o.registry x.1).contains (k.nameOf c))
  others : ((k.items d).filter fun y => (o.registry x.1).contains (k.nameOf (k.key y))) =
    settled.filter fun y => (o.registry x.1).contains (k.nameOf (k.key y))

/-- When the jobs are done, only dumped objects can lack a registered name. -/
theorem Settling.clearing (h : Settling k actual (o.jobs actual wanted) x d) :
    Clearing k (k.settled actual wanted) actual x d where
  well := h.well
  strays := by
    have created : (((o.jobs actual wanted).filterMap Job.created?).map k.key).filter
        (fun c => !(o.registry x.1).contains (k.nameOf c)) = [] := by
      refine List.filter_eq_nil_iff.mpr fun c member => ?_
      obtain ⟨w, new, rfl⟩ := List.mem_map.mp member
      obtain ⟨j, todo, own⟩ := List.mem_filterMap.mp new
      cases j with
      | keep _ _ => exact nomatch own
      | create v =>
        obtain rfl : v = w := Option.some.inj own
        have known : (o.registry x.1).contains (o.registryName v) = true := h.enrolled _ todo
        rw [k.registryName] at known
        rw [known]
        exact Bool.false_ne_true
    rw [h.items, map_foldl_after h.fits, List.filter_append, created, List.append_nil]
  others := by
    rw [h.items]
    rfl

/-- An object with a registered name stays. -/
theorem Clearing.keep (h : Clearing k xs (a :: ahead) x d)
    (known : (o.registry x.1).contains (k.nameOf (k.key a)) = true) :
    Clearing k xs ahead x d where
  well := h.well
  strays := by
    have strays := h.strays
    rwa [List.map_cons, List.filter_cons_of_neg (by rw [known]; exact Bool.false_ne_true)]
      at strays
  others := h.others

/-- An object without one is there under its key, and goes. -/
theorem Clearing.drop (h : Clearing k xs (a :: ahead) x d)
    (unknown : (o.registry x.1).contains (k.nameOf (k.key a)) = false) (well : x'.2 = x.2)
    (registry : o.registry x'.1 = o.registry x.1)
    (items : k.items d' = (k.items d).eraseP (k.key · == k.key a)) :
    Clearing k xs ahead x' d' where
  well := well ▸ h.well
  strays := by
    -- the key of `a` is taken away once on either side
    have strays := h.strays.erase (k.key a)
    rw [List.map_cons, List.filter_cons_of_pos (by rw [unknown]; rfl), List.erase_cons_head,
      List.erase_filter] at strays
    rwa [registry, items, map_eraseP_key]
  others := by
    rw [registry, items, filter_eraseP_key (p := fun c => (o.registry x.1).contains (k.nameOf c))
      unknown]
    exact h.others

/-- Each removal can be made. -/
theorem Clearing.ensures_clean (h : o.Regular dumping dumped)
    (before : Clearing k xs (a :: ahead) x d) :
    Sweep.Ensures (Detection.behaviour False (·.part = .detection)) (o.clean a) x d
      fun _ x' d' => Clearing k xs ahead x' d' := by
  unfold clean
  rw [Sweep.ensures_bind, Sweep.ensures_state, k.registryName]
  by_cases known : (o.registry x.1).contains (k.nameOf (k.key a)) = true
  · rw [if_pos known, Sweep.ensures_pure]
    exact before.keep known
  · have unknown := Bool.eq_false_iff.mpr known
    -- it is still ahead, so the dataplane has one of its key
    have there : k.key a ∈ (k.items d).map k.key := by
      refine (List.mem_filter.mp (before.strays.mem_iff.mpr (List.mem_filter.mpr ?_))).1
      exact ⟨List.mem_cons_self, by rw [unknown]; rfl⟩
    obtain ⟨reply, carried⟩ := k.delete a d there
    rw [if_neg known]
    refine ensures_apply_carried carried (before.drop unknown rfl (h.registry_stats ..) ?_)
    exact k.items_store _ _

/-- Once nothing is ahead, all objects that are left have registered names. -/
theorem Clearing.items (h : Clearing k xs [] x d) :
    k.items d = xs.filter fun y => (o.registry x.1).contains (o.registryName y) := by
  have all : ∀ y ∈ k.items d, (o.registry x.1).contains (k.nameOf (k.key y)) = true := by
    intro y member
    have none_ := List.filter_eq_nil_iff.mp h.strays.eq_nil (k.key y) (List.mem_map_of_mem member)
    simpa using none_
  have left := h.others
  rw [List.filter_eq_self.mpr all] at left
  rw [left]
  exact List.filter_congr fun y _ => by rw [k.registryName]

/-- Where no call fails, a pass comes to its end, and leaves the objects whose names it has
registered. -/
theorem ensures_settleDumped (k : o.Stock κ dumping dumped) (h : o.Regular dumping dumped)
    (wanted : List α) (r : BfdReconciler) (d : Detection) :
    Pass.Ensures (Detection.behaviour False (·.part = .detection))
      (o.settleDumped wanted (k.items d)) r d
      (fun _ t d' => k.items d' = (k.settled (k.items d) wanted).filter
        fun y => (o.registry t).contains (o.registryName y))
      fun _ _ _ => False := by
  refine BfdObjects.ensures_settleDumped (fun done x d' => Settling k (k.items d) done x d')
    (fun _ ahead x d' => Clearing k (k.settled (k.items d) wanted) ahead x d')
    ⟨rfl, nofun, rfl, nofun⟩ (fun done j x d' todo before => before.ensures_work h todo)
    (fun x d' done => done.clearing) (fun _ a ahead x d' before => before.ensures_clean h) ?_ ?_
  · intro x d' stats cleared _
    rw [h.registry_stats]
    exact cleared.items
  · intro x d' stats e cleared last
    exact nomatch cleared.well.symm.trans last

/-- How things are after a pass that nothing disturbed. -/
structure Completed (k : o.Stock κ dumping dumped) (actual wanted : List α) (r : BfdReconciler)
    (t : Trial) : Prop where
  items : k.items t.simulation.detection = k.reached actual wanted
  calls : t.calls = .bfd dumping :: (o.agenda actual wanted (o.claimed wanted)).map Call.bfd
  registered : ∀ name, (o.registry r).contains name = true ↔
    ∃ w ∈ wanted, o.registryName w = name
  calm : t.simulation.failing = []
  connected : r.connected = true

omit [DecidableEq κ] in
/-- With a dataplane a pass reads the objects, with nothing registered yet. -/
theorem reconcile_eq (o : BfdObjects α) (wanted : List α) {r : BfdReconciler}
    (connected : r.connected = true) : o.reconcile wanted r =
      (o.dump >>= o.settleDumped wanted) { o.setRegistry ∅ r with counter := {} } := by
  obtain ⟨_, _, _, _, _, _⟩ := r
  obtain rfl := connected
  rfl

/-- Where no call fails, a pass comes to its end. -/
theorem exists_run (k : o.Stock κ dumping dumped) (h : o.Regular dumping dumped) {stage : Stage}
    (told : o.Told stage) (wanted : List α) {r : BfdReconciler} {s : Simulation}
    (connected : r.connected = true) (calm : s.failing = []) :
    ∃ r' u, Trial.run (o.reconcile wanted r) { simulation := s } = some ((.ok (), r'), u) ∧
      k.Completed (k.items s.detection) wanted r' u := by
  have fresh : o.registry { o.setRegistry ∅ r with counter := {} } = ∅ := by
    rw [h.registry_counter, h.registry_setRegistry]
  obtain ⟨⟨⟩, r', u, result, items, calm'⟩ := Trial.exists_run_of_detection
    (t := { simulation := s, deeds := [.called (.bfd dumping) (dumped (k.items s.detection))] })
    (k.ensures_settleDumped h wanted { o.setRegistry ∅ r with counter := {} } s.detection) calm rfl
  have whole : Trial.run (o.reconcile wanted r) { simulation := s } = some ((.ok (), r'), u) := by
    rw [reconcile_eq o wanted connected, k.dump calm]
    exact result
  obtain ⟨ds, deeds, trace⟩ := Trial.trace_of_run result
  have course := h.course_of_settleDumped fresh trace
  -- a pass that ended well was refused nothing, so that all wanted names are registered
  have unrefused := calm_of_lastDetectionFailure? course.calls course.failure.symm
  have registered : ∀ name, (o.registry r').contains name = true ↔
      ∃ w ∈ wanted, o.registryName w = name := by
    refine fun name => ⟨course.sound name, ?_⟩
    rintro ⟨w, member, rfl⟩
    exact course.calm unrefused w member
  have known : (fun a => (o.registry r').contains (o.registryName a)) = o.claimed wanted := by
    funext a
    rw [Bool.eq_iff_iff, registered, claimed, List.any_eq_true]
    simp only [beq_iff_eq]
  refine ⟨r', u, whole, ?_, ?_, registered, calm', ?_⟩
  · rw [items, known]
    rfl
  · rw [Trial.calls_append deeds, course.calls, known]
    rfl
  · obtain ⟨_, _, trace'⟩ := Trial.trace_of_run whole
    exact (told.trace_reconcile connected trace').2.2.trans connected

end Stock

end BfdObjects

end DataplaneSync
