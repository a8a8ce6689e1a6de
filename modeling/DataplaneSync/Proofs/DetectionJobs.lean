import DataplaneSync.Proofs.TaskParts

namespace DataplaneSync

/-!
# The calls of a pass over sessions or keys

After its dump a pass works through the wanted objects and then removes what nothing registered.
The calls for the wanted objects follow from the dump.  What they are answered decides which names
get registered, and so has a say in the removals only.

* `BfdObjects.Job` — a wanted object with one of its counterparts, or a wanted object without any.
* `BfdObjects.forM_settle` — to deal with the wanted objects is a loop over their jobs.
* `BfdObjects.agenda` — the calls of a pass, given which objects count as known.
* `BfdObjects.ensures_settleDumped` — a pass is its two loops, each with an invariant.
* `BfdObjects.Course` — which calls a pass made, what it registered, and how it ended.
* `BfdObjects.course_of_trace` — so does every pass, whatever it is answered.
-/

/-! ### Failures -/

/-- The failure of an exchange about forwarding detection, if the call was refused. -/
def Exchange.detectionFailure? (x : Exchange) : Option BfdFailure :=
  match x.call with
  | .bfd c => x.refusal?.map c.failure
  | _ => none

/-- The failure of the last refused call. -/
def lastDetectionFailure? (xs : List Exchange) : Option BfdFailure :=
  (xs.filterMap Exchange.detectionFailure?).getLast?

theorem lastDetectionFailure?_append (xs ys : List Exchange) :
    lastDetectionFailure? (xs ++ ys) =
      (lastDetectionFailure? ys).or (lastDetectionFailure? xs) := by
  simp [lastDetectionFailure?]

/-- If nothing failed, no call about forwarding detection was refused. -/
theorem calm_of_lastDetectionFailure? {xs : List Exchange} {cs : List BfdCall}
    (calls : xs.map Exchange.call = cs.map Call.bfd) (well : lastDetectionFailure? xs = none) :
    ∀ x ∈ xs, x.refusal? = none := by
  intro x member
  have silent := List.filterMap_eq_nil_iff.mp (List.getLast?_eq_none_iff.mp well) x member
  obtain ⟨c, -, same⟩ := List.mem_map.mp (calls ▸ List.mem_map_of_mem member)
  obtain ⟨call, answer⟩ := x
  obtain rfl : Call.bfd c = call := same
  exact Option.map_eq_none_iff.mp silent

namespace BfdObjects

open BfdReconciler

variable {α σ : Type} (o : BfdObjects α)

/-! ### Jobs -/

/-- Something to do for a wanted object. -/
inductive Job (α : Type) where
  /-- It has a counterpart, which is kept. -/
  | keep (wanted actual : α)
  /-- It has none, so it is created. -/
  | create (wanted : α)

/-- The wanted object of a job. -/
def Job.wanted : Job α → α
  | keep wanted _ => wanted
  | create wanted => wanted

/-- Do a job. -/
def work : Job α → Step Unit
  | .keep wanted actual => o.keep wanted actual
  | .create wanted => o.apply (o.create wanted) .create wanted (o.enroll wanted)

/-- The jobs for a wanted object. -/
def jobsFor (actual : List α) (wanted : α) : List (Job α) :=
  let counterparts := actual.filter (o.counterpart wanted)
  if counterparts.isEmpty then [.create wanted] else counterparts.map (.keep wanted)

/-- The jobs for all wanted objects. -/
def jobs (actual wanted : List α) : List (Job α) := wanted.flatMap (o.jobsFor actual)

/-- The call that a job takes, if it takes one. -/
def call? : Job α → Option BfdCall
  | .keep wanted actual => if o.differs wanted actual then some (o.change actual wanted) else none
  | .create wanted => some (o.create wanted)

/-- The calls of a pass that removes what is not known. -/
def agenda (actual wanted : List α) (known : α → Bool) : List BfdCall :=
  (o.jobs actual wanted).filterMap o.call? ++ (actual.filter (!known ·)).map o.delete

variable {o} {actual wanted : List α} {w a : α} {j : Job α}

/-- The job for a wanted object without counterpart is its creation. -/
theorem jobsFor_of_lonely (lonely : ∀ a ∈ actual, o.counterpart w a = false) :
    o.jobsFor actual w = [.create w] := by
  have none_ : actual.filter (o.counterpart w) = [] :=
    List.filter_eq_nil_iff.mpr fun a there => by rw [lonely a there]; exact Bool.false_ne_true
  rw [jobsFor, none_]
  rfl

/-- The jobs for a wanted object with counterparts are to keep them. -/
theorem jobsFor_of_found (there : a ∈ actual) (same : o.counterpart w a = true) :
    o.jobsFor actual w = (actual.filter (o.counterpart w)).map (.keep w) := by
  have some_ : (actual.filter (o.counterpart w)).isEmpty = false :=
    List.isEmpty_eq_false_iff_exists_mem.mpr ⟨a, List.mem_filter.mpr ⟨there, same⟩⟩
  unfold jobsFor
  dsimp only
  rw [some_, if_neg Bool.false_ne_true]

theorem mem_jobsFor : j ∈ o.jobsFor actual w ↔
    j = .create w ∧ (∀ a ∈ actual, o.counterpart w a = false) ∨
      ∃ a ∈ actual, o.counterpart w a = true ∧ j = .keep w a := by
  by_cases found : ∃ a ∈ actual, o.counterpart w a = true
  case pos =>
    obtain ⟨a, there, same⟩ := found
    rw [jobsFor_of_found there same, List.mem_map]
    constructor
    · rintro ⟨b, chosen, rfl⟩
      obtain ⟨here, own⟩ := List.mem_filter.mp chosen
      exact Or.inr ⟨b, here, own, rfl⟩
    · rintro (⟨-, lonely⟩ | ⟨b, here, own, rfl⟩)
      · exact absurd (lonely a there) (by rw [same]; exact nofun)
      · exact ⟨b, List.mem_filter.mpr ⟨here, own⟩, rfl⟩
  case neg =>
    have lonely : ∀ a ∈ actual, o.counterpart w a = false :=
      fun a there => Bool.eq_false_iff.mpr fun same => found ⟨a, there, same⟩
    rw [jobsFor_of_lonely lonely, List.mem_singleton]
    constructor
    · exact fun only => Or.inl ⟨only, lonely⟩
    · rintro (⟨only, -⟩ | ⟨a, there, same, -⟩)
      · exact only
      · exact absurd ⟨a, there, same⟩ found

/-- A wanted object is kept if it has a counterpart. -/
theorem keep_mem_jobs : .keep w a ∈ o.jobs actual wanted ↔
    w ∈ wanted ∧ a ∈ actual ∧ o.counterpart w a = true := by
  simp only [jobs, List.mem_flatMap, mem_jobsFor, reduceCtorEq, false_and, false_or,
    Job.keep.injEq]
  constructor
  · rintro ⟨_, member, _, there, same, rfl, rfl⟩
    exact ⟨member, there, same⟩
  · rintro ⟨member, there, same⟩
    exact ⟨w, member, a, there, same, rfl, rfl⟩

/-- A wanted object is created if it has none. -/
theorem create_mem_jobs : .create w ∈ o.jobs actual wanted ↔
    w ∈ wanted ∧ ∀ a ∈ actual, o.counterpart w a = false := by
  simp only [jobs, List.mem_flatMap, mem_jobsFor, reduceCtorEq, and_false, exists_false, or_false,
    Job.create.injEq]
  constructor
  · rintro ⟨_, member, rfl, lonely⟩
    exact ⟨member, lonely⟩
  · rintro ⟨member, lonely⟩
    exact ⟨w, member, rfl, lonely⟩

/-- A job is for an object that is wanted. -/
theorem wanted_of_mem_jobs (member : j ∈ o.jobs actual wanted) : j.wanted ∈ wanted := by
  cases j with
  | keep w a => exact (keep_mem_jobs.mp member).1
  | create w => exact (create_mem_jobs.mp member).1

/-- Each wanted object has a job. -/
theorem exists_job (actual : List α) (wants : w ∈ wanted) :
    ∃ j ∈ o.jobs actual wanted, j.wanted = w := by
  by_cases found : ∃ a ∈ actual, o.counterpart w a = true
  · obtain ⟨a, there, same⟩ := found
    exact ⟨.keep w a, keep_mem_jobs.mpr ⟨wants, there, same⟩, rfl⟩
  · refine ⟨.create w, create_mem_jobs.mpr ⟨wants, fun a there => ?_⟩, rfl⟩
    exact Bool.eq_false_iff.mpr fun same => found ⟨a, there, same⟩

/-- The calls for the wanted objects: a modification for each counterpart that differs, and a
creation where there is no counterpart. -/
theorem filterMap_call_jobs (o : BfdObjects α) (actual wanted : List α) :
    (o.jobs actual wanted).filterMap o.call? = wanted.flatMap fun w =>
      if actual.any (o.counterpart w) then
        (actual.filter fun a => o.counterpart w a && o.differs w a).map (o.change · w)
      else [o.create w] := by
  have kept : ∀ w, (actual.filter (o.counterpart w)).filterMap (fun a => o.call? (.keep w a)) =
      (actual.filter fun a => o.counterpart w a && o.differs w a).map (o.change · w) := by
    intro w
    rw [← List.filterMap_eq_map, List.filterMap_filter, List.filterMap_filter]
    refine congrArg (List.filterMap · actual) (funext fun a => ?_)
    cases o.counterpart w a <;> cases differs : o.differs w a <;> simp [call?, differs]
  rw [jobs, List.filterMap_flatMap]
  refine congrArg (List.flatMap · wanted) (funext fun w => ?_)
  by_cases found : actual.any (o.counterpart w) = true
  · obtain ⟨a, there, same⟩ := List.any_eq_true.mp found
    rw [if_pos found, jobsFor_of_found there same, List.filterMap_map, ← kept]
    rfl
  · rw [if_neg found, jobsFor_of_lonely]
    · rfl
    · simpa using found

/-- What can be told from the calls of a pass, for each wanted object and then for each object that
is removed. -/
theorem filterMap_agenda {β : Type} (o : BfdObjects α) (actual wanted : List α) (known : α → Bool)
    (f : Call → Option β) :
    ((o.agenda actual wanted known).map Call.bfd).filterMap f =
      (wanted.flatMap fun w =>
        (if actual.any (o.counterpart w) then
          (actual.filter fun a => o.counterpart w a && o.differs w a).map (o.change · w)
        else [o.create w]).filterMap fun c => f (.bfd c)) ++
      (actual.filter (!known ·)).filterMap fun a => f (.bfd (o.delete a)) := by
  rw [agenda, List.filterMap_map, List.filterMap_append, filterMap_call_jobs,
    List.filterMap_flatMap, List.filterMap_map]
  rfl

/-- To deal with the wanted objects is to do their jobs. -/
theorem forM_settle (o : BfdObjects α) (actual wanted : List α) :
    wanted.forM (o.settle actual) = (o.jobs actual wanted).forM o.work := by
  have own : ∀ w, o.settle actual w = (o.jobsFor actual w).forM o.work := by
    intro w
    unfold settle jobsFor
    dsimp only
    split
    · simp only [List.forM_eq_forM, List.forM_cons, List.forM_nil, work]
      exact (bind_pure _).symm
    · simp only [List.forM_eq_forM, List.forM_map]
      rfl
  induction wanted with
  | nil => rfl
  | cons w ws ih =>
    simp only [jobs, List.forM_eq_forM, List.flatMap_cons, List.forM_cons, List.forM_append]
      at own ih ⊢
    rw [own, ih]

/-! ### The loops of a pass -/

/-- What is left of a pass once the objects have been dumped. -/
def settleDumped (o : BfdObjects α) (wanted actual : List α) : BfdReconciler.Step Unit := do
  let tally ← Pass.sweeping do
    wanted.forM (o.settle actual)
    actual.forM o.clean
  finish tally

variable {b : Behaviour σ} {s : σ}

/-- A change is made and counted, or its refusal is tallied. -/
theorem ensures_apply {c : BfdCall} {kind : CallKind} {v : α}
    {after : BfdReconciler → BfdReconciler} {x : BfdReconciler × FailureTally BfdFailure}
    {Q : Unit → BfdReconciler × FailureTally BfdFailure → σ → Prop} :
    Sweep.Ensures b (o.apply c kind v after) x s Q ↔
      b.expects s (.bfd c) ∧ ∀ answer t, b.answers s (.bfd c) answer t →
        match answer with
        | .ok _ => Q () ({ after x.1 with stats := o.count kind (after x.1).stats }, x.2) t
        | .error reason => Q () (x.1, x.2.record (o.failure kind v reason)) t := by
  unfold apply
  rw [Sweep.ensures_tolerate, Pass.ensures_bind, Pass.ensures_change]
  refine and_congr_right fun _ => forall_congr' fun answer => forall_congr' fun t => ?_
  cases answer <;> exact Iff.rfl

/-- A pass comes to its end through two loops: over the jobs and over the dump.  Each keeps an
invariant about what it has dealt with; the second one also about what is still ahead of it. -/
theorem ensures_settleDumped {r : BfdReconciler} {Q : Unit → BfdReconciler → σ → Prop}
    {E : BfdFailure → BfdReconciler → σ → Prop}
    (I : List (Job α) → BfdReconciler × FailureTally BfdFailure → σ → Prop)
    (J : List α → List α → BfdReconciler × FailureTally BfdFailure → σ → Prop)
    (start : I [] (r, ∅) s)
    (work : ∀ done j x t, j ∈ o.jobs actual wanted → I done x t →
      Sweep.Ensures b (o.work j) x t fun _ x' t' => I (done ++ [j]) x' t')
    (between : ∀ x t, I (o.jobs actual wanted) x t → J [] actual x t)
    (clean : ∀ done a ahead x t, J done (a :: ahead) x t →
      Sweep.Ensures b (o.clean a) x t fun _ x' t' => J (done ++ [a]) ahead x' t')
    (finish : ∀ x t stats, J actual [] x t → x.2.last? = none →
      Q () { x.1 with stats := stats } t)
    (failed : ∀ x t stats e, J actual [] x t → x.2.last? = some e →
      E e { x.1 with stats := stats } t) :
    Pass.Ensures b (o.settleDumped wanted actual) r s Q E := by
  unfold settleDumped
  rw [Pass.ensures_bind, Pass.ensures_sweeping, Sweep.ensures_bind, forM_settle]
  refine (Sweep.ensures_forM_done (fun done _ x t => I done x t) start
    fun done j ahead x t parts h => ?_).mono fun _ x t h => ?_
  · exact work done j x t (parts ▸ List.mem_append_right done List.mem_cons_self) h
  refine (Sweep.ensures_forM_done J (between x t h) fun done a ahead x t _ h =>
    clean done a ahead x t h).mono fun _ x t h => ?_
  show Pass.Ensures b (modify _ >>= fun _ => Pass.conclude x.2) _ _ _ _
  rw [Pass.ensures_bind, Pass.ensures_modify, Pass.ensures_conclude]
  split
  · next e last => exact failed x t _ e h last
  · next clean => exact finish x t _ h clean

/-! ### The course of a pass -/

/-- What the passes over sessions and over keys have in common: how they read, where they keep what
they know, and how they fail. -/
structure Regular (o : BfdObjects α) (dumping : BfdCall)
    (dumped : List α → Answer (.bfd dumping)) : Prop where
  /-- The dump is one call, and its refusal ends the pass. -/
  dump : ∀ {f : List α → BfdReconciler.Step Unit} {r u : BfdReconciler} {ds : List Deed}
    {end_ : Except BfdFailure Unit}, Program.Trace ((o.dump >>= f) r) ds (end_, u) →
    (∃ reason, ds = [.called (.bfd dumping) (.error reason)] ∧
      end_ = .error (dumping.failure reason) ∧ u = r) ∨
    ∃ actual ds', ds = .called (.bfd dumping) (dumped actual) :: ds' ∧
      Program.Trace (f actual r) ds' (end_, u)
  /-- The registry is a place of its own. -/
  registry_setRegistry : ∀ registry r, o.registry (o.setRegistry registry r) = registry
  registry_counter : ∀ r counter, o.registry { r with counter := counter } = o.registry r
  registry_stats : ∀ r stats, o.registry { r with stats := stats } = o.registry r
  /-- A failure says which call was refused, and why. -/
  failure_create : ∀ x, o.failure .create x = (o.create x).failure
  failure_change : ∀ actual wanted, o.failure .modify wanted = (o.change actual wanted).failure
  failure_delete : ∀ x, o.failure .delete x = (o.delete x).failure

variable {dumping : BfdCall} {dumped : List α → Answer (.bfd dumping)}

/-- An object that is enrolled has its name registered, and no other name is touched. -/
theorem Regular.contains_enroll (h : o.Regular dumping dumped) (v : α) (r : BfdReconciler)
    (name : String) : (o.registry (o.enroll v r)).contains name =
      (decide (name = o.registryName v) || (o.registry r).contains name) := by
  unfold enroll
  rw [h.registry_counter, h.registry_setRegistry, Registry.contains_register]

variable {x x' : BfdReconciler × FailureTally BfdFailure} {xs ys : List Exchange}
variable {done : List (Job α)} {removed : List α}

/-- What comes of a job: its call is made, and its object is registered, except that a creation that
is refused registers nothing. -/
structure Worked (o : BfdObjects α) (j : Job α) (x : BfdReconciler × FailureTally BfdFailure)
    (ys : List Exchange) (x' : BfdReconciler × FailureTally BfdFailure) : Prop where
  calls : ys.map Exchange.call = (o.call? j).toList.map Call.bfd
  sound : ∀ name, (o.registry x'.1).contains name = true →
    name = o.registryName j.wanted ∨ (o.registry x.1).contains name = true
  grows : ∀ name, (o.registry x.1).contains name = true → (o.registry x'.1).contains name = true
  enrolled : (∀ w, j = .create w → ∀ e ∈ ys, e.refusal? = none) →
    (o.registry x'.1).contains (o.registryName j.wanted) = true
  failure : x'.2.last? = (lastDetectionFailure? ys).or x.2.last?

/-- A job whose object gets registered. -/
theorem Worked.of_enroll (h : o.Regular dumping dumped)
    (calls : ys.map Exchange.call = (o.call? j).toList.map Call.bfd)
    (registry : o.registry x'.1 = o.registry (o.enroll j.wanted x.1))
    (failure : x'.2.last? = (lastDetectionFailure? ys).or x.2.last?) : Worked o j x ys x' where
  calls := calls
  sound name registered := by
    rw [registry, h.contains_enroll, Bool.or_eq_true, decide_eq_true_eq] at registered
    exact registered
  grows name registered := by
    rw [registry, h.contains_enroll, registered, Bool.or_true]
  enrolled _ := by
    rw [registry, h.contains_enroll, decide_eq_true rfl, Bool.true_or]
  failure := failure

/-- Each job is done so, whatever it is answered. -/
theorem Regular.ensures_work (h : o.Regular dumping dumped) (j : Job α) :
    Sweep.Ensures (transcript fun _ => True) (o.work j) x xs fun _ x' xs' =>
      ∃ ys, xs' = xs ++ ys ∧ Worked o j x ys x' := by
  cases j with
  | create w =>
    refine ensures_apply.mpr ⟨trivial, fun answer xs' answered => ?_⟩
    match answer with
    | .ok reply => exact ⟨_, answered, .of_enroll h rfl (h.registry_stats ..) rfl⟩
    | .error reason =>
      -- nothing gets registered, which the refusal excuses
      refine ⟨_, answered, ⟨rfl, fun _ => Or.inr, fun _ => id, fun calm => ?_, ?_⟩⟩
      · exact nomatch calm w rfl _ (List.mem_singleton_self _)
      · rw [h.failure_create]
        rfl
  | keep w a =>
    unfold work keep
    rw [Sweep.ensures_bind, Sweep.ensures_update]
    by_cases differs : o.differs w a = true
    · have calls : (o.call? (.keep w a)).toList = [o.change a w] := by simp [call?, differs]
      rw [if_pos differs]
      refine ensures_apply.mpr ⟨trivial, fun answer xs' answered => ?_⟩
      match answer with
      | .ok reply =>
        exact ⟨_, answered, .of_enroll h (by rw [calls]; rfl) (h.registry_stats ..) rfl⟩
      | .error reason =>
        -- the object has been registered before the call
        refine ⟨_, answered, .of_enroll h (by rw [calls]; rfl) rfl ?_⟩
        rw [h.failure_change a]
        rfl
    · have calls : (o.call? (.keep w a)).toList = [] := by simp [call?, differs]
      rw [if_neg differs]
      exact ⟨[], (List.append_nil xs).symm, .of_enroll h (by rw [calls]; rfl) rfl rfl⟩

/-- How far a pass has come: some jobs are done, and some objects removed. -/
structure Progress (o : BfdObjects α) (done : List (Job α)) (removed : List α)
    (x : BfdReconciler × FailureTally BfdFailure) (xs : List Exchange) : Prop where
  calls : xs.map Exchange.call = (done.filterMap o.call? ++ removed.map o.delete).map Call.bfd
  sound : ∀ name, (o.registry x.1).contains name = true →
    ∃ j ∈ done, o.registryName j.wanted = name
  enrolled : ∀ j ∈ done, (∀ w, j = .create w → ∀ e ∈ xs, e.refusal? = none) →
    (o.registry x.1).contains (o.registryName j.wanted) = true
  failure : x.2.last? = lastDetectionFailure? xs

namespace Progress

/-- Another job is done. -/
theorem settle (h : Progress o done [] x xs) (worked : Worked o j x ys x') :
    Progress o (done ++ [j]) [] x' (xs ++ ys) where
  calls := by
    have before := h.calls
    rw [List.map_nil, List.append_nil] at before
    rw [List.map_append, before, worked.calls, List.map_nil, List.append_nil,
      List.filterMap_append, List.map_append]
    rfl
  sound name registered := by
    rcases worked.sound name registered with rfl | earlier
    · exact ⟨j, by simp, rfl⟩
    · obtain ⟨k, member, own⟩ := h.sound name earlier
      exact ⟨k, List.mem_append_left [j] member, own⟩
  enrolled k member calm := by
    rcases List.mem_append.mp member with earlier | last
    · refine worked.grows _ (h.enrolled k earlier fun w created e asked => ?_)
      exact calm w created e (List.mem_append_left ys asked)
    · obtain rfl := List.mem_singleton.mp last
      exact worked.enrolled fun w created e asked =>
        calm w created e (List.mem_append_right xs asked)
  failure := by
    rw [worked.failure, h.failure, lastDetectionFailure?_append]

/-- Another object is removed, or its removal is refused. -/
theorem remove (h : Progress o done removed x xs) (answer : Answer (.bfd (o.delete a)))
    (registry : o.registry x'.1 = o.registry x.1)
    (failure : x'.2.last? =
      (lastDetectionFailure? [⟨.bfd (o.delete a), answer⟩]).or x.2.last?) :
    Progress o done (removed ++ [a]) x' (xs ++ [⟨.bfd (o.delete a), answer⟩]) where
  calls := by
    rw [List.map_append, h.calls]
    simp
  sound name registered := h.sound name (registry ▸ registered)
  enrolled j member calm := by
    rw [registry]
    exact h.enrolled j member fun w created e asked =>
      calm w created e (List.mem_append_left _ asked)
  failure := by
    rw [failure, h.failure, lastDetectionFailure?_append]

end Progress

/-- What a pass made of its dump: the calls, the names that are registered in the end, and the
failure it ended with. -/
structure Course (o : BfdObjects α) (actual wanted : List α) (xs : List Exchange)
    (end_ : Except BfdFailure Unit) (t : BfdReconciler) : Prop where
  calls : xs.map Exchange.call =
    (o.agenda actual wanted fun a => (o.registry t).contains (o.registryName a)).map Call.bfd
  /-- Only names of wanted objects are registered. -/
  sound : ∀ name, (o.registry t).contains name = true → ∃ w ∈ wanted, o.registryName w = name
  /-- So is that of each wanted object that the dump has. -/
  kept : ∀ w ∈ wanted, ∀ a ∈ actual, o.counterpart w a = true →
    (o.registry t).contains (o.registryName w) = true
  /-- If nothing is refused, so is that of each wanted object. -/
  calm : (∀ e ∈ xs, e.refusal? = none) →
    ∀ w ∈ wanted, (o.registry t).contains (o.registryName w) = true
  failure : failureIn end_ = lastDetectionFailure? xs

/-- When all is done, a pass has gone its course. -/
theorem Progress.course {t : BfdReconciler} {end_ : Except BfdFailure Unit}
    (h : Progress o (o.jobs actual wanted)
      (actual.filter fun a => !(o.registry x.1).contains (o.registryName a)) x xs)
    (registry : o.registry t = o.registry x.1) (failure : failureIn end_ = x.2.last?) :
    Course o actual wanted xs end_ t where
  calls := by
    rw [h.calls, agenda, registry]
  sound name registered := by
    obtain ⟨j, member, own⟩ := h.sound name (registry ▸ registered)
    exact ⟨j.wanted, wanted_of_mem_jobs member, own⟩
  kept w wants a there same := by
    -- a job that is no creation registers its object, whatever is refused
    rw [registry]
    exact h.enrolled (.keep w a) (keep_mem_jobs.mpr ⟨wants, there, same⟩) nofun
  calm unrefused w wants := by
    obtain ⟨j, member, rfl⟩ := exists_job (o := o) actual wants
    rw [registry]
    exact h.enrolled j member fun _ _ => unrefused
  failure := failure.trans h.failure

/-- An object whose name is registered stays; another one is removed, or its removal is refused. -/
theorem Regular.ensures_clean (h : o.Regular dumping dumped) {before : List α}
    (progress : Progress o done
      (before.filter fun a => !(o.registry x.1).contains (o.registryName a)) x xs) :
    Sweep.Ensures (transcript fun _ => True) (o.clean a) x xs fun _ x' xs' =>
      Progress o done
        ((before ++ [a]).filter fun a => !(o.registry x'.1).contains (o.registryName a)) x' xs' := by
  unfold clean
  rw [Sweep.ensures_bind, Sweep.ensures_state]
  by_cases known : (o.registry x.1).contains (o.registryName a) = true
  · rw [if_pos known, Sweep.ensures_pure, List.filter_append]
    simpa [known] using progress
  · rw [if_neg known]
    refine ensures_apply.mpr ⟨trivial, fun answer xs' answered => ?_⟩
    subst answered
    match answer with
    | .ok reply =>
      have stats := h.registry_stats x.1 (o.count .delete x.1.stats)
      dsimp only [id]
      rw [stats, List.filter_append, List.filter_cons_of_pos (by simp [known]), List.filter_nil]
      exact progress.remove _ stats rfl
    | .error reason =>
      dsimp only
      rw [List.filter_append, List.filter_cons_of_pos (by simp [known]), List.filter_nil]
      refine progress.remove _ rfl ?_
      rw [h.failure_delete]
      rfl

/-- A pass that starts with an empty registry goes its course, whatever it is answered. -/
theorem Regular.course_of_settleDumped (h : o.Regular dumping dumped) {r t : BfdReconciler}
    {ds : List Deed} {end_ : Except BfdFailure Unit} (fresh : o.registry r = ∅)
    (trace : Program.Trace (o.settleDumped wanted actual r) ds (end_, t)) :
    Course o actual wanted (exchanges ds) end_ t := by
  have ensures : Pass.Ensures (transcript fun _ => True) (o.settleDumped wanted actual) r []
      (fun _ t xs => Course o actual wanted xs (.ok ()) t)
      (fun e t xs => Course o actual wanted xs (.error e) t) := by
    -- the second loop leaves the registry alone, so what it has removed can be told from the end
    refine ensures_settleDumped (fun done x xs => Progress o done [] x xs)
      (fun before _ x xs => Progress o (o.jobs actual wanted)
        (before.filter fun a => !(o.registry x.1).contains (o.registryName a)) x xs)
      ⟨rfl, ?_, nofun, rfl⟩ ?_ (fun _ _ progress => progress) ?_ ?_ ?_
    · intro name registered
      rw [fresh] at registered
      exact nomatch registered
    · intro done j x xs _ progress
      refine (h.ensures_work j).mono fun _ x' xs' ⟨ys, more, worked⟩ => ?_
      exact more ▸ progress.settle worked
    · exact fun before a _ x xs progress => h.ensures_clean progress
    · intro x xs stats progress last
      exact progress.course (h.registry_stats ..) last.symm
    · intro x xs stats e progress last
      exact progress.course (h.registry_stats ..) last.symm
  exact ensures.of_trace (C := fun end_ t xs => Course o actual wanted xs end_ t) trace

/-- A pass reads the objects.  If it may not, that is its failure; if it may, it goes its course,
whatever it is answered. -/
theorem Regular.course_of_trace (h : o.Regular dumping dumped) {r t : BfdReconciler}
    {ds : List Deed} {end_ : Except BfdFailure Unit} (connected : r.connected = true)
    (trace : Program.Trace (o.reconcile wanted r) ds (end_, t)) :
    (∃ reason, exchanges ds = [⟨.bfd dumping, .error reason⟩] ∧
      end_ = .error (dumping.failure reason)) ∨
    ∃ actual xs, exchanges ds = ⟨.bfd dumping, dumped actual⟩ :: xs ∧
      Course o actual wanted xs end_ t := by
  have onward : Program.Trace (o.settleAll wanted r) ds (end_, t) :=
    trace_requireConnection connected trace
  rcases h.dump (Pass.of_trace_modify onward) with
    ⟨reason, rfl, failed, -⟩ | ⟨actual, ds', rfl, rest⟩
  · exact Or.inl ⟨reason, rfl, failed⟩
  · have fresh : o.registry { o.setRegistry ∅ r with counter := {} } = ∅ := by
      rw [h.registry_counter, h.registry_setRegistry]
    exact Or.inr ⟨actual, exchanges ds', rfl, h.course_of_settleDumped fresh rest⟩

end BfdObjects

namespace BfdReconciler

theorem regular_sessionObjects :
    sessionObjects.Regular .dumpSessions fun actual => .ok actual where
  dump := Pass.of_trace_dump_bind
  registry_setRegistry _ _ := rfl
  registry_counter _ _ := rfl
  registry_stats _ _ := rfl
  failure_create _ := rfl
  failure_change _ _ := rfl
  failure_delete _ := rfl

theorem regular_keyObjects : keyObjects.Regular .dumpKeys fun actual => .ok actual where
  dump := Pass.of_trace_dump_bind
  registry_setRegistry _ _ := rfl
  registry_counter _ _ := rfl
  registry_stats _ _ := rfl
  failure_create _ := rfl
  failure_change _ _ := rfl
  failure_delete _ := rfl

end BfdReconciler

end DataplaneSync
