import DataplaneSync.Proofs.InterfaceMatching

namespace DataplaneSync

/-!
# Which interfaces a pass removes

A pass removes the interfaces that no wanted one claims: those of a tag that is not wanted, and
those without a tag that are not adopted.

* `deletions` — the indexes that a pass asks to remove.
* `InterfaceReconciler.Adopted`, `InterfaceReconciler.Unclaimed` — what has become of a dumped
  interface, as far as the calls show it.
* `InterfaceReconciler.Deletion` — a removal with what comes before it and after it.
* `InterfaceReconciler.deletions_exact` — what a pass removes, whatever it is answered, and what
  it removes if no call is refused.
-/

/-- The index of the interface that an exchange asks to remove. -/
def Exchange.deletion? : Exchange → Option UInt32
  | ⟨.interface (.delete _ index), _⟩ => some index
  | _ => none

/-- The indexes that some exchanges ask to remove, the oldest first. -/
def deletions (xs : List Exchange) : List UInt32 := xs.filterMap Exchange.deletion?

section

variable {xs ys : List Exchange} {y : Exchange} {index : UInt32}

@[simp] theorem deletions_append : deletions (xs ++ ys) = deletions xs ++ deletions ys :=
  List.filterMap_append

theorem mem_deletions : index ∈ deletions xs ↔ ∃ y ∈ xs, y.deletion? = some index :=
  List.mem_filterMap

/-- To remove an interface is about its index. -/
theorem Exchange.index?_of_deletion (deletes : y.deletion? = some index) :
    y.call.index? = some index := by
  unfold Exchange.deletion? at deletes
  split at deletes
  · exact deletes
  · exact nomatch deletes

/-- What is about other interfaces removes none of this index. -/
theorem notMem_deletions (apart : ∀ y ∈ xs, y.call.index? ≠ some index) :
    index ∉ deletions xs := by
  intro member
  obtain ⟨y, there, deletes⟩ := mem_deletions.mp member
  exact apart y there (Exchange.index?_of_deletion deletes)

/-- What comes before the first exchange about an interface is determined by the whole. -/
theorem takeWhile_apart {all : List Exchange} (cut : all = xs ++ y :: ys)
    (apart : ∀ z ∈ xs, z.call.index? ≠ some index) (own : y.call.index? = some index) :
    all.takeWhile (fun z => z.call.index? != some index) = xs := by
  have passes : ∀ z ∈ xs, (z.call.index? != some index) = true := fun z member =>
    bne_iff_ne.mpr (apart z member)
  have stops : ¬ (y.call.index? != some index) = true := fun other =>
    bne_iff_ne.mp other own
  rw [cut, List.takeWhile_append_of_pos passes]
  exact (congrArg (xs ++ ·) (List.takeWhile_cons_of_neg stops)).trans (List.append_nil xs)

end

namespace InterfaceReconciler

open Interface (placeholderName)

variable {wanted : List Interface} {actual : Table UInt32 InterfaceDetails}
variable {r s s' t : InterfaceReconciler} {ds : List Deed} {end_ mid : Except InterfaceFailure Unit}
variable {index j : UInt32} {d : InterfaceDetails} {name : String} {i w : Interface}
variable {xs before after : List Exchange} {y : Exchange}

/-! ### Claims -/

/-- A dumped interface is adopted: the first thing that is asked for about it is to tag it for the
wanted interface that is chosen for it, which is one that it correlates with if it has no tag. -/
def Adopted (wanted : List Interface) (xs : List Exchange) (index : UInt32)
    (d : InterfaceDetails) : Prop :=
  ∃ before w answer after, xs = before ++ ⟨.interface (.setTag w.name index), answer⟩ :: after ∧
    (∀ y ∈ before, y.call.index? ≠ some index) ∧
    keptFor wanted (registeredBy before) d = some w

/-- No wanted interface claims a dumped one, which has a tag that is not wanted, or has none and is
not adopted.  To have an empty name is to have no tag. -/
def Unclaimed (wanted : List Interface) (xs : List Exchange) (index : UInt32)
    (d : InterfaceDetails) : Prop :=
  if d.interface.isTagged then ∀ w ∈ wanted, w.name ≠ d.interface.name
  else ¬ Adopted wanted xs index d

/-- Whether an interface with a tag is kept for a wanted one does not depend on what is
registered. -/
theorem keptFor_eq_none_of_tagged {names : String → Option UInt32}
    (tagged : d.interface.isTagged = true) :
    keptFor wanted names d = none ↔ ∀ w ∈ wanted, w.name ≠ d.interface.name := by
  rw [keptFor, if_pos tagged, List.find?_eq_none]
  simp only [beq_iff_eq, ne_eq]

/-- Once an interface has had its turn, it is unclaimed if and only if it has been kept for no
wanted interface. -/
theorem unclaimed_iff {answer : Except String Unit}
    (cut : xs = before ++ ⟨.interface (.setTag name index), answer⟩ :: after)
    (apart : ∀ y ∈ before, y.call.index? ≠ some index)
    (named : ∀ w, keptFor wanted (registeredBy before) d = some w → name = w.name) :
    Unclaimed wanted xs index d ↔ keptFor wanted (registeredBy before) d = none := by
  cases tagged : d.interface.isTagged with
  | true =>
    rw [Unclaimed, if_pos tagged, keptFor_eq_none_of_tagged tagged]
  | false =>
    rw [Unclaimed, tagged, if_neg Bool.false_ne_true]
    constructor
    · intro free
      refine Option.eq_none_iff_forall_ne_some.mpr fun w kept => free ?_
      obtain rfl := named w kept
      exact ⟨before, w, answer, after, cut, apart, kept⟩
    · rintro unkept ⟨before', w, answer', after', cut', apart', kept⟩
      -- both cuts are at the first exchange about the interface
      have same : before = before' :=
        (takeWhile_apart cut apart rfl).symm.trans (takeWhile_apart cut' apart' rfl)
      rw [← same, unkept] at kept
      exact nomatch kept

/-! ### What is done in a turn -/

/-- To remove an interface is to ask for that, and nothing else. -/
theorem remove_of_trace (trace : Program.Trace (remove name i index s) ds (mid, s')) :
    ∃ answer, exchanges ds = [⟨.interface (.delete i index), answer⟩] := by
  rcases Pass.of_trace_change_bind (Pass.of_trace_get trace) with
    ⟨reason, e, rfl, -, -⟩ | ⟨reply, e, ds', rfl, ⟨⟩⟩
  · exact ⟨.error reason, rfl⟩
  · exact ⟨.ok reply, rfl⟩

/-- An interface that is to be removed is tagged first, and removed only if that is not refused. -/
theorem discard_of_trace (trace : Program.Trace
      ((do register name index i; remove name i index : Step Unit) s) ds (mid, s')) :
    (∃ e reason, mid = .error e ∧
      exchanges ds = [⟨.interface (.setTag name index), .error reason⟩]) ∨
    ∃ answer, exchanges ds =
      [⟨.interface (.setTag name index), .ok ()⟩, ⟨.interface (.delete i index), answer⟩] := by
  rcases Pass.of_trace_bind trace with ⟨e, rfl, first⟩ | ⟨_, s₁, ds₁, ds₂, rfl, first, second⟩
  · have called := Pass.of_trace_get (Pass.of_trace_modify first)
    rcases Pass.of_trace_change_bind called with
      ⟨reason, event, rfl, -, -⟩ | ⟨reply, event, ds', rfl, ended⟩
    · exact Or.inl ⟨e, reason, rfl, rfl⟩
    · exact nomatch ended
  · obtain ⟨-, answer, event, rfl, well⟩ := register_of_trace first
    obtain rfl := well rfl
    obtain ⟨answer, asked⟩ := remove_of_trace second
    refine Or.inr ⟨answer, ?_⟩
    rw [exchanges_append, asked]
    rfl

/-- The device at index 0 is tagged, and nothing else happens to it. -/
theorem device_of_trace (trace : Program.Trace (settle wanted (0, d) s) ds (mid, s')) :
    ∀ y ∈ exchanges ds, y.deletion? = none := by
  have asks : (register d.internalName 0 d.interface).Obeys
      (asking fun y => y.deletion? = none) := asks_register fun _ => rfl
  exact asks _ _ _ _ trace

/-- What is asked to be removed in the turn of an interface is that interface, which is kept for
no wanted one and has just been tagged. -/
theorem deletion_of_settle (trace : Program.Trace (settle wanted (index, d) s) ds (mid, s'))
    (asked : y ∈ exchanges ds) (deletes : y.deletion? = some j) :
    index ≠ 0 ∧ keptFor wanted s.names d = none ∧
      ∃ name, exchanges ds = [⟨.interface (.setTag name index), .ok ()⟩, y] := by
  have device : index ≠ 0 := by
    rintro rfl
    rw [device_of_trace trace y asked] at deletes
    exact nomatch deletes
  cases kept : keptFor wanted s.names d with
  | some w =>
    -- an interface that is kept is tagged and modified at most
    obtain ⟨-, answer, rest, opening, -, modified⟩ :=
      adopt_of_trace (trace_of_keptFor device kept trace)
    rw [opening] at asked
    obtain ⟨call, answer'⟩ := y
    rcases List.mem_cons.mp asked with first | later
    · cases first
      exact nomatch deletes
    · obtain rfl : call = .interface (.modify w d.interface index) := modified _ later
      exact nomatch deletes
  | none =>
    obtain ⟨name, turn⟩ := trace_of_unkept device kept trace
    refine ⟨device, rfl, name, ?_⟩
    rcases discard_of_trace turn with ⟨e, reason, -, only⟩ | ⟨answer, both⟩
    · rw [only] at asked
      obtain rfl := List.mem_singleton.mp asked
      exact nomatch deletes
    · rw [both] at asked
      rcases List.mem_cons.mp asked with rfl | second
      · exact nomatch deletes
      · obtain rfl := List.mem_singleton.mp second
        exact both

/-! ### What is dumped -/

/-- A pass asks for nothing about any interface unless it has dumped them. -/
theorem dumpIn?_of_trace (trace : Program.Trace (reconcile wanted r) ds (end_, t)) :
    (∃ actual, dumpIn? (exchanges ds) = some actual) ∨
      (r.connected = false ∨ ∃ y ∈ exchanges ds, y.refusal? ≠ none) ∧
        ∀ y ∈ exchanges ds, y.call.index? = none := by
  rw [reconcile_eq] at trace
  split at trace
  · rcases Pass.of_trace_dump_bind trace with ⟨reason, rfl, -, -⟩ | ⟨sockets, ds₁, rfl, rest⟩
    · exact Or.inr ⟨Or.inr ⟨_, List.mem_singleton_self _, nofun⟩, by simp [Call.index?]⟩
    · obtain ⟨answer, ds₂, rfl, onward⟩ := Program.trace_ask.mp (Pass.of_trace_modify rest)
      match answer with
      | .ok actual => exact Or.inl ⟨actual, rfl⟩
      | .error reason =>
        obtain ⟨-, rfl, ⟨⟩⟩ := Program.trace_note.mp onward
        refine Or.inr ⟨Or.inr ⟨⟨.interface .dump, .error reason⟩, by simp, nofun⟩, ?_⟩
        simp [Call.index?]
  · next alone =>
    cases trace
    exact Or.inr ⟨Or.inl (Bool.eq_false_iff.mpr alone), by simp⟩

/-- All that is asked for is about dumped interfaces. -/
theorem asks_settleDumped : (settleDumped wanted actual).Obeys
    (asking fun y => ∀ index, y.call.index? = some index → ∃ d, (index, d) ∈ actual.entries) := by
  rw [settleDumped_rounds]
  refine (Pass.obeys_forM fun x there => asks_settleTagged fun _ y own index about => ?_).bind
    fun _ => (Pass.obeys_forM fun x there => asks_settleUntagged fun y own index about => ?_).bind
      fun _ => asks_finish fun y none_ index about => ?_
  · obtain rfl : x.1 = index := Option.some.inj (own.symm.trans about)
    exact ⟨x.2, there⟩
  · obtain rfl : x.1 = index := Option.some.inj (own.symm.trans about)
    exact ⟨x.2, (List.mem_filter.mp there).1⟩
  · rw [none_] at about
    exact nomatch about

theorem connected_of_dumpIn? (trace : Program.Trace (reconcile wanted r) ds (end_, t))
    (dumped : dumpIn? (exchanges ds) = some actual) : r.connected = true := by
  cases connected : r.connected with
  | true => rfl
  | false =>
    rw [reconcile_eq, connected, if_neg Bool.false_ne_true] at trace
    cases trace
    exact nomatch dumped

theorem entry_of_index (trace : Program.Trace (reconcile wanted r) ds (end_, t))
    (dumped : dumpIn? (exchanges ds) = some actual) (asked : y ∈ exchanges ds)
    (about : y.call.index? = some index) : ∃ d, (index, d) ∈ actual.entries := by
  obtain ⟨sockets, r', ds', rfl, -, rest⟩ :=
    settleDumped_of_trace (connected_of_dumpIn? trace dumped) trace dumped
  simp only [exchanges_called, List.mem_cons] at asked
  rcases asked with rfl | rfl | later
  · exact nomatch about
  · exact nomatch about
  · exact asks_settleDumped _ _ _ _ rest y later index about

/-! ### Removals -/

/-- An exchange that asks to remove an interface: the interface was dumped, is not the device and is
kept for no wanted one; it has just been tagged, and nothing else is asked for about it. -/
structure Deletion (wanted : List Interface) (xs : List Exchange) (index : UInt32) (y : Exchange)
    (actual : Table UInt32 InterfaceDetails) (d : InterfaceDetails) (name : String)
    (before after : List Exchange) : Prop where
  dumped : dumpIn? xs = some actual
  deletes : y.deletion? = some index
  entry : actual.get? index = some d
  device : index ≠ 0
  cut : xs = before ++ ⟨.interface (.setTag name index), .ok ()⟩ :: y :: after
  apart : ∀ z ∈ before ++ after, z.call.index? ≠ some index
  unkept : keptFor wanted (registeredBy before) d = none

/-- What is asked to be removed has had its turn before. -/
theorem deletion_of_trace (trace : Program.Trace (reconcile wanted r) ds (end_, t))
    (asked : y ∈ exchanges ds) (deletes : y.deletion? = some index) :
    ∃ actual d name before after,
      Deletion wanted (exchanges ds) index y actual d name before after := by
  have about := Exchange.index?_of_deletion deletes
  rcases dumpIn?_of_trace trace with ⟨actual, dumped⟩ | ⟨-, nothing⟩
  swap
  · rw [nothing y asked] at about
    exact nomatch about
  have connected := connected_of_dumpIn? trace dumped
  obtain ⟨d, member⟩ := entry_of_index trace dumped asked about
  rcases turn_of_trace connected trace dumped member with
    ⟨e, -, none_⟩ | ⟨before, now, after, s, s', rfl, turn⟩
  · exact absurd about (none_ y asked)
  obtain ⟨mid, step, -⟩ := turn.step
  obtain ⟨apartBefore, apartAfter⟩ := List.forall_mem_append.mp turn.apart
  -- the removal is part of the turn
  have within : y ∈ exchanges now := by
    rw [exchanges_append, exchanges_append, List.mem_append, List.mem_append] at asked
    rcases asked with (earlier | within) | later
    · exact absurd about (apartBefore y earlier)
    · exact within
    · exact absurd about (apartAfter y later)
  obtain ⟨device, unkept, name, both⟩ := deletion_of_settle step within deletes
  refine ⟨actual, d, name, exchanges before, exchanges after, dumped, deletes,
    Table.mem_entries.mp member, device, ?_, turn.apart, turn.names ▸ unkept⟩
  rw [exchanges_append, exchanges_append, both, List.append_assoc]
  rfl

namespace Deletion

variable (deletion : Deletion wanted xs index y actual d name before after)

include deletion

theorem unclaimed : Unclaimed wanted xs index d := by
  obtain ⟨apart, -⟩ := List.forall_mem_append.mp deletion.apart
  refine (unclaimed_iff deletion.cut apart fun w kept => ?_).mpr deletion.unkept
  rw [deletion.unkept] at kept
  exact nomatch kept

/-- The interface is removed once. -/
theorem count_eq_one : (deletions xs).count index = 1 := by
  obtain ⟨apartBefore, apartAfter⟩ := List.forall_mem_append.mp deletion.apart
  have parts : deletions xs = deletions before ++ index :: deletions after := by
    have tail : deletions (y :: after) = index :: deletions after :=
      List.filterMap_cons_some deletion.deletes
    rw [deletion.cut, deletions_append, ← tail]
    rfl
  rw [parts, List.count_append, List.count_cons_self,
    List.count_eq_zero_of_not_mem (notMem_deletions apartBefore),
    List.count_eq_zero_of_not_mem (notMem_deletions apartAfter)]

/-- Wherever the removal is found, it directly follows the tag. -/
theorem follows {front back : List Exchange} (split_ : xs = front ++ y :: back) :
    front = before ++ [⟨.interface (.setTag name index), .ok ()⟩] := by
  obtain ⟨apartBefore, apartAfter⟩ := List.forall_mem_append.mp deletion.apart
  have about := Exchange.index?_of_deletion deletion.deletes
  have elsewhere : y ∉ before ++ [⟨.interface (.setTag name index), .ok ()⟩] := by
    intro member
    rcases List.mem_append.mp member with earlier | tag
    · exact apartBefore y earlier about
    · obtain rfl := List.mem_singleton.mp tag
      exact nomatch deletion.deletes
  have later : y ∉ after := fun member => apartAfter y member about
  have same : before ++ [⟨.interface (.setTag name index), .ok ()⟩] ++ y :: after =
      front ++ y :: back := by
    rw [← split_, deletion.cut, List.append_assoc]
    rfl
  exact ((List.append_cons_inj_of_notMem elsewhere later).mp same).1.symm

end Deletion

/-- In a pass without refusals, an interface that is unclaimed is removed. -/
theorem mem_deletions_of_unclaimed (trace : Program.Trace (reconcile wanted r) ds (end_, t))
    (dumped : dumpIn? (exchanges ds) = some actual)
    (calm : ∀ y ∈ exchanges ds, y.refusal? = none) (device : index ≠ 0)
    (entry : actual.get? index = some d) (unclaimed : Unclaimed wanted (exchanges ds) index d) :
    index ∈ deletions (exchanges ds) := by
  have connected := connected_of_dumpIn? trace dumped
  have well := ok_of_trace connected trace calm
  rcases turn_of_trace connected trace dumped (Table.mem_of_get? entry) with
    ⟨e, failed, -⟩ | ⟨before, now, after, s, s', rfl, turn⟩
  · exact nomatch failed.symm.trans well
  obtain ⟨mid, step, comes⟩ := turn.step
  obtain ⟨apart, -⟩ := List.forall_mem_append.mp turn.apart
  rw [exchanges_append, exchanges_append] at unclaimed ⊢
  cases kept : keptFor wanted s.names d with
  | some w =>
    -- it would have been tagged for the wanted interface, so that one claims it
    obtain ⟨-, answer, rest, opening, -, -⟩ := adopt_of_trace (trace_of_keptFor device kept step)
    rw [turn.names] at kept
    rw [opening, List.append_assoc] at unclaimed
    have unkept := (unclaimed_iff rfl apart fun w' kept' => ?_).mp unclaimed
    · exact nomatch kept.symm.trans unkept
    · rw [kept] at kept'
      rw [Option.some.inj kept']
  | none =>
    obtain ⟨name, discarded⟩ := trace_of_unkept device kept step
    rcases discard_of_trace discarded with ⟨e, reason, failed, -⟩ | ⟨answer, both⟩
    · exact nomatch failed.symm.trans (comes well)
    · rw [mem_deletions, both]
      exact ⟨⟨.interface (.delete d.interface index), answer⟩, by simp, rfl⟩

/-- What a pass removes, on any dataplane: only dumped interfaces, never the device at index 0, and
only those that no wanted interface claims; none of them twice; and each directly after it has been
tagged.  If no call is refused, those are all the unclaimed ones. -/
theorem deletions_exact (trace : Program.Trace (reconcile wanted r) ds (end_, t)) :
    (∀ index ∈ deletions (exchanges ds), index ≠ 0 ∧
      ∃ actual d, dumpIn? (exchanges ds) = some actual ∧ actual.get? index = some d ∧
        Unclaimed wanted (exchanges ds) index d) ∧
    (deletions (exchanges ds)).Nodup ∧
    (∀ front y back index, exchanges ds = front ++ y :: back → y.deletion? = some index →
      ∃ before name, front = before ++ [⟨.interface (.setTag name index), .ok ()⟩]) ∧
    (r.connected = true → (∀ y ∈ exchanges ds, y.refusal? = none) →
      ∃ actual, dumpIn? (exchanges ds) = some actual ∧
        ∀ index, index ∈ deletions (exchanges ds) ↔
          index ≠ 0 ∧ ∃ d, actual.get? index = some d ∧
            Unclaimed wanted (exchanges ds) index d) := by
  have safe : ∀ index ∈ deletions (exchanges ds), index ≠ 0 ∧
      ∃ actual d, dumpIn? (exchanges ds) = some actual ∧ actual.get? index = some d ∧
        Unclaimed wanted (exchanges ds) index d := by
    intro index member
    obtain ⟨y, asked, deletes⟩ := mem_deletions.mp member
    obtain ⟨actual, d, name, before, after, deletion⟩ := deletion_of_trace trace asked deletes
    exact ⟨deletion.device, actual, d, deletion.dumped, deletion.entry, deletion.unclaimed⟩
  refine ⟨safe, List.nodup_iff_count_le_one.mpr fun index => ?_, ?_, fun connected calm => ?_⟩
  · by_cases member : index ∈ deletions (exchanges ds)
    · obtain ⟨y, asked, deletes⟩ := mem_deletions.mp member
      obtain ⟨actual, d, name, before, after, deletion⟩ := deletion_of_trace trace asked deletes
      exact Nat.le_of_eq deletion.count_eq_one
    · rw [List.count_eq_zero_of_not_mem member]
      exact Nat.zero_le 1
  · intro front y back index split_ deletes
    have asked : y ∈ exchanges ds := by
      rw [split_]
      exact List.mem_append_right front List.mem_cons_self
    obtain ⟨actual, d, name, before, after, deletion⟩ := deletion_of_trace trace asked deletes
    exact ⟨before, name, deletion.follows split_⟩
  · rcases dumpIn?_of_trace trace with ⟨actual, dumped⟩ | ⟨alone | ⟨y, asked, refused⟩, -⟩
    · refine ⟨actual, dumped, fun index => ⟨fun member => ?_, ?_⟩⟩
      · obtain ⟨device, actual', d, dumped', entry, unclaimed⟩ := safe index member
        obtain rfl : actual = actual' := Option.some.inj (dumped.symm.trans dumped')
        exact ⟨device, d, entry, unclaimed⟩
      · rintro ⟨device, d, entry, unclaimed⟩
        exact mem_deletions_of_unclaimed trace dumped calm device entry unclaimed
    · exact nomatch alone.symm.trans connected
    · exact absurd (calm y asked) refused

/-- A dataplane with two tagged interfaces and two without tags. -/
def harborSnapshot : Snapshot where
  interfaces :=
    [{ interface := { name := "lan" }, internalName := "loop1", index := 1 },
      { interface := { name := "spare" }, internalName := "loop2", index := 2 },
      { interface := { addresses := ["10.0.0.9/24"] }, internalName := "loop3", index := 3 },
      { interface := { addresses := ["10.0.0.7/24"] }, internalName := "loop4", index := 4 }]

/-- The interfaces that are wanted there. -/
def harborInterfaces : List Interface :=
  [{ name := "lan", addresses := ["10.0.0.1/24"] }, { name := "wan", addresses := ["10.0.0.7/24"] }]

/-- The interface of the other tag is removed, and so is the one without tag that correlates with
nothing that is wanted. -/
theorem deletions_exact_harbor :
    ∃ s r' t, Simulation.ofSnapshot? harborSnapshot = some s ∧
      Trial.run (reconcile harborInterfaces {}) { simulation := s } = some ((.ok (), r'), t) ∧
      deletions (exchanges t.deeds) = [2, 3] ∧
      ∃ actual, dumpIn? (exchanges t.deeds) = some actual ∧
        ∀ index, index ∈ deletions (exchanges t.deeds) ↔
          index ≠ 0 ∧ ∃ d, actual.get? index = some d ∧
            Unclaimed harborInterfaces (exchanges t.deeds) index d := by
  have goes : Trial.succeedsOn harborSnapshot (reconcile harborInterfaces {}) (fun _ _ t =>
      (exchanges t.deeds).all (fun y => y.refusal? == none) &&
        decide (deletions (exchanges t.deeds) = [2, 3])) = true := by
    decide +kernel
  obtain ⟨s, _, r', t, start, result, goes⟩ := Trial.exists_of_succeedsOn goes
  obtain ⟨calm, removed⟩ := (Bool.and_eq_true _ _).mp goes
  obtain ⟨ds, deeds, trace⟩ := Trial.trace_of_run result
  obtain rfl : t.deeds = ds := deeds
  obtain ⟨-, -, -, exact_⟩ := deletions_exact trace
  have unrefused : ∀ y ∈ exchanges t.deeds, y.refusal? = none :=
    fun y asked => eq_of_beq (List.all_eq_true.mp calm y asked)
  exact ⟨s, r', t, start, result, of_decide_eq_true removed, exact_ rfl unrefused⟩

end InterfaceReconciler

end DataplaneSync
