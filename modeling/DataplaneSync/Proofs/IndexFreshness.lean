import DataplaneSync.Proofs.DataplaneHistory
import DataplaneSync.Proofs.InterfacePass

namespace DataplaneSync

/-!
# Indexes are never used again

Whatever is asked of the dataplane, a new interface gets an index above all that there have ever
been, and what the dataplane holds is again what a dataplane can be made of.

* `Links.WellIndexed` — every interface is under its own index, below the next one.
* `Links.WellIndexed.turn`, `Simulation.Turn.has_iff` — what one exchange preserves.
* `Simulation.Serves.wellIndexed`, `Simulation.Serves.nextIndex_le`, `Simulation.Serves.has_zero` —
  what a history preserves.
* `Simulation.exists_ofSnapshot?` — a dataplane made of a snapshot holds it, and the device.
* `Simulation.indexes_fresh` — the whole statement.
-/

/-! ### Indexes of interfaces -/

/-- Every interface is under the index it has, and these lie below the index of the next one. -/
structure Links.WellIndexed (l : Links) : Prop where
  bounded : l.Bounded
  own : ∀ j d, l.interfaces.get? j = some d → d.index = j

namespace Links.WellIndexed

open Simulation InterfaceCall

variable {s t : Simulation} {x : Exchange}

/-- What puts another interface under an index that is in use, or nothing, keeps that. -/
theorem updated {l l' : Links} {index : UInt32} {d : InterfaceDetails}
    {entry : Option InterfaceDetails} (h : l.WellIndexed)
    (present : l.interfaces.get? index = some d) (own : ∀ e, entry = some e → e.index = index)
    (changed : l.Updated index entry l') : l'.WellIndexed where
  bounded := h.bounded.updated ⟨d, present⟩ changed
  own j e found := by
    by_cases same : j = index
    · subst same
      exact own e (changed.get?_self.symm.trans found)
    · exact h.own j e ((changed.get?_ne same).symm.trans found)

/-- Every exchange keeps that. -/
theorem turn (h : s.links.WellIndexed) (turn : s.Turn x t) : t.links.WellIndexed := by
  cases turn with
  | kept _ _ agree =>
    obtain ⟨interfaces, nextIndex, -⟩ := agree
    refine ⟨⟨?_, ?_⟩, ?_⟩
    · rw [nextIndex]
      exact h.bounded.positive
    · rw [interfaces, nextIndex]
      exact h.bounded.below
    · rw [interfaces]
      exact h.own
  | @replaced _ _ index d i _ _ present links =>
    rw [links]
    refine h.updated present ?_ (updated_replace s.links index d i)
    rintro _ ⟨⟩
    exact h.own index d present
  | @created i _ room links =>
    rw [links]
    refine ⟨h.bounded.added room i, fun j d found => ?_⟩
    rw [get?_added] at found
    split at found
    · next same =>
      obtain rfl := Option.some.inj found
      exact same.symm
    · exact h.own j d found
  | @removed _ index d _ present links =>
    rw [links]
    exact h.updated present (by rintro _ ⟨⟩) (updated_without s.links index)

end Links.WellIndexed

namespace Simulation

open InterfaceCall

variable {s t u : Simulation} {x : Exchange} {xs : List Exchange} {snapshot : Snapshot}

/-! ### One exchange -/

/-- The index of the next interface does not fall. -/
theorem Turn.nextIndex_le (turn : s.Turn x t) : s.links.nextIndex ≤ t.links.nextIndex := by
  cases turn with
  | kept _ _ agree => exact agree.2.1 ▸ UInt32.le_refl _
  | replaced _ _ _ links => exact links ▸ UInt32.le_refl _
  | created room links =>
    rw [links]
    exact UInt32.le_of_lt (Links.Bounded.lt_next s.links room)
  | removed _ links => exact links ▸ UInt32.le_refl _

/-- There is an interface at an index if it has just been created, or was there and has not been
removed. -/
theorem Turn.has_iff (turn : s.Turn x t) (j : UInt32) :
    t.links.Has j ↔ x.created? = some j ∨ s.links.Has j ∧ x.removed? ≠ some j := by
  unfold Links.Has
  cases turn with
  | kept created removed agree => simp [created, removed, agree.1]
  | @replaced _ _ index d i created removed present links =>
    rw [links, (Links.updated_replace s.links index d i).get?, created, removed]
    split
    · next same => simp [same, present]
    · simp
  | created _ links =>
    rw [links, get?_added]
    split
    · next same => simp [Exchange.created?, same]
    · next other => simp [Exchange.created?, Exchange.removed?, Ne.symm other]
  | @removed _ index _ _ _ links =>
    rw [links, (Links.updated_without s.links index).get?]
    split
    · next same => simp [Exchange.created?, Exchange.removed?, same]
    · next other => simp [Exchange.created?, Exchange.removed?, Ne.symm other]

/-- What is created has the next index, and no other interface makes way for it. -/
theorem of_created {i : Interface} {index : UInt32} (h : s.links.WellIndexed)
    (given : s.answer? (.interface (.configure i)) = some (.ok index, t)) :
    index = s.links.nextIndex ∧ (∃ d, t.links.interfaces.get? index = some d ∧ d.interface = i) ∧
      ∀ j d, s.links.interfaces.get? j = some d → j ≠ index ∧ t.links.interfaces.get? j = some d := by
  have turn : s.Turn ⟨.interface (.configure i), .ok index⟩ t := turn_of_answer? given
  cases turn with
  | kept created => contradiction
  | replaced created => contradiction
  | created _ links =>
    rw [links]
    refine ⟨rfl, ⟨newEntry s.links i, ?_, rfl⟩, fun j d found => ?_⟩
    · rw [get?_added, if_pos rfl]
    · have below : j ≠ s.links.nextIndex := by
        rintro rfl
        exact UInt32.lt_irrefl _ (h.bounded.below _ d found)
      exact ⟨below, by rw [get?_added, if_neg below, found]⟩

/-! ### Histories -/

/-- In every history the interfaces stay under their indexes. -/
theorem Serves.wellIndexed (served : s.Serves xs t) (h : s.links.WellIndexed) :
    t.links.WellIndexed := by
  induction served with
  | start => exact h
  | answered x _ given ih => exact ih.turn (turn_of_answer? given)
  | armed failing _ ih => exact ih

/-- In no history the index of the next interface falls. -/
theorem Serves.nextIndex_le (served : s.Serves xs t) : s.links.nextIndex ≤ t.links.nextIndex := by
  induction served with
  | start => exact UInt32.le_refl _
  | answered x _ given ih => exact UInt32.le_trans ih (turn_of_answer? given).nextIndex_le
  | armed failing _ ih => exact ih

/-- The device at index 0 is there as long as nobody has removed it. -/
theorem Serves.has_zero (served : s.Serves xs t) (h : s.links.WellIndexed) (device : s.links.Has 0) :
    t.links.Has 0 ↔ ∀ x ∈ xs, x.removed? ≠ some 0 := by
  induction served with
  | start => simpa using device
  | @answered xs t u x before given ih =>
    have turn := turn_of_answer? given
    -- index 0 is not given out again
    have old : x.created? ≠ some 0 := by
      have positive := (before.wellIndexed h).bounded.positive
      cases turn with
      | kept created => simp [created]
      | replaced created => simp [created]
      | created =>
        intro zero
        obtain zero := Option.some.inj zero
        exact UInt32.lt_irrefl 0 (zero ▸ positive)
      | removed => nofun
    rw [turn.has_iff, ih]
    simp [old, or_imp, forall_and]
  | armed failing _ ih => exact ih

/-! ### Snapshots -/

/-- A dataplane that is made of a snapshot has every interface under its index. -/
theorem wellIndexed_of_ofSnapshot? (start : ofSnapshot? snapshot = some s) :
    s.links.WellIndexed := by
  obtain ⟨interfaces, bounded, -⟩ := ofSnapshot?_eq_some start
  refine ⟨bounded, fun j d found => ?_⟩
  have given : ∀ e, (Table.ofList (snapshot.interfaces.map fun e => (e.index, e))).get? j = some e →
      e.index = j := by
    intro e listed
    obtain ⟨_, -, same⟩ := List.mem_map.mp (Table.mem_of_get?_ofList listed)
    obtain ⟨rfl, rfl⟩ := Prod.mk.inj same
    rfl
  rw [interfaces, interfacesOf] at found
  split at found
  · exact given d found
  · rw [Table.get?_insert] at found
    split at found
    · next zero =>
      obtain rfl := Option.some.inj found
      exact zero.symm
    · exact given d found

/-- A dataplane can be made of a snapshot whose interfaces leave an index above them.  It holds what
the snapshot says, and the device. -/
theorem exists_ofSnapshot? {bound : UInt32}
    (below : ∀ j d, (interfacesOf snapshot).get? j = some d → j < bound) :
    ∃ u, ofSnapshot? snapshot = some u ∧
      u.snapshot = { snapshot with interfaces := (interfacesOf snapshot).values } := by
  refine ⟨_, if_pos ?_, rfl⟩
  split
  · next index d last =>
    have least := below index d (Table.mem_entries.mp (List.mem_of_getLast? last))
    exact Nat.lt_of_le_of_lt (UInt32.lt_iff_toNat_lt.mp least) bound.toNat_lt
  · decide

/-- The interfaces that are dumped are listed by increasing indexes. -/
theorem pairwise_snapshot (h : t.links.WellIndexed) :
    (t.snapshot.interfaces.map (·.index)).Pairwise (· < ·) := by
  show ((t.links.interfaces.entries.map Prod.snd).map _).Pairwise _
  rw [List.map_map, List.pairwise_map]
  refine t.links.interfaces.ascending.imp_of_mem fun {e f} he hf below => ?_
  rw [Function.comp_apply, Function.comp_apply, h.own e.1 e.2 (Table.mem_entries.mp he),
    h.own f.1 f.2 (Table.mem_entries.mp hf)]
  exact below

/-- The interfaces of a dump are again those that were dumped, and the device. -/
theorem interfacesOf_snapshot (h : t.links.WellIndexed) :
    interfacesOf t.snapshot = if t.links.interfaces.contains 0 then t.links.interfaces
      else t.links.interfaces.insert 0 { internalName := Interface.localName } := by
  have listed : t.snapshot.interfaces.map (fun d => (d.index, d)) = t.links.interfaces.entries := by
    show (t.links.interfaces.entries.map Prod.snd).map _ = _
    rw [List.map_map]
    refine (List.map_congr_left fun e he => ?_).trans (List.map_id _)
    rw [Function.comp_apply, h.own e.1 e.2 (Table.mem_entries.mp he)]
    rfl
  rw [interfacesOf, listed, Table.ofList_entries]

/-- What a dataplane holds is what one that is made of it holds, exactly if the device is there. -/
theorem exists_rebuilt (h : t.links.WellIndexed) :
    ∃ u, ofSnapshot? t.snapshot = some u ∧ (u.snapshot = t.snapshot ↔ t.links.Has 0) := by
  have rebuilt := interfacesOf_snapshot h
  have below : ∀ j d, (interfacesOf t.snapshot).get? j = some d → j < t.links.nextIndex := by
    intro j d found
    rw [rebuilt] at found
    split at found
    · exact h.bounded.below j d found
    · rw [Table.get?_insert] at found
      split at found
      · next zero => exact zero ▸ h.bounded.positive
      · exact h.bounded.below j d found
  obtain ⟨u, made, held⟩ := exists_ofSnapshot? below
  refine ⟨u, made, ?_⟩
  rw [held, rebuilt]
  split
  · next device => exact iff_of_true rfl (Table.contains_iff.mp device)
  · next absent =>
    refine iff_of_false (fun same => ?_) (mt Table.contains_iff.mpr absent)
    -- with the device there is one interface more
    have none_ : t.links.interfaces.get? 0 = none := by
      simpa [Table.contains] using absent
    have longer := Table.size_insert none_ { internalName := Interface.localName }
    have equal := congrArg (fun r => r.interfaces.length) same
    simp [snapshot, Table.values, Table.size] at equal longer
    omega

/-- In every history of a dataplane that was made of a snapshot, every interface is under its own
index.  A new interface gets an index above those of all interfaces that there have ever been, so it
takes the place of none.  Dumps list the interfaces by increasing indexes.  And a dataplane can be
made of what is dumped; it holds the same, exactly if the device at index 0 has not been removed. -/
theorem indexes_fresh (start : ofSnapshot? snapshot = some s) (served : s.Serves xs t) :
    (∀ j d, t.links.interfaces.get? j = some d → d.index = j) ∧
    (∀ i index u, t.answer? (.interface (.configure i)) = some (.ok index, u) →
      (∀ ys zs v j, s.Serves ys v → v.Serves zs t → v.links.Has j → j < index) ∧
      (∃ d, u.links.interfaces.get? index = some d ∧ d.interface = i) ∧
      ∀ j d, t.links.interfaces.get? j = some d → j ≠ index ∧
        u.links.interfaces.get? j = some d) ∧
    (t.snapshot.interfaces.map (·.index)).Pairwise (· < ·) ∧
    ∃ u, ofSnapshot? t.snapshot = some u ∧
      (u.snapshot = t.snapshot ↔ ∀ x ∈ xs, x.removed? ≠ some 0) := by
  have initial := wellIndexed_of_ofSnapshot? start
  have now := served.wellIndexed initial
  refine ⟨now.own, fun i index u given => ?_, pairwise_snapshot now, ?_⟩
  · obtain ⟨rfl, there, others⟩ := of_created now given
    refine ⟨fun ys zs v j before after held => ?_, there, others⟩
    obtain ⟨d, found⟩ := held
    have below := (before.wellIndexed initial).bounded.below j d found
    exact UInt32.lt_of_lt_of_le below after.nextIndex_le
  · obtain ⟨interfaces, -, -⟩ := ofSnapshot?_eq_some start
    have device : s.links.Has 0 := by
      unfold Links.Has
      rw [interfaces]
      exact device_interfacesOf snapshot
    obtain ⟨u, made, same⟩ := exists_rebuilt now
    exact ⟨u, made, same.trans (served.has_zero initial device)⟩

/-- Two interfaces at one index, of which the last one counts, another one below them, and gaps. -/
def atollSnapshot : Snapshot where
  interfaces :=
    [{ interface := { name := "reef" }, internalName := "loop4", index := 4 },
     { interface := { name := "lagoon" }, internalName := "loop4", index := 4 },
     { internalName := "loop2", index := 2 }]

/-- The interface at index 4 is removed, and a new one gets index 5 all the same. -/
theorem indexes_fresh_atoll :
    ∃ s xs t u w, ofSnapshot? atollSnapshot = some s ∧ s.Serves xs t ∧
      t.answer? (.interface (.configure { name := "shoal" })) = some (.ok 5, u) ∧
      s.links.Has 4 ∧ ¬ t.links.Has 4 ∧ (4 : UInt32) < 5 ∧ u.links.Has 5 ∧
      ofSnapshot? t.snapshot = some w ∧ w.snapshot = t.snapshot := by
  have goes : (ofSnapshot? atollSnapshot).any (fun s =>
      s.links.interfaces.contains 4 &&
      (s.serve? [.interface (.delete { name := "lagoon" } 4), .interface (.setTag "sand" 2)]).any
        fun x => x.1.all (fun y => y.removed? != some 0) && !x.2.links.interfaces.contains 4 &&
          (x.2.answer? (.interface (.configure { name := "shoal" }))).any fun y =>
            match y.1 with
            | .ok index => index == 5
            | .error _ => false) = true := by
    decide +kernel
  obtain ⟨s, start, goes⟩ := (Option.any_eq_true _ _).mp goes
  obtain ⟨before, goes⟩ := Bool.and_eq_true_iff.mp goes
  obtain ⟨⟨xs, t⟩, asked, goes⟩ := (Option.any_eq_true _ _).mp goes
  simp only [Bool.and_eq_true, List.all_eq_true, bne_iff_ne, Bool.not_eq_true'] at goes
  obtain ⟨⟨stays, gone⟩, goes⟩ := goes
  obtain ⟨⟨answer, u⟩, given, five⟩ := (Option.any_eq_true _ _).mp goes
  have served := serves_of_serve? asked
  cases answer with
  | error => contradiction
  | ok index =>
    obtain rfl : index = 5 := beq_iff_eq.mp five
    obtain ⟨-, fresh, -, w, made, same⟩ := indexes_fresh start served
    obtain ⟨above, ⟨d, there, -⟩, -⟩ := fresh _ _ u given
    have held : s.links.Has 4 := Table.contains_iff.mp before
    refine ⟨s, xs, t, u, w, start, served, given, held, fun there => ?_,
      above [] xs s 4 .start served held, ⟨d, there⟩, made, same.mpr stays⟩
    rw [Table.contains_iff.mpr there] at gone
    contradiction

end Simulation

end DataplaneSync
