import DataplaneSync.Proofs.InterfaceInvariant
import DataplaneSync.Proofs.Validation
import Mathlib.Data.List.Nodup

namespace DataplaneSync

/-!
# A whole pass over the interfaces

What a pass ensures, whatever it finds: if it comes to its end, every interface will do for a
wanted one of its name and every wanted one is registered.  If names tell the dumped interfaces
apart, they do so at each point at which the pass may be cut short, and at its end the registry
shows exactly what is there.

* `Proper` — what validation promises of wanted interfaces.
* `ensures_settleTagged_under`, `ensures_settleUntagged_under`, `ensures_settleMissing_under` —
  each step keeps the invariants.
* `ensures_pass` — the whole pass.
-/

open Interface Links

/-- What is promised of a list of wanted interfaces: they have names, and different ones.  Where
names are to tell interfaces apart, no wanted name is one that the pass uses itself. -/
structure Proper (neat : Prop) (wanted : List Interface) : Prop where
  named : ∀ w ∈ wanted, w.name ≠ ""
  apart : ∀ v ∈ wanted, ∀ w ∈ wanted, v.name = w.name → v = w
  ordinary : neat → ∀ w ∈ wanted, w.name ≠ placeholderName ∧ w.name ≠ localName

/-- Whether validation accepts a list of wanted interfaces. -/
def Interface.Accepted (wanted : List Interface) : Prop :=
  Configuration.validate { desired := { interfaces := wanted } } = .ok ()

theorem Proper.of_accepted {neat : Prop} {wanted : List Interface} (accepted : Accepted wanted)
    (ordinary : neat → ∀ w ∈ wanted, w.name ≠ placeholderName ∧ w.name ≠ localName) :
    Proper neat wanted where
  named := (Configuration.validate_eq_ok_iff.mp accepted).1.2
  apart _ hv _ hw same :=
    List.inj_on_of_nodup_map (Configuration.validate_eq_ok_iff.mp accepted).1.1 hv hw same
  ordinary := ordinary

/-- How things stand in the middle of a pass: what holds in any case, and what holds if names
tell the dumped interfaces apart. -/
structure Progress (neat : Prop) (wanted : List Interface)
    (actual : Table UInt32 InterfaceDetails) (ahead : UInt32 → Prop)
    (registry : Registry Interface) (l : Links) : Prop where
  underway : Underway wanted actual ahead registry l
  orderly : neat → Orderly ahead registry l

/-- How things stand once nothing is ahead: every wanted interface is registered. -/
structure Finished (neat : Prop) (wanted : List Interface)
    (registry : Registry Interface) (l : Links) : Prop where
  progress : Progress neat wanted ∅ (fun _ => False) registry l
  all : ∀ w ∈ wanted, registry.contains w.name = true

/-- How things stand between two passes. -/
structure Steady (neat : Prop) (r : InterfaceReconciler) (l : Links) : Prop where
  bounded : l.Bounded
  tagged : neat → l.interfaces.WellTagged
  connected : r.connected = true

/-- Every dataplane has a device at index 0. -/
theorem Simulation.device_interfacesOf (snapshot : Snapshot) :
    ∃ d, (interfacesOf snapshot).get? 0 = some d := by
  unfold interfacesOf
  dsimp only
  split
  · next given => exact Table.contains_iff.mp given
  · exact ⟨_, by rw [Table.get?_insert, if_pos rfl]⟩

/-- A dataplane that holds a snapshot has its interfaces, with indexes left above them, and no
call is set to fail. -/
theorem Simulation.ofSnapshot?_eq_some {snapshot : Snapshot} {s : Simulation}
    (start : ofSnapshot? snapshot = some s) :
    s.links.interfaces = interfacesOf snapshot ∧ s.links.Bounded ∧ s.failing = [] := by
  obtain ⟨device, there⟩ := device_interfacesOf snapshot
  cases last : (interfacesOf snapshot).last? with
  | none =>
    have empty : (interfacesOf snapshot).entries = [] := List.getLast?_eq_none_iff.mp last
    exact nomatch empty ▸ Table.mem_of_get? there
  | some e =>
    simp only [ofSnapshot?, last] at start
    split at start
    · next room =>
      obtain rfl := Option.some.inj start
      have next : (UInt32.ofNat (e.1.toNat + 1)).toNat = e.1.toNat + 1 :=
        UInt32.toNat_ofNat_of_lt' room
      refine ⟨rfl, ⟨?_, fun j d found => ?_⟩, rfl⟩
      · rw [UInt32.lt_iff_toNat_lt, next]
        exact Nat.succ_pos _
      · rw [UInt32.lt_iff_toNat_lt, next]
        rcases Table.lt_last last found with below | same
        · exact Nat.lt_succ_of_lt (UInt32.lt_iff_toNat_lt.mp below)
        · exact same ▸ Nat.lt_succ_self _
    · contradiction

namespace InterfaceReconciler

open InterfaceCall

variable {unreliable neat : Prop} {r : InterfaceReconciler} {l : Links}
variable {wanted : List Interface} {actual : Table UInt32 InterfaceDetails}
variable {ahead ahead' : UInt32 → Prop} {index : UInt32} {d : InterfaceDetails}

/-! ### Steps -/

/-- An interface that had no name, but has got one that nothing else has. -/
theorem steady_retagged {name : String} {r' : InterfaceReconciler} {l' : Links}
    (progress : Progress neat wanted actual ahead r.registry l) (connected : r'.connected = true)
    (present : l.interfaces.get? index = some d) (device : index ≠ 0)
    (unclaimed : neat → l.interfaces.Unclaimed name index)
    (changed : l' = l ∨ l.Updated index (some (d.retagged name)) l') : Steady neat r' l' := by
  rcases changed with rfl | changed
  · exact ⟨progress.underway.bounded, fun h => (progress.orderly h).tagged, connected⟩
  · refine ⟨progress.underway.bounded.updated ⟨d, present⟩ changed, fun h => ?_, connected⟩
    have named : (d.retagged name).nameAt index = name := InterfaceDetails.nameAt_of_ne _ device
    exact (progress.orderly h).tagged.put (named.symm ▸ unclaimed h)
      (fun zero => absurd zero device) changed.get?

/-- Once an interface has been kept for a wanted one, it is no longer ahead. -/
theorem Progress.adopted {w kept : Interface} {l' : Links} {registry registry' : Registry Interface}
    (progress : Progress neat wanted actual ahead registry l) (member : w ∈ wanted)
    (here : ahead index) (present : l.interfaces.get? index = some d)
    (passed : ∀ j, ahead' j ↔ ahead j ∧ j ≠ index) (device : index ≠ 0)
    (unclaimed : neat → l.interfaces.Unclaimed w.name index)
    (registered : registry' = registry.register w.name index w)
    (named : kept.name = w.name) (suits : Suits w kept)
    (changed : l.Updated index (some { d with interface := kept }) l') :
    Progress neat wanted actual ahead' registry' l' := by
  have name : w.name = InterfaceDetails.nameAt { d with interface := kept } index := by
    rw [InterfaceDetails.nameAt_of_ne _ device]
    exact named.symm
  have bounded := progress.underway.bounded.updated ⟨d, present⟩ changed
  rw [registered, name]
  refine ⟨progress.underway.put (Or.inl here) passed changed.get? bounded
    (fun _ => ⟨w, member, named.symm, suits⟩) w, fun h => ?_⟩
  exact (progress.orderly h).put progress.underway (Or.inl here) passed changed.get?
    (name ▸ unclaimed h) (fun zero => absurd zero device) w

/-- Once an interface has been removed, it is no longer ahead. -/
theorem Progress.discarded {name : String} {data : Interface} {l' : Links}
    {registry registry' : Registry Interface}
    (progress : Progress neat wanted actual ahead registry l)
    (here : ahead index) (present : l.interfaces.get? index = some d)
    (passed : ∀ j, ahead' j ↔ ahead j ∧ j ≠ index) (device : index ≠ 0)
    (unclaimed : neat → l.interfaces.Unclaimed name index)
    (registered : registry' = (registry.register name index data).drop name)
    (changed : l.Updated index none l') : Progress neat wanted actual ahead' registry' l' := by
  have bounded := progress.underway.bounded.updated ⟨d, present⟩ changed
  rw [registered]
  exact ⟨progress.underway.removed here passed changed bounded name data, fun h =>
    (progress.orderly h).removed progress.underway here passed device changed (unclaimed h) data⟩

/-- Dealing with the device or with a tagged interface leaves it behind. -/
theorem ensures_settleTagged_under (progress : Progress neat wanted actual ahead r.registry l)
    (connected : r.connected = true) (here : ahead index)
    (dumped : actual.get? index = some d)
    (passed : index = 0 ∨ d.interface.isTagged = true → ∀ j, ahead' j ↔ ahead j ∧ j ≠ index)
    (later : index ≠ 0 → d.interface.isTagged = false → ∀ j, ahead' j ↔ ahead j) :
    Pass.Ensures (Links.behaviour unreliable fun _ => True) (settleTagged wanted index d) r l
      (fun _ r' l' => Progress neat wanted actual ahead' r'.registry l' ∧ r'.connected = true)
      (fun _ r' l' => unreliable ∧ Steady neat r' l') := by
  have present : l.interfaces.get? index = some d :=
    (progress.underway.untouched index here).trans dumped
  -- a tag that is kept is one that nothing else has
  have unclaimed : index ≠ 0 → d.interface.isTagged = true → neat →
      l.interfaces.Unclaimed d.interface.name index := by
    intro device tagged h
    have name : d.nameAt index = d.interface.name := d.nameAt_of_ne device
    have some_ : d.interface.name ≠ "" := by simpa [isTagged] using tagged
    exact name ▸ (progress.orderly h).tagged.unclaimed present (name ▸ some_)
  refine ensures_settleTagged present ?device ?later ?adopted ?discarded ?failed
  case device =>
    rintro rfl r' registered connected'
    have passed := passed (Or.inl rfl)
    -- the device gets no tag, so it is put where it is
    have still : ∀ j, l.interfaces.get? j =
        if j = 0 then some d else l.interfaces.get? j := by
      intro j
      split
      · next zero => rw [zero, present]
      · rfl
    refine ⟨⟨?_, fun h => ?_⟩, connected'.trans connected⟩
    · rw [registered]
      exact progress.underway.put (Or.inl here) passed still progress.underway.bounded
        (fun device => absurd rfl device) d.interface
    · obtain ⟨d', there, name⟩ := (progress.orderly h).tagged.device
      obtain rfl : d = d' := Option.some.inj (present.symm.trans there)
      have some_ : d.nameAt 0 ≠ "" := by
        rw [InterfaceDetails.nameAt_zero, name]
        decide
      rw [registered]
      exact (progress.orderly h).put progress.underway (Or.inl here) passed still
        ((progress.orderly h).tagged.unclaimed present some_) (fun _ => name) d.interface
  case later =>
    intro device untagged
    have same : ahead' = ahead := funext fun j => propext (later device untagged j)
    exact ⟨same ▸ progress, connected⟩
  case adopted =>
    intro device tagged w member name r' l' kept registered connected' named suits changed
    refine ⟨?_, connected'.trans connected⟩
    exact Progress.adopted progress member here present (passed (Or.inr tagged)) device
      (name ▸ unclaimed device tagged) registered named suits changed
  case discarded =>
    intro device tagged unwanted r' l' registered connected' changed
    refine ⟨?_, connected'.trans connected⟩
    exact Progress.discarded progress here present (passed (Or.inr tagged)) device
      (unclaimed device tagged) registered changed
  case failed =>
    intro faulty e r' l' connected' entries next
    refine ⟨faulty, ⟨next ▸ progress.underway.bounded.positive, fun j e found => ?_⟩, fun h => ?_,
      connected'.trans connected⟩
    · rw [next]
      exact progress.underway.bounded.below j e (entries j ▸ found)
    · exact (progress.orderly h).tagged.congr entries

/-- Dealing with an untagged interface leaves it behind. -/
theorem ensures_settleUntagged_under (proper : Proper neat wanted)
    (progress : Progress neat wanted actual ahead r.registry l) (connected : r.connected = true)
    (here : ahead index) (dumped : actual.get? index = some d)
    (untagged : ∀ j e, ahead j → actual.get? j = some e → j ≠ 0 ∧ e.interface.name = "")
    (passed : ∀ j, ahead' j ↔ ahead j ∧ j ≠ index) :
    Pass.Ensures (Links.behaviour unreliable fun _ => True) (settleUntagged wanted index d) r l
      (fun _ r' l' => Progress neat wanted actual ahead' r'.registry l' ∧ r'.connected = true)
      (fun _ r' l' => unreliable ∧ Steady neat r' l') := by
  have present : l.interfaces.get? index = some d :=
    (progress.underway.untouched index here).trans dumped
  have device : index ≠ 0 := (untagged index d here dumped).1
  have nameless : ∀ j e, l.interfaces.get? j = some e → ahead j → e.nameAt j = "" := by
    intro j e found before
    obtain ⟨device, none_⟩ := untagged j e before (progress.underway.untouched j before ▸ found)
    rw [e.nameAt_of_ne device, none_]
  -- a wanted name that is not registered is nowhere yet
  have unclaimed : ∀ w ∈ wanted, r.registry.contains w.name = false → neat →
      l.interfaces.Unclaimed w.name index := by
    intro w member free h
    refine (progress.orderly h).unclaimed free fun j e found before _ same => ?_
    exact proper.named w member (same.symm.trans (nameless j e found before))
  -- the placeholder is never left behind
  have placeholder : neat → l.interfaces.Unclaimed placeholderName index := by
    intro h j e found other same
    by_cases zero : j = 0
    · subst zero
      obtain ⟨e', there, name⟩ := (progress.orderly h).tagged.device
      obtain rfl : e = e' := Option.some.inj (found.symm.trans there)
      rw [InterfaceDetails.nameAt_zero, name] at same
      exact absurd same (by decide)
    · rcases progress.underway.settled j e found zero with before | ⟨w, member, name, -⟩
      · rw [nameless j e found before] at same
        exact absurd same (by decide)
      · rw [e.nameAt_of_ne zero, ← name] at same
        exact (proper.ordinary h w member).1 same
  refine ensures_settleUntagged present device ?adopted ?discarded ?failed
  case adopted =>
    intro w member free r' l' kept registered connected' named suits changed
    refine ⟨?_, connected'.trans connected⟩
    exact Progress.adopted progress member here present passed device (unclaimed w member free)
      registered named suits changed
  case discarded =>
    intro r' l' registered connected' changed
    refine ⟨?_, connected'.trans connected⟩
    exact Progress.discarded progress here present passed device placeholder registered changed
  case failed =>
    intro faulty e r' l' name connected' chosen changed
    refine ⟨faulty, steady_retagged progress (connected'.trans connected) present device
      (fun h => ?_) changed⟩
    rcases chosen with rfl | ⟨free, w, member, rfl⟩
    · exact placeholder h
    · exact unclaimed w member free h

/-- Creating a missing interface keeps the invariants, and then its name is registered, as is
every name that was before. -/
theorem ensures_settleMissing_under {w : Interface} {rest : List Interface}
    (progress : Progress neat wanted actual (fun _ => False) r.registry l)
    (connected : r.connected = true) (member : w ∈ wanted)
    (known : ∀ v ∈ wanted, v ∈ w :: rest ∨ r.registry.contains v.name = true) :
    Pass.Ensures (Links.behaviour unreliable fun _ => True) (settleMissing w) r l
      (fun _ r' l' => (Progress neat wanted actual (fun _ => False) r'.registry l' ∧
        ∀ v ∈ wanted, v ∈ rest ∨ r'.registry.contains v.name = true) ∧ r'.connected = true)
      (fun _ r' l' => unreliable ∧ Steady neat r' l') := by
  refine ensures_settleMissing ?there ?created ?failed
  case there =>
    intro already
    exact ⟨⟨progress, ahead_or_done known already fun _ => id⟩, connected⟩
  case created =>
    intro absent r' room registered connected'
    -- nothing was at the index that the new interface gets
    have free : l.interfaces.get? l.nextIndex = none := progress.underway.bounded.fresh
    have passed : ∀ j, False ↔ False ∧ j ≠ l.nextIndex := by simp
    have device : l.nextIndex ≠ 0 := by
      intro zero
      exact UInt32.lt_irrefl 0 (zero ▸ progress.underway.bounded.positive)
    have changed := get?_added l w
    have bounded : (added l w).Bounded := progress.underway.bounded.added room w
    refine ⟨⟨?_, ahead_or_done known ?_ fun v done => ?_⟩, connected'.trans connected⟩
    · have name : w.name = (newEntry l w).nameAt l.nextIndex :=
        ((newEntry l w).nameAt_of_ne device).symm
      rw [registered, name]
      refine ⟨progress.underway.put (Or.inr free) passed changed bounded
        (fun _ => ⟨w, member, rfl, Or.inl rfl⟩) w, fun h => ?_⟩
      exact (progress.orderly h).put progress.underway (Or.inr free) passed changed
        (name ▸ (progress.orderly h).unclaimed absent fun _ _ _ => False.elim)
        (fun zero => absurd zero device) w
    · rw [registered, Registry.contains_register, decide_eq_true rfl, Bool.true_or]
    · rw [registered, Registry.contains_register, done, Bool.or_true]
  case failed =>
    exact fun faulty _ => ⟨faulty, progress.underway.bounded,
      fun h => (progress.orderly h).tagged, connected⟩

/-! ### The pass -/

/-- The indexes ahead in the first round: the dumped interfaces that were not looked at, and the
untagged ones, which are left for the second round. -/
def aheadOf (rest untagged : List (UInt32 × InterfaceDetails)) (j : UInt32) : Prop :=
  Among rest j ∨ Among untagged j

/-- After the first round the untagged interfaces are ahead. -/
theorem aheadOf_nil (untagged : List (UInt32 × InterfaceDetails)) :
    aheadOf [] untagged = Among untagged :=
  funext fun j => propext ⟨fun h => h.resolve_left (not_among_nil j), Or.inr⟩

/-- The untagged interfaces of a dump. -/
theorem mem_filter_isUntagged {t : Table UInt32 InterfaceDetails} {j : UInt32}
    {e : InterfaceDetails} :
    (j, e) ∈ t.entries.filter isUntagged ↔
      t.get? j = some e ∧ j ≠ 0 ∧ e.interface.isTagged = false := by
  rw [List.mem_filter, Table.mem_entries]
  simp [isUntagged]

/-- The device and a tagged interface are ahead in the first round only. -/
theorem aheadOf_of_settled {t : Table UInt32 InterfaceDetails} {x : UInt32 × InterfaceDetails}
    {rest : List (UInt32 × InterfaceDetails)} (suffix : x :: rest <:+ t.entries)
    (settled : x.1 = 0 ∨ x.2.interface.isTagged = true) (j : UInt32) :
    aheadOf rest (t.entries.filter isUntagged) j ↔
      aheadOf (x :: rest) (t.entries.filter isUntagged) j ∧ j ≠ x.1 := by
  have dumped : t.get? x.1 = some x.2 :=
    Table.mem_entries.mp (suffix.subset List.mem_cons_self)
  have gone : ¬ Among (t.entries.filter isUntagged) x.1 := by
    rintro ⟨e, there⟩
    obtain ⟨found, device, untagged⟩ := mem_filter_isUntagged.mp there
    obtain rfl : x.2 = e := Option.some.inj (dumped.symm.trans found)
    rcases settled with zero | tagged
    · exact device zero
    · exact nomatch untagged.symm.trans tagged
  have rest_ := among_rest suffix.sublist j
  unfold aheadOf
  grind

/-- An untagged interface is ahead in the second round too. -/
theorem aheadOf_of_untagged {t : Table UInt32 InterfaceDetails} {x : UInt32 × InterfaceDetails}
    {rest : List (UInt32 × InterfaceDetails)} (suffix : x :: rest <:+ t.entries)
    (device : x.1 ≠ 0) (untagged : x.2.interface.isTagged = false) (j : UInt32) :
    aheadOf rest (t.entries.filter isUntagged) j ↔
      aheadOf (x :: rest) (t.entries.filter isUntagged) j := by
  have dumped : t.get? x.1 = some x.2 :=
    Table.mem_entries.mp (suffix.subset List.mem_cons_self)
  have later : Among (t.entries.filter isUntagged) x.1 :=
    ⟨x.2, mem_filter_isUntagged.mpr ⟨dumped, device, untagged⟩⟩
  have rest_ := among_rest suffix.sublist j
  unfold aheadOf
  grind

/-- Whatever a pass finds, at its end every interface will do for a wanted one of its name, and
every wanted one is registered.  If it is cut short, names tell the interfaces apart as before. -/
theorem ensures_pass (proper : Proper neat wanted) (steady : Steady neat r l) :
    Pass.Ensures (Links.behaviour unreliable fun _ => True) (reconcile wanted) r l
      (fun _ r' l' => Finished neat wanted r'.registry l' ∧ r'.connected = true)
      (fun _ r' l' => unreliable ∧ Steady neat r' l') := by
  refine ensures_reconcile
    (fun rest registry l' => Progress neat wanted l.interfaces
      (aheadOf rest (l.interfaces.entries.filter isUntagged)) registry l')
    (fun rest registry l' => Progress neat wanted l.interfaces (Among rest) registry l')
    (fun rest registry l' => Progress neat wanted l.interfaces (fun _ => False) registry l' ∧
      ∀ v ∈ wanted, v ∈ rest ∨ registry.contains v.name = true)
    steady.connected trivial trivial ?start ?tagged ?between ?untagged ?after ?missing ?finish
    ?unstarted ?unrefreshed
  case start =>
    have all : ∀ j d, l.interfaces.get? j = some d →
        aheadOf l.interfaces.entries (l.interfaces.entries.filter isUntagged) j :=
      fun j d found => Or.inl ⟨d, Table.mem_entries.mpr found⟩
    exact ⟨Underway.start steady.bounded all, fun h => Orderly.start (steady.tagged h) all⟩
  case tagged =>
    intro x rest suffix r' l' progress connected
    have dumped : l.interfaces.get? x.1 = some x.2 :=
      Table.mem_entries.mp (suffix.subset List.mem_cons_self)
    exact ensures_settleTagged_under progress connected (Or.inl ⟨x.2, List.mem_cons_self⟩)
      dumped (aheadOf_of_settled suffix) (aheadOf_of_untagged suffix)
  case between =>
    intro registry l' progress
    exact aheadOf_nil _ ▸ progress
  case untagged =>
    intro x rest suffix r' l' progress connected
    have dumped := (mem_filter_isUntagged.mp (suffix.subset List.mem_cons_self)).1
    refine ensures_settleUntagged_under proper progress connected ⟨x.2, List.mem_cons_self⟩ dumped
      (fun j e before found => ?_)
      (among_rest (suffix.sublist.trans List.filter_sublist))
    obtain ⟨e', there⟩ := before
    obtain ⟨found', device, untagged⟩ := mem_filter_isUntagged.mp (suffix.subset there)
    obtain rfl : e = e' := Option.some.inj (found.symm.trans found')
    exact ⟨device, by simpa [isTagged] using untagged⟩
  case after =>
    intro registry l' progress
    exact ⟨among_nil ▸ progress, fun v hv => Or.inl hv⟩
  case missing =>
    intro w rest suffix r' l' state connected
    exact ensures_settleMissing_under state.1 connected (suffix.subset List.mem_cons_self) state.2
  case finish =>
    intro registry l' state
    refine ⟨?_, fun v hv => (state.2 v hv).resolve_left List.not_mem_nil⟩
    have underway := state.1.underway
    exact ⟨⟨fun _ => False.elim, underway.settled, underway.registered, underway.bounded⟩,
      state.1.orderly⟩
  case unstarted =>
    exact fun faulty _ _ _ connected => ⟨faulty, steady.bounded, steady.tagged, connected⟩
  case unrefreshed =>
    intro faulty _ _ l' finished connected
    exact ⟨faulty, finished.progress.underway.bounded,
      fun h => (finished.progress.orderly h).tagged, connected⟩

end InterfaceReconciler

end DataplaneSync
