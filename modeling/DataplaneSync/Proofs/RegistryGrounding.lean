import DataplaneSync.Proofs.InterfacePass

namespace DataplaneSync

/-!
# What is registered is there

When a pass over the interfaces ends, well or not, every registered name stands for the index of
an interface that the dataplane has at that moment.  Nothing is asked of the tags, of the wanted
interfaces, or of the calls that are refused.

* `Registry.Grounded` — all that is registered is there.
* `Footing` — in the middle of a pass, what is ahead of it is there too, and is not registered.
* `InterfaceReconciler.ensures_grounded` — the whole pass.
-/

/-! ### Indexes -/

/-- There is an interface at an index. -/
def Links.Has (l : Links) (index : UInt32) : Prop := ∃ d, l.interfaces.get? index = some d

namespace Links

variable {l : Links} {index j : UInt32} {d : InterfaceDetails} {i : Interface}

theorem Has.replace (h : l.Has j) : (l.replace d index i).Has j := by
  unfold Has
  rw [(updated_replace l index d i).get?]
  split
  · exact ⟨_, rfl⟩
  · exact h

theorem Has.tagged {tag : String} (h : l.Has j) : (InterfaceCall.tagged l index d tag).Has j := by
  unfold InterfaceCall.tagged
  split
  · exact h
  · exact h.replace

theorem Has.without (h : l.Has j) (other : j ≠ index) :
    (InterfaceCall.without l index).Has j := by
  unfold Has
  rw [(updated_without l index).get?_ne other]
  exact h

theorem has_added : (InterfaceCall.added l i).Has l.nextIndex := by
  unfold Has
  rw [InterfaceCall.get?_added, if_pos rfl]
  exact ⟨_, rfl⟩

theorem Has.added (h : l.Has j) : (InterfaceCall.added l i).Has j := by
  by_cases new : j = l.nextIndex
  · exact new ▸ has_added
  · unfold Has
    rw [InterfaceCall.get?_added, if_neg new]
    exact h

end Links

/-! ### Registries -/

variable {registry : Registry Interface} {l l' : Links} {ahead ahead' : UInt32 → Prop}
variable {index : UInt32}

/-- Every registered name stands for the index of an interface that is there. -/
def Registry.Grounded (registry : Registry Interface) (l : Links) : Prop :=
  ∀ name index data, registry.lookup? name = some (index, data) → l.Has index

/-- How things stand while some indexes are ahead of a pass: there are interfaces at them, and
at the registered indexes, which are others. -/
structure Footing (ahead : UInt32 → Prop) (registry : Registry Interface) (l : Links) : Prop where
  there : ∀ j, ahead j → l.Has j
  registered : ∀ name index data, registry.lookup? name = some (index, data) →
    ¬ ahead index ∧ l.Has index

namespace Footing

theorem grounded (h : Footing ahead registry l) : registry.Grounded l :=
  fun name index data found => (h.registered name index data found).2

/-- As long as no interface goes away, one that was ahead may be registered. -/
theorem register (h : Footing ahead registry l) (here : ahead index)
    (passed : ∀ j, ahead' j ↔ ahead j ∧ j ≠ index) (stays : ∀ j, l.Has j → l'.Has j)
    (name : String) (data : Interface) :
    Footing ahead' (registry.register name index data) l' where
  there j before := stays j (h.there j ((passed j).mp before).1)
  registered := by
    intro other j e found
    rw [Registry.lookup?_register] at found
    split at found
    · -- the interface is behind now, and it was there while it was ahead
      obtain ⟨rfl, rfl⟩ := Prod.mk.inj (Option.some.inj found)
      exact ⟨fun still => ((passed _).mp still).2 rfl, stays _ (h.there _ here)⟩
    · obtain ⟨gone, there⟩ := h.registered other j e found
      exact ⟨fun still => gone ((passed j).mp still).1, stays j there⟩

/-- Once an interface that was ahead has gone away, with the name that was registered for it,
nothing else is registered under its index. -/
theorem removed (h : Footing ahead registry l) (here : ahead index)
    (passed : ∀ j, ahead' j ↔ ahead j ∧ j ≠ index)
    (stays : ∀ j, j ≠ index → l.Has j → l'.Has j) (name : String) (data : Interface) :
    Footing ahead' ((registry.register name index data).drop name) l' where
  there := by
    intro j before
    obtain ⟨before, other⟩ := (passed j).mp before
    exact stays j other (h.there j before)
  registered := by
    intro other j e found
    rw [Registry.lookup?_drop, Registry.lookup?_register] at found
    by_cases same : other = name
    · rw [if_pos same] at found
      contradiction
    · rw [if_neg same, if_neg same] at found
      obtain ⟨gone, there⟩ := h.registered other j e found
      -- what was registered before is not ahead, so it is not the one that goes away
      have apart : j ≠ index := by
        rintro rfl
        exact gone here
      exact ⟨fun still => gone ((passed j).mp still).1, stays j apart there⟩

/-- A new interface may be registered once nothing is ahead. -/
theorem added (h : Footing (fun _ => False) registry l) (i : Interface) (name : String)
    (data : Interface) :
    Footing (fun _ => False) (registry.register name l.nextIndex data)
      (InterfaceCall.added l i) where
  there j before := before.elim
  registered := by
    intro other j e found
    rw [Registry.lookup?_register] at found
    split at found
    · obtain ⟨rfl, rfl⟩ := Prod.mk.inj (Option.some.inj found)
      exact ⟨id, Links.has_added⟩
    · exact ⟨id, (h.registered other j e found).2.added⟩

end Footing

/-! ### Steps -/

/-- Whether a call is about interfaces. -/
def Call.IsInterface (c : Call) : Prop := ∃ call, c = .interface call

namespace InterfaceReconciler

open InterfaceCall

variable {unreliable : Prop} {r : InterfaceReconciler} {d : InterfaceDetails} {w : Interface}
variable {wanted : List Interface} {name : String}

/-- An interface is registered and then kept for a wanted one. -/
theorem ensures_adopt_footing (h : Footing ahead r.registry l) (connected : r.connected = true)
    (here : ahead index) (passed : ∀ j, ahead' j ↔ ahead j ∧ j ≠ index) :
    Pass.Ensures (Links.behaviour unreliable Call.IsInterface)
      (do register w.name index w; adjust w d.interface index) r l
      (fun _ r' l' => Footing ahead' r'.registry l' ∧ r'.connected = true)
      (fun _ r' l' => r'.registry.Grounded l') := by
  obtain ⟨e, present⟩ := h.there index here
  have enrolled := h.register here passed (fun _ there => there) w.name w
  rw [Pass.ensures_bind]
  refine ensures_register present ⟨_, rfl⟩ (fun r₁ registered connected₁ => ?_)
    fun _ _ => enrolled.grounded
  have stays : ∀ j, l.Has j → (tagged l index e w.name).Has j := fun _ there => there.tagged
  have tagged := h.register here passed stays w.name w
  rw [← registered] at tagged
  -- the interface is still there, so it can be modified
  obtain ⟨e', present'⟩ := stays index ⟨e, present⟩
  refine ensures_adjust present' (fun _ _ => ⟨_, rfl⟩)
    (fun _ => ⟨tagged, connected₁.trans connected⟩)
    (fun r₂ same connected₂ => ⟨?_, connected₂.trans (connected₁.trans connected)⟩)
    fun _ _ => tagged.grounded
  rw [same, registered]
  exact h.register here passed (fun j there => (stays j there).replace) w.name w

/-- An interface is registered and then removed. -/
theorem ensures_discard_footing (h : Footing ahead r.registry l) (connected : r.connected = true)
    (here : ahead index) (passed : ∀ j, ahead' j ↔ ahead j ∧ j ≠ index) :
    Pass.Ensures (Links.behaviour unreliable Call.IsInterface)
      (do register name index d.interface; remove name d.interface index) r l
      (fun _ r' l' => Footing ahead' r'.registry l' ∧ r'.connected = true)
      (fun _ r' l' => r'.registry.Grounded l') := by
  obtain ⟨e, present⟩ := h.there index here
  have enrolled := h.register here passed (fun _ there => there) name d.interface
  rw [Pass.ensures_bind]
  refine ensures_register present ⟨_, rfl⟩ (fun r₁ registered connected₁ => ?_)
    fun _ _ => enrolled.grounded
  have stays : ∀ j, l.Has j → (tagged l index e name).Has j := fun _ there => there.tagged
  have tagged := h.register here passed stays name d.interface
  rw [← registered] at tagged
  obtain ⟨e', present'⟩ := stays index ⟨e, present⟩
  refine ensures_remove present' ⟨d.interface, by simp [registered]⟩ ⟨_, rfl⟩
    (fun r₂ dropped connected₂ => ⟨?_, connected₂.trans (connected₁.trans connected)⟩)
    fun _ _ => tagged.grounded
  rw [dropped, registered]
  exact h.removed here passed (fun j other there => (stays j there).without other) name d.interface

/-- Dealing with the device or with a tagged interface leaves it behind. -/
theorem ensures_settleTagged_footing (h : Footing ahead r.registry l)
    (connected : r.connected = true) (here : ahead index)
    (passed : index = 0 ∨ d.interface.isTagged = true → ∀ j, ahead' j ↔ ahead j ∧ j ≠ index)
    (later : index ≠ 0 → d.interface.isTagged = false → ∀ j, ahead' j ↔ ahead j) :
    Pass.Ensures (Links.behaviour unreliable Call.IsInterface) (settleTagged wanted index d) r l
      (fun _ r' l' => Footing ahead' r'.registry l' ∧ r'.connected = true)
      (fun _ r' l' => r'.registry.Grounded l') := by
  obtain ⟨e, present⟩ := h.there index here
  unfold settleTagged
  by_cases zero : index = 0
  · rw [if_pos zero]
    have passed := passed (Or.inl zero)
    have enrolled := h.register here passed (fun _ there => there) d.internalName d.interface
    refine ensures_register present ⟨_, rfl⟩ (fun r' registered connected' =>
      ⟨?_, connected'.trans connected⟩) fun _ _ => enrolled.grounded
    rw [registered]
    exact h.register here passed (fun _ there => there.tagged) d.internalName d.interface
  rw [if_neg zero]
  cases tag : d.interface.isTagged with
  | false =>
    have same : ahead' = ahead := funext fun j => propext (later zero tag j)
    exact ⟨same ▸ h, connected⟩
  | true =>
    have passed := passed (Or.inr tag)
    simp only [Bool.not_true, Bool.false_eq_true, if_false]
    split
    · exact ensures_adopt_footing h connected here passed
    · exact ensures_discard_footing h connected here passed

/-- Dealing with an untagged interface leaves it behind. -/
theorem ensures_settleUntagged_footing (h : Footing ahead r.registry l)
    (connected : r.connected = true) (here : ahead index)
    (passed : ∀ j, ahead' j ↔ ahead j ∧ j ≠ index) :
    Pass.Ensures (Links.behaviour unreliable Call.IsInterface) (settleUntagged wanted index d) r l
      (fun _ r' l' => Footing ahead' r'.registry l' ∧ r'.connected = true)
      (fun _ r' l' => r'.registry.Grounded l') := by
  simp only [settleUntagged, Pass.ensures_bind, Pass.ensures_get]
  split
  · exact ensures_adopt_footing h connected here passed
  · exact ensures_discard_footing h connected here passed

/-- Creating an interface registers one that is there. -/
theorem ensures_settleMissing_footing (h : Footing (fun _ => False) r.registry l)
    (connected : r.connected = true) :
    Pass.Ensures (Links.behaviour unreliable Call.IsInterface) (settleMissing w) r l
      (fun _ r' l' => Footing (fun _ => False) r'.registry l' ∧ r'.connected = true)
      (fun _ r' l' => r'.registry.Grounded l') := by
  simp only [settleMissing, Pass.ensures_bind, Pass.ensures_get]
  split
  · exact ⟨h, connected⟩
  · refine ensures_create ⟨_, rfl⟩ (fun r' room registered connected' =>
      ⟨?_, connected'.trans connected⟩) fun _ _ => h.grounded
    rw [registered]
    exact h.added w w.name w

/-! ### The pass -/

/-- Wherever a pass ends, all that is registered is there. -/
theorem ensures_grounded (connected : r.connected = true) :
    Pass.Ensures (Links.behaviour unreliable Call.IsInterface) (reconcile wanted) r l
      (fun _ r' l' => r'.registry.Grounded l' ∧ r'.connected = true)
      (fun _ r' l' => r'.registry.Grounded l') := by
  have there : ∀ j, Among l.interfaces.entries j → l.Has j :=
    fun j ⟨d, member⟩ => ⟨d, Table.mem_entries.mp member⟩
  refine ensures_reconcile (F := Registry.Grounded)
    (fun rest registry l' =>
      Footing (aheadOf rest (l.interfaces.entries.filter isUntagged)) registry l')
    (fun rest registry l' => Footing (Among rest) registry l')
    (fun _ registry l' => Footing (fun _ => False) registry l')
    connected ⟨_, rfl⟩ ⟨_, rfl⟩ ?start ?tagged ?between ?untagged ?after ?missing ?finish
    ?unstarted ?unrefreshed
  -- in the first round, what is left for the second one is ahead as well
  case start =>
    refine ⟨fun j before => there j ?_, fun _ _ _ found => nomatch found⟩
    rcases before with first | ⟨d, second⟩
    · exact first
    · exact ⟨d, List.filter_sublist.subset second⟩
  case tagged =>
    intro x rest suffix r' l' footing connected
    exact ensures_settleTagged_footing footing connected (Or.inl ⟨x.2, List.mem_cons_self⟩)
      (aheadOf_of_settled suffix) (aheadOf_of_untagged suffix)
  case between =>
    intro registry l' footing
    exact aheadOf_nil _ ▸ footing
  case untagged =>
    intro x rest suffix r' l' footing connected
    exact ensures_settleUntagged_footing footing connected ⟨x.2, List.mem_cons_self⟩
      (among_rest (suffix.sublist.trans List.filter_sublist))
  case after =>
    intro registry l' footing
    exact among_nil ▸ footing
  case missing =>
    exact fun w rest suffix r' l' => ensures_settleMissing_footing
  case finish => exact fun registry l' footing => footing.grounded
  case unstarted =>
    intro _ _ r' empty _ name index data found
    rw [empty] at found
    contradiction
  case unrefreshed => exact fun _ _ _ _ grounded _ => grounded

end InterfaceReconciler

end DataplaneSync
