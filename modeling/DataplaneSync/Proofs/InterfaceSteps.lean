import DataplaneSync.Interface.Reconciler
import DataplaneSync.Proofs.Behaviour
import DataplaneSync.Proofs.Lookup

namespace DataplaneSync

/-!
# Steps of a pass over the interfaces

What each step of a pass does to the registry and to the interfaces of the dataplane, and where
it may be cut short by a refusal.

* `perform_setTag`, `perform_modify`, `perform_delete` — no call is refused that is about an
  interface that is there; `perform_of_absent` — every other one is.
* `InterfaceCall.cases_of_perform` — all that a call can do.
* `ensures_register`, `ensures_adjust`, `ensures_remove`, `ensures_create` — the single steps.
* `ensures_adopt`, `ensures_discard` — what becomes of a dumped interface: it is kept for a
  wanted one, or removed.
* `ensures_stages`, `ensures_reconcile` — the whole pass, from what its stages keep.
-/

/-! ### Calls about an interface that is there -/

/-- The index that a call is about.  An interface that is to be created has none yet. -/
def Call.index? : Call → Option UInt32
  | interface (.setTag _ index) => some index
  | interface (.modify _ _ index) => some index
  | interface (.delete _ index) => some index
  | _ => none

namespace InterfaceCall

variable {l : Links} {index : UInt32} {d : InterfaceDetails}

/-- The dataplane once the interface at an index has a tag; the device at index 0 never has. -/
def tagged (l : Links) (index : UInt32) (d : InterfaceDetails) (tag : String) : Links :=
  if index = 0 then l else l.replace d index { d.interface with name := tag }

/-- The dataplane once there is no interface at an index, and no rule on it. -/
def without (l : Links) (index : UInt32) : Links :=
  { l with interfaces := l.interfaces.erase index, rules := l.rules.filter (·.index != index) }

/-- The entry of a new interface. -/
def newEntry (l : Links) (i : Interface) : InterfaceDetails where
  interface := i
  internalName := Links.internalName i.type l.nextIndex
  index := l.nextIndex

/-- The dataplane once a new interface has been created. -/
def added (l : Links) (i : Interface) : Links :=
  { l with
    interfaces := l.interfaces.insert l.nextIndex (newEntry l i)
    nextIndex := l.nextIndex + 1
    sockets := l.openSocket i }

theorem perform_setTag (present : l.interfaces.get? index = some d) (tag : String) :
    (setTag tag index).perform l = (.ok (), tagged l index d tag) := by
  refine (Effect.bind_of_ok (Links.find_of_some present)).trans ?_
  unfold tagged
  by_cases device : index = 0
  · rw [if_pos device, if_neg (not_not_intro device)]
    rfl
  · rw [if_neg device, if_pos device]
    rfl

theorem perform_modify (present : l.interfaces.get? index = some d) (wanted actual : Interface) :
    (modify wanted actual index).perform l = (.ok (), l.replace d index wanted) :=
  Effect.bind_of_ok (Links.find_of_some present)

theorem perform_delete (present : l.interfaces.get? index = some d) (actual : Interface) :
    (delete actual index).perform l = (.ok (), without l index) :=
  Effect.bind_of_ok (Links.take_of_some present)

theorem perform_configure (room : l.nextIndex.toNat + 1 < UInt32.size) (i : Interface) :
    (configure i).perform l = (.ok l.nextIndex, added l i) :=
  Links.create_of_room room

theorem get?_added (l : Links) (i : Interface) (j : UInt32) :
    (added l i).interfaces.get? j =
      if j = l.nextIndex then some (newEntry l i) else l.interfaces.get? j :=
  Table.get?_insert ..

/-- A call about an index where there is no interface is refused. -/
theorem perform_of_absent {c : InterfaceCall} (about : (Call.interface c).index? = some index)
    (absent : l.interfaces.get? index = none) :
    c.perform l = (.error (.refused (Links.missing index)), l) := by
  cases c with
  | setTag tag j =>
    obtain rfl := Option.some.inj about
    exact Effect.bind_of_error (Links.find_of_none absent)
  | modify wanted actual j =>
    obtain rfl := Option.some.inj about
    exact Effect.bind_of_error (Links.find_of_none absent)
  | delete actual j =>
    obtain rfl := Option.some.inj about
    exact Effect.bind_of_error (Links.take_of_none absent)
  | _ => contradiction

/-- A call about an index is carried out only where there is an interface. -/
theorem present_of_perform {c : InterfaceCall} {reply : c.Reply} {l' : Links}
    (about : (Call.interface c).index? = some index) (carried : c.perform l = (.ok reply, l')) :
    ∃ d, l.interfaces.get? index = some d := by
  cases found : l.interfaces.get? index with
  | some d => exact ⟨d, rfl⟩
  | none =>
    rw [perform_of_absent about found] at carried
    cases carried

/-- A call that is carried out leaves the dataplane as it is, puts another interface in the place
of one that is there, adds an interface or removes one.  Only a modification puts another interface
in the place of the device. -/
theorem cases_of_perform {c : InterfaceCall} {reply : c.Reply} {l' : Links}
    (carried : c.perform l = (.ok reply, l')) :
    l' = l ∨
      (∃ d index i, l.interfaces.get? index = some d ∧
        (index = 0 → ∃ wanted actual, c = modify wanted actual index) ∧
        l' = l.replace d index i) ∨
      (∃ i, c = configure i ∧ l.nextIndex.toNat + 1 < UInt32.size ∧ l' = added l i) ∨
      ∃ d actual index, l.interfaces.get? index = some d ∧ c = delete actual index ∧
        l' = without l index := by
  cases c with
  | dump => exact Or.inl (Prod.mk.inj carried).2.symm
  | dumpSockets => exact Or.inl (Prod.mk.inj carried).2.symm
  | setTag tag index =>
    obtain ⟨d, present⟩ := present_of_perform rfl carried
    rw [perform_setTag present] at carried
    obtain ⟨-, rfl⟩ := Prod.mk.inj carried
    by_cases zero : index = 0
    · exact Or.inl (if_pos zero)
    · exact Or.inr (Or.inl ⟨d, index, _, present, fun device => absurd device zero, if_neg zero⟩)
  | configure i =>
    by_cases room : l.nextIndex.toNat + 1 < UInt32.size
    · rw [perform_configure room] at carried
      obtain ⟨-, rfl⟩ := Prod.mk.inj carried
      exact Or.inr (Or.inr (Or.inl ⟨i, rfl, room, rfl⟩))
    · cases (Links.create_of_full room).symm.trans carried
  | modify wanted actual index =>
    obtain ⟨d, present⟩ := present_of_perform rfl carried
    rw [perform_modify present] at carried
    obtain ⟨-, rfl⟩ := Prod.mk.inj carried
    exact Or.inr (Or.inl ⟨d, index, wanted, present, fun _ => ⟨wanted, actual, rfl⟩, rfl⟩)
  | delete actual index =>
    obtain ⟨d, present⟩ := present_of_perform rfl carried
    rw [perform_delete present] at carried
    obtain ⟨-, rfl⟩ := Prod.mk.inj carried
    exact Or.inr (Or.inr (Or.inr ⟨d, actual, index, present, rfl, rfl⟩))

end InterfaceCall

/-! ### Changes of a single interface -/

/-- The entry of a dump with another tag. -/
def InterfaceDetails.retagged (d : InterfaceDetails) (tag : String) : InterfaceDetails :=
  { d with interface := { d.interface with name := tag } }

/-- The interfaces of `l'` are those of `l`, but for the one at an index. -/
structure Links.Updated (l : Links) (index : UInt32) (entry : Option InterfaceDetails)
    (l' : Links) : Prop where
  get? : ∀ j, l'.interfaces.get? j = if j = index then entry else l.interfaces.get? j
  nextIndex : l'.nextIndex = l.nextIndex

namespace Links

variable {l l' l'' : Links} {index : UInt32} {entry entry' : Option InterfaceDetails}

theorem Updated.get?_self (h : l.Updated index entry l') :
    l'.interfaces.get? index = entry := by
  rw [h.get?, if_pos rfl]

theorem Updated.get?_ne (h : l.Updated index entry l') {j : UInt32} (other : j ≠ index) :
    l'.interfaces.get? j = l.interfaces.get? j := by
  rw [h.get?, if_neg other]

/-- The later of two changes of one interface counts. -/
theorem Updated.trans (h : l.Updated index entry l') (h' : l'.Updated index entry' l'') :
    l.Updated index entry' l'' where
  get? j := by
    rw [h'.get?, h.get?]
    split <;> rfl
  nextIndex := h'.nextIndex.trans h.nextIndex

theorem updated_replace (l : Links) (index : UInt32) (d : InterfaceDetails) (i : Interface) :
    l.Updated index (some { d with interface := i }) (l.replace d index i) where
  get? j := by simp [replace]
  nextIndex := rfl

theorem updated_tagged (l : Links) (index : UInt32) (d : InterfaceDetails) (tag : String)
    (device : index ≠ 0) :
    l.Updated index (some (d.retagged tag)) (InterfaceCall.tagged l index d tag) := by
  rw [InterfaceCall.tagged, if_neg device]
  exact updated_replace l index d _

theorem updated_without (l : Links) (index : UInt32) :
    l.Updated index none (InterfaceCall.without l index) where
  get? j := by simp [InterfaceCall.without]
  nextIndex := rfl

end Links

/-- Whether an interface of the dataplane will do for a wanted one. -/
def Interface.Suits (wanted actual : Interface) : Prop :=
  actual = wanted ∨ firstDifference wanted actual = none

/-! ### Single steps -/

namespace InterfaceReconciler

open InterfaceCall Interface Links

variable {unreliable : Prop} {allowed : Call → Prop} {r : InterfaceReconciler} {l : Links}
variable {Q : Unit → InterfaceReconciler → Links → Prop}
variable {E : InterfaceFailure → InterfaceReconciler → Links → Prop}
variable {name : String} {index : UInt32} {d : InterfaceDetails} {i wanted actual : Interface}

/-- A change that can be carried out is, unless an unreliable dataplane refuses it. -/
theorem ensures_change {c : InterfaceCall} {reply : c.Reply} {l' : Links}
    {subject : Answer (.interface c) → AuditSubject} {failure : String → InterfaceFailure}
    {Q : c.Reply → InterfaceReconciler → Links → Prop}
    (carried : c.perform l = (.ok reply, l')) (permitted : allowed (.interface c))
    (done : Q reply r l') (failed : unreliable → ∀ reason, E (failure reason) r l) :
    Pass.Ensures (Links.behaviour unreliable allowed)
      (Pass.change (.interface c) subject failure) r l Q E := by
  rw [Pass.ensures_change]
  refine ⟨⟨rfl, permitted⟩, fun answer t given => ?_⟩
  rcases Effect.Gives.of_carried given carried with ⟨rfl, rfl⟩ | ⟨faulty, rfl, reason, rfl⟩
  · exact done
  · exact failed faulty reason

/-- What can be read is, unless an unreliable dataplane refuses it. -/
theorem ensures_dump {c : InterfaceCall} {reply : c.Reply}
    {failure : String → InterfaceFailure} {Q : c.Reply → InterfaceReconciler → Links → Prop}
    (carried : c.perform l = (.ok reply, l)) (permitted : allowed (.interface c))
    (done : Q reply r l) (failed : unreliable → ∀ reason, E (failure reason) r l) :
    Pass.Ensures (Links.behaviour unreliable allowed)
      (Pass.dump (.interface c) failure) r l Q E := by
  rw [Pass.ensures_dump]
  refine ⟨⟨rfl, permitted⟩, fun answer t given => ?_⟩
  rcases Effect.Gives.of_carried given carried with ⟨rfl, rfl⟩ | ⟨faulty, rfl, reason, rfl⟩
  · exact done
  · exact failed faulty reason

@[simp] theorem enroll_registry (r : InterfaceReconciler) :
    (enroll name index i r).registry = r.registry.register name index i := rfl

@[simp] theorem enroll_connected (r : InterfaceReconciler) :
    (enroll name index i r).connected = r.connected := rfl

@[simp] theorem cacheHost_registry (r : InterfaceReconciler) :
    (cacheHost name i r).registry = r.registry := by
  unfold cacheHost
  split <;> rfl

@[simp] theorem cacheHost_connected (r : InterfaceReconciler) :
    (cacheHost name i r).connected = r.connected := by
  unfold cacheHost
  split <;> rfl

@[simp] theorem cacheHost_skipRefresh (r : InterfaceReconciler) :
    (cacheHost name i r).skipRefresh = r.skipRefresh := by
  unfold cacheHost
  split <;> rfl

theorem dismiss_registry (registered : ∃ data, r.registry.lookup? name = some (index, data)) :
    (dismiss name index r).registry = r.registry.drop name := by
  obtain ⟨data, h⟩ := registered
  have found : r.registry.byName.get? name = some (index, data) := h
  simp [dismiss, Registry.drop, Registry.unregister, found]

@[simp] theorem dismiss_connected : (dismiss name index r).connected = r.connected := by
  unfold dismiss
  split
  · split <;> rfl
  · rfl

@[simp] theorem dismiss_skipRefresh : (dismiss name index r).skipRefresh = r.skipRefresh := by
  unfold dismiss
  split
  · split <;> rfl
  · rfl

@[simp] theorem dismiss_hosts : (dismiss name index r).hosts = r.hosts := by
  unfold dismiss
  split
  · split <;> rfl
  · rfl

/-- Registering an interface tags it. -/
theorem ensures_register (present : l.interfaces.get? index = some d)
    (permitted : allowed (.interface (.setTag name index)))
    (done : ∀ r' : InterfaceReconciler, r'.registry = r.registry.register name index i →
      r'.connected = r.connected → Q () r' (tagged l index d name))
    (failed : unreliable → ∀ reason, E (.tag name index reason) (enroll name index i r) l) :
    Pass.Ensures (Links.behaviour unreliable allowed) (register name index i) r l Q E := by
  simp only [register, Pass.ensures_bind, Pass.ensures_modify, Pass.ensures_get]
  exact ensures_change (perform_setTag present name) permitted (done _ (by simp) (by simp)) failed

/-- Adjusting an interface makes it the wanted one where it is not as wanted. -/
theorem ensures_adjust (present : l.interfaces.get? index = some d)
    (permitted : ∀ aspect, Interface.firstDifference wanted actual = some aspect →
      allowed (.interface (.modify wanted actual index)))
    (same : Interface.firstDifference wanted actual = none → Q () r l)
    (done : ∀ r' : InterfaceReconciler, r'.registry = r.registry → r'.connected = r.connected →
      Q () r' (l.replace d index wanted))
    (failed : unreliable → ∀ reason, E (.modify wanted.name reason) r l) :
    Pass.Ensures (Links.behaviour unreliable allowed) (adjust wanted actual index) r l Q E := by
  unfold adjust
  split
  · next h => exact same h
  · next aspect h =>
    simp only [Pass.ensures_bind, Pass.ensures_modify, Pass.ensures_get]
    exact ensures_change (perform_modify present wanted actual) (permitted aspect h)
      (done _ rfl rfl) failed

/-- Removing an interface drops the name under which it is registered. -/
theorem ensures_remove (present : l.interfaces.get? index = some d)
    (registered : ∃ data, r.registry.lookup? name = some (index, data))
    (permitted : allowed (.interface (.delete actual index)))
    (done : ∀ r' : InterfaceReconciler, r'.registry = r.registry.drop name →
      r'.connected = r.connected → Q () r' (without l index))
    (failed : unreliable → ∀ reason, E (.delete name index reason) r l) :
    Pass.Ensures (Links.behaviour unreliable allowed) (remove name actual index) r l Q E := by
  simp only [remove, Pass.ensures_bind, Pass.ensures_modify, Pass.ensures_get]
  exact ensures_change (perform_delete present actual) permitted
    (done _ (dismiss_registry registered) dismiss_connected) failed

/-- Creating an interface registers it under the index that it gets. -/
theorem ensures_create (permitted : allowed (.interface (.configure wanted)))
    (done : ∀ r' : InterfaceReconciler, l.nextIndex.toNat + 1 < UInt32.size →
      r'.registry = r.registry.register wanted.name l.nextIndex wanted →
      r'.connected = r.connected → Q () r' (added l wanted))
    (failed : unreliable → ∀ reason, E (.configure wanted.name reason) r l) :
    Pass.Ensures (Links.behaviour unreliable allowed) (create wanted) r l Q E := by
  simp only [create, Pass.ensures_bind, Pass.ensures_modify, Pass.ensures_get]
  by_cases room : l.nextIndex.toNat + 1 < UInt32.size
  · exact ensures_change (perform_configure room wanted) permitted
      (done _ room (by simp) (by simp)) failed
  · -- without an index left, the call is refused or not answered at all
    rw [Pass.ensures_change]
    refine ⟨⟨rfl, permitted⟩, fun answer t h => ?_⟩
    change Effect.Gives unreliable l (Links.create wanted l) answer t at h
    rw [Links.create_of_full room] at h
    cases h with
    | failed _ reason faulty => exact failed faulty reason

/-! ### What becomes of a dumped interface -/

/-- An interface of the dataplane is kept for a wanted one: it is tagged, and made the wanted one
where it is not as wanted. -/
theorem ensures_adopt (present : l.interfaces.get? index = some d) (device : index ≠ 0)
    (tag : allowed (.interface (.setTag wanted.name index)))
    (change : ∀ aspect, Interface.firstDifference wanted d.interface = some aspect →
      allowed (.interface (.modify wanted d.interface index)))
    (done : ∀ (r' : InterfaceReconciler) (l' : Links) (kept : Interface),
      r'.registry = r.registry.register wanted.name index wanted → r'.connected = r.connected →
      kept.name = wanted.name → Suits wanted kept →
      l.Updated index (some { d with interface := kept }) l' → Q () r' l')
    (failed : unreliable → ∀ (e : InterfaceFailure) (r' : InterfaceReconciler) (l' : Links),
      r'.connected = r.connected →
      (l' = l ∨ l.Updated index (some (d.retagged wanted.name)) l') → E e r' l') :
    Pass.Ensures (Links.behaviour unreliable allowed)
      (do register wanted.name index wanted; adjust wanted d.interface index) r l Q E := by
  rw [Pass.ensures_bind]
  refine ensures_register present tag (fun r₁ registered connected => ?_) fun faulty reason =>
    failed faulty _ _ l rfl (Or.inl rfl)
  have retagged := updated_tagged l index d wanted.name device
  refine ensures_adjust (retagged.get?_self) change (fun same => ?_) (fun r₂ kept connected' => ?_)
    fun faulty reason => failed faulty _ r₁ _ connected (Or.inr retagged)
  · exact done r₁ _ { d.interface with name := wanted.name } registered connected rfl
      (Or.inr same) retagged
  · exact done r₂ _ wanted (kept.trans registered) (connected'.trans connected) rfl (Or.inl rfl)
      (retagged.trans (updated_replace _ index _ wanted))

/-- An interface of the dataplane that stands for no wanted one is removed, and the name under
which it is registered meanwhile is dropped. -/
theorem ensures_discard (present : l.interfaces.get? index = some d) (device : index ≠ 0)
    (tag : allowed (.interface (.setTag name index)))
    (delete : allowed (.interface (.delete d.interface index)))
    (done : ∀ (r' : InterfaceReconciler) (l' : Links),
      r'.registry = (r.registry.register name index d.interface).drop name →
      r'.connected = r.connected → l.Updated index none l' → Q () r' l')
    (failed : unreliable → ∀ (e : InterfaceFailure) (r' : InterfaceReconciler) (l' : Links),
      r'.connected = r.connected →
      (l' = l ∨ l.Updated index (some (d.retagged name)) l') → E e r' l') :
    Pass.Ensures (Links.behaviour unreliable allowed)
      (do register name index d.interface; remove name d.interface index) r l Q E := by
  rw [Pass.ensures_bind]
  refine ensures_register present tag (fun r₁ registered connected => ?_) fun faulty reason =>
    failed faulty _ _ l rfl (Or.inl rfl)
  have retagged := updated_tagged l index d name device
  refine ensures_remove retagged.get?_self ⟨d.interface, by simp [registered]⟩ delete
    (fun r₂ dropped connected' => ?_)
    fun faulty reason => failed faulty _ r₁ _ connected (Or.inr retagged)
  exact done r₂ _ (registered ▸ dropped) (connected'.trans connected)
    (retagged.trans (updated_without _ index))

/-! ### Stages -/

variable {desired : List Interface}

/-- What becomes of the device at index 0 and of a tagged interface; an untagged one is left for
later. -/
theorem ensures_settleTagged (present : l.interfaces.get? index = some d)
    (device : index = 0 → ∀ r' : InterfaceReconciler,
      r'.registry = r.registry.register d.internalName index d.interface →
      r'.connected = r.connected → Q () r' l)
    (later : index ≠ 0 → d.interface.isTagged = false → Q () r l)
    (adopted : index ≠ 0 → d.interface.isTagged = true → ∀ w ∈ desired,
      w.name = d.interface.name → ∀ (r' : InterfaceReconciler) (l' : Links) (kept : Interface),
      r'.registry = r.registry.register w.name index w → r'.connected = r.connected →
      kept.name = w.name → Suits w kept →
      l.Updated index (some { d with interface := kept }) l' → Q () r' l')
    (discarded : index ≠ 0 → d.interface.isTagged = true →
      (∀ w ∈ desired, w.name ≠ d.interface.name) → ∀ (r' : InterfaceReconciler) (l' : Links),
      r'.registry = (r.registry.register d.interface.name index d.interface).drop
        d.interface.name →
      r'.connected = r.connected → l.Updated index none l' → Q () r' l')
    (failed : unreliable → ∀ (e : InterfaceFailure) (r' : InterfaceReconciler) (l' : Links),
      r'.connected = r.connected → (∀ j, l'.interfaces.get? j = l.interfaces.get? j) →
      l'.nextIndex = l.nextIndex → E e r' l') :
    Pass.Ensures (Links.behaviour unreliable fun _ => True)
      (settleTagged desired index d) r l Q E := by
  have unchanged : ∀ (l' : Links), l' = l ∨ l.Updated index (some d) l' →
      (∀ j, l'.interfaces.get? j = l.interfaces.get? j) ∧ l'.nextIndex = l.nextIndex := by
    rintro l' (rfl | h)
    · exact ⟨fun _ => rfl, rfl⟩
    · refine ⟨fun j => ?_, h.nextIndex⟩
      rw [h.get?]
      split
      · next same => rw [same, present]
      · rfl
  unfold settleTagged
  by_cases zero : index = 0
  · rw [if_pos zero]
    refine ensures_register present trivial (fun r' registered connected => ?_)
      fun faulty reason => failed faulty _ _ l rfl (fun _ => rfl) rfl
    rw [tagged, if_pos zero]
    exact device zero r' registered connected
  rw [if_neg zero]
  cases tag : d.interface.isTagged with
  | false => exact later zero tag
  | true =>
    simp only [Bool.not_true, Bool.false_eq_true, if_false]
    split
    · next w found =>
      have same : w.name = d.interface.name := by simpa using List.find?_some found
      refine ensures_adopt present zero trivial (fun _ _ => trivial)
        (fun r' l' kept => adopted zero tag w (List.mem_of_find?_eq_some found) same r' l' kept)
        fun faulty e r' l' connected h => ?_
      -- the tag is the one that it has, so a pass cut short here has changed nothing
      have stays : d.retagged w.name = d := by rw [same]; rfl
      obtain ⟨entries, next⟩ := unchanged l' (stays ▸ h)
      exact failed faulty e r' l' connected entries next
    · next missing =>
      refine ensures_discard present zero trivial trivial
        (discarded zero tag fun w hw => by simpa using List.find?_eq_none.mp missing w hw)
        fun faulty e r' l' connected h => ?_
      obtain ⟨entries, next⟩ := unchanged l' h
      exact failed faulty e r' l' connected entries next

/-- What becomes of an untagged interface. -/
theorem ensures_settleUntagged (present : l.interfaces.get? index = some d) (device : index ≠ 0)
    (adopted : ∀ w ∈ desired, r.registry.contains w.name = false →
      ∀ (r' : InterfaceReconciler) (l' : Links) (kept : Interface),
      r'.registry = r.registry.register w.name index w → r'.connected = r.connected →
      kept.name = w.name → Suits w kept →
      l.Updated index (some { d with interface := kept }) l' → Q () r' l')
    (discarded : ∀ (r' : InterfaceReconciler) (l' : Links),
      r'.registry = (r.registry.register placeholderName index d.interface).drop
        placeholderName →
      r'.connected = r.connected → l.Updated index none l' → Q () r' l')
    (failed : unreliable → ∀ (e : InterfaceFailure) (r' : InterfaceReconciler) (l' : Links)
      (name : String), r'.connected = r.connected →
      (name = placeholderName ∨ r.registry.contains name = false ∧ ∃ w ∈ desired, w.name = name) →
      (l' = l ∨ l.Updated index (some (d.retagged name)) l') → E e r' l') :
    Pass.Ensures (Links.behaviour unreliable fun _ => True)
      (settleUntagged desired index d) r l Q E := by
  simp only [settleUntagged, Pass.ensures_bind, Pass.ensures_get]
  split
  · next w found =>
    have chosen := List.find?_some found
    simp only [Bool.and_eq_true, Bool.not_eq_true'] at chosen
    have member : w ∈ desired := List.mem_of_find?_eq_some found
    exact ensures_adopt present device trivial (fun _ _ => trivial) (adopted w member chosen.1)
      fun faulty e r' l' connected h =>
        failed faulty e r' l' w.name connected (Or.inr ⟨chosen.1, w, member, rfl⟩) h
  · exact ensures_discard present device trivial trivial discarded
      fun faulty e r' l' connected h =>
        failed faulty e r' l' placeholderName connected (Or.inl rfl) h

/-- A wanted interface is created unless it is registered. -/
theorem ensures_settleMissing (there : r.registry.contains wanted.name = true → Q () r l)
    (created : r.registry.contains wanted.name = false → ∀ r' : InterfaceReconciler,
      l.nextIndex.toNat + 1 < UInt32.size →
      r'.registry = r.registry.register wanted.name l.nextIndex wanted →
      r'.connected = r.connected → Q () r' (added l wanted))
    (failed : unreliable → ∀ reason, E (.configure wanted.name reason) r l) :
    Pass.Ensures (Links.behaviour unreliable fun _ => True) (settleMissing wanted) r l Q E := by
  simp only [settleMissing, Pass.ensures_bind, Pass.ensures_get]
  split
  · next h => exact there h
  · next h => exact ensures_create trivial (created (by simpa using h)) failed

/-! ### The whole pass -/

/-- The interfaces can be dumped, unless an unreliable dataplane refuses it. -/
theorem ensures_dumpInterfaces
    {Q : Table UInt32 InterfaceDetails → InterfaceReconciler → Links → Prop}
    (permitted : allowed (.interface .dump)) (done : Q l.interfaces r l)
    (failed : unreliable → ∀ reason, E (.dump reason) r l) :
    Pass.Ensures (Links.behaviour unreliable allowed) dumpInterfaces r l Q E := by
  simp only [dumpInterfaces, Pass.ensures_bind]
  refine ⟨⟨rfl, permitted⟩, fun answer t given => ?_⟩
  rcases Effect.Gives.of_carried given rfl with ⟨rfl, rfl⟩ | ⟨faulty, rfl, reason, rfl⟩
  · exact done
  · exact failed faulty reason

/-- A pass comes to its end if its three stages do: about all dumped interfaces, about the
untagged ones, and about the wanted ones.  Each stage keeps an invariant about what is still
ahead of it, and at last the states are read. -/
theorem ensures_stages (I J : List (UInt32 × InterfaceDetails) → InterfaceReconciler → Links → Prop)
    (K : List Interface → InterfaceReconciler → Links → Prop)
    (connected : r.connected = true)
    (dump : allowed (.interface .dump)) (dumpSockets : allowed (.interface .dumpSockets))
    (start : ∀ r' : InterfaceReconciler, r'.registry = ∅ → r'.hosts = ∅ → r'.connected = true →
      r'.skipRefresh = r.skipRefresh → I l.interfaces.entries r' l)
    (tagged : ∀ x rest, x :: rest <:+ l.interfaces.entries → ∀ r' l', I (x :: rest) r' l' →
      Pass.Ensures (Links.behaviour unreliable allowed) (settleTagged desired x.1 x.2) r' l'
        (fun _ r'' l'' => I rest r'' l'') E)
    (between : ∀ r' l', I [] r' l' → J (l.interfaces.entries.filter isUntagged) r' l')
    (untagged : ∀ x rest, x :: rest <:+ l.interfaces.entries.filter isUntagged →
      ∀ r' l', J (x :: rest) r' l' →
      Pass.Ensures (Links.behaviour unreliable allowed) (settleUntagged desired x.1 x.2) r' l'
        (fun _ r'' l'' => J rest r'' l'') E)
    (after : ∀ r' l', J [] r' l' → K desired r' l')
    (missing : ∀ w rest, w :: rest <:+ desired → ∀ r' l', K (w :: rest) r' l' →
      Pass.Ensures (Links.behaviour unreliable allowed) (settleMissing w) r' l'
        (fun _ r'' l'' => K rest r'' l'') E)
    (finish : ∀ (r' : InterfaceReconciler) l', K [] r' l' → r'.skipRefresh = true → Q () r' l')
    (refreshed : ∀ (r' : InterfaceReconciler) l', K [] r' l' → r'.skipRefresh = false →
      Q () { r' with states := statesIn r'.registry l'.interfaces } l')
    (unstarted : unreliable → ∀ e (r' : InterfaceReconciler), r'.registry = ∅ →
      r'.connected = true → E e r' l)
    (unrefreshed : unreliable → ∀ e r' l', K [] r' l' → E e r' l') :
    Pass.Ensures (Links.behaviour unreliable allowed) (reconcile desired) r l Q E := by
  simp only [reconcile, InterfaceReconciler.start, connected, Pass.ensures_bind,
    Pass.ensures_get, if_true, Pass.ensures_set, Pass.ensures_modify]
  refine ensures_dump rfl dumpSockets ?_ fun faulty reason => unstarted faulty _ _ rfl rfl
  refine ensures_dumpInterfaces dump ?_ fun faulty reason => unstarted faulty _ _ rfl rfl
  refine Pass.Ensures.mono (Pass.ensures_forM I (start _ rfl rfl rfl rfl)
    fun x rest r' l' suffix h => tagged x rest suffix r' l' h) (fun _ r₁ l₁ h₁ => ?_)
    fun _ _ _ h => h
  refine (Pass.ensures_forM J (between r₁ l₁ h₁) fun x rest r' l' suffix h =>
    untagged x rest suffix r' l' h).mono (fun _ r₂ l₂ h₂ => ?_) fun _ _ _ h => h
  refine (Pass.ensures_forM K (after r₂ l₂ h₂) fun w rest r' l' suffix h =>
    missing w rest suffix r' l' h).mono (fun _ r₃ l₃ h₃ => ?_) fun _ _ _ h => h
  -- all that may be left to do is to read the states
  split
  · next skips => exact finish r₃ l₃ h₃ skips
  · next reads =>
    simp only [refresh, Pass.ensures_bind, Pass.ensures_modify]
    exact ensures_dump rfl dump (refreshed r₃ l₃ h₃ (Bool.eq_false_iff.mpr reads))
      fun faulty reason => unrefreshed faulty _ r₃ l₃ h₃

/-- So it does if the invariants are about the registry alone. -/
theorem ensures_reconcile {F : Registry Interface → Links → Prop}
    (I J : List (UInt32 × InterfaceDetails) → Registry Interface → Links → Prop)
    (K : List Interface → Registry Interface → Links → Prop)
    (connected : r.connected = true)
    (dump : allowed (.interface .dump)) (dumpSockets : allowed (.interface .dumpSockets))
    (start : I l.interfaces.entries ∅ l)
    (tagged : ∀ x rest, x :: rest <:+ l.interfaces.entries →
      ∀ (r' : InterfaceReconciler) (l' : Links), I (x :: rest) r'.registry l' →
      r'.connected = true →
      Pass.Ensures (Links.behaviour unreliable allowed) (settleTagged desired x.1 x.2) r' l'
        (fun _ r'' l'' => I rest r''.registry l'' ∧ r''.connected = true) E)
    (between : ∀ registry l', I [] registry l' →
      J (l.interfaces.entries.filter isUntagged) registry l')
    (untagged : ∀ x rest, x :: rest <:+ l.interfaces.entries.filter isUntagged →
      ∀ (r' : InterfaceReconciler) (l' : Links), J (x :: rest) r'.registry l' →
      r'.connected = true →
      Pass.Ensures (Links.behaviour unreliable allowed) (settleUntagged desired x.1 x.2) r' l'
        (fun _ r'' l'' => J rest r''.registry l'' ∧ r''.connected = true) E)
    (after : ∀ registry l', J [] registry l' → K desired registry l')
    (missing : ∀ w rest, w :: rest <:+ desired →
      ∀ (r' : InterfaceReconciler) (l' : Links), K (w :: rest) r'.registry l' →
      r'.connected = true →
      Pass.Ensures (Links.behaviour unreliable allowed) (settleMissing w) r' l'
        (fun _ r'' l'' => K rest r''.registry l'' ∧ r''.connected = true) E)
    (finish : ∀ registry l', K [] registry l' → F registry l')
    (unstarted : unreliable → ∀ e (r' : InterfaceReconciler), r'.registry = ∅ →
      r'.connected = true → E e r' l)
    (unrefreshed : unreliable → ∀ e (r' : InterfaceReconciler) l', F r'.registry l' →
      r'.connected = true → E e r' l') :
    Pass.Ensures (Links.behaviour unreliable allowed) (reconcile desired) r l
      (fun _ r' l' => F r'.registry l' ∧ r'.connected = true) E := by
  refine ensures_stages (fun es r' l' => I es r'.registry l' ∧ r'.connected = true)
    (fun es r' l' => J es r'.registry l' ∧ r'.connected = true)
    (fun ws r' l' => K ws r'.registry l' ∧ r'.connected = true) connected dump dumpSockets
    (fun r' none_ _ connected' _ => ⟨none_ ▸ start, connected'⟩)
    (fun x rest suffix r' l' h => tagged x rest suffix r' l' h.1 h.2)
    (fun r' l' h => ⟨between _ _ h.1, h.2⟩)
    (fun x rest suffix r' l' h => untagged x rest suffix r' l' h.1 h.2)
    (fun r' l' h => ⟨after _ _ h.1, h.2⟩)
    (fun w rest suffix r' l' h => missing w rest suffix r' l' h.1 h.2)
    (fun r' l' h _ => ⟨finish _ _ h.1, h.2⟩) (fun r' l' h _ => ⟨finish _ _ h.1, h.2⟩)
    unstarted fun faulty e r' l' h => unrefreshed faulty e r' l' (finish _ _ h.1) h.2

end InterfaceReconciler

end DataplaneSync
