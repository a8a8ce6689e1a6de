import DataplaneSync.Proofs.RegistryGrounding

namespace DataplaneSync

/-!
# What is registered has an index of its own

When a pass over the interfaces comes to its end, each registered name stands for an interface that
is there, and no two names for one.  As for what is merely there, nothing is asked of the tags or of
the wanted interfaces; but new interfaces have to get indexes that were not in use.

* `Firm` — in the middle of a pass, what is ahead of it is as it was dumped and not registered, and
  the registry is faithful.
* `InterfaceReconciler.ensures_firm` — the whole pass.
-/

variable {actual : Table UInt32 InterfaceDetails} {ahead ahead' : UInt32 → Prop}
variable {registry : Registry Interface} {l l' : Links} {index j : UInt32} {d : InterfaceDetails}

/-! ### Indexes -/

/-- An interface that is replaced is still there, and so are the others. -/
theorem Links.Has.updated (h : l.Has j) (changed : l.Updated index (some d) l') : l'.Has j := by
  unfold Has
  rw [changed.get?]
  split
  · exact ⟨d, rfl⟩
  · exact h

/-- When an interface goes away, the others are still there. -/
theorem Links.Has.removed (h : l.Has j) (other : j ≠ index) (changed : l.Updated index none l') :
    l'.Has j := by
  unfold Has
  rw [changed.get?_ne other]
  exact h

/-- To put an interface in its own place changes nothing. -/
theorem Links.updated_self (present : l.interfaces.get? index = some d) :
    l.Updated index (some d) l where
  get? j := by
    split
    · next same => rw [same, present]
    · rfl
  nextIndex := rfl

/-! ### The invariant -/

/-- How things stand while some indexes are ahead of a pass: what is there is as it was dumped, and
what is registered is there as well, each name under an index of its own. -/
structure Firm (actual : Table UInt32 InterfaceDetails) (ahead : UInt32 → Prop)
    (registry : Registry Interface) (l : Links) : Prop where
  footing : Footing ahead registry l
  untouched : ∀ j, ahead j → l.interfaces.get? j = actual.get? j
  faithful : registry.Faithful
  bounded : l.Bounded

namespace Firm

/-- At the start nothing is registered. -/
theorem start (bounded : l.Bounded) (there : ∀ j, ahead j → l.Has j) :
    Firm l.interfaces ahead ∅ l where
  footing := ⟨there, fun _ _ _ found => nomatch found⟩
  untouched _ _ := rfl
  faithful := Registry.faithful_empty
  bounded := bounded

variable (h : Firm actual ahead registry l)

include h

/-- An interface that was ahead is registered, whatever is put in its place. -/
theorem register (here : ahead index) (passed : ∀ j, ahead' j ↔ ahead j ∧ j ≠ index)
    (changed : l.Updated index (some d) l') (name : String) (data : Interface) :
    Firm actual ahead' (registry.register name index data) l' where
  footing := h.footing.register here passed (fun _ there => there.updated changed) name data
  untouched := by
    intro j still
    obtain ⟨before, other⟩ := (passed j).mp still
    rw [changed.get?_ne other, h.untouched j before]
  faithful := h.faithful.register data fun other e found =>
    absurd here (h.footing.registered other index e found).1
  bounded := h.bounded.updated (h.footing.there index here) changed

/-- An interface that was ahead goes away, with the name that was registered for it. -/
theorem removed (here : ahead index) (passed : ∀ j, ahead' j ↔ ahead j ∧ j ≠ index)
    (changed : l.Updated index none l') (name : String) (data : Interface) :
    Firm actual ahead' ((registry.register name index data).drop name) l' where
  footing := h.footing.removed here passed (fun _ other there => there.removed other changed)
    name data
  untouched := by
    intro j still
    obtain ⟨before, other⟩ := (passed j).mp still
    rw [changed.get?_ne other, h.untouched j before]
  faithful := by
    refine (h.faithful.register data fun other e found => ?_).drop name
    exact absurd here (h.footing.registered other index e found).1
  bounded := h.bounded.updated (h.footing.there index here) changed

omit h in
/-- Once nothing is ahead, a new interface is registered under its index, which no other name
has. -/
theorem added (h : Firm actual (fun _ => False) registry l)
    (room : l.nextIndex.toNat + 1 < UInt32.size) (w : Interface) :
    Firm actual (fun _ => False) (registry.register w.name l.nextIndex w)
      (InterfaceCall.added l w) where
  footing := h.footing.added w w.name w
  untouched _ := False.elim
  faithful := by
    refine h.faithful.register w fun other e found => ?_
    obtain ⟨-, d, there⟩ := h.footing.registered other _ e found
    exact nomatch h.bounded.fresh.symm.trans there
  bounded := h.bounded.added room w

end Firm

/-! ### The pass -/

namespace InterfaceReconciler

variable {unreliable : Prop} {r : InterfaceReconciler} {wanted : List Interface}

/-- A pass that comes to its end leaves every registered name with an index of its own, at which
there is an interface. -/
theorem ensures_firm (bounded : l.Bounded) :
    Pass.Ensures (Links.behaviour unreliable fun _ => True) (reconcile wanted) r l
      (fun _ r' l' => Firm l.interfaces (fun _ => False) r'.registry l' ∧ r'.connected = true)
      (fun _ _ _ => True) := by
  by_cases connected : r.connected = true
  case neg => simp [reconcile, InterfaceReconciler.start, connected]
  refine ensures_reconcile (F := Firm l.interfaces fun _ => False)
    (fun rest => Firm l.interfaces (aheadOf rest (l.interfaces.entries.filter isUntagged)))
    (fun rest => Firm l.interfaces (Among rest))
    (fun _ => Firm l.interfaces fun _ => False)
    connected trivial trivial ?start ?tagged ?between ?untagged ?after ?missing
    (fun _ _ firm => firm) (fun _ _ _ _ _ => trivial) fun _ _ _ _ _ _ => trivial
  case start =>
    refine Firm.start bounded fun j before => ?_
    obtain ⟨d, there⟩ | ⟨d, there⟩ := before
    · exact ⟨d, Table.mem_entries.mp there⟩
    · exact ⟨d, (mem_filter_isUntagged.mp there).1⟩
  case tagged =>
    intro x rest suffix r' l' firm connected
    have here : aheadOf (x :: rest) (l.interfaces.entries.filter isUntagged) x.1 :=
      Or.inl ⟨x.2, List.mem_cons_self⟩
    have present : l'.interfaces.get? x.1 = some x.2 :=
      (firm.untouched x.1 here).trans (Table.mem_entries.mp (suffix.subset List.mem_cons_self))
    refine ensures_settleTagged present ?device ?later ?adopted ?discarded
      fun _ _ _ _ _ _ _ => trivial
    case device =>
      intro zero r'' registered kept
      have passed := aheadOf_of_settled suffix (Or.inl zero)
      exact ⟨registered ▸ firm.register here passed (Links.updated_self present) _ _,
        kept.trans connected⟩
    case later =>
      intro device untagged
      have same : aheadOf rest (l.interfaces.entries.filter isUntagged) =
          aheadOf (x :: rest) (l.interfaces.entries.filter isUntagged) :=
        funext fun j => propext (aheadOf_of_untagged suffix device untagged j)
      exact ⟨same ▸ firm, connected⟩
    case adopted =>
      intro device tagged w member named r'' l'' i registered kept _ _ changed
      have passed := aheadOf_of_settled suffix (Or.inr tagged)
      exact ⟨registered ▸ firm.register here passed changed _ _, kept.trans connected⟩
    case discarded =>
      intro device tagged missing r'' l'' dropped kept changed
      have passed := aheadOf_of_settled suffix (Or.inr tagged)
      exact ⟨dropped ▸ firm.removed here passed changed _ _, kept.trans connected⟩
  case between =>
    intro registry l' firm
    exact aheadOf_nil _ ▸ firm
  case untagged =>
    intro x rest suffix r' l' firm connected
    have here : Among (x :: rest) x.1 := ⟨x.2, List.mem_cons_self⟩
    have passed := among_rest (suffix.sublist.trans List.filter_sublist)
    obtain ⟨found, device, -⟩ := mem_filter_isUntagged.mp (suffix.subset List.mem_cons_self)
    have present : l'.interfaces.get? x.1 = some x.2 := (firm.untouched x.1 here).trans found
    refine ensures_settleUntagged present device ?_ ?_ fun _ _ _ _ _ _ _ _ => trivial
    · intro w member free r'' l'' i registered kept _ _ changed
      exact ⟨registered ▸ firm.register here passed changed _ _, kept.trans connected⟩
    · intro r'' l'' dropped kept changed
      exact ⟨dropped ▸ firm.removed here passed changed _ _, kept.trans connected⟩
  case after =>
    intro registry l' firm
    exact among_nil ▸ firm
  case missing =>
    intro w rest suffix r' l' firm connected
    refine ensures_settleMissing (fun _ => ⟨firm, connected⟩) ?_ fun _ _ => trivial
    intro absent r'' room registered kept
    exact ⟨registered ▸ firm.added room w, kept.trans connected⟩

end InterfaceReconciler

end DataplaneSync
