import DataplaneSync.Proofs.PairSoundness

namespace DataplaneSync

/-!
# Pairing and the order of a dump

Pairing takes what comes first, so the order of the actual things decides which of them a wanted one
gets.  It does not decide which wanted ones get something, if these come in sorts: actual things
that count as one wanted thing count as the same others.  Then only the number of each sort matters.

* `ComesInSorts` — when wanted things come in sorts.
* `found_eq_of_counts` — then what is found depends on the numbers only.
* `StaticMapping.isFor_of_isFor` — static mappings come in sorts if none repeats an endpoint.
* `DestinationNat.resolve_ignores_order` — the order of a dump makes no difference to what is found
  of a group, nor to how much is left.
-/

section Sorts

variable {α : Type} {isFor : α → α → Bool} {wanted actual actual' : List α} {w : α}

/-- Actual things that count as one of the wanted things count as the same others. -/
def ComesInSorts (isFor : α → α → Bool) (wanted : List α) : Prop :=
  ∀ w ∈ wanted, ∀ v ∈ wanted, ∀ a b,
    isFor a w = true → isFor b w = true → isFor a v = true → isFor b v = true

theorem exists_find_iff_countP_pos :
    (∃ a, actual.find? (isFor · w) = some a) ↔ 0 < actual.countP (isFor · w) := by
  rw [← Option.isSome_iff_exists, List.find?_isSome, List.countP_pos_iff]

theorem find_eq_none_iff_countP :
    actual.find? (isFor · w) = none ↔ actual.countP (isFor · w) = 0 := by
  rw [List.find?_eq_none, List.countP_eq_zero]

/-- What is taken from a dump is missing from the number of each sort that it is of. -/
theorem countP_middle (p : α → Bool) (before after : List α) (a : α) :
    (before ++ a :: after).countP p = (before ++ after).countP p + if p a then 1 else 0 := by
  rw [List.perm_middle.countP_eq, List.countP_cons]

/-- If two things of one sort are taken from two dumps with as many of each sort, as many of each
sort are left. -/
theorem counts_of_taken {before after before' after' : List α} {a a' v : α}
    (alike : isFor a v = isFor a' v)
    (total : (before ++ a :: after).countP (isFor · v) =
      (before' ++ a' :: after').countP (isFor · v)) :
    (before ++ after).countP (isFor · v) = (before' ++ after').countP (isFor · v) := by
  rw [countP_middle, countP_middle, alike] at total
  exact Nat.add_right_cancel total

/-- Where wanted things come in sorts, the number of actual things of each sort decides which of
them are found. -/
theorem found_eq_of_counts (sorts : ComesInSorts isFor wanted)
    (counts : ∀ w ∈ wanted, actual.countP (isFor · w) = actual'.countP (isFor · w)) :
    (pairOff isFor wanted actual).found = (pairOff isFor wanted actual').found := by
  induction wanted generalizing actual actual' with
  | nil => rfl
  | cons w rest ih =>
    have sorts' : ComesInSorts isFor rest := fun u hu v hv =>
      sorts u (List.mem_cons_of_mem w hu) v (List.mem_cons_of_mem w hv)
    have counts' := fun v hv => counts v (List.mem_cons_of_mem w hv)
    have number := counts w List.mem_cons_self
    rcases Nat.eq_zero_or_pos (actual.countP (isFor · w)) with none_ | some_
    · -- neither dump has anything for `w`
      rw [pairOff_cons_of_none (find_eq_none_iff_countP.mpr none_),
        pairOff_cons_of_none (find_eq_none_iff_countP.mpr (number ▸ none_))]
      exact ih sorts' counts'
    · -- both dumps have something for `w`, and the two things are of one sort
      obtain ⟨a, chosen⟩ := exists_find_iff_countP_pos.mpr some_
      obtain ⟨a', chosen'⟩ := exists_find_iff_countP_pos.mpr (number ▸ some_)
      obtain ⟨before, after, rfl, -, fits, same⟩ := pairOff_cons_of_find rest chosen
      obtain ⟨before', after', rfl, -, fits', same'⟩ := pairOff_cons_of_find rest chosen'
      have alike : ∀ v ∈ rest, isFor a v = isFor a' v := by
        intro v hv
        have there := sorts w List.mem_cons_self v (List.mem_cons_of_mem w hv)
        rw [Bool.eq_iff_iff]
        exact ⟨there a a' fits fits', there a' a fits' fits⟩
      rw [same, same']
      exact congrArg (w :: ·)
        (ih sorts' fun v hv => counts_of_taken (alike v hv) (counts' v hv))

/-- As much is left over as was not found. -/
theorem length_leftover_eq (found : (pairOff isFor wanted actual).found =
      (pairOff isFor wanted actual').found) (size : actual.length = actual'.length) :
    (pairOff isFor wanted actual).leftover.length =
      (pairOff isFor wanted actual').leftover.length := by
  have here := @length_found_add_leftover α isFor wanted actual
  have there := @length_found_add_leftover α isFor wanted actual'
  rw [found] at here
  omega

end Sorts

/-! ### Mappings -/

/-- The order of the endpoints at hand does not matter. -/
theorem LocalEndpoint.agree_of_perm {wanted actual actual' : List LocalEndpoint}
    (same : actual.Perm actual') : agree wanted actual = agree wanted actual' := by
  have contains_eq : ∀ e, actual.contains e = actual'.contains e := by
    intro e
    rw [Bool.eq_iff_iff, List.contains_iff_mem, List.contains_iff_mem, same.mem_iff]
  simp only [agree, same.length_eq, contains_eq]

namespace StaticMapping

variable {a b w v : StaticMapping}

/-- A mapping counts as a wanted one that has an endpoint if service and endpoints agree, and the
interface too unless load is balanced. -/
theorem isFor_iff : isFor a w = true ↔ sameService w a = true ∧
    (w.isLoadBalanced = false → w.externalInterface = a.externalInterface) ∧
    w.locals ≠ [] ∧ LocalEndpoint.agree w.locals a.locals = true := by
  rw [isFor]
  cases balanced : w.isLoadBalanced with
  | true =>
    have some_ : w.locals ≠ [] := by
      intro none_
      simp [isLoadBalanced, none_] at balanced
    simp [isBalancedFor, some_]
  | false =>
    -- at most one endpoint is wanted, so to agree is to be equal
    have few : w.locals.length ≤ 1 := by simpa [isLoadBalanced] using balanced
    cases wants : w.locals with
    | nil => simp [isSingleFor, wants]
    | cons e rest =>
      obtain rfl : rest = [] := by simpa [wants] using few
      cases has : a.locals with
      | nil => simp [isSingleFor, wants, has, LocalEndpoint.agree]
      | cons f more =>
        cases more with
        | nil => simp [isSingleFor, wants, has, LocalEndpoint.agree, and_assoc]
        | cons g more => simp [isSingleFor, wants, has, LocalEndpoint.agree]

/-- The order of the endpoints of a mapping does not matter to what it counts as. -/
theorem Reordered.isFor_eq (same : Reordered a b) (w : StaticMapping) : isFor a w = isFor b w := by
  rw [Bool.eq_iff_iff, isFor_iff, isFor_iff, sameService_iff, sameService_iff, same.address,
    same.port, same.protocol, same.twiceNat, same.interface,
    LocalEndpoint.agree_of_perm same.locals]

/-- What counts as one wanted mapping that repeats no endpoint counts as the same others. -/
theorem isFor_of_isFor (once : w.locals.Nodup) (first : isFor a w = true)
    (second : isFor b w = true) (also_ : isFor a v = true) : isFor b v = true := by
  rw [isFor_iff, sameService_iff] at *
  obtain ⟨⟨address, port, protocol, twiceNat⟩, interface, -, agrees⟩ := first
  obtain ⟨⟨address', port', protocol', twiceNat'⟩, interface', -, agrees'⟩ := second
  obtain ⟨service, interface'', some_, endpoints⟩ := also_
  have same : a.locals.Perm b.locals :=
    (LocalEndpoint.perm_of_agree once agrees).trans (LocalEndpoint.perm_of_agree once agrees').symm
  refine ⟨?_, ?_, some_, LocalEndpoint.agree_of_perm same ▸ endpoints⟩
  · rw [address', port', protocol', twiceNat', ← address, ← port, ← protocol, ← twiceNat]
    exact service
  · -- if `v` does not balance load, neither does `w`: each has as many endpoints as `a`
    intro single
    have single' : w.isLoadBalanced = false := by
      simp only [LocalEndpoint.agree, Bool.and_eq_true, beq_iff_eq] at agrees endpoints
      simp only [isLoadBalanced, decide_eq_false_iff_not] at single ⊢
      omega
    rw [interface'' single, ← interface single', interface' single']

/-- Two dumps have the same mappings in whatever order, each with its endpoints in whatever
order. -/
def SameDump (statics statics' : List StaticMapping) : Prop :=
  ∃ turned, List.Forall₂ Reordered statics turned ∧ turned.Perm statics'

/-- Then they have as many of each sort. -/
theorem SameDump.countP_eq {statics statics' : List StaticMapping}
    (same : SameDump statics statics') (w : StaticMapping) : statics.countP (isFor · w) = statics'.countP (isFor · w) := by
  obtain ⟨turned, each, perm⟩ := same
  rw [← perm.countP_eq]
  clear perm
  induction each with
  | nil => rfl
  | cons one _ ih => rw [List.countP_cons, List.countP_cons, ih, one.isFor_eq w]

theorem SameDump.length_eq {statics statics' : List StaticMapping}
    (same : SameDump statics statics') : statics.length = statics'.length := by
  obtain ⟨turned, each, perm⟩ := same
  rw [each.length_eq, perm.length_eq]

end StaticMapping

/-! ### Groups -/

namespace DestinationNat

open StaticMapping

/-- If no wanted mapping repeats an endpoint, the order of the dumped mappings and of their
endpoints makes no difference: the same mappings of the group are found, in the same order, and as
many dumped ones are left. -/
theorem resolve_ignores_order {wanted : DestinationNat} {statics statics' : List StaticMapping}
    {identities identities' : List IdentityMapping}
    (once : ∀ w ∈ wanted.statics, w.locals.Nodup) (same : SameDump statics statics')
    (turned : identities.Perm identities') :
    (wanted.resolve statics identities).staticIdentifiers =
        (wanted.resolve statics' identities').staticIdentifiers ∧
      (wanted.resolve statics identities).identityIdentifiers =
        (wanted.resolve statics' identities').identityIdentifiers ∧
      (wanted.resolve statics identities).statics.leftover.length =
        (wanted.resolve statics' identities').statics.leftover.length ∧
      (wanted.resolve statics identities).identities.leftover.length =
        (wanted.resolve statics' identities').identities.leftover.length := by
  have sorts : ComesInSorts StaticMapping.isFor wanted.statics :=
    fun w hw _ _ _ _ first second also_ => isFor_of_isFor (once w hw) first second also_
  have sorts' : ComesInSorts IdentityMapping.isFor wanted.identities := by
    intro w _ v _ a b first second also_
    simp only [IdentityMapping.isFor, beq_iff_eq] at *
    rw [also_, ← first, second]
  have found := found_eq_of_counts sorts fun w _ => same.countP_eq w
  have found' := found_eq_of_counts sorts' fun w _ => turned.countP_eq (IdentityMapping.isFor · w)
  exact ⟨congrArg (List.map StaticMapping.identifier) found,
    congrArg (List.map IdentityMapping.identifier) found',
    length_leftover_eq found same.length_eq, length_leftover_eq found' turned.length_eq⟩

/-- The service at the marina is wanted twice, and a door once; the dataplane has more than that,
and dumps it one way or another. -/
theorem resolve_ignores_order_berths :
    let onWan := berthService "wan0" berths
    let onLan := berthService "lan0" berths
    let turned := berthService "lan0" berths.reverse
    let single := berthService "wan0" (berths.take 1)
    let door : IdentityMapping := { address := "10.0.7.9", port := 22 }
    let wanted : DestinationNat :=
      { label := "marina", statics := [onWan, single, onWan], identities := [door] }
    let one := wanted.resolve [onLan, onWan, single, onLan] [door, {}, door]
    let other := wanted.resolve [single, turned, onLan, onWan] [{}, door, door]
    ((∀ w ∈ wanted.statics, w.locals.Nodup) ∧
      SameDump [onLan, onWan, single, onLan] [single, turned, onLan, onWan] ∧
      [door, {}, door].Perm [{}, door, door]) ∧
    one.staticIdentifiers = other.staticIdentifiers ∧
      one.identityIdentifiers = other.identityIdentifiers ∧
      one.statics.leftover.length = other.statics.leftover.length ∧
      one.identities.leftover.length = other.identities.leftover.length := by
  intro onWan onLan turned single door wanted one other
  have once : ∀ w ∈ wanted.statics, w.locals.Nodup := by decide +kernel
  have as_given : ∀ m : StaticMapping, Reordered m m := fun m =>
    { address := rfl, port := rfl, protocol := rfl, twiceNat := rfl, interface := rfl
      locals := List.Perm.refl _ }
  have reverse : Reordered onLan turned :=
    { address := rfl, port := rfl, protocol := rfl, twiceNat := rfl, interface := rfl
      locals := (List.reverse_perm berths).symm }
  have same : SameDump [onLan, onWan, single, onLan] [single, turned, onLan, onWan] := by
    -- turn the first mapping round, then change places
    refine ⟨[turned, onWan, single, onLan], ?_, by decide +kernel⟩
    exact .cons reverse (.cons (as_given _) (.cons (as_given _) (.cons (as_given _) .nil)))
  have swapped : [door, {}, door].Perm [{}, door, door] := List.Perm.swap _ _ _
  exact ⟨⟨once, same, swapped⟩, resolve_ignores_order once same swapped⟩

end DestinationNat

end DataplaneSync
