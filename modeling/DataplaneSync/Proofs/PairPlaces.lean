import DataplaneSync.Proofs.Pairing

namespace DataplaneSync

/-!
# Where paired things stand

Wanted and actual things may be repeated, so what becomes of each is told by the place at which it
stands.  Pairing things that carry their places is pairing the things (`pairOff_map`), and since no
place is repeated, what is known of paired things holds of every single one.

* `Matching` — a one-to-one pairing of places, what it finds and what it leaves.
* `Matching.Maximal` — when nothing that is left could have been paired.
* `matching` — the places that pairing pairs.
* `StaticMapping.isFor_eq` — which of the two tests decides whether a static mapping counts as a
  wanted one.
* `DestinationNat.resolve_matches` — the resolver finds and leaves what a maximal matching does.
-/

section Places

variable {α : Type} {isFor : α → α → Bool} {wanted actual : List α}

/-! ### Matchings -/

/-- A one-to-one pairing of some wanted things with actual ones that count as them. -/
structure Matching (isFor : α → α → Bool) (wanted actual : List α) where
  /-- The place of each wanted thing that is paired, and the place of what it is paired with. -/
  places : List (ℕ × ℕ)
  /-- The wanted things come in their order, none of them twice. -/
  ordered : (places.map Prod.fst).Pairwise (· < ·)
  /-- No actual thing comes twice. -/
  once : (places.map Prod.snd).Nodup
  /-- The actual thing counts as the wanted one. -/
  fits : ∀ i j, (i, j) ∈ places →
    ∃ w a, wanted[i]? = some w ∧ actual[j]? = some a ∧ isFor a w = true

namespace Matching

/-- The wanted things that are paired, in their order. -/
def found (m : Matching isFor wanted actual) : List α := m.places.filterMap (wanted[·.1]?)

/-- The actual things that are not paired, in their order. -/
def leftover (m : Matching isFor wanted actual) : List α :=
  (actual.zipIdx.filter (·.2 ∉ m.places.map Prod.snd)).map Prod.fst

/-- Nothing that is left counts as a wanted thing that is not paired. -/
def Maximal (m : Matching isFor wanted actual) : Prop :=
  ∀ i w, wanted[i]? = some w → i ∉ m.places.map Prod.fst → ∀ a ∈ m.leftover, isFor a w = false

end Matching

/-! ### Pairing things that carry more -/

/-- What things carry besides what is compared makes no difference to their pairing. -/
theorem pairOff_map {β : Type} (f : β → α) (wanted actual : List β) :
    pairOff isFor (wanted.map f) (actual.map f) =
      ⟨(pairOff (fun a w => isFor (f a) (f w)) wanted actual).pairs.map (Prod.map f f),
        (pairOff (fun a w => isFor (f a) (f w)) wanted actual).leftover.map f⟩ := by
  induction wanted generalizing actual with
  | nil => rfl
  | cons w rest ih =>
    rw [List.map_cons, pairOff, pairOff, List.find?_map]
    simp only [Function.comp_def]
    cases actual.find? (fun a => isFor (f a) (f w)) with
    | none => exact ih actual
    | some a =>
      simp only [Option.map_some, List.eraseP_map, Function.comp_def, ih, List.map_cons,
        Prod.map_apply]

/-- Pair wanted things with actual ones, where each carries its place. -/
def placed (isFor : α → α → Bool) (wanted actual : List α) : Pairing (α × ℕ) :=
  pairOff (fun a w => isFor a.1 w.1) wanted.zipIdx actual.zipIdx

/-- Without their places these are the pairs of the things. -/
theorem pairOff_eq_placed : pairOff isFor wanted actual =
    ⟨(placed isFor wanted actual).pairs.map (Prod.map Prod.fst Prod.fst),
      (placed isFor wanted actual).leftover.map Prod.fst⟩ := by
  have carried := @pairOff_map α isFor _ Prod.fst wanted.zipIdx actual.zipIdx
  rwa [List.zipIdx_map_fst, List.zipIdx_map_fst] at carried

/-- No place is there twice. -/
theorem nodup_places (l : List α) : (l.zipIdx.map Prod.snd).Nodup := by
  rw [List.zipIdx_map_snd]
  exact List.nodup_range'

/-- The actual things with their places are those that are paired and those that are left. -/
theorem perm_placed : actual.zipIdx.Perm
    ((placed isFor wanted actual).pairs.map Prod.snd ++ (placed isFor wanted actual).leftover) :=
  perm_pairOff

/-- No place of an actual thing is paired twice, or paired and left. -/
theorem nodup_placed : (((placed isFor wanted actual).pairs.map Prod.snd).map Prod.snd ++
    (placed isFor wanted actual).leftover.map Prod.snd).Nodup := by
  rw [← List.map_append]
  exact (perm_placed.map Prod.snd).nodup_iff.mp (nodup_places actual)

/-- Part of a list in which nothing is repeated is what a test leaves of it, if the test tells what
is in the part. -/
theorem eq_filter_of_sublist {some_ all : List α} {p : α → Bool} (part : some_.Sublist all)
    (once : all.Nodup) (only : ∀ a ∈ all, a ∈ some_ ↔ p a = true) : some_ = all.filter p := by
  have same : some_.Perm (all.filter p) := by
    refine (List.perm_ext_iff_of_nodup (once.sublist part) (once.filter p)).mpr fun a => ?_
    rw [List.mem_filter]
    exact ⟨fun h => ⟨part.subset h, (only a (part.subset h)).mp h⟩, fun h => (only a h.1).mpr h.2⟩
  have kept : some_.filter p = some_ :=
    List.filter_eq_self.mpr fun a h => (only a (part.subset h)).mp h
  have within_ : some_.Sublist (all.filter p) := kept ▸ part.filter p
  exact within_.eq_of_length same.length_eq

/-- The places of what is paired. -/
def matching (isFor : α → α → Bool) (wanted actual : List α) : Matching isFor wanted actual where
  places := (placed isFor wanted actual).pairs.map (Prod.map Prod.snd Prod.snd)
  ordered := by
    -- what is found comes in the order of what is wanted
    have some_ : ((placed isFor wanted actual).found.map Prod.snd).Sublist
        (wanted.zipIdx.map Prod.snd) := found_sublist.map Prod.snd
    rw [List.zipIdx_map_snd] at some_
    have increasing := List.Pairwise.sublist some_ List.pairwise_lt_range'
    simpa [Pairing.found, Function.comp_def] using increasing
  once := by
    simpa [Function.comp_def] using (List.nodup_append.mp nodup_placed).1
  fits := by
    intro i j there
    obtain ⟨⟨⟨w, i'⟩, a, j'⟩, pair, same⟩ := List.mem_map.mp there
    obtain ⟨rfl, rfl⟩ := Prod.mk.inj same
    obtain ⟨wants, has, fits⟩ := of_mem_pairs pair
    exact ⟨w, a, List.mem_zipIdx_iff_getElem?.mp wants, List.mem_zipIdx_iff_getElem?.mp has, fits⟩

/-- The matching finds what pairing finds. -/
theorem found_matching : (matching isFor wanted actual).found =
    (pairOff isFor wanted actual).found := by
  have each : ∀ p ∈ (placed isFor wanted actual).pairs, wanted[p.1.2]? = some p.1.1 :=
    fun p pair => List.mem_zipIdx_iff_getElem?.mp (of_mem_pairs pair).1
  rw [pairOff_eq_placed]
  simp only [Pairing.found, Matching.found, matching, List.filterMap_map, List.map_map]
  rw [← List.filterMap_eq_map]
  exact List.filterMap_congr each

/-- The matching leaves what pairing leaves. -/
theorem leftover_matching : (matching isFor wanted actual).leftover =
    (pairOff isFor wanted actual).leftover := by
  have apart := List.disjoint_of_nodup_append (@nodup_placed α isFor wanted actual)
  have same : (placed isFor wanted actual).leftover = actual.zipIdx.filter
      (·.2 ∉ (matching isFor wanted actual).places.map Prod.snd) := by
    refine eq_filter_of_sublist leftover_sublist (nodup_places actual).of_map fun a there => ?_
    have taken : (matching isFor wanted actual).places.map Prod.snd =
        ((placed isFor wanted actual).pairs.map Prod.snd).map Prod.snd := by
      simp [matching, Function.comp_def]
    rw [taken, decide_eq_true_eq]
    constructor
    · exact fun left paired => apart paired (List.mem_map_of_mem left)
    · intro unpaired
      rcases List.mem_append.mp (perm_placed.subset there) with paired | left
      · exact absurd (List.mem_map_of_mem paired) unpaired
      · exact left
  rw [Matching.leftover, ← same, pairOff_eq_placed]

/-- Nothing that is left could have been paired. -/
theorem maximal_matching : (matching isFor wanted actual).Maximal := by
  intro i w wants unpaired a left
  have missing : (w, i) ∉ (placed isFor wanted actual).found := by
    intro found
    refine unpaired ?_
    obtain ⟨pair, there, same⟩ := List.mem_map.mp found
    simp only [matching, List.map_map, List.mem_map, Function.comp_def, Prod.map_fst]
    exact ⟨pair, there, congrArg Prod.snd same⟩
  rw [leftover_matching, pairOff_eq_placed] at left
  obtain ⟨⟨b, j⟩, left', rfl⟩ := List.mem_map.mp left
  exact not_isFor_leftover (List.mem_zipIdx_iff_getElem?.mpr wants) missing _ left'

/-- Pairing finds and leaves what a maximal matching does, and leaves one less for each that it
finds. -/
theorem exists_matching (isFor : α → α → Bool) (wanted actual : List α) :
    ∃ m : Matching isFor wanted actual, m.Maximal ∧
      (pairOff isFor wanted actual).found = m.found ∧
      (pairOff isFor wanted actual).leftover = m.leftover ∧
      (pairOff isFor wanted actual).found.length + m.leftover.length = actual.length := by
  refine ⟨matching isFor wanted actual, maximal_matching, found_matching.symm,
    leftover_matching.symm, ?_⟩
  rw [leftover_matching]
  exact length_found_add_leftover

end Places

/-! ### Groups -/

/-- Which test decides depends on the wanted mapping alone: one with more than one endpoint
balances load. -/
theorem StaticMapping.isFor_eq (actual wanted : StaticMapping) :
    isFor actual wanted =
      if 1 < wanted.locals.length then isBalancedFor actual wanted
      else isSingleFor actual wanted := by
  by_cases several : 1 < wanted.locals.length
  · simp [isFor, isLoadBalanced, several]
  · simp [isFor, isLoadBalanced, several]

/-- The resolver neither loses a dumped mapping nor uses one twice, and leaves none that it could
have used: for the static mappings there is a matching that cannot be extended such that the
identifiers are those of the wanted mappings it pairs, in their order, and what is left is what it
does not pair, in its order, and so one less for each identifier.  A wanted mapping with more than
one endpoint is paired as one that balances load, and every other one as one to a single endpoint.
The same holds for the identity mappings, which are paired with equal ones. -/
theorem DestinationNat.resolve_matches (wanted : DestinationNat) (statics : List StaticMapping)
    (identities : List IdentityMapping) :
    (∀ a w : StaticMapping, a.isFor w =
      if 1 < w.locals.length then a.isBalancedFor w else a.isSingleFor w) ∧
    (∀ a w : IdentityMapping, a.isFor w = true ↔ w = a) ∧
    (∃ m : Matching StaticMapping.isFor wanted.statics statics, m.Maximal ∧
      (wanted.resolve statics identities).staticIdentifiers = m.found.map StaticMapping.identifier ∧
      (wanted.resolve statics identities).statics.leftover = m.leftover ∧
      (wanted.resolve statics identities).staticIdentifiers.length + m.leftover.length =
        statics.length) ∧
    ∃ m : Matching IdentityMapping.isFor wanted.identities identities, m.Maximal ∧
      (wanted.resolve statics identities).identityIdentifiers =
        m.found.map IdentityMapping.identifier ∧
      (wanted.resolve statics identities).identities.leftover = m.leftover ∧
      (wanted.resolve statics identities).identityIdentifiers.length + m.leftover.length =
        identities.length := by
  obtain ⟨m, maximal, found, left, size⟩ :=
    exists_matching StaticMapping.isFor wanted.statics statics
  obtain ⟨m', maximal', found', left', size'⟩ :=
    exists_matching IdentityMapping.isFor wanted.identities identities
  refine ⟨StaticMapping.isFor_eq, fun a w => beq_iff_eq,
    ⟨m, maximal, congrArg (List.map _) found, left, ?_⟩,
    m', maximal', congrArg (List.map _) found', left', ?_⟩
  · rwa [Resolution.staticIdentifiers, List.length_map]
  · rwa [Resolution.identityIdentifiers, List.length_map]

end DataplaneSync
