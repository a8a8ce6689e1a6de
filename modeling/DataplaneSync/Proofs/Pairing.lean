import DataplaneSync.Nat44.Resolver
import Mathlib.Data.List.Nodup

namespace DataplaneSync

/-!
# Pairing wanted things with actual ones

When an actual thing counts as a wanted one is no equivalence, and pairing takes what comes first.
Still it is stable: once what is left over has been removed and what was not found has been added
at the end, pairing finds everything and leaves nothing.

* `settled` — what there is then.
* `pairOff_settled` — pairing it again.
-/

section Pairs

variable {α : Type} {isFor : α → α → Bool} {wanted actual : List α} {w a : α}

/-! ### What pairing finds and leaves -/

/-- Pairing takes an actual thing from between those before and behind it. -/
theorem eraseP_middle {before after : List α} (apart : ∀ b ∈ before, isFor b w = false)
    (fits : isFor a w = true) :
    (before ++ a :: after).eraseP (isFor · w) = before ++ after := by
  have others : ∀ b ∈ before, ¬ isFor b w = true := by simpa using apart
  rw [List.eraseP_append_right (a :: after) others, List.eraseP_cons, fits, cond_true]

/-- A wanted thing takes the first actual one that counts as it. -/
theorem pairOff_cons_of_find (wanted : List α) (chosen : actual.find? (isFor · w) = some a) :
    ∃ before after, actual = before ++ a :: after ∧ (∀ b ∈ before, isFor b w = false) ∧
      isFor a w = true ∧
      pairOff isFor (w :: wanted) actual =
        ⟨(w, a) :: (pairOff isFor wanted (before ++ after)).pairs,
          (pairOff isFor wanted (before ++ after)).leftover⟩ := by
  obtain ⟨fits, before, after, split_, others⟩ := List.find?_eq_some_iff_append.mp chosen
  have apart : ∀ b ∈ before, isFor b w = false := fun b hb => by simpa using others b hb
  have rest : actual.eraseP (isFor · w) = before ++ after := split_ ▸ eraseP_middle apart fits
  refine ⟨before, after, split_, apart, fits, ?_⟩
  rw [pairOff, chosen]
  simp only [rest]

theorem pairOff_cons_of_none (missing : actual.find? (isFor · w) = none) :
    pairOff isFor (w :: wanted) actual = pairOff isFor wanted actual := by
  rw [pairOff, missing]

/-- Where there is nothing, nothing is found and nothing is left. -/
theorem pairOff_nil (wanted : List α) : pairOff isFor wanted [] = ⟨[], []⟩ := by
  induction wanted with
  | nil => rfl
  | cons w rest ih => rw [pairOff_cons_of_none List.find?_nil, ih]

/-- What is left over is some of the actual things. -/
theorem leftover_sublist : (pairOff isFor wanted actual).leftover.Sublist actual := by
  induction wanted generalizing actual with
  | nil => exact List.Sublist.refl actual
  | cons w rest ih =>
    cases chosen : actual.find? (isFor · w) with
    | none =>
      rw [pairOff_cons_of_none chosen]
      exact ih
    | some a =>
      obtain ⟨before, after, rfl, -, -, same⟩ := pairOff_cons_of_find rest chosen
      rw [same]
      exact ih.trans ((List.Sublist.refl before).append (List.sublist_cons_self a after))

/-- What is found is some of the wanted things. -/
theorem found_sublist : (pairOff isFor wanted actual).found.Sublist wanted := by
  induction wanted generalizing actual with
  | nil => exact List.Sublist.refl []
  | cons w rest ih =>
    cases chosen : actual.find? (isFor · w) with
    | none =>
      rw [pairOff_cons_of_none chosen]
      exact ih.cons w
    | some a =>
      obtain ⟨before, after, rfl, -, -, same⟩ := pairOff_cons_of_find rest chosen
      rw [same]
      exact ih.cons_cons w

/-- Nothing that is left over counts as a wanted thing that was not found. -/
theorem not_isFor_leftover (member : w ∈ wanted)
    (missing : w ∉ (pairOff isFor wanted actual).found) :
    ∀ a ∈ (pairOff isFor wanted actual).leftover, isFor a w = false := by
  induction wanted generalizing actual with
  | nil => exact absurd member List.not_mem_nil
  | cons v rest ih =>
    cases chosen : actual.find? (isFor · v) with
    | none =>
      rw [pairOff_cons_of_none chosen] at missing ⊢
      rcases List.mem_cons.mp member with rfl | member
      · -- nothing at all counts as `w`
        intro a left
        simpa using List.find?_eq_none.mp chosen a (leftover_sublist.subset left)
      · exact ih member missing
    | some b =>
      obtain ⟨before, after, rfl, -, -, same⟩ := pairOff_cons_of_find rest chosen
      rw [same] at missing ⊢
      have apart : w ≠ v ∧ w ∉ (pairOff isFor rest (before ++ after)).found := by
        simpa [Pairing.found] using missing
      exact ih (List.mem_of_ne_of_mem apart.1 member) apart.2

/-- Every actual thing is found for a wanted one or left over, as often as it is there. -/
theorem perm_pairOff : actual.Perm
    ((pairOff isFor wanted actual).pairs.map Prod.snd ++
      (pairOff isFor wanted actual).leftover) := by
  induction wanted generalizing actual with
  | nil => exact List.Perm.refl actual
  | cons v rest ih =>
    cases chosen : actual.find? (isFor · v) with
    | none =>
      rw [pairOff_cons_of_none chosen]
      exact ih
    | some b =>
      obtain ⟨before, after, rfl, -, -, same⟩ := pairOff_cons_of_find rest chosen
      rw [same]
      exact List.perm_middle.trans (ih.cons b)

/-- As many actual things are gone as were found. -/
theorem length_found_add_leftover : (pairOff isFor wanted actual).found.length +
    (pairOff isFor wanted actual).leftover.length = actual.length := by
  have total := (@perm_pairOff α isFor wanted actual).length_eq
  simpa [Pairing.found] using total.symm

theorem mem_pairs_or_mem_leftover (there : a ∈ actual) :
    (∃ w, (w, a) ∈ (pairOff isFor wanted actual).pairs) ∨
      a ∈ (pairOff isFor wanted actual).leftover := by
  refine (List.mem_append.mp (perm_pairOff.subset there)).imp_left fun found => ?_
  obtain ⟨⟨w, _⟩, pair, rfl⟩ := List.mem_map.mp found
  exact ⟨w, pair⟩

/-- What is found for a wanted thing is there and counts as it. -/
theorem of_mem_pairs (pair : (w, a) ∈ (pairOff isFor wanted actual).pairs) :
    w ∈ wanted ∧ a ∈ actual ∧ isFor a w = true := by
  have there : a ∈ actual :=
    perm_pairOff.symm.subset (List.mem_append_left _ (List.mem_map_of_mem pair))
  refine ⟨found_sublist.subset (List.mem_map_of_mem pair), there, ?_⟩
  clear there
  induction wanted generalizing actual with
  | nil => exact absurd pair List.not_mem_nil
  | cons v rest ih =>
    cases chosen : actual.find? (isFor · v) with
    | none =>
      rw [pairOff_cons_of_none chosen] at pair
      exact ih pair
    | some b =>
      obtain ⟨before, after, rfl, -, fits, same⟩ := pairOff_cons_of_find rest chosen
      rw [same] at pair
      rcases List.mem_cons.mp pair with own | pair
      · obtain ⟨rfl, rfl⟩ := Prod.mk.inj own
        exact fits
      · exact ih pair

/-- What is found is not left over if nothing of its sort is there twice. -/
theorem not_mem_leftover {sort : α → Bool} (once : (actual.filter sort).Nodup)
    (own : sort a = true) (pair : (w, a) ∈ (pairOff isFor wanted actual).pairs) :
    a ∉ (pairOff isFor wanted actual).leftover := by
  intro left
  rw [(perm_pairOff.filter sort).nodup_iff, List.filter_append] at once
  have found := List.mem_filter.mpr ⟨List.mem_map_of_mem (f := Prod.snd) pair, own⟩
  exact List.disjoint_of_nodup_append once found (List.mem_filter.mpr ⟨left, own⟩)

/-! ### Pairing again -/

variable [DecidableEq α]

/-- What there is once everything left over has been removed, and everything that was not found
has been added. -/
def settled (isFor : α → α → Bool) (wanted actual : List α) : List α :=
  actual.filter (· ∉ (pairOff isFor wanted actual).leftover) ++
    wanted.filter (· ∉ (pairOff isFor wanted actual).found)

/-- A wanted thing that was found stays, in its place. -/
theorem settled_cons_of_find (chosen : actual.find? (isFor · w) = some a) (once : actual.Nodup)
    (other : w ∉ wanted) :
    ∃ before after, settled isFor (w :: wanted) actual = before ++ a :: after ∧
      (∀ b ∈ before, isFor b w = false) ∧ isFor a w = true ∧
      ∃ rest, settled isFor wanted rest = before ++ after ∧ rest.Nodup := by
  obtain ⟨before, after, rfl, apart, fits, same⟩ := pairOff_cons_of_find wanted chosen
  have once' := List.nodup_cons.mp (List.nodup_middle.mp once)
  -- what `w` takes is there once, so it is not left over by what is wanted besides
  have stays : a ∉ (pairOff isFor wanted (before ++ after)).leftover :=
    fun left => once'.1 (leftover_sublist.subset left)
  have new : wanted.filter (· ∉ w :: (pairOff isFor wanted (before ++ after)).found) =
      wanted.filter (· ∉ (pairOff isFor wanted (before ++ after)).found) := by
    refine List.filter_congr fun v hv => ?_
    have apart : v ≠ w := fun e => other (e ▸ hv)
    simp [apart]
  refine ⟨before.filter (· ∉ (pairOff isFor wanted (before ++ after)).leftover),
    after.filter (· ∉ (pairOff isFor wanted (before ++ after)).leftover) ++
      wanted.filter (· ∉ (pairOff isFor wanted (before ++ after)).found), ?_,
    fun b hb => apart b (List.mem_of_mem_filter hb), fits, before ++ after, ?_, once'.2⟩
  · have found : (pairOff isFor (w :: wanted) (before ++ a :: after)).found =
        w :: (pairOff isFor wanted (before ++ after)).found := by rw [same]; rfl
    rw [settled, found, List.filter_cons_of_neg (by simp), new, same]
    simp [stays]
  · simp [settled]

/-- A wanted thing that was not found stands behind all that is kept. -/
theorem settled_cons_of_none (missing : actual.find? (isFor · w) = none) (other : w ∉ wanted) :
    ∃ before after, settled isFor (w :: wanted) actual = before ++ w :: after ∧
      (∀ b ∈ before, isFor b w = false) ∧ settled isFor wanted actual = before ++ after := by
  have new : w ∉ (pairOff isFor wanted actual).found := fun h => other (found_sublist.subset h)
  refine ⟨actual.filter (· ∉ (pairOff isFor wanted actual).leftover),
    wanted.filter (· ∉ (pairOff isFor wanted actual).found), ?_, fun b hb => ?_, rfl⟩
  · simp [settled, pairOff_cons_of_none missing, new]
  · simpa using List.find?_eq_none.mp missing b (List.mem_of_mem_filter hb)

/-- Pairing finds everything among what has been settled, and leaves nothing. -/
theorem pairOff_settled (self : ∀ w ∈ wanted, isFor w w = true) (each : wanted.Nodup)
    (once : actual.Nodup) :
    (pairOff isFor wanted (settled isFor wanted actual)).found = wanted ∧
      (pairOff isFor wanted (settled isFor wanted actual)).leftover = [] := by
  induction wanted generalizing actual with
  | nil =>
    have none_ : settled isFor [] actual = [] := by
      simp only [settled, pairOff, List.filter_nil, List.append_nil, List.filter_eq_nil_iff]
      intro a there
      simp [there]
    exact ⟨rfl, none_⟩
  | cons w rest ih =>
    obtain ⟨other, each'⟩ := List.nodup_cons.mp each
    have self' := fun v hv => self v (List.mem_cons_of_mem w hv)
    -- in both cases the first that counts as `w` is where it was, and the rest is settled
    obtain ⟨before, a, after, same, apart, fits, actual', rest_, once'⟩ :
        ∃ before a after, settled isFor (w :: rest) actual = before ++ a :: after ∧
          (∀ b ∈ before, isFor b w = false) ∧ isFor a w = true ∧
          ∃ actual', settled isFor rest actual' = before ++ after ∧ actual'.Nodup := by
      cases chosen : actual.find? (isFor · w) with
      | some a =>
        obtain ⟨before, after, found⟩ := settled_cons_of_find chosen once other
        exact ⟨before, a, after, found⟩
      | none =>
        obtain ⟨before, after, same, apart, rest_⟩ := settled_cons_of_none chosen other
        exact ⟨before, w, after, same, apart, self w List.mem_cons_self, actual, rest_, once⟩
    have chosen : (before ++ a :: after).find? (isFor · w) = some a := by
      rw [List.find?_eq_some_iff_append]
      exact ⟨fits, before, after, rfl, by simpa using apart⟩
    obtain ⟨found, leftover⟩ := ih self' each' once'
    rw [rest_] at found leftover
    rw [same, pairOff, chosen]
    simp only [eraseP_middle apart fits]
    exact ⟨congrArg (w :: ·) found, leftover⟩

end Pairs

/-! ### Mappings that count as themselves -/

theorem LocalEndpoint.agree_self (locals : List LocalEndpoint) : agree locals locals = true := by
  simp [agree]

/-- A static mapping with an endpoint counts as itself. -/
theorem StaticMapping.isFor_self {m : StaticMapping} (endpoint : m.locals ≠ []) :
    isFor m m = true := by
  unfold isFor
  split
  · simp [isBalancedFor, sameService, LocalEndpoint.agree_self]
  · next single =>
    obtain ⟨e, only⟩ : ∃ e, m.locals = [e] := by
      refine List.length_eq_one_iff.mp ?_
      have some_ : 0 < m.locals.length := List.length_pos_of_ne_nil endpoint
      simp only [isLoadBalanced, decide_eq_true_eq] at single
      omega
    simp [isSingleFor, sameService, only]

/-- An identity mapping counts as itself. -/
theorem IdentityMapping.isFor_self (m : IdentityMapping) : isFor m m = true := beq_self_eq_true m

end DataplaneSync
