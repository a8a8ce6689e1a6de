import DataplaneSync.Proofs.Lookup
import Mathlib.Data.Set.Card

namespace DataplaneSync

/-!
# What a registry owes to its history

Two tables of a registry are changed by hand with every operation, and may disagree where names
share an index.  Still its answers follow from what was done to it:

* `Registry.Change`, `Registry.after` — the operations, and the registry that they lead to.
* `Registry.Stands` — the last change of its sort, provided that nothing has undone it since.
* `Registry.lookup?_after`, `Registry.byIndex_after` — each table by the history.
* `Registry.answers_of_history` — all that a registry answers.
-/

namespace Registry

variable {μ : Type}

/-! ### Histories -/

/-- Something done to a registry. -/
inductive Change (μ : Type) where
  | register (name : String) (index : UInt32) (data : μ)
  | unregister (name : String)
  | clear

namespace Change

/-- The registry after a change.  A removal that fails changes nothing. -/
def applyTo (r : Registry μ) : Change μ → Registry μ
  | register name index data => r.register name index data
  | unregister name => r.drop name
  | clear => ∅

/-- Whether a change registers a name. -/
def Registers (name : String) : Change μ → Prop
  | register other _ _ => other = name
  | unregister _ => False
  | clear => False

/-- Whether a change registers a name under an index. -/
def Fills (index : UInt32) : Change μ → Prop
  | register _ j _ => j = index
  | unregister _ => False
  | clear => False

/-- Whether a change takes a name away: by a removal that succeeds, or with all others. -/
def Removes (name : String) (r : Registry μ) : Change μ → Prop
  | register _ _ _ => False
  | unregister other => other = name ∧ ∃ entry s, r.unregister name = .ok (entry, s)
  | clear => True

/-- Whether a change takes a name away from an index: it removes the name, or registers it under
another index. -/
def Vacates (name : String) (index : UInt32) (r : Registry μ) : Change μ → Prop
  | register other j _ => other = name ∧ j ≠ index
  | unregister other => (unregister other).Removes name r
  | clear => clear.Removes name r

end Change

open Change

/-- The registry that a history of changes leads to from the one in which nothing is registered. -/
def after (history : List (Change μ)) : Registry μ := history.foldl applyTo ∅

/-- A change is the last one of its sort in a history, and no later one has undone it, each seen in
the registry that it met. -/
def Stands (sort : Change μ → Prop) (undoes : Registry μ → Change μ → Prop)
    (history : List (Change μ)) (c : Change μ) : Prop :=
  ∃ before later, history = before ++ c :: later ∧ sort c ∧
    ∀ done x rest, later = done ++ x :: rest →
      ¬ sort x ∧ ¬ undoes (after (before ++ c :: done)) x

variable {history : List (Change μ)} {sort : Change μ → Prop} {x c : Change μ}
variable {undoes : Registry μ → Change μ → Prop} {name : String} {index : UInt32} {data : μ}

@[simp] theorem after_snoc (history : List (Change μ)) (c : Change μ) :
    after (history ++ [c]) = c.applyTo (after history) := by
  simp [after]

theorem not_stands_nil : ¬ Stands sort undoes [] c := by
  rintro ⟨before, later, same, -⟩
  simp at same

/-- With one more change either that one stands, or what stood before and is neither replaced nor
undone. -/
theorem stands_snoc : Stands sort undoes (history ++ [x]) c ↔
    x = c ∧ sort c ∨ Stands sort undoes history c ∧ ¬ sort x ∧ ¬ undoes (after history) x := by
  constructor
  · rintro ⟨before, later, same, own, intact⟩
    rcases List.eq_nil_or_concat' later with rfl | ⟨later, y, rfl⟩
    · obtain ⟨-, only⟩ := List.append_inj' same rfl
      exact Or.inl ⟨List.singleton_inj.mp only, own⟩
    · rw [← List.cons_append, ← List.append_assoc] at same
      obtain ⟨rfl, only⟩ := List.append_inj' same rfl
      obtain rfl := List.singleton_inj.mp only
      refine Or.inr ⟨⟨before, later, rfl, own, fun done z rest parts => ?_⟩, ?_⟩
      · exact intact done z (rest ++ [x]) (by simp [parts])
      · exact intact later x [] rfl
  · rintro (⟨rfl, own⟩ | ⟨⟨before, later, rfl, own, intact⟩, other, kept⟩)
    · exact ⟨history, [], rfl, own, by simp⟩
    · refine ⟨before, later ++ [x], by simp, own, fun done z rest parts => ?_⟩
      rcases List.eq_nil_or_concat' rest with rfl | ⟨rest, y, rfl⟩
      · obtain ⟨rfl, only⟩ := List.append_inj' parts rfl
        obtain rfl := List.singleton_inj.mp only
        exact ⟨other, kept⟩
      · rw [← List.cons_append, ← List.append_assoc] at parts
        exact intact done z rest (List.append_inj' parts rfl).1

/-! ### The tables -/

/-- A removal succeeds on what a look-up finds. -/
theorem exists_unregister {r : Registry μ} :
    (∃ entry s, r.unregister name = .ok (entry, s)) ↔ ∃ entry, r.lookup? name = some entry := by
  simp only [unregister_eq_ok_iff]
  constructor
  · rintro ⟨entry, -, found, -⟩
    exact ⟨entry, found⟩
  · rintro ⟨entry, found⟩
    exact ⟨entry, _, found, rfl⟩

/-- A removal fails on the other names. -/
theorem exists_unregister_error {r : Registry μ} :
    (∃ e, r.unregister name = .error e) ↔ r.lookup? name = none := by
  unfold unregister lookup?
  cases r.byName.get? name <;> simp

/-- A name has the index and the data of its last registration, if that stands. -/
theorem lookup?_after : (after history).lookup? name = some (index, data) ↔
    Stands (Registers name) (Removes name) history (.register name index data) := by
  induction history using List.reverseRecOn with
  | nil => exact ⟨nofun, fun stands => absurd stands not_stands_nil⟩
  | append_singleton history x ih =>
    rw [after_snoc, stands_snoc, ← ih]
    cases x with
    | register other j e =>
      rw [applyTo, lookup?_register]
      by_cases same : name = other
      · simp [same, Registers]
      · simp [same, Ne.symm same, Registers, Removes]
    | unregister other =>
      rw [applyTo, lookup?_drop]
      by_cases same : name = other
      · subst same
        -- what is found is removed, so nothing that stood is left
        simp only [Registers, Removes, exists_unregister]
        grind
      · simp [same, Ne.symm same, Registers, Removes]
    | clear => simp [applyTo, Registers, Removes]

theorem truthful_after (history : List (Change μ)) : (after history).Truthful := by
  induction history using List.reverseRecOn with
  | nil => exact truthful_empty
  | append_singleton history x ih =>
    rw [after_snoc]
    cases x with
    | register name index data => exact ih.register name index data
    | unregister name => exact ih.drop name
    | clear => exact truthful_empty

/-- An index shows the name registered last under it, as long as that stays there. -/
theorem byIndex_after : (after history).byIndex.get? index = some name ↔
    ∃ data, Stands (Fills index) (Vacates name index) history (.register name index data) := by
  induction history using List.reverseRecOn with
  | nil => exact ⟨nofun, fun ⟨_, stands⟩ => absurd stands not_stands_nil⟩
  | append_singleton history x ih =>
    have truthful := truthful_after history
    simp only [after_snoc, stands_snoc, exists_or, exists_and_right, ← ih]
    cases x with
    | register other j e =>
      show (((after history).leave other j).insert j other).get? index = some name ↔ _
      rw [Table.get?_insert]
      by_cases here : index = j
      · simp [here, Fills, eq_comm]
      · rw [if_neg here, truthful.get?_leave here]
        have elsewhere : ∀ d, Change.register other j e ≠ .register name index d :=
          fun d same => here (Change.register.inj same).2.1.symm
        simp only [Fills, Vacates, elsewhere]
        grind
    | unregister other =>
      show ((after history).drop other).byIndex.get? index = some name ↔ _
      rw [truthful.get?_drop]
      -- what is shown is registered, so it is removed if it is the name
      have registered := truthful name index
      simp only [Fills, Vacates, Removes, exists_unregister]
      grind
    | clear =>
      have gone : (applyTo (after history) .clear).byIndex.get? index = none := rfl
      simp [gone, Fills, Vacates, Removes]

/-! ### The answers -/

/-- The number of names that look-ups find. -/
theorem ncard_registered (r : Registry μ) :
    {name | ∃ entry, r.lookup? name = some entry}.ncard = r.size := by
  have keys : {name | ∃ entry, r.lookup? name = some entry} = ↑r.byName.keys.toFinset := by
    ext name
    simp [lookup?, Table.keys, ← Table.mem_entries]
  have once : r.byName.keys.Nodup := by
    rw [Table.keys, List.nodup_iff_pairwise_ne, List.pairwise_map]
    exact r.byName.ascending.imp fun {e f} below (same : e.1 = f.1) =>
      KeyOrder.irrefl f.1 (same ▸ below)
  rw [keys, Set.ncard_coe_finset, List.toFinset_card_of_nodup once]
  simp [Table.keys, size, Table.size]

/-- All that a registry answers follows from its history.

A name is found with the index and the data of its last registration, unless it has been taken away
since.  An index shows the name registered last under it, with the data that the name has now,
unless that name has left it since.  What the indexes show is listed by increasing index, each name
once.  A removal fails exactly on the names that are not found, and then changes nothing.  The size
is the number of names that are found. -/
theorem answers_of_history (history : List (Change μ)) :
    (∀ name index data, (after history).lookup? name = some (index, data) ↔
      Stands (Registers name) (Removes name) history (.register name index data)) ∧
    (∀ name index data, (after history).nameAt? index = some (name, data) ↔
      (∃ e, Stands (Fills index) (Vacates name index) history (.register name index e)) ∧
        ∃ j, (after history).lookup? name = some (j, data)) ∧
    (∀ name index data, (name, index, data) ∈ (after history).toList ↔
      (after history).nameAt? index = some (name, data)) ∧
    (after history).toList.Pairwise (fun x y => x.2.1 < y.2.1) ∧
    ((after history).toList.map Prod.fst).Nodup ∧
    (∀ name, (∃ e, (after history).unregister name = .error e) ↔
      (after history).lookup? name = none) ∧
    (∀ name e, (after history).unregister name = .error e →
      after (history ++ [.unregister name]) = after history) ∧
    (after history).size = {name | ∃ entry, (after history).lookup? name = some entry}.ncard := by
  refine ⟨fun _ _ _ => lookup?_after, fun name index data => ?_, fun _ _ _ => mem_toList,
    pairwise_toList _, (truthful_after history).nodup_names, fun _ => exists_unregister_error,
    fun name e failed => ?_, (ncard_registered _).symm⟩
  · rw [nameAt?_eq_some, byIndex_after]
  · simp [applyTo, drop, failed]

/-- Two names come to share an index.  Then the first one moves away, and the second one is
removed. -/
def quay : List (Change Nat) :=
  [.register "crane" 0 10, .register "barge" 0 20, .unregister "ferry", .register "crane" 3 30,
    .unregister "barge"]

/-- What stands at the quay is what is found there; the shared index shows nothing any more, and a
second removal fails. -/
theorem answers_of_history_quay :
    Stands (Registers "crane") (Removes "crane") quay (.register "crane" 3 30) ∧
    (∃ e, Stands (Fills 3) (Vacates "crane" 3) quay (.register "crane" 3 e)) ∧
    (∀ name data, (after quay).nameAt? 0 ≠ some (name, data)) ∧
    after (quay ++ [.unregister "barge"]) = after quay := by
  obtain ⟨found, shown, -, -, -, fails, idle, -⟩ := answers_of_history quay
  have crane : (after quay).lookup? "crane" = some (3, 30) := by decide +kernel
  have hidden : (after quay).nameAt? 0 = none := by decide +kernel
  obtain ⟨e, failed⟩ := (fails "barge").mpr (by decide +kernel)
  refine ⟨(found _ _ _).mp crane, ((shown "crane" 3 30).mp (by decide +kernel)).1, ?_,
    idle _ e failed⟩
  exact fun name data there => nomatch hidden.symm.trans there

end Registry

end DataplaneSync
