import DataplaneSync.Configuration

namespace DataplaneSync.Configuration

/-!
# What validation accepts

* `checkInterfaces_eq_ok_iff`, `checkLabels_eq_ok_iff` — no name is missing or repeated.
* `validate_eq_ok_iff` — the configurations that are accepted.
-/

/-- Names are accepted if each is one, and new. -/
theorem checkInterfaces_eq_ok_iff {seen names : List String} :
    checkInterfaces seen names = .ok () ↔
      names.Nodup ∧ ∀ n ∈ names, n ≠ "" ∧ n ∉ seen := by
  induction names generalizing seen with
  | nil => simp [checkInterfaces]
  | cons n ns ih =>
    unfold checkInterfaces
    by_cases nameless : n = ""
    · simp [nameless]
    by_cases repeated : n ∈ seen
    · simp [nameless, repeated]
    rw [if_neg nameless, if_neg repeated, ih, List.nodup_cons]
    constructor
    · rintro ⟨apart, fresh⟩
      refine ⟨⟨fun again => (fresh n again).2 List.mem_cons_self, apart⟩, fun m hm => ?_⟩
      rcases List.mem_cons.mp hm with rfl | hm
      · exact ⟨nameless, repeated⟩
      · exact ⟨(fresh m hm).1, fun before => (fresh m hm).2 (List.mem_cons_of_mem n before)⟩
    · rintro ⟨⟨once, apart⟩, fresh⟩
      refine ⟨apart, fun m hm => ⟨(fresh m (List.mem_cons_of_mem n hm)).1, fun before => ?_⟩⟩
      rcases List.mem_cons.mp before with rfl | before
      · exact once hm
      · exact (fresh m (List.mem_cons_of_mem n hm)).2 before

/-- Labels are accepted if each is new. -/
theorem checkLabels_eq_ok_iff {seen labels : List String} :
    checkLabels seen labels = .ok () ↔ labels.Nodup ∧ ∀ l ∈ labels, l ∉ seen := by
  induction labels generalizing seen with
  | nil => simp [checkLabels]
  | cons l ls ih =>
    unfold checkLabels
    by_cases repeated : l ∈ seen
    · simp [repeated]
    rw [if_neg repeated, ih, List.nodup_cons]
    constructor
    · rintro ⟨apart, fresh⟩
      refine ⟨⟨fun again => fresh l again List.mem_cons_self, apart⟩, fun m hm => ?_⟩
      rcases List.mem_cons.mp hm with rfl | hm
      · exact repeated
      · exact fun before => fresh m hm (List.mem_cons_of_mem l before)
    · rintro ⟨⟨once, apart⟩, fresh⟩
      refine ⟨apart, fun m hm before => ?_⟩
      rcases List.mem_cons.mp before with rfl | before
      · exact once hm
      · exact fresh m (List.mem_cons_of_mem l hm) before

/-- A configuration is accepted if its interfaces have names, all different, and the labels of
its groups are different. -/
theorem validate_eq_ok_iff {c : Configuration} :
    c.validate = .ok () ↔
      ((c.desired.interfaces.map (·.name)).Nodup ∧ ∀ i ∈ c.desired.interfaces, i.name ≠ "") ∧
        (c.desired.destinations.map (·.label)).Nodup := by
  have both : c.validate = .ok () ↔
      checkInterfaces [] (c.desired.interfaces.map (·.name)) = .ok () ∧
        checkLabels [] (c.desired.destinations.map (·.label)) = .ok () := by
    unfold validate
    cases checkInterfaces [] (c.desired.interfaces.map (·.name)) with
    | error e => exact ⟨nofun, nofun⟩
    | ok u => exact ⟨fun h => ⟨rfl, h⟩, fun h => h.2⟩
  rw [both, checkInterfaces_eq_ok_iff, checkLabels_eq_ok_iff]
  simp

end DataplaneSync.Configuration
