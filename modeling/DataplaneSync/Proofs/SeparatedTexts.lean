import Mathlib.Data.List.Basic

namespace DataplaneSync.Text

/-!
# Texts with separators

Fields that are written one behind the other, with a separator between them and without escapes, can
be told apart as long as the separator is not in them.

* `cut_first`, `cut_last` — a text is cut at the first, and at the last, separator in one way.
* `fields_inj` — a fixed number of fields, of which the last may contain the separator.
* `list_inj` — any number of fields, none of them empty.
* `mem_intercalate_iff`, `map_intercalate` — the characters of a text are those of its fields and
  separators.
* `notMem_toString`, `toString_toNat_inj` — numerals as fields.
-/

variable {c : Char} {xs ys s t : List Char}

/-- A text is cut at the first separator in one way. -/
theorem cut_first (clean : c ∉ xs) (clean' : c ∉ ys) (same : xs ++ c :: s = ys ++ c :: t) :
    xs = ys ∧ s = t := by
  induction xs generalizing ys with
  | nil =>
    cases ys with
    | nil => exact ⟨rfl, List.tail_eq_of_cons_eq same⟩
    | cons y ys =>
      obtain ⟨rfl, -⟩ := List.cons.inj same
      exact absurd List.mem_cons_self clean'
  | cons x xs ih =>
    cases ys with
    | nil =>
      obtain ⟨rfl, -⟩ := List.cons.inj same
      exact absurd List.mem_cons_self clean
    | cons y ys =>
      obtain ⟨rfl, rest⟩ := List.cons.inj same
      obtain ⟨rfl, behind⟩ := ih (fun h => clean (List.mem_cons_of_mem x h))
        (fun h => clean' (List.mem_cons_of_mem x h)) rest
      exact ⟨rfl, behind⟩

/-- A text is cut at the last separator in one way. -/
theorem cut_last (clean : c ∉ s) (clean' : c ∉ t) (same : xs ++ c :: s = ys ++ c :: t) :
    xs = ys ∧ s = t := by
  have turned : s.reverse ++ c :: xs.reverse = t.reverse ++ c :: ys.reverse := by
    simpa using congrArg List.reverse same
  obtain ⟨behind, before⟩ := cut_first (by simpa using clean) (by simpa using clean') turned
  exact ⟨List.reverse_inj.mp before, List.reverse_inj.mp behind⟩

/-- As many fields with separators between them are told apart.  The last field may contain the
separator. -/
theorem fields_inj {fields fields' : List (List Char)} {last last' : List Char}
    (size : fields.length = fields'.length) (clean : ∀ f ∈ fields, c ∉ f)
    (clean' : ∀ f ∈ fields', c ∉ f)
    (same : [c].intercalate (fields ++ [last]) = [c].intercalate (fields' ++ [last'])) :
    fields = fields' ∧ last = last' := by
  -- field by field: what stands before the first separator is the first field
  induction fields generalizing fields' with
  | nil =>
    obtain rfl := List.length_eq_zero_iff.mp size.symm
    exact ⟨rfl, by simpa using same⟩
  | cons f rest ih =>
    cases fields' with
    | nil => simp at size
    | cons f' rest' =>
      rw [List.cons_append, List.cons_append, List.intercalate_cons_of_ne_nil (by simp),
        List.intercalate_cons_of_ne_nil (by simp), List.append_assoc, List.append_assoc] at same
      obtain ⟨rfl, behind⟩ :=
        cut_first (clean f List.mem_cons_self) (clean' f' List.mem_cons_self) same
      obtain ⟨rfl, rfl⟩ := ih (by simpa using size)
        (fun g hg => clean g (List.mem_cons_of_mem f hg))
        (fun g hg => clean' g (List.mem_cons_of_mem f hg)) behind
      exact ⟨rfl, rfl⟩

/-- Without fields there is no text, and with fields that are not empty there is one. -/
theorem intercalate_eq_nil_iff {fields : List (List Char)} (solid : ∀ f ∈ fields, f ≠ []) :
    [c].intercalate fields = [] ↔ fields = [] := by
  cases fields with
  | nil => simp
  | cons f rest =>
    have some_ := solid f List.mem_cons_self
    cases rest with
    | nil => simpa using some_
    | cons g rest => simp [List.intercalate_cons_cons, some_]

/-- Lists of fields, none of them empty, with separators between them are told apart. -/
theorem list_inj {fields fields' : List (List Char)} (clean : ∀ f ∈ fields, c ∉ f ∧ f ≠ [])
    (clean' : ∀ f ∈ fields', c ∉ f ∧ f ≠ [])
    (same : [c].intercalate fields = [c].intercalate fields') : fields = fields' := by
  have none_iff : fields = [] ↔ fields' = [] := by
    rw [← intercalate_eq_nil_iff (c := c) fun f hf => (clean f hf).2, same,
      intercalate_eq_nil_iff fun f hf => (clean' f hf).2]
  by_cases none_ : fields = []
  · -- an empty text would also split into one empty field
    rw [none_, none_iff.mp none_]
  · rw [← List.splitOn_intercalate c (fun f hf => (clean f hf).1) none_, same,
      List.splitOn_intercalate c (fun f hf => (clean' f hf).1) (mt none_iff.mpr none_)]

/-- The characters of a text of fields, apart from the separator. -/
theorem mem_intercalate_iff {x : Char} {fields : List (List Char)} (other : x ≠ c) :
    x ∈ [c].intercalate fields ↔ ∃ f ∈ fields, x ∈ f := by
  induction fields with
  | nil => simp
  | cons f rest ih =>
    -- there is no separator behind the last field
    by_cases last : rest = []
    · simp [last]
    · simp [List.intercalate_cons_of_ne_nil last, ih, other]

/-- The separator is in the text if there is more than one field. -/
theorem mem_intercalate_self {fields : List (List Char)} (several : 1 < fields.length) :
    c ∈ [c].intercalate fields := by
  match fields, several with
  | f :: g :: rest, _ => simp [List.intercalate_cons_cons]

/-- A change of all characters is one of the fields and the separator. -/
theorem map_intercalate (change : Char → Char) (c : Char) (fields : List (List Char)) :
    ([c].intercalate fields).map change =
      [change c].intercalate (fields.map (List.map change)) := by
  induction fields with
  | nil => rfl
  | cons f rest ih =>
    by_cases last : rest = []
    · simp [last]
    · have last' : rest.map (List.map change) ≠ [] := mt List.map_eq_nil_iff.mp last
      rw [List.map_cons, List.intercalate_cons_of_ne_nil last,
        List.intercalate_cons_of_ne_nil last', List.map_append, List.map_append, ih]
      rfl

/-- A numeral has no separator. -/
theorem notMem_toString {c : Char} (separator : c.isDigit = false) (n : ℕ) :
    c ∉ (toString n).toList := by
  intro member
  rw [Nat.toString_eq_repr, Nat.toList_repr] at member
  rw [Nat.isDigit_of_mem_toDigits (by decide) (by decide) member] at separator
  contradiction

/-- A number can be read off its numeral. -/
theorem toString_toNat_inj {m n : UInt32}
    (same : (toString m.toNat).toList = (toString n.toNat).toList) : m = n := by
  rw [Nat.toString_eq_repr, Nat.toString_eq_repr, Nat.toList_repr, Nat.toList_repr] at same
  refine UInt32.toNat_inj.mp ?_
  calc
    m.toNat = Nat.ofDigitChars 10 (Nat.toDigits 10 m.toNat) 0 :=
      Nat.ofDigitChars_ten_toDigits.symm
    _ = Nat.ofDigitChars 10 (Nat.toDigits 10 n.toNat) 0 := by rw [same]
    _ = n.toNat := Nat.ofDigitChars_ten_toDigits

end DataplaneSync.Text
