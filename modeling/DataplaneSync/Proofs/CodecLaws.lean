import DataplaneSync.Codec
import DataplaneSync.Proofs.Lookup

namespace DataplaneSync

/-!
# Laws of codecs

Which values are read back from what is written of them, and what a record is read from.

* `Codec.RoundTrips` — every value is read back from its JSON form.
* `Codec.Present` — nothing that is there is written as `null`.
* `completed` — the members of an object after the missing ones have been filled in and the unknown
  ones left out.
* `Codec.Completes` — a record is read from an object as from its completed members, where the
  starting value fills in.
* `Codec.Spells` — what the members of a record have to do for both.
-/

/-- Every value is read back from its JSON form. -/
def Codec.RoundTrips {α : Type} (c : Codec α) : Prop := ∀ a, c.read (c.write a) = .ok a

/-- No value is written as `null`. -/
def Codec.Present {α : Type} (c : Codec α) : Prop := ∀ a, Document.isAbsent (c.write a) = false

namespace Codec

variable {α ρ : Type} {c : Codec α}

/-! ### Plain values -/

@[simp] theorem text_roundTrips : text.RoundTrips := fun _ => rfl

@[simp] theorem flag_roundTrips : flag.RoundTrips := fun _ => rfl

@[simp] theorem word_roundTrips : word.RoundTrips := by
  intro n
  have small : n.toNat < UInt32.size := n.toNat_lt
  have found : Json.asWord? (.int n.toNat) = some n := by
    simp [Json.asWord?, small]
  exact congrArg expected found

/-- Alternatives are read back if each is the first of its name. -/
theorem choice_roundTrips {name : α → String} {alternatives : List α}
    (first : ∀ a, alternatives.find? (name · == name a) = some a) :
    (choice name alternatives).RoundTrips :=
  fun a => congrArg expected (first a)

/-! ### Collections -/

@[simp] theorem option_roundTrips (back : c.RoundTrips) (present : c.Present) :
    (option c).RoundTrips
  | none => rfl
  | some a => by
    have there : ¬ Document.isAbsent (c.write a) = true := by simp [present a]
    exact (if_neg there).trans (congrArg (Except.map some) (back a))

@[simp] theorem list_roundTrips (back : c.RoundTrips) : (list c).RoundTrips := by
  intro as
  change (as.map c.write).mapM c.read = .ok as
  induction as with
  | nil => rfl
  | cons a rest ih =>
    rw [List.map_cons, List.mapM_cons, back a, ih]
    rfl

/-- Reading the last entries of a table puts them behind those that are there. -/
theorem dictionary_read_from (back : c.RoundTrips) {es : List (String × α)}
    (t whole : Table String α) (parts : t.entries ++ es = whole.entries) :
    (es.map fun e => (e.1, c.write e.2)).foldlM
      (fun (t : Table String α) m => (c.read m.2).map (t.insert m.1)) t = .ok whole := by
  induction es generalizing t with
  | nil =>
    obtain rfl : t = whole := Table.ext_entries (by simpa using parts)
    rfl
  | cons e rest ih =>
    have ascending := whole.ascending
    rw [← parts, Ascending, List.pairwise_append] at ascending
    have last : (t.insert e.1 e.2).entries = t.entries ++ [e] :=
      Table.insertEntry_last fun f member => ascending.2.2 f member e List.mem_cons_self
    rw [List.map_cons, List.foldlM_cons, back e.2]
    exact ih (t.insert e.1 e.2) (by rw [last, List.append_assoc]; exact parts)

@[simp] theorem dictionary_roundTrips (back : c.RoundTrips) : (dictionary c).RoundTrips :=
  fun t => dictionary_read_from back ∅ t rfl

end Codec

/-! ### Records -/

/-- The members of an object where `defaults` stand in for the missing ones, without those that
`defaults` does not name. -/
def completed (defaults members : List (String × Json)) : List (String × Json) :=
  defaults.filter (fun m => m.1 ∉ members.map Prod.fst) ++
    members.filter (fun m => m.1 ∈ defaults.map Prod.fst)

namespace Codec

variable {α ρ : Type}

/-- A record is read from an object as from its completed members, where the form of `start` fills
in. -/
def Completes (c : Codec ρ) (start : ρ) : Prop :=
  ∃ defaults, c.write start = .obj defaults ∧
    ∀ members, c.read (Json.obj members) = c.read (Json.obj (completed defaults members))

/-- Read into a record, one after the other, what the members are written as of `r`. -/
def copy (r : ρ) : List (Field ρ) → ρ → Except DecodeError ρ
  | [], p => .ok p
  | f :: rest, p => f.read (f.write r) p >>= copy r rest

/-- The members of a record have names of their own, each is written as it is read, and together
they make up the record. -/
structure Spells (start : ρ) (fields : List (Field ρ)) : Prop where
  distinct : (fields.map Field.name).Nodup
  keeps : ∀ f ∈ fields, ∀ r, f.read (f.write r) r = .ok r
  rebuilds : ∀ r, copy r fields start = .ok r

section Records

variable {start r p : ρ} {seen : List String} {fields part : List (Field ρ)} {f : Field ρ}
  {members : List (String × Json)} {m : String × Json} {x : Partial ρ}

theorem read_record :
    (record start fields).read (Json.obj members) =
      (members.foldlM (Partial.take fields) ⟨start, []⟩).map Partial.value := by
  change (members.foldlM (Partial.take fields) ⟨start, []⟩ >>= fun p => pure p.value) = _
  cases members.foldlM (Partial.take fields) ⟨start, []⟩ <;> rfl

/-- A member is looked up by its name. -/
theorem find?_name (distinct : (fields.map Field.name).Nodup) (member : f ∈ fields) :
    fields.find? (·.name == f.name) = some f := by
  induction fields with
  | nil => exact absurd member List.not_mem_nil
  | cons g rest ih =>
    obtain ⟨apart, distinct⟩ := List.nodup_cons.mp distinct
    rcases List.mem_cons.mp member with rfl | member
    · exact List.find?_cons_of_pos (beq_self_eq_true f.name)
    · have other : (g.name == f.name) = false :=
        beq_false_of_ne fun same => apart (same ▸ List.mem_map_of_mem member)
      rw [List.find?_cons, other]
      exact ih distinct member

theorem take_unknown (unknown : fields.find? (·.name == m.1) = none) :
    Partial.take fields x m = .ok x := by
  rw [Partial.take, unknown]

theorem take_again (known : fields.find? (·.name == m.1) = some f) (again : m.1 ∈ x.seen) :
    Partial.take fields x m = .error .shape := by
  rw [Partial.take, known]
  exact if_pos again

theorem take_new (known : fields.find? (·.name == m.1) = some f) (new : m.1 ∉ x.seen) :
    Partial.take fields x m = (f.read m.2 x.value).map fun r => ⟨r, m.1 :: x.seen⟩ := by
  rw [Partial.take, known]
  exact if_neg new

/-- Taking members as they are written of `r` copies them. -/
theorem take_written (distinct : (fields.map Field.name).Nodup) (among : part ⊆ fields)
    (once : (part.map Field.name).Nodup) (fresh : ∀ f ∈ part, f.name ∉ seen) :
    (part.map fun f => (f.name, f.write r)).foldlM (Partial.take fields) ⟨p, seen⟩ =
      (copy r part p).map fun q => ⟨q, (part.map Field.name).reverse ++ seen⟩ := by
  induction part generalizing p seen with
  | nil => rfl
  | cons f rest ih =>
    obtain ⟨apart, once⟩ := List.nodup_cons.mp once
    have first : Partial.take fields ⟨p, seen⟩ (f.name, f.write r) =
        (f.read (f.write r) p).map fun q => ⟨q, f.name :: seen⟩ :=
      take_new (find?_name distinct (among List.mem_cons_self)) (fresh f List.mem_cons_self)
    have fresh' : ∀ g ∈ rest, g.name ∉ f.name :: seen := by
      intro g later
      rw [List.mem_cons, not_or]
      exact ⟨fun same => apart (same ▸ List.mem_map_of_mem later),
        fresh g (List.mem_cons_of_mem f later)⟩
    rw [List.map_cons, List.foldlM_cons, copy, first]
    cases f.read (f.write r) p with
    | error e => rfl
    | ok q =>
      refine (ih (fun g later => among (List.mem_cons_of_mem f later)) once fresh').trans ?_
      rw [List.map_cons, List.reverse_cons, List.append_assoc]
      rfl

/-- Members without a field are passed over. -/
theorem take_known (x : Partial ρ) :
    (members.filter fun m => m.1 ∈ fields.map Field.name).foldlM (Partial.take fields) x =
      members.foldlM (Partial.take fields) x := by
  induction members generalizing x with
  | nil => rfl
  | cons m rest ih =>
    by_cases known : m.1 ∈ fields.map Field.name
    · rw [List.filter_cons_of_pos (by simpa using known), List.foldlM_cons, List.foldlM_cons]
      exact bind_congr fun y => ih y
    · have missing : fields.find? (·.name == m.1) = none := by
        rw [List.find?_eq_none]
        intro f member same
        exact known (List.mem_map.mpr ⟨f, member, by simpa using same⟩)
      rw [List.filter_cons_of_neg (by simpa using known), List.foldlM_cons, take_unknown missing]
      exact ih x

/-- Of the names seen before, only those of members yet to come matter. -/
theorem take_seen {seen' : List String} (same : ∀ m ∈ members, m.1 ∈ seen ↔ m.1 ∈ seen') :
    (members.foldlM (Partial.take fields) ⟨p, seen⟩).map Partial.value =
      (members.foldlM (Partial.take fields) ⟨p, seen'⟩).map Partial.value := by
  induction members generalizing p seen seen' with
  | nil => rfl
  | cons m rest ih =>
    have later : ∀ n ∈ rest, n.1 ∈ seen ↔ n.1 ∈ seen' :=
      fun n member => same n (List.mem_cons_of_mem m member)
    have later' : ∀ n ∈ rest, n.1 ∈ m.1 :: seen ↔ n.1 ∈ m.1 :: seen' := by
      intro n member
      rw [List.mem_cons, List.mem_cons, later n member]
    rw [List.foldlM_cons, List.foldlM_cons]
    cases known : fields.find? (·.name == m.1) with
    | none =>
      rw [take_unknown known, take_unknown known]
      exact ih later
    | some f =>
      by_cases before : m.1 ∈ seen
      · rw [take_again known before, take_again known ((same m List.mem_cons_self).mp before)]
      · rw [take_new known before, take_new known (mt (same m List.mem_cons_self).mpr before)]
        cases f.read m.2 p with
        | error e => rfl
        | ok q => exact ih later'

/-- A record is read back from its form. -/
theorem Spells.roundTrips (spells : Spells start fields) : (record start fields).RoundTrips := by
  intro r
  have new : ∀ f ∈ fields, f.name ∉ ([] : List String) := fun _ _ => List.not_mem_nil
  have all := take_written (r := r) (p := start) spells.distinct (List.Subset.refl fields)
    spells.distinct new
  refine read_record.trans ?_
  rw [all, spells.rebuilds r]
  rfl

/-- What the starting value has need not be given, and what has no field does not matter. -/
theorem Spells.completes (spells : Spells start fields) :
    (record start fields).Completes start := by
  refine ⟨fields.map fun f => (f.name, f.write start), rfl, fun members => ?_⟩
  have names : (fields.map fun f => (f.name, f.write start)).map Prod.fst =
      fields.map Field.name := by
    rw [List.map_map]
    rfl
  let missing := fields.filter fun f => f.name ∉ members.map Prod.fst
  have gaps : (fields.map fun f => (f.name, f.write start)).filter
      (fun m => m.1 ∉ members.map Prod.fst) = missing.map fun f => (f.name, f.write start) := by
    rw [List.filter_map]
    rfl
  -- what fills in leaves the starting value as it is
  have kept : ∀ part ⊆ fields, copy start part start = .ok start := by
    intro part among
    induction part with
    | nil => rfl
    | cons f rest ih =>
      rw [copy, spells.keeps f (among List.mem_cons_self)]
      exact ih fun g later => among (List.mem_cons_of_mem f later)
  have among : missing ⊆ fields := List.filter_sublist.subset
  have new : ∀ f ∈ missing, f.name ∉ ([] : List String) := fun _ _ => List.not_mem_nil
  have filled := take_written (r := start) (p := start) spells.distinct among
    (spells.distinct.sublist (List.filter_sublist.map _)) new
  rw [kept missing among] at filled
  rw [read_record, read_record, completed, names, gaps, List.foldlM_append, filled, ← take_known]
  refine take_seen fun m member => ?_
  have given : m.1 ∈ members.map Prod.fst := List.mem_map_of_mem (List.mem_filter.mp member).1
  simp only [List.not_mem_nil, List.append_nil, List.mem_reverse, false_iff]
  intro filler
  obtain ⟨f, absent, same⟩ := List.mem_map.mp filler
  have unnamed := (List.mem_filter.mp absent).2
  rw [same] at unnamed
  simp [given] at unnamed

/-- Records that are read back, and read from whatever members are given. -/
structure KeepsRecords (c : Codec ρ) (start : ρ) : Prop where
  roundTrips : c.RoundTrips
  present : c.Present
  completes : c.Completes start

/-- An object without members stands for the starting value. -/
theorem KeepsRecords.read_nothing {c : Codec ρ} (h : c.KeepsRecords start) :
    c.read (Json.obj []) = .ok start := by
  obtain ⟨defaults, written, same⟩ := h.completes
  have all : completed defaults [] = defaults := by simp [completed]
  rw [same [], all, ← written, h.roundTrips start]

/-- Optional records are read back, for no record is written as `null`. -/
theorem KeepsRecords.option_roundTrips {c : Codec ρ} (h : c.KeepsRecords start) :
    (option c).RoundTrips :=
  Codec.option_roundTrips h.roundTrips h.present

theorem Spells.keepsRecords (spells : Spells start fields) :
    (record start fields).KeepsRecords start :=
  ⟨spells.roundTrips, fun _ => rfl, spells.completes⟩

/-- A member is read as it is written if its values are. -/
@[simp] theorem read_write_make {name : String} {c : Codec α} {get : ρ → α} {set : α → ρ → ρ}
    (back : c.RoundTrips) :
    (Field.make name c get set).read ((Field.make name c get set).write r) p =
      .ok (set (get r) p) :=
  congrArg (Except.map fun a => set a p) (back (get r))

@[simp] theorem copy_nil : copy r [] p = .ok p := rfl

@[simp] theorem copy_make {name : String} {c : Codec α} {get : ρ → α} {set : α → ρ → ρ}
    (back : c.RoundTrips) :
    copy r (Field.make name c get set :: part) p = copy r part (set (get r) p) := by
  rw [copy, read_write_make back]
  rfl

end Records

end Codec

end DataplaneSync
