import DataplaneSync.Proofs.DataplaneHistory
import DataplaneSync.Proofs.InterfacePass

namespace DataplaneSync

/-!
# Ids of memif sockets

A new socket gets the number of sockets so far as its id, whatever ids these have.

* `Table.Injective` — different files have different ids.
* `Simulation.Turn.sockets` — what one exchange does to the sockets.
* `Opened` — which sockets there are once some have been opened; `Simulation.Serves.opened` says
  that a history does nothing else.
* `Simulation.socketIds_distinct_iff` — ids stay, and they are distinct as long as no new one has
  come to an id of the snapshot.
* `Simulation.socketIds_collide` — a single new socket may come to one.
-/

/-! ### Distinct values -/

/-- Different keys have different values. -/
def Table.Injective {κ α : Type} [LT κ] [DecidableEq κ] (t : Table κ α) : Prop :=
  ∀ k l v, t.get? k = some v → t.get? l = some v → k = l

/-- Different keys have different values if no value occurs twice. -/
theorem Table.nodup_values_iff {κ α : Type} [LT κ] [DecidableEq κ] [KeyOrder κ] {t : Table κ α} :
    t.values.Nodup ↔ t.Injective := by
  have once : t.entries.Nodup := by
    refine t.ascending.imp fun {e f} below same => ?_
    exact KeyOrder.irrefl e.1 (same ▸ below)
  rw [values, List.nodup_map_iff_inj_on once]
  constructor
  · intro apart k l v hk hl
    have same := apart (k, v) (mem_of_get? hk) (l, v) (mem_of_get? hl) rfl
    exact congrArg Prod.fst same
  · rintro injective ⟨k, v⟩ hk ⟨l, w⟩ hl same
    obtain rfl : v = w := same
    rw [injective k l v (mem_entries.mp hk) (mem_entries.mp hl)]

instance {κ α : Type} [LT κ] [DecidableEq κ] [KeyOrder κ] [DecidableEq α] (t : Table κ α) :
    Decidable t.Injective :=
  decidable_of_iff _ Table.nodup_values_iff

/-! ### Opening sockets -/

/-- The sockets stay as they are, or a file that has none gets the number of sockets as its id. -/
theorem Links.openSocket_cases (l : Links) (i : Interface) :
    l.openSocket i = l.sockets ∨ ∃ file, l.sockets.get? file = none ∧
      l.openSocket i = l.sockets.insert file (UInt32.ofNat l.sockets.size) := by
  unfold openSocket
  split
  · exact Or.inl rfl
  · next m _ =>
    split
    · exact Or.inl rfl
    · next absent => exact Or.inr ⟨m.socket, by simpa [Table.contains] using absent, rfl⟩

/-- The sockets of `now` are those of `old`, and others that have got the numbers from the size of
`old` to the size of `now`, each of them one. -/
structure Opened (old now : Table String UInt32) : Prop where
  size_le : old.size ≤ now.size
  kept : ∀ file id, old.get? file = some id → now.get? file = some id
  new : ∀ file id, now.get? file = some id → old.get? file = some id ∨
    old.get? file = none ∧ old.size ≤ id.toNat ∧ id.toNat < now.size
  given : ∀ n, old.size ≤ n → n < now.size →
    ∃ file, old.get? file = none ∧ now.get? file = some (UInt32.ofNat n)
  once : ∀ file other id, old.get? file = none → old.get? other = none →
    now.get? file = some id → now.get? other = some id → file = other

namespace Opened

variable {old now : Table String UInt32} {file : String}

theorem refl (old : Table String UInt32) : Opened old old where
  size_le := Nat.le_refl _
  kept _ _ found := found
  new _ _ found := Or.inl found
  given _ least small := absurd small (Nat.not_lt.mpr least)
  once _ _ _ none_ _ found _ := nomatch none_.symm.trans found

/-- No socket has gone. -/
theorem absent_before (h : Opened old now) (absent : now.get? file = none) :
    old.get? file = none := by
  cases found : old.get? file with
  | none => rfl
  | some id =>
    rw [h.kept file id found] at absent
    contradiction

/-- The id of a new socket is below the size. -/
theorem lt_size (h : Opened old now) {id : UInt32} (absent : old.get? file = none)
    (found : now.get? file = some id) : id.toNat < now.size := by
  rcases h.new file id found with old_ | ⟨-, -, small⟩
  · rw [absent] at old_
    contradiction
  · exact small

/-- One more socket has got the next number, if there is one. -/
theorem insert (h : Opened old now) (room : now.size < UInt32.size)
    (absent : now.get? file = none) :
    Opened old (now.insert file (UInt32.ofNat now.size)) := by
  have number : (UInt32.ofNat now.size).toNat = now.size := UInt32.toNat_ofNat_of_lt' room
  have grown := Table.size_insert absent (UInt32.ofNat now.size)
  have unknown : ∀ {id}, now.get? file ≠ some id := by simp [absent]
  have before := h.absent_before absent
  have size_le := h.size_le
  constructor
  case size_le => omega
  case kept =>
    intro other id found
    rw [Table.get?_insert, if_neg, h.kept other id found]
    rintro rfl
    exact unknown (h.kept _ id found)
  case new =>
    intro other id found
    rw [Table.get?_insert] at found
    split at found
    · next same =>
      obtain rfl := Option.some.inj found
      exact Or.inr ⟨same ▸ before, by omega, by omega⟩
    · rcases h.new other id found with old_ | ⟨none_, least, small⟩
      · exact Or.inl old_
      · exact Or.inr ⟨none_, least, by omega⟩
  case given =>
    intro n least small
    -- the last number is that of the new socket
    by_cases last : n = now.size
    · exact ⟨file, before, by rw [Table.get?_insert, if_pos rfl, last]⟩
    · obtain ⟨other, none_, found⟩ := h.given n least (by omega)
      refine ⟨other, none_, ?_⟩
      rw [Table.get?_insert, if_neg, found]
      rintro rfl
      exact unknown found
  case once =>
    -- what has the new number is the new socket, as the others have smaller ones
    have unused : ∀ other id, old.get? other = none → now.get? other = some id →
        id ≠ UInt32.ofNat now.size := by
      rintro other _ none_ found rfl
      have small := h.lt_size none_ found
      omega
    intro f g id hf hg ff fg
    rw [Table.get?_insert] at ff fg
    split at ff
    · next same =>
      split at fg
      · next same' => rw [same, same']
      · exact absurd (Option.some.inj ff).symm (unused g id hg fg)
    · split at fg
      · exact absurd (Option.some.inj fg).symm (unused f id hf ff)
      · exact h.once f g id hf hg ff fg

/-- The ids are distinct as long as no new socket has come to an old id. -/
theorem injective_iff (h : Opened old now) (apart : old.Injective) :
    now.Injective ↔ ∀ file id, old.get? file = some id →
      id.toNat < old.size ∨ now.size ≤ id.toNat := by
  constructor
  · intro injective file id found
    by_contra taken
    obtain ⟨least, small⟩ := not_or.mp taken
    obtain ⟨other, none_, found'⟩ := h.given id.toNat (Nat.le_of_not_lt least) (Nat.lt_of_not_le small)
    rw [UInt32.ofNat_toNat] at found'
    obtain rfl := injective file other id (h.kept file id found) found'
    exact nomatch none_.symm.trans found
  · intro spared f g id ff fg
    -- an old id and a new one cannot meet, and among themselves both kinds are distinct
    rcases h.new f id ff with old_ | ⟨none_, least, small⟩
    · rcases h.new g id fg with old' | ⟨-, least, small⟩
      · exact apart f g id old_ old'
      · rcases spared f id old_ with _ | _ <;> omega
    · rcases h.new g id fg with old' | ⟨none', -, -⟩
      · rcases spared g id old' with _ | _ <;> omega
      · exact h.once f g id none_ none' ff fg

end Opened

namespace Simulation

variable {s t u : Simulation} {x : Exchange} {xs : List Exchange} {snapshot : Snapshot}

/-! ### Histories -/

/-- An exchange leaves the sockets as they are, or a file that has none gets the number of sockets as
its id. -/
theorem Turn.sockets (turn : s.Turn x t) :
    t.links.sockets = s.links.sockets ∨ ∃ file, s.links.sockets.get? file = none ∧
      t.links.sockets = s.links.sockets.insert file (UInt32.ofNat s.links.sockets.size) := by
  cases turn with
  | kept _ _ agree => exact Or.inl agree.2.2
  | replaced _ _ _ links => exact Or.inl (links ▸ rfl)
  | created _ links =>
    rw [links]
    exact s.links.openSocket_cases _
  | removed _ links => exact Or.inl (links ▸ rfl)

/-- A history opens sockets and does nothing else to them, as long as there are ids. -/
theorem Serves.opened (served : s.Serves xs t) (few : t.links.sockets.size ≤ UInt32.size) :
    Opened s.links.sockets t.links.sockets := by
  induction served with
  | start => exact .refl _
  | answered x _ given ih =>
    rcases (turn_of_answer? given).sockets with same | ⟨file, absent, opened⟩
    · rw [same] at few ⊢
      exact ih few
    · rw [opened, Table.size_insert absent] at few
      rw [opened]
      exact (ih (Nat.le_of_succ_le few)).insert few absent
  | armed failing _ ih => exact ih few

/-- No history changes the id of a socket. -/
theorem Serves.socket_kept (served : s.Serves xs t) {file : String} {id : UInt32}
    (found : s.links.sockets.get? file = some id) : t.links.sockets.get? file = some id := by
  induction served with
  | start => exact found
  | answered x _ given ih =>
    rcases (turn_of_answer? given).sockets with same | ⟨other, absent, opened⟩
    · rw [same, ih]
    · rw [opened, Table.get?_insert, if_neg, ih]
      rintro rfl
      exact nomatch absent.symm.trans ih
  | armed failing _ ih => exact ih

/-- An interface on a known socket opens none. -/
theorem sockets_of_known {i : Interface} {m : MemifLink} {answer : Answer (.interface (.configure i))}
    (link : i.memif = some m) (known : s.links.sockets.contains m.socket = true)
    (given : s.answer? (.interface (.configure i)) = some (answer, t)) :
    t.links.sockets = s.links.sockets := by
  have turn : s.Turn ⟨.interface (.configure i), answer⟩ t := turn_of_answer? given
  cases turn with
  | kept _ _ agree => exact agree.2.2
  | replaced _ _ _ links => exact links ▸ rfl
  | created _ links =>
    rw [links]
    simp only [InterfaceCall.added, Links.openSocket, link, if_pos known]

/-- A dataplane that is made of a snapshot has its sockets. -/
theorem sockets_of_ofSnapshot? (start : ofSnapshot? snapshot = some s) :
    s.links.sockets = snapshot.sockets := by
  simp only [ofSnapshot?, Option.ite_none_right_eq_some, Option.some.injEq] at start
  obtain ⟨-, rfl⟩ := start
  rfl

/-- Let the sockets of a snapshot have distinct ids.  In every history of the dataplane that is made
of it, with fewer sockets than there are ids, the ids are distinct exactly as long as none of the
snapshot lies between its number of sockets and the present one.  No id changes once it has been
given, and an interface on a known socket gives out none. -/
theorem socketIds_distinct_iff (start : ofSnapshot? snapshot = some s)
    (apart : snapshot.sockets.Injective) (served : s.Serves xs t)
    (few : t.links.sockets.size < UInt32.size) :
    (t.links.sockets.Injective ↔ ∀ file id, snapshot.sockets.get? file = some id →
      id.toNat < snapshot.sockets.size ∨ t.links.sockets.size ≤ id.toNat) ∧
    (∀ ys u file id, t.Serves ys u → t.links.sockets.get? file = some id →
      u.links.sockets.get? file = some id) ∧
    ∀ i m answer u, i.memif = some m → t.links.sockets.contains m.socket = true →
      t.answer? (.interface (.configure i)) = some (answer, u) →
      u.links.sockets = t.links.sockets := by
  rw [← sockets_of_ofSnapshot? start] at apart ⊢
  refine ⟨(served.opened (Nat.le_of_lt few)).injective_iff apart, ?_, ?_⟩
  · exact fun ys u file id later found => later.socket_kept found
  · exact fun i m answer u link known given => sockets_of_known link known given

/-- Two sockets whose ids are the first numbers, in any order. -/
def basinSnapshot : Snapshot where
  sockets := .ofList [("/run/basin.sock", 1), ("/run/dock.sock", 0)]

/-- An interface on a socket of `file`. -/
def linkOn (file : String) : Interface where
  name := file
  type := .memoryInterface
  memif := some { socket := file }

/-- Here new sockets get new ids, and the old ones keep theirs. -/
theorem socketIds_distinct_iff_basin :
    ∃ s xs t u, ofSnapshot? basinSnapshot = some s ∧ basinSnapshot.sockets.Injective ∧
      s.Serves xs t ∧ t.links.sockets.size = 4 ∧ t.links.sockets.Injective ∧
      t.links.sockets.get? "/run/basin.sock" = some 1 ∧
      t.answer? (.interface (.configure (linkOn "/run/basin.sock"))) = some (.ok 3, u) ∧
      u.links.sockets = t.links.sockets := by
  have goes : (ofSnapshot? basinSnapshot).any (fun s =>
      (s.serve? [.interface (.configure (linkOn "/run/slip.sock")),
        .interface (.configure (linkOn "/run/weir.sock"))]).any fun x =>
        decide (x.2.links.sockets.size = 4) &&
        decide (∀ e ∈ basinSnapshot.sockets.entries, e.2.toNat < basinSnapshot.sockets.size) &&
        x.2.links.sockets.contains "/run/basin.sock" &&
        (x.2.answer? (.interface (.configure (linkOn "/run/basin.sock")))).any fun y =>
          match y.1 with
          | .ok index => index == 3
          | .error _ => false) = true := by
    decide +kernel
  obtain ⟨s, start, goes⟩ := (Option.any_eq_true _ _).mp goes
  obtain ⟨⟨xs, t⟩, asked, goes⟩ := (Option.any_eq_true _ _).mp goes
  simp only [Bool.and_eq_true, decide_eq_true_eq] at goes
  obtain ⟨⟨⟨four, first⟩, known⟩, goes⟩ := goes
  obtain ⟨⟨answer, u⟩, given, three⟩ := (Option.any_eq_true _ _).mp goes
  have served := serves_of_serve? asked
  have apart : basinSnapshot.sockets.Injective := by decide +kernel
  have few : t.links.sockets.size < UInt32.size := four ▸ by decide
  obtain ⟨distinct, -, same⟩ := socketIds_distinct_iff start apart served few
  obtain ⟨-, kept, -⟩ :=
    socketIds_distinct_iff start apart .start (by rw [sockets_of_ofSnapshot? start]; decide +kernel)
  cases answer with
  | error => contradiction
  | ok index =>
    obtain rfl : index = 3 := beq_iff_eq.mp three
    refine ⟨s, xs, t, u, start, apart, served, four, distinct.mpr fun file id found => Or.inl ?_,
      kept xs t _ 1 served ?_, given, same _ _ _ u rfl known given⟩
    · exact first (file, id) (Table.mem_entries.mpr found)
    · rw [sockets_of_ofSnapshot? start]
      decide +kernel

/-- One socket whose id is not the first number. -/
def mooringSnapshot : Snapshot where
  sockets := .ofList [("/run/vpp/memif.sock", 1)]

/-- The first new socket gets the same id. -/
theorem socketIds_collide :
    ∃ s xs t, ofSnapshot? mooringSnapshot = some s ∧ mooringSnapshot.sockets.Injective ∧
      s.Serves xs t ∧ t.links.sockets.size = 2 ∧
      t.links.sockets.get? "/run/vpp/memif.sock" = some 1 ∧
      t.links.sockets.get? "/run/vpp/other.sock" = some 1 ∧ ¬ t.links.sockets.Injective := by
  have goes : (ofSnapshot? mooringSnapshot).any (fun s =>
      (s.serve? [.interface (.configure (linkOn "/run/vpp/other.sock"))]).any fun x =>
        decide (x.2.links.sockets.size = 2 ∧
          x.2.links.sockets.get? "/run/vpp/memif.sock" = some 1 ∧
          x.2.links.sockets.get? "/run/vpp/other.sock" = some 1)) = true := by
    decide +kernel
  obtain ⟨s, start, goes⟩ := (Option.any_eq_true _ _).mp goes
  obtain ⟨⟨xs, t⟩, asked, seen⟩ := (Option.any_eq_true _ _).mp goes
  obtain ⟨two, one, other⟩ := of_decide_eq_true seen
  refine ⟨s, xs, t, start, by decide +kernel, serves_of_serve? asked, two, one, other, fun apart => ?_⟩
  exact absurd (apart _ _ 1 one other) (by decide)

end Simulation

end DataplaneSync
