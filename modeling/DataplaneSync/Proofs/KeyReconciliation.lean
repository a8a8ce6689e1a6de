import DataplaneSync.Proofs.DetectionStock
import DataplaneSync.Proofs.SeparatedTexts

namespace DataplaneSync

/-!
# What becomes of authentication keys

Keys are told apart by their numbers, registered under names made of the numbers, and found by
the numbers on the dataplane.  So a key that is wanted and there is registered whatever is refused,
and what a pass does follows from its dump.

* `BfdKey.registryName_inj` — numbers have names of their own.
* `BfdReconciler.keyChanges` — the calls of a pass, given its dump.
* `BfdReconciler.keyStock` — the keys of the simulated dataplane.
* `BfdReconciler.reconcileKeys_converges` — a pass makes these calls, whatever is refused, and fails
  as the last refused one; if nothing is refused, the wanted numbers are there and registered.
-/

/-- Keys with different numbers are registered under different names. -/
theorem BfdKey.registryName_inj {m n : UInt32} : registryName m = registryName n ↔ m = n := by
  constructor
  · intro same
    have cut : "auth-key-" ++ m.toNat.repr = "auth-key-" ++ n.toNat.repr := by
      simpa only [registryName, toString, String.append_empty] using same
    exact Text.toString_toNat_inj (congrArg String.toList ((String.append_right_inj _).mp cut))
  · exact congrArg registryName

/-- A key does not differ from itself. -/
theorem BfdKey.differs_self (k : BfdKey) : k.differs k = false := by simp [differs]

namespace BfdReconciler

open BfdObjects

/-- The calls of a pass over keys: a modification for each wanted key and each key of its number
that differs, a creation where no key has the number, and then a removal for each key whose number
is not wanted. -/
def keyChanges (actual wanted : List BfdKey) : List BfdCall :=
  (wanted.flatMap fun w =>
    if actual.any (·.id == w.id) then
      (actual.filter fun a => a.id == w.id && w.differs a).map (.modifyKey · w)
    else [.configureKey w]) ++
  (actual.filter fun a => !wanted.any (·.id == a.id)).map .deleteKey

variable {actual wanted : List BfdKey}

/-- A key has the name of a wanted one if it has its number. -/
theorem claimed_iff {k : BfdKey} :
    keyObjects.claimed wanted k = true ↔ ∃ w ∈ wanted, w.id = k.id := by
  simp only [claimed, List.any_eq_true, beq_iff_eq, keyObjects, BfdKey.registryName_inj]

/-- A pass that removes what is not wanted makes these calls. -/
theorem agenda_keyObjects {known : BfdKey → Bool}
    (exact_ : ∀ a ∈ actual, known a = wanted.any (·.id == a.id)) :
    keyObjects.agenda actual wanted known = keyChanges actual wanted := by
  have removed : actual.filter (!known ·) =
      actual.filter fun a => !wanted.any (·.id == a.id) :=
    List.filter_congr fun a there => congrArg not (exact_ a there)
  rw [BfdObjects.agenda, filterMap_call_jobs, removed]
  rfl

/-- Whatever is refused, a dumped key is known if and only if its number is wanted. -/
theorem Course.calls_keyObjects {xs : List Exchange} {end_ : Except BfdFailure Unit}
    {t : BfdReconciler} (course : Course keyObjects actual wanted xs end_ t) :
    xs.map Exchange.call = (keyChanges actual wanted).map Call.bfd := by
  rw [course.calls, agenda_keyObjects fun a there => ?_]
  rw [Bool.eq_iff_iff, List.any_eq_true]
  simp only [beq_iff_eq]
  constructor
  · intro known
    obtain ⟨w, member, same⟩ := course.sound _ known
    exact ⟨w, member, BfdKey.registryName_inj.mp same⟩
  · -- it has a counterpart among the dumped keys, so it is registered whatever is refused
    rintro ⟨w, member, same⟩
    have known := course.kept w member a there (beq_iff_eq.mpr same.symm)
    show (keyObjects.registry t).contains (BfdKey.registryName a.id) = true
    rw [← same]
    exact known

/-! ### Keys of the simulated dataplane -/

/-- A key is found if one of its number is there. -/
theorem onKey_of_mem {d : Detection} {a : BfdKey} (there : a.id ∈ d.keys.map BfdKey.id)
    (change : List BfdKey → List BfdKey) :
    Detection.onKey a change d = (.ok (), { d with keys := change d.keys }) := by
  obtain ⟨b, here, same⟩ := List.mem_map.mp there
  have found : (d.keys.find? (·.id == a.id)).isSome :=
    List.find?_isSome.mpr ⟨b, here, beq_iff_eq.mpr same⟩
  obtain ⟨c, found⟩ := Option.isSome_iff_exists.mp found
  exact Effect.bind_of_ok (Effect.find_of_some found)

/-- The simulated dataplane finds keys by their numbers. -/
def keyStock : keyObjects.Stock UInt32 .dumpKeys fun actual => .ok actual where
  key := BfdKey.id
  nameOf := BfdKey.registryName
  items := Detection.keys
  store keys d := { d with keys := keys }
  items_store _ _ := rfl
  registryName _ := rfl
  counterpart _ _ := rfl
  differs_self := BfdKey.differs_self
  dump calm := Trial.run_dump_bind rfl rfl calm
  create _ _ := ⟨(), rfl⟩
  change _ _ _ there := ⟨(), onKey_of_mem there _⟩
  delete _ _ there := ⟨(), onKey_of_mem there _⟩

/-! ### Passes over keys -/

/-- Where no call fails, a pass over keys comes to its end. -/
theorem exists_run_reconcileKeys (wanted : List BfdKey) {r : BfdReconciler} {s : Simulation}
    (connected : r.connected = true) (calm : s.failing = []) :
    ∃ r' t, Trial.run (reconcileKeys wanted r) { simulation := s } = some ((.ok (), r'), t) ∧
      keyStock.Completed s.detection.keys wanted r' t :=
  keyStock.exists_run regular_keyObjects told_keyObjects wanted connected calm

/-- A pass over keys makes the calls that follow from its dump, whatever is refused, and ends with
the failure of the last call that was.

If no call fails, the numbers of the keys are then the wanted ones, and so are the registered names;
and if nothing was there twice and nothing is wanted twice, another pass only looks. -/
theorem reconcileKeys_converges (wanted : List BfdKey) :
    (∀ {r t : BfdReconciler} {ds : List Deed} {end_ : Except BfdFailure Unit},
      r.connected = true → Program.Trace (reconcileKeys wanted r) ds (end_, t) →
      (∃ reason, exchanges ds = [⟨.bfd .dumpKeys, .error reason⟩] ∧
        end_ = .error (.dumpKeys reason)) ∨
      ∃ actual xs, exchanges ds = ⟨.bfd .dumpKeys, .ok actual⟩ :: xs ∧
        xs.map Exchange.call = (keyChanges actual wanted).map Call.bfd ∧
        failureIn end_ = lastDetectionFailure? xs) ∧
    ∀ {r : BfdReconciler} {s : Simulation}, r.connected = true → s.failing = [] →
      ∃ r₁ t₁, Trial.run (reconcileKeys wanted r) { simulation := s } = some ((.ok (), r₁), t₁) ∧
        (∀ id, id ∈ t₁.simulation.detection.keys.map BfdKey.id ↔ id ∈ wanted.map BfdKey.id) ∧
        (∀ name, r₁.keys.contains name = true ↔ name ∈ wanted.map (BfdKey.registryName ·.id)) ∧
        r₁.connected = true ∧
        ((s.detection.keys.map BfdKey.id).Nodup → (wanted.map BfdKey.id).Nodup →
          ∀ r₂ : BfdReconciler, r₂.connected = true →
            ∃ r₃ t₂, Trial.run (reconcileKeys wanted r₂) { simulation := t₁.simulation } =
                some ((.ok (), r₃), t₂) ∧
              t₂.calls = [.bfd .dumpKeys]) := by
  refine ⟨fun {r t ds end_} connected trace => ?_, fun {r s} connected calm => ?_⟩
  · rcases regular_keyObjects.course_of_trace connected trace with
      refused | ⟨actual, xs, made, course⟩
    · exact Or.inl refused
    · exact Or.inr ⟨actual, xs, made, Course.calls_keyObjects course, course.failure⟩
  · obtain ⟨r₁, t₁, first, done⟩ := exists_run_reconcileKeys wanted connected calm
    have items : t₁.simulation.detection.keys =
        keyStock.reached s.detection.keys wanted := done.items
    refine ⟨r₁, t₁, first, fun id => ?_, fun name => ?_, done.connected,
      fun there wants r₂ connected₂ => ?_⟩
    · rw [items]
      constructor
      · intro member
        obtain ⟨k, left, rfl⟩ := List.mem_map.mp member
        obtain ⟨w, wants, same⟩ := claimed_iff.mp (List.mem_filter.mp left).2
        exact List.mem_map.mpr ⟨w, wants, same⟩
      · intro member
        obtain ⟨w, wants, rfl⟩ := List.mem_map.mp member
        exact keyStock.key_mem_reached s.detection.keys wants
    · rw [List.mem_map]
      exact done.registered name
    · obtain ⟨r₃, t₂, second, still⟩ := exists_run_reconcileKeys wanted connected₂ done.calm
      refine ⟨r₃, t₂, second, still.calls.trans ?_⟩
      rw [items, keyStock.agenda_reached there wants]
      rfl

/-- A dataplane with two keys of one number, and one key whose number is not wanted. -/
def vault : Simulation where
  detection :=
    { keys := [{ id := 1, secret := "old" }, { id := 1 }, { id := 7, secret := "stray" }] }

/-- The keys that are wanted there. -/
def vaultKeys : List BfdKey := [{ id := 1, secret := "new" }, { id := 2, secret := "two" }]

/-- A dataplane with one key. -/
def safe : Simulation where
  detection := { keys := [{ id := 1, secret := "old" }] }

/-- If the modification of the first key is refused, all other calls are made, and the failure is
that of the modification.  If nothing is refused, the wanted numbers are there, and where no number
was there twice, another pass only looks. -/
theorem reconcileKeys_converges_vault :
    (∃ e r ds actual xs, Program.Trace (reconcileKeys vaultKeys {}) ds (.error e, r) ∧
      exchanges ds = ⟨.bfd .dumpKeys, .ok actual⟩ :: xs ∧
      xs.map Exchange.call = (keyChanges actual vaultKeys).map Call.bfd ∧
      some e = lastDetectionFailure? xs) ∧
    (∃ r t, Trial.run (reconcileKeys vaultKeys {}) { simulation := vault } =
        some ((.ok (), r), t) ∧
      ∀ id, id ∈ t.simulation.detection.keys.map BfdKey.id ↔ id ∈ vaultKeys.map BfdKey.id) ∧
    ∃ r₁ t₁ r₂ t₂, Trial.run (reconcileKeys vaultKeys {}) { simulation := safe } =
        some ((.ok (), r₁), t₁) ∧
      Trial.run (reconcileKeys vaultKeys r₁) { simulation := t₁.simulation } =
        some ((.ok (), r₂), t₂) ∧
      t₂.calls = [.bfd .dumpKeys] := by
  obtain ⟨traces, runs⟩ := reconcileKeys_converges vaultKeys
  refine ⟨?_, ?_, ?_⟩
  · have fails : Trial.failsWith (reconcileKeys vaultKeys {})
        { simulation := vault, refusals := [none, some "busy"] }
        (fun _ t => (exchanges t.deeds).length == 4) = true := by
      decide +kernel
    obtain ⟨e, r, ds, trace, length⟩ :=
      Trial.trace_of_failsWith (fun xs => xs.length == 4) rfl fails
    rcases traces rfl trace with ⟨reason, only, -⟩ | ⟨actual, xs, asked, calls, failure⟩
    · rw [only] at length
      exact nomatch length
    · exact ⟨e, r, _, actual, xs, trace, asked, calls, failure⟩
  · obtain ⟨r, t, result, ids, -⟩ := runs (r := {}) (s := vault) rfl rfl
    exact ⟨r, t, result, ids⟩
  · obtain ⟨r₁, t₁, first, -, -, connected, again⟩ := runs (r := {}) (s := safe) rfl rfl
    obtain ⟨r₂, t₂, second, quiet⟩ := again (by decide) (by decide) r₁ connected
    exact ⟨r₁, t₁, r₂, t₂, first, second, quiet⟩

end BfdReconciler

end DataplaneSync
