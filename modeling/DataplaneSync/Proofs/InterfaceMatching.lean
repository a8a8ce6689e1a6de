import DataplaneSync.Proofs.InterfacePass
import DataplaneSync.Proofs.InterfaceTurns

namespace DataplaneSync

/-!
# Which wanted interface a dumped one becomes

An interface of the dataplane is matched with a wanted one by its tag or, if it has none, by the
order in which the wanted interfaces are declared.

* `InterfaceReconciler.correlated?_of_pinned` — of the wanted interfaces that insist on a hardware
  address and those declared before whose addresses agree, the first one is chosen.
* `InterfaceReconciler.adopts_by_mac` — what becomes of an interface whose hardware address is
  wanted, in whatever pass.
* `InterfaceReconciler.matched_stays` — in a pass without refusals, what is matched stays
  registered and is not created, unless a wanted interface has the name of the placeholder.
-/

namespace InterfaceReconciler

open Interface

variable {wanted : List Interface} {actual : Table UInt32 InterfaceDetails}
variable {r s s' t : InterfaceReconciler} {ds : List Deed} {end_ mid : Except InterfaceFailure Unit}
variable {index : UInt32} {d : InterfaceDetails} {name : String} {i w : Interface}

/-- The tags that are set, with the indexes of the interfaces. -/
def tagsSet (cs : List Call) : List (String × UInt32) := cs.filterMap fun
  | .interface (.setTag tag index) => some (tag, index)
  | _ => none

/-- The interfaces that are created. -/
def created (cs : List Call) : List Interface := cs.filterMap fun
  | .interface (.configure i) => some i
  | _ => none

/-! ### What is done in a turn -/

/-- To register an interface is to tag it, and even if that is refused it is registered. -/
theorem register_of_trace (trace : Program.Trace (register name index i s) ds (mid, s')) :
    s'.registry = s.registry.register name index i ∧
      ∃ answer e, ds = [.called (.interface (.setTag name index)) answer, .reported e] ∧
        (mid = .ok () → answer = .ok ()) := by
  have called := Pass.of_trace_get (Pass.of_trace_modify trace)
  rcases Pass.of_trace_change_bind called with
    ⟨reason, e, rfl, rfl, rfl⟩ | ⟨reply, e, ds', rfl, ⟨⟩⟩
  · exact ⟨rfl, .error reason, e, rfl, nofun⟩
  · exact ⟨cacheHost_registry _, .ok reply, e, rfl, fun _ => rfl⟩

/-- What is registered first in a turn decides about its first call. -/
theorem opening_of_trace {k : Step Unit}
    (trace : Program.Trace ((do register name index i; k) s) ds (mid, s')) :
    ∃ answer rest, exchanges ds = ⟨.interface (.setTag name index), answer⟩ :: rest ∧
      (mid = .ok () → answer = .ok ()) := by
  rcases Pass.of_trace_bind trace with ⟨e, rfl, first⟩ | ⟨_, s₁, ds₁, ds₂, rfl, first, -⟩
  · obtain ⟨-, answer, event, rfl, well⟩ := register_of_trace first
    exact ⟨answer, [], rfl, well⟩
  · obtain ⟨-, answer, event, rfl, well⟩ := register_of_trace first
    exact ⟨answer, exchanges ds₂, rfl, fun _ => well rfl⟩

/-- To adjust an interface registers nothing. -/
theorem adjust_of_trace (trace : Program.Trace (adjust w i index s) ds (mid, s')) :
    s'.registry = s.registry := by
  unfold adjust at trace
  cases found : firstDifference w i with
  | none =>
    rw [found] at trace
    cases trace
    rfl
  | some aspect =>
    rw [found] at trace
    rcases Pass.of_trace_change_bind (Pass.of_trace_get trace) with
      ⟨reason, e, rfl, -, rfl⟩ | ⟨reply, e, ds', rfl, ⟨⟩⟩
    · rfl
    · rfl

/-- An interface that is kept for a wanted one is registered and tagged, and then modified at
most. -/
theorem adopt_of_trace
    (trace : Program.Trace ((do register w.name index w; adjust w i index) s) ds (mid, s')) :
    s'.registry = s.registry.register w.name index w ∧
      ∃ answer rest, exchanges ds = ⟨.interface (.setTag w.name index), answer⟩ :: rest ∧
        (mid = .ok () → answer = .ok ()) ∧
        ∀ y ∈ rest, y.call = .interface (.modify w i index) := by
  rcases Pass.of_trace_bind trace with ⟨e, rfl, first⟩ | ⟨_, s₁, ds₁, ds₂, rfl, first, second⟩
  · obtain ⟨registered, answer, event, rfl, well⟩ := register_of_trace first
    exact ⟨registered, answer, [], rfl, well, by simp⟩
  · obtain ⟨registered, answer, event, rfl, well⟩ := register_of_trace first
    refine ⟨(adjust_of_trace second).trans registered, answer, exchanges ds₂, rfl,
      fun _ => well rfl, ?_⟩
    have asks : (adjust w i index).Obeys
        (asking fun y => y.call = .interface (.modify w i index)) := asks_adjust fun _ => rfl
    exact asks _ _ _ _ second

/-! ### Hardware addresses -/

/-- A wanted interface correlates by its hardware address if it insists on that of the actual
one, and otherwise only by its addresses. -/
theorem correlates_iff {m : MacAddress} {a : Interface} (mac : a.pinnedMac? = some m) :
    correlates a w = true ↔
      w.pinnedMac? = some m ∨ addressesAgree w.addresses a.addresses = true := by
  have has : a.mac = some m := (Option.filter_eq_some_iff.mp mac).1
  unfold correlates macAgrees
  rw [Bool.or_eq_true, has]
  refine or_congr_left ?_
  cases pinned : w.pinnedMac? with
  | none => simp
  | some m' =>
    rw [beq_iff_eq]
    exact eq_comm

/-- Whether a wanted interface that is not registered agrees with an actual one in its
addresses. -/
def agreesFree (s : InterfaceReconciler) (a u : Interface) : Bool :=
  !s.registry.contains u.name && addressesAgree u.addresses a.addresses

/-- If one of the wanted interfaces that are not registered is the first to insist on the
hardware address, it is chosen, unless there is one before it whose addresses agree. -/
theorem correlated?_of_pinned {front back : List Interface} {m : MacAddress} {a : Interface}
    (parts : wanted = front ++ w :: back) (mac : a.pinnedMac? = some m)
    (free : s.registry.contains w.name = false) (pins : w.pinnedMac? = some m)
    (alone : ∀ u ∈ front, s.registry.contains u.name = false → u.pinnedMac? ≠ some m) :
    s.correlated? wanted a = some ((front.find? (s.agreesFree a)).getD w) := by
  have choice : ∀ u ∈ front,
      (!s.registry.contains u.name && correlates a u) = s.agreesFree a u := by
    intro u member
    cases known : s.registry.contains u.name with
    | true => simp [agreesFree, known]
    | false =>
      rw [agreesFree, known, Bool.not_false, Bool.true_and, Bool.true_and, Bool.eq_iff_iff,
        correlates_iff mac]
      exact or_iff_right (alone u member known)
  let chooses (u : Interface) : Bool := !s.registry.contains u.name && correlates a u
  have chosen : chooses w = true := by
    show (!s.registry.contains w.name && correlates a w) = true
    rw [free, Bool.not_false, Bool.true_and, correlates_iff mac]
    exact Or.inl pins
  have same : front.find? chooses = front.find? (s.agreesFree a) := by
    rw [← List.head?_filter, ← List.head?_filter, List.filter_congr choice]
  show wanted.find? chooses = _
  rw [parts, List.find?_append, same, List.find?_cons_of_pos chosen]
  cases front.find? (s.agreesFree a) <;> rfl

/-- What becomes of an untagged interface with a hardware address, on any dataplane: it has its
turn, unless the pass fails before.  If by then one of the wanted interfaces that are not
registered is the first to insist on the address, the interface is registered and tagged for the
first one before it whose addresses agree, and for that one itself if there is none.  All else that
is ever asked for about it is to modify it. -/
theorem adopts_by_mac {m : MacAddress} (connected : r.connected = true)
    (trace : Program.Trace (reconcile wanted r) ds (end_, t))
    (dumped : dumpIn? (exchanges ds) = some actual) (entry : actual.get? index = some d)
    (device : index ≠ 0) (untagged : d.interface.isTagged = false)
    (mac : d.interface.pinnedMac? = some m) :
    (∃ e, end_ = .error e ∧ ∀ y ∈ exchanges ds, y.call.index? ≠ some index) ∨
    ∃ before now after s s', ds = before ++ now ++ after ∧
      Turn wanted actual (index, d) end_ before now after s s' ∧
      ∀ front w back, wanted = front ++ w :: back →
        s.registry.contains w.name = false → w.pinnedMac? = some m →
        (∀ u ∈ front, s.registry.contains u.name = false → u.pinnedMac? ≠ some m) →
        ∃ v, v = (front.find? (s.agreesFree d.interface)).getD w ∧
          s'.registry.lookup? v.name = some (index, v) ∧
          ∃ answer rest, exchanges now = ⟨.interface (.setTag v.name index), answer⟩ :: rest ∧
            ∀ y ∈ rest, y.call = .interface (.modify v d.interface index) := by
  have second : isUntagged (index, d) = true := by simp [isUntagged, device, untagged]
  refine (turn_of_trace connected trace dumped (Table.mem_of_get? entry)).imp_right ?_
  rintro ⟨before, now, after, s, s', parts, turn⟩
  refine ⟨before, now, after, s, s', parts, turn, fun front w back declared free pins alone => ?_⟩
  obtain ⟨mid, step, -⟩ := turn.step
  have chosen := correlated?_of_pinned declared mac free pins alone
  rw [settle, second] at step
  have turned := Pass.of_trace_get step
  rw [chosen] at turned
  obtain ⟨registered, answer, rest, opening, -, modified⟩ := adopt_of_trace turned
  refine ⟨_, rfl, ?_, answer, rest, opening, modified⟩
  rw [registered, Registry.lookup?_register, if_pos rfl]

/-- An interface with nothing but a hardware address. -/
def stranger : InterfaceDetails where
  interface := { mac := some ⟨2, 0, 0, 0, 0, 1⟩ }
  internalName := "eth1"
  index := 1

/-- A dataplane with that interface. -/
def strangerSnapshot : Snapshot where
  interfaces := [stranger]

/-- A wanted interface that insists on the hardware address. -/
def wan : Interface := { name := "wan", mac := some ⟨2, 0, 0, 0, 0, 1⟩ }

/-- If the one declared before wants an address, the interface becomes the one that insists on the
hardware address. -/
theorem adopts_by_mac_wan :
    ∃ s r' t, ∃ s' : InterfaceReconciler, Simulation.ofSnapshot? strangerSnapshot = some s ∧
      Trial.run (reconcile [{ name := "lan", addresses := ["10.0.0.1/24"] }, wan] {})
        { simulation := s } = some ((.ok (), r'), t) ∧
      s'.registry.lookup? "wan" = some (1, wan) ∧
      ∃ y ∈ exchanges t.deeds, y.call = .interface (.setTag "wan" 1) := by
  have goes : Trial.succeedsOn strangerSnapshot
      (reconcile [{ name := "lan", addresses := ["10.0.0.1/24"] }, wan] {}) (fun _ _ t =>
        (dumpIn? (exchanges t.deeds)).any (fun actual => actual.get? 1 == some stranger) &&
          (exchanges t.deeds).all fun y =>
            y.call.index? == some 1 || decide (y.Spares "wan")) = true := by
    decide +kernel
  obtain ⟨s, _, r', t, start, result, goes⟩ := Trial.exists_of_succeedsOn goes
  obtain ⟨read, others⟩ := (Bool.and_eq_true _ _).mp goes
  obtain ⟨actual, dumped, entry⟩ := (Option.any_eq_true _ _).mp read
  obtain ⟨ds, deeds, trace⟩ := Trial.trace_of_run result
  obtain rfl : t.deeds = ds := deeds
  rcases adopts_by_mac rfl trace dumped (eq_of_beq entry) (by decide) rfl rfl with
    ⟨e, failed, -⟩ | ⟨before, now, after, u, u', parts, turn, adopts⟩
  · exact nomatch failed
  -- nothing has been registered under the wanted name before
  have spared : ∀ y ∈ exchanges before, y.Spares "wan" := by
    intro y hy
    have there : y ∈ exchanges t.deeds := by
      rw [parts, exchanges_append, exchanges_append]
      exact List.mem_append_left _ (List.mem_append_left _ hy)
    have checked := List.all_eq_true.mp others y there
    have apart := turn.apart y (List.mem_append_left _ hy)
    simpa [apart] using checked
  have free : u.registry.contains "wan" = false := by
    rw [← isSome_names, turn.names, registeredBy, foldl_naming_of_spares spared]
    rfl
  have alone : ∀ w ∈ [({ name := "lan", addresses := ["10.0.0.1/24"] } : Interface)],
      u.registry.contains w.name = false → w.pinnedMac? ≠ some ⟨2, 0, 0, 0, 0, 1⟩ := by
    intro w member _
    obtain rfl := List.mem_singleton.mp member
    decide
  obtain ⟨v, chosen, registered, answer, rest, opening, -⟩ := adopts _ wan [] rfl free rfl alone
  have disagrees : u.agreesFree stranger.interface
      { name := "lan", addresses := ["10.0.0.1/24"] } = false := Bool.and_false _
  rw [List.find?_cons_of_neg (by rw [disagrees]; decide)] at chosen
  obtain rfl : v = wan := chosen
  refine ⟨s, r', t, u', start, result, registered,
    ⟨.interface (.setTag "wan" 1), answer⟩, ?_, rfl⟩
  rw [parts, exchanges_append, exchanges_append, opening]
  exact List.mem_append_left _ (List.mem_append_right _ List.mem_cons_self)

/-- If the one declared before wants no address, the interface becomes that one, and the one that
insists on the hardware address is created. -/
theorem mac_gives_way :
    ∃ s r' t, Simulation.ofSnapshot? strangerSnapshot = some s ∧
      Trial.run (reconcile [{ name := "lan" }, wan] {}) { simulation := s } =
        some ((.ok (), r'), t) ∧
      tagsSet t.calls = [("local0", 0), ("lan", 1)] ∧ created t.calls = [wan] ∧
      r'.names "lan" = some 1 ∧ r'.names "wan" = some 2 := by
  have goes : Trial.succeedsOn strangerSnapshot (reconcile [{ name := "lan" }, wan] {})
      (fun _ r' t => decide (tagsSet t.calls = [("local0", 0), ("lan", 1)] ∧
        created t.calls = [wan] ∧
        r'.names "lan" = some 1 ∧ r'.names "wan" = some 2)) = true := by
    decide +kernel
  obtain ⟨s, _, r', t, start, result, stands⟩ := Trial.exists_of_succeedsOn goes
  exact ⟨s, r', t, start, result, of_decide_eq_true stands⟩

/-! ### Matches -/

/-- The wanted interface that a dumped one is kept for: the one of its tag or, if it has none, the
first one that it correlates with and that is not among the registered names. -/
def keptFor (wanted : List Interface) (names : String → Option UInt32) (d : InterfaceDetails) :
    Option Interface :=
  if d.interface.isTagged then wanted.find? (·.name == d.interface.name)
  else wanted.find? fun w => (names w.name).isNone && correlates d.interface w

theorem correlated?_eq {a : Interface} : s.correlated? wanted a =
    wanted.find? fun w => (s.names w.name).isNone && correlates a w := by
  have same : (fun w : Interface => !s.registry.contains w.name && correlates a w) =
      fun w => (s.names w.name).isNone && correlates a w := by
    funext w
    rw [← isSome_names]
    cases s.names w.name <;> rfl
  rw [correlated?, same]

theorem mem_of_keptFor {names : String → Option UInt32} (kept : keptFor wanted names d = some w) :
    w ∈ wanted := by
  unfold keptFor at kept
  split at kept
  · exact List.mem_of_find?_eq_some kept
  · exact List.mem_of_find?_eq_some kept

/-- A tagged interface is kept for the wanted one of its tag. -/
theorem name_of_keptFor {names : String → Option UInt32} (kept : keptFor wanted names d = some w)
    (tagged : d.interface.isTagged = true) : w.name = d.interface.name := by
  rw [keptFor, if_pos tagged] at kept
  simpa using List.find?_some kept

/-- The turn of an interface that is kept for a wanted one is to register and adjust that one. -/
theorem trace_of_keptFor (device : index ≠ 0) (kept : keptFor wanted s.names d = some w)
    (trace : Program.Trace (settle wanted (index, d) s) ds (mid, s')) :
    Program.Trace ((do register w.name index w; adjust w d.interface index : Step Unit) s) ds
      (mid, s') := by
  unfold keptFor at kept
  cases tagged : d.interface.isTagged with
  | true =>
    rw [if_pos tagged] at kept
    have first : isUntagged (index, d) = false := by simp [isUntagged, tagged]
    simpa only [settle, first, Bool.false_eq_true, if_false, settleTagged, if_neg device, tagged,
      Bool.not_true, kept] using trace
  | false =>
    rw [tagged, if_neg Bool.false_ne_true, ← correlated?_eq] at kept
    have second : isUntagged (index, d) = true := by simp [isUntagged, device, tagged]
    rw [settle, second] at trace
    have turned := Pass.of_trace_get trace
    rw [kept] at turned
    exact turned

/-- The turn of an interface that is kept for no wanted one is to register and remove it, under its
tag or under the placeholder. -/
theorem trace_of_unkept (device : index ≠ 0) (kept : keptFor wanted s.names d = none)
    (trace : Program.Trace (settle wanted (index, d) s) ds (mid, s')) :
    ∃ name, Program.Trace
      ((do register name index d.interface; remove name d.interface index : Step Unit) s) ds
      (mid, s') := by
  unfold keptFor at kept
  cases tagged : d.interface.isTagged with
  | true =>
    rw [if_pos tagged] at kept
    have first : isUntagged (index, d) = false := by simp [isUntagged, tagged]
    simp only [settle, first, Bool.false_eq_true, if_false, settleTagged, if_neg device, tagged,
      Bool.not_true, kept] at trace
    exact ⟨d.interface.name, trace⟩
  | false =>
    rw [tagged, if_neg Bool.false_ne_true, ← correlated?_eq] at kept
    have second : isUntagged (index, d) = true := by simp [isUntagged, device, tagged]
    rw [settle, second] at trace
    have turned := Pass.of_trace_get trace
    rw [kept] at turned
    exact ⟨placeholderName, turned⟩

/-- Every turn starts with a registration. -/
theorem opening_of_settle (device : index ≠ 0)
    (trace : Program.Trace (settle wanted (index, d) s) ds (mid, s')) :
    ∃ name answer rest, exchanges ds = ⟨.interface (.setTag name index), answer⟩ :: rest ∧
      (mid = .ok () → answer = .ok ()) := by
  cases kept : keptFor wanted s.names d with
  | some w =>
    exact ⟨w.name, opening_of_trace (trace_of_keptFor device kept trace)⟩
  | none =>
    obtain ⟨name, turn⟩ := trace_of_unkept device kept trace
    exact ⟨name, opening_of_trace turn⟩

/-- A pass without refusals comes to its end. -/
theorem ok_of_trace (connected : r.connected = true)
    (trace : Program.Trace (reconcile wanted r) ds (end_, t))
    (calm : ∀ y ∈ exchanges ds, y.refusal? = none) : end_ = .ok () := by
  rw [reconcile_eq, if_pos connected] at trace
  obtain ⟨-, blamed⟩ := trace_settleAll trace
  have unblamed : failureTexts (duty (hasDump (exchanges ds))).dumped (exchanges ds) = [] := by
    refine List.filterMap_eq_nil_iff.mpr fun y hy => ?_
    rw [Exchange.failureText?, calm y hy]
    rfl
  have last := blamed.last
  rw [unblamed] at last
  match end_ with
  | .ok () => rfl
  | .error e => exact nomatch last

/-- In its turn an interface that is kept for a wanted one is tagged for it, and that name is left
alone in what follows. -/
theorem Turn.keeps {before now after : List Deed}
    (turn : Turn wanted actual (index, d) end_ before now after s s') (device : index ≠ 0)
    (kept : keptFor wanted s.names d = some w) (ordinary : w.name ≠ placeholderName)
    (others : d.interface.isTagged = true → ∀ y ∈ actual.entries, y.1 ≠ 0 → y.1 ≠ index →
      y.2.interface.name ≠ d.interface.name) :
    ∃ answer rest, exchanges now = ⟨.interface (.setTag w.name index), answer⟩ :: rest ∧
      ∀ y ∈ rest ++ exchanges after, y.Spares w.name := by
  obtain ⟨mid, step, -⟩ := turn.step
  obtain ⟨registered, answer, rest, opening, -, modified⟩ :=
    adopt_of_trace (trace_of_keptFor device kept step)
  have known : s'.registry.contains w.name = true := by
    rw [registered, Registry.contains_register, decide_eq_true rfl, Bool.true_or]
  -- in the first round the name is a tag, and no other dumped interface has it
  have otherTags : isUntagged (index, d) = false → ∀ y ∈ actual.entries, y.1 ≠ 0 → y.1 ≠ index →
      y.2.interface.name ≠ w.name := by
    intro first y there device' other
    have tagged : d.interface.isTagged = true := by simpa [isUntagged, device] using first
    rw [name_of_keptFor kept tagged]
    exact others tagged y there device' other
  refine ⟨answer, rest, opening, List.forall_mem_append.mpr ⟨fun y hy => ?_, ?_⟩⟩
  · unfold Exchange.Spares
    rw [modified y hy]
    exact trivial
  · exact turn.spared w.name ordinary otherTags known

/-- What has been registered by an exchange stays so as long as exchanges spare the name. -/
theorem registeredBy_of_spares {before now : List Exchange} {answer : Except String Unit}
    (spared : ∀ y ∈ now, y.Spares name) :
    registeredBy (before ++ ⟨.interface (.setTag name index), answer⟩ :: now) name =
      some index := by
  unfold registeredBy
  rw [List.foldl_append, List.foldl_cons, foldl_naming_of_spares spared]
  exact if_pos rfl

/-- In a pass without refusals every dumped interface but the device is tagged at some point.  If
it is kept for a wanted one then, by its tag or because the two correlate, it is tagged with the
name of that one, which stands for its index from then on to the end; and no interface of that name
is created in the whole pass.

That takes tags that tell the dumped interfaces apart, and no wanted interface may have the name of
the placeholder. -/
theorem matched_stays (connected : r.connected = true)
    (trace : Program.Trace (reconcile wanted r) ds (end_, t))
    (dumped : dumpIn? (exchanges ds) = some actual)
    (calm : ∀ y ∈ exchanges ds, y.refusal? = none)
    (distinct : ∀ y ∈ actual.entries, ∀ z ∈ actual.entries, y.1 ≠ 0 → z.1 ≠ 0 →
      y.2.interface.isTagged = true → y.2.interface.name = z.2.interface.name → y.1 = z.1)
    (ordinary : ∀ w ∈ wanted, w.name ≠ placeholderName)
    (entry : actual.get? index = some d) (device : index ≠ 0) :
    ∃ name before after,
      exchanges ds = before ++ ⟨.interface (.setTag name index), .ok ()⟩ :: after ∧
      (∀ y ∈ before, y.call.index? ≠ some index) ∧
      ∀ w, keptFor wanted (registeredBy before) d = some w →
        name = w.name ∧
        (∀ now later, after = now ++ later →
          registeredBy (before ++ ⟨.interface (.setTag name index), .ok ()⟩ :: now) w.name =
            some index) ∧
        t.names w.name = some index ∧
        ∀ y ∈ exchanges ds, ∀ i, y.call = .interface (.configure i) → i.name ≠ w.name := by
  have well := ok_of_trace connected trace calm
  have member := Table.mem_of_get? entry
  rcases turn_of_trace connected trace dumped member with
    ⟨e, failed, -⟩ | ⟨before, now, after, s, s', rfl, turn⟩
  · exact nomatch failed.symm.trans well
  obtain ⟨mid, step, comes⟩ := turn.step
  obtain ⟨apart, -⟩ := List.forall_mem_append.mp turn.apart
  obtain ⟨name, answer, rest, opening, accepted⟩ := opening_of_settle device step
  obtain rfl := accepted (comes well)
  have cut : exchanges (before ++ now ++ after) = exchanges before ++
      ⟨.interface (.setTag name index), .ok ()⟩ :: (rest ++ exchanges after) := by
    rw [exchanges_append, exchanges_append, opening, List.append_assoc, List.cons_append]
  refine ⟨name, exchanges before, rest ++ exchanges after, cut, apart, fun w kept => ?_⟩
  rw [← turn.names] at kept
  have others : d.interface.isTagged = true → ∀ y ∈ actual.entries, y.1 ≠ 0 → y.1 ≠ index →
      y.2.interface.name ≠ d.interface.name := fun tagged y there device' other same =>
    other (distinct (index, d) member y there device device' tagged same.symm).symm
  obtain ⟨answer', rest', opening', spared⟩ :=
    turn.keeps device kept (ordinary w (mem_of_keptFor kept)) others
  obtain ⟨same, rfl⟩ := List.cons.inj (opening.symm.trans opening')
  obtain rfl : name = w.name := by
    cases same
    rfl
  refine ⟨rfl, fun now later parts => ?_, ?_, fun y hy i created => ?_⟩
  · exact registeredBy_of_spares fun y hy => spared y (parts ▸ List.mem_append_left later hy)
  · rw [(registered_of_trace connected trace).1, cut]
    exact registeredBy_of_spares spared
  · rw [cut] at hy
    -- nothing is created before the turn, and afterwards nothing of that name
    rcases List.mem_append.mp hy with earlier | later
    · exact absurd created (turn.uncreated y earlier i)
    · rcases List.mem_cons.mp later with rfl | later
      · exact nomatch created
      · have free := spared y later
        unfold Exchange.Spares at free
        rw [created] at free
        exact free

/-- An interface of a wanted tag. -/
def lanInterface : InterfaceDetails where
  interface := { name := "lan" }
  internalName := "loop1"
  index := 1

/-- A dataplane with that interface, an obsolete one, and one without a tag that correlates with
nothing. -/
def motleySnapshot : Snapshot where
  interfaces :=
    [lanInterface,
      { interface := { name := "spare" }, internalName := "loop2", index := 2 },
      { interface := { addresses := ["10.0.0.9/24"] }, internalName := "loop3", index := 3 }]

/-- The interface of the wanted tag stays registered while the two others are removed. -/
theorem matched_stays_lan :
    ∃ s r' t, Simulation.ofSnapshot? motleySnapshot = some s ∧
      Trial.run (reconcile [{ name := "lan" }] {}) { simulation := s } = some ((.ok (), r'), t) ∧
      r'.names "lan" = some 1 ∧
      ∀ y ∈ exchanges t.deeds, ∀ i, y.call = .interface (.configure i) → i.name ≠ "lan" := by
  have goes : Trial.succeedsOn motleySnapshot (reconcile [{ name := "lan" }] {}) (fun _ _ t =>
      (exchanges t.deeds).all (fun y => y.refusal? == none) &&
        (dumpIn? (exchanges t.deeds)).any fun actual => actual.get? 1 == some lanInterface &&
          decide (∀ y ∈ actual.entries, ∀ z ∈ actual.entries, y.1 ≠ 0 → z.1 ≠ 0 →
            y.2.interface.isTagged = true → y.2.interface.name = z.2.interface.name →
            y.1 = z.1)) = true := by
    decide +kernel
  obtain ⟨s, _, r', t, start, result, goes⟩ := Trial.exists_of_succeedsOn goes
  obtain ⟨calm, read⟩ := (Bool.and_eq_true _ _).mp goes
  obtain ⟨actual, dumped, goes⟩ := (Option.any_eq_true _ _).mp read
  obtain ⟨entry, distinct⟩ := (Bool.and_eq_true _ _).mp goes
  obtain ⟨ds, deeds, trace⟩ := Trial.trace_of_run result
  obtain rfl : t.deeds = ds := deeds
  obtain ⟨name, before, after, -, -, stays⟩ := matched_stays rfl trace dumped
    (fun y hy => eq_of_beq (List.all_eq_true.mp calm y hy)) (of_decide_eq_true distinct)
    (by decide) (eq_of_beq entry) (by decide)
  obtain ⟨-, -, registered, uncreated⟩ := stays { name := "lan" } rfl
  exact ⟨s, r', t, start, result, registered, uncreated⟩

/-- A dataplane with two interfaces without tags. -/
def nestSnapshot : Snapshot where
  interfaces :=
    [{ interface := { addresses := ["10.0.0.1/24"] }, internalName := "loop1", index := 1 },
      { internalName := "loop2", index := 2 }]

/-- A wanted interface with the name of the placeholder. -/
def cuckoo : Interface := { name := placeholderName, addresses := ["10.0.0.1/24"] }

/-- If a wanted interface has the name of the placeholder, another one that is removed under that
name takes its registration along.  It is then created once more, although it has been matched and
no call has been refused. -/
theorem matched_lost :
    ∃ s r' t, Simulation.ofSnapshot? nestSnapshot = some s ∧ Accepted [cuckoo] ∧
      Trial.run (reconcile [cuckoo] {}) { simulation := s } = some ((.ok (), r'), t) ∧
      (∀ y ∈ exchanges t.deeds, y.refusal? = none) ∧
      tagsSet t.calls = [("local0", 0), (cuckoo.name, 1), (cuckoo.name, 2)] ∧
      ((s.links.interfaces.get? 1).bind
        (keptFor [cuckoo] (registeredBy ((exchanges t.deeds).take 3)))) = some cuckoo ∧
      created t.calls = [cuckoo] ∧ r'.names cuckoo.name = some 3 := by
  have accepted : Accepted [cuckoo] := by
    simp [cuckoo, placeholderName, Accepted, Configuration.validate_eq_ok_iff]
  have goes : Trial.succeedsOn nestSnapshot (reconcile [cuckoo] {}) (fun s r' t =>
      (exchanges t.deeds).all (fun y => y.refusal? == none) && decide (
        tagsSet t.calls = [("local0", 0), (cuckoo.name, 1), (cuckoo.name, 2)] ∧
        ((s.links.interfaces.get? 1).bind
          (keptFor [cuckoo] (registeredBy ((exchanges t.deeds).take 3)))) = some cuckoo ∧
        created t.calls = [cuckoo] ∧ r'.names cuckoo.name = some 3)) = true := by
    decide +kernel
  obtain ⟨s, _, r', t, start, result, goes⟩ := Trial.exists_of_succeedsOn goes
  obtain ⟨calm, stands⟩ := (Bool.and_eq_true _ _).mp goes
  have unrefused : ∀ y ∈ exchanges t.deeds, y.refusal? = none :=
    fun y hy => eq_of_beq (List.all_eq_true.mp calm y hy)
  exact ⟨s, r', t, start, accepted, result, unrefused, of_decide_eq_true stands⟩

end InterfaceReconciler

end DataplaneSync
