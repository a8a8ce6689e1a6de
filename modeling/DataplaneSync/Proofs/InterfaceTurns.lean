import DataplaneSync.Proofs.RuleRemoval

namespace DataplaneSync

/-!
# Turns

A pass over the interfaces deals with each dumped interface in one go.  What it does before that
is known from the calls alone, and so is what it does to a name afterwards.

* `asking` — what a pass asks for, whatever it is answered.
* `Exchange.Spares`, `InterfaceReconciler.keeping` — exchanges after which a name stands for what
  it stood for before.
* `InterfaceReconciler.Turn` — the turn of one dumped interface, with all that comes before it and
  after it.
* `InterfaceReconciler.turn_of_trace` — each dumped interface has its turn, unless the pass fails
  before.
-/

/-! ### What is asked for -/

section

variable {σ ε : Type} {P : Exchange → Prop} {c : Call}

/-- Ask for certain things only. -/
def asking (P : Exchange → Prop) : Discipline σ ε where
  allows _ ds _ _ := ∀ x ∈ exchanges ds, P x
  rest _ := by simp
  join first then_ := by
    rw [exchanges_append]
    exact List.forall_mem_append.mpr ⟨first, then_⟩

namespace Pass

theorem asks_modify {f : σ → σ} : (modify f : Pass σ ε PUnit).Obeys (asking P) :=
  obeys_modify fun _ => by simp [asking]

theorem asks_dump {failure : String → ε} (asked : ∀ answer, P ⟨c, answer⟩) :
    (dump c failure : Pass σ ε c.Reply).Obeys (asking P) :=
  obeys_dump fun _ answer => by simpa [asking] using asked answer

theorem asks_change {subject : Answer c → AuditSubject} {failure : String → ε}
    (asked : ∀ answer, P ⟨c, answer⟩) :
    (change c subject failure : Pass σ ε c.Reply).Obeys (asking P) :=
  obeys_change fun _ answer _ _ => by simpa [asking] using asked answer

end Pass

end

namespace InterfaceReconciler

variable {P : Exchange → Prop} {wanted : List Interface} {name : String} {index : UInt32}
variable {d : InterfaceDetails} {i w : Interface}

/-! ### What the steps ask for -/

theorem asks_register (tag : ∀ answer, P ⟨.interface (.setTag name index), answer⟩) :
    (register name index i).Obeys (asking P) := by
  refine Pass.asks_modify.bind fun _ => Pass.obeys_get.bind fun r => ?_
  refine (Pass.asks_change tag).bind fun _ => ?_
  exact Pass.asks_modify.bind fun _ => Pass.asks_modify

theorem asks_adjust (change : ∀ answer, P ⟨.interface (.modify w i index), answer⟩) :
    (adjust w i index).Obeys (asking P) := by
  unfold adjust
  split
  · exact Pass.obeys_pure ()
  · refine Pass.obeys_get.bind fun r => (Pass.asks_change change).bind fun _ => ?_
    exact Pass.asks_modify

theorem asks_remove (delete : ∀ answer, P ⟨.interface (.delete i index), answer⟩) :
    (remove name i index).Obeys (asking P) := by
  refine Pass.obeys_get.bind fun r => (Pass.asks_change delete).bind fun _ => ?_
  exact Pass.asks_modify.bind fun _ => Pass.asks_modify

theorem asks_create (configure : ∀ answer, P ⟨.interface (.configure w), answer⟩) :
    (create w).Obeys (asking P) := by
  refine Pass.obeys_get.bind fun r => (Pass.asks_change configure).bind fun _ => ?_
  exact Pass.asks_modify.bind fun _ => Pass.asks_modify.bind fun _ => Pass.asks_modify

theorem asks_refresh (dump : ∀ answer, P ⟨.interface .dump, answer⟩) :
    refresh.Obeys (asking P) :=
  (Pass.asks_dump dump).bind fun _ => Pass.asks_modify

/-- Nothing is asked for in the first round about an interface that is left for the second, and
about another one only what is about its index. -/
theorem asks_settleTagged
    (own : isUntagged (index, d) = false → ∀ x : Exchange, x.call.index? = some index → P x) :
    (settleTagged wanted index d).Obeys (asking P) := by
  unfold settleTagged
  dsimp only
  split
  · next zero =>
    have own := own (by simp [isUntagged, zero])
    exact asks_register fun _ => own _ rfl
  · split
    · exact Pass.obeys_pure ()
    · next tagged =>
      have own := own (by simpa [isUntagged] using fun _ => tagged)
      split
      · exact (asks_register fun _ => own _ rfl).bind fun _ => asks_adjust fun _ => own _ rfl
      · exact (asks_register fun _ => own _ rfl).bind fun _ => asks_remove fun _ => own _ rfl

/-- What is asked for in the second round is about the index of the interface. -/
theorem asks_settleUntagged (own : ∀ x : Exchange, x.call.index? = some index → P x) :
    (settleUntagged wanted index d).Obeys (asking P) := by
  refine Pass.obeys_get.bind fun r => ?_
  split
  · exact (asks_register fun _ => own _ rfl).bind fun _ => asks_adjust fun _ => own _ rfl
  · exact (asks_register fun _ => own _ rfl).bind fun _ => asks_remove fun _ => own _ rfl

/-- What is left of a pass once all dumped interfaces have had their turns. -/
def finish (wanted : List Interface) : Step Unit := do
  wanted.forM settleMissing
  let r ← get
  if r.skipRefresh then pure () else refresh

/-- What is asked for then is about no interface that was dumped. -/
theorem asks_finish (none_ : ∀ x : Exchange, x.call.index? = none → P x) :
    (finish wanted).Obeys (asking P) := by
  refine (Pass.obeys_forM fun w _ => Pass.obeys_get.bind fun r => ?_).bind fun _ => ?_
  · split
    · exact Pass.obeys_pure ()
    · exact asks_create fun _ => none_ _ rfl
  · refine Pass.obeys_get.bind fun r => ?_
    split
    · exact Pass.obeys_pure ()
    · exact asks_refresh fun _ => none_ _ rfl

end InterfaceReconciler

/-! ### Names that are left alone -/

/-- Whether an exchange is about no interface of a name: it neither registers the name nor drops
it. -/
def Exchange.Spares (name : String) (x : Exchange) : Prop :=
  match x.call with
  | .interface (.setTag tag _) => tag ≠ name
  | .interface (.configure i) => i.name ≠ name
  | .interface (.delete actual _) =>
    (if actual.isTagged then actual.name else Interface.placeholderName) ≠ name
  | _ => True

instance (name : String) : (x : Exchange) → Decidable (x.Spares name)
  | ⟨.interface (.setTag tag _), _⟩ => inferInstanceAs (Decidable (tag ≠ name))
  | ⟨.interface (.configure i), _⟩ => inferInstanceAs (Decidable (i.name ≠ name))
  | ⟨.interface (.delete actual _), _⟩ => inferInstanceAs (Decidable
      ((if actual.isTagged then actual.name else Interface.placeholderName) ≠ name))
  | ⟨.interface (.modify _ _ _), _⟩ => .isTrue trivial
  | ⟨.interface .dump, _⟩ => .isTrue trivial
  | ⟨.interface .dumpSockets, _⟩ => .isTrue trivial
  | ⟨.stn _, _⟩ => .isTrue trivial
  | ⟨.bfd _, _⟩ => .isTrue trivial
  | ⟨.nat _, _⟩ => .isTrue trivial

namespace InterfaceReconciler

open Interface (placeholderName)

variable {wanted : List Interface} {name : String} {index : UInt32} {d : InterfaceDetails}
variable {names : String → Option UInt32} {xs : List Exchange}

theorem naming_of_spares {x : Exchange} (spared : x.Spares name) :
    naming names x name = names name := by
  unfold naming
  split
  · next tag index answer =>
    exact if_neg (Ne.symm spared)
  · next i index =>
    exact if_neg (Ne.symm spared)
  · next actual index =>
    exact if_neg fun both => spared both.1.symm
  · rfl

/-- As long as exchanges spare a name, it stands for what it stood for. -/
theorem foldl_naming_of_spares (spared : ∀ x ∈ xs, x.Spares name) :
    xs.foldl naming names name = names name := by
  induction xs generalizing names with
  | nil => rfl
  | cons x xs ih =>
    have first : naming names x name = names name := naming_of_spares (spared x List.mem_cons_self)
    have rest : xs.foldl naming (naming names x) name = naming names x name :=
      ih fun y hy => spared y (List.mem_cons_of_mem x hy)
    exact rest.trans first

/-- Spare a name once it is registered, and register the names that the calls do. -/
def keeping (name : String) : Discipline InterfaceReconciler InterfaceFailure where
  allows r ds e t := registering.allows r ds e t ∧
    (r.registry.contains name = true → ∀ x ∈ exchanges ds, x.Spares name)
  rest r := ⟨registering.rest r, fun _ => by simp⟩
  join := by
    intro r s t ds ds' e e' first then_
    refine ⟨registering.join first.1 then_.1, fun known => ?_⟩
    have spared := first.2 known
    -- the name is still registered, so the second stretch spares it too
    have stays : s.names name = r.names name := by
      rw [first.1]
      exact foldl_naming_of_spares spared
    have known' : s.registry.contains name = true := by
      rw [← isSome_names, stays, isSome_names]
      exact known
    rw [exchanges_append]
    exact List.forall_mem_append.mpr ⟨spared, then_.2 known'⟩

theorem keeps_of_spares {p : Step Unit} (registers : p.Obeys registering)
    (spares : p.Obeys (asking (Exchange.Spares name))) : p.Obeys (keeping name) :=
  fun r ds end_ t trace => ⟨registers r ds end_ t trace, fun _ => spares r ds end_ t trace⟩

/-- A tagged interface is dealt with under its tag. -/
theorem keeps_settleTagged (device : index ≠ 0) (other : d.interface.name ≠ name) :
    (settleTagged wanted index d).Obeys (keeping name) := by
  refine keeps_of_spares (registering_steps.settleTagged wanted index d) ?_
  unfold settleTagged
  rw [if_neg device]
  split
  · exact Pass.obeys_pure ()
  · next tagged =>
    split
    · next w found =>
      have same : w.name = d.interface.name := by simpa using List.find?_some found
      exact (asks_register fun _ => same ▸ other).bind fun _ => asks_adjust fun _ => trivial
    · refine (asks_register fun _ => other).bind fun _ => asks_remove fun _ => ?_
      have under : d.interface.isTagged = true := by simpa using tagged
      show (if d.interface.isTagged then d.interface.name else placeholderName) ≠ name
      rw [if_pos under]
      exact other

/-- An untagged interface is dealt with under a name that is not registered, or under the
placeholder. -/
theorem keeps_settleUntagged (ordinary : name ≠ placeholderName)
    (untagged : d.interface.isTagged = false) :
    (settleUntagged wanted index d).Obeys (keeping name) := by
  intro r ds end_ t trace
  refine ⟨registering_steps.settleUntagged wanted index untagged r ds end_ t trace, fun known => ?_⟩
  have chosen := Pass.of_trace_get trace
  cases found : r.correlated? wanted d.interface with
  | some w =>
    rw [found] at chosen
    have free := List.find?_some found
    have other : w.name ≠ name := by
      rintro rfl
      rw [known] at free
      contradiction
    have spares : (do register w.name index w; adjust w d.interface index : Step Unit).Obeys
        (asking (Exchange.Spares name)) :=
      (asks_register fun _ => other).bind fun _ => asks_adjust fun _ => trivial
    exact spares r ds end_ t chosen
  | none =>
    rw [found] at chosen
    have spares : (do
        register placeholderName index d.interface
        remove placeholderName d.interface index : Step Unit).Obeys
        (asking (Exchange.Spares name)) := by
      refine (asks_register fun _ => ordinary.symm).bind fun _ => asks_remove fun _ => ?_
      show (if d.interface.isTagged then d.interface.name else placeholderName) ≠ name
      rw [untagged]
      exact ordinary.symm
    exact spares r ds end_ t chosen

/-- A wanted interface whose name is registered is not created. -/
theorem keeps_settleMissing (w : Interface) : (settleMissing w).Obeys (keeping name) := by
  intro r ds end_ t trace
  refine ⟨registering_steps.settleMissing w r ds end_ t trace, fun known => ?_⟩
  have chosen := Pass.of_trace_get trace
  split at chosen
  · cases chosen
    simp
  · next absent =>
    have other : w.name ≠ name := by
      rintro rfl
      exact absent known
    have spares : (create w).Obeys (asking (Exchange.Spares name)) := asks_create fun _ => other
    exact spares r ds end_ t chosen

theorem keeps_finish : (finish wanted).Obeys (keeping name) := by
  refine (Pass.obeys_forM fun w _ => keeps_settleMissing w).bind fun _ => ?_
  refine Pass.obeys_get.bind fun r => ?_
  split
  · exact Pass.obeys_pure ()
  · exact keeps_of_spares registering_steps.refresh (asks_refresh fun _ => trivial)

/-! ### Turns -/

/-- What is done about a dumped interface. -/
def settle (wanted : List Interface) (x : UInt32 × InterfaceDetails) : Step Unit :=
  if isUntagged x then settleUntagged wanted x.1 x.2 else settleTagged wanted x.1 x.2

variable {actual : Table UInt32 InterfaceDetails} {x : UInt32 × InterfaceDetails}

/-- In a pass that ends with `end_`, a dumped interface is dealt with by what is done `now`,
between what is done before and what is done after. -/
structure Turn (wanted : List Interface) (actual : Table UInt32 InterfaceDetails)
    (x : UInt32 × InterfaceDetails) (end_ : Except InterfaceFailure Unit)
    (before now after : List Deed) (s s' : InterfaceReconciler) : Prop where
  /-- What is registered at the start of the turn is what was registered before. -/
  names : s.names = registeredBy (exchanges before)
  step : ∃ mid, Program.Trace (settle wanted x s) now (mid, s') ∧ (end_ = .ok () → mid = .ok ())
  /-- Nothing has been created before. -/
  uncreated : ∀ y ∈ exchanges before, ∀ i, y.call ≠ .interface (.configure i)
  /-- Nothing is asked for about the interface outside its turn. -/
  apart : ∀ y ∈ exchanges before ++ exchanges after, y.call.index? ≠ some x.1
  /-- What is registered by the end of the turn is left alone afterwards, unless it is a
  placeholder or another tag of the same round. -/
  spared : ∀ name, name ≠ placeholderName →
    (isUntagged x = false → ∀ y ∈ actual.entries, y.1 ≠ 0 → y.1 ≠ x.1 →
      y.2.interface.name ≠ name) →
    s'.registry.contains name = true → ∀ y ∈ exchanges after, y.Spares name

/-- The first dump of a pass. -/
def dumpIn? : List Exchange → Option (Table UInt32 InterfaceDetails)
  | ⟨.interface .dumpSockets, .ok _⟩ :: ⟨.interface .dump, .ok actual⟩ :: _ => some actual
  | _ => none

section

variable {r t : InterfaceReconciler} {ds : List Deed} {end_ : Except InterfaceFailure Unit}

/-- What is known once the interfaces have been dumped: no names. -/
theorem settleDumped_of_trace (connected : r.connected = true)
    (trace : Program.Trace (reconcile wanted r) ds (end_, t))
    (dumped : dumpIn? (exchanges ds) = some actual) :
    ∃ sockets r' ds', ds = .called (.interface .dumpSockets) (.ok sockets) ::
        .called (.interface .dump) (.ok actual) :: ds' ∧
      r'.names = (fun _ => none) ∧ Program.Trace (settleDumped wanted actual r') ds' (end_, t) := by
  rw [reconcile_eq, if_pos connected] at trace
  rcases Pass.of_trace_dump_bind trace with ⟨reason, rfl, -, -⟩ | ⟨sockets, ds₁, rfl, rest⟩
  · exact nomatch dumped
  · obtain ⟨answer, ds₂, rfl, onward⟩ := Program.trace_ask.mp (Pass.of_trace_modify rest)
    match answer with
    | .error reason => exact nomatch dumped
    | .ok shown =>
      obtain rfl : shown = actual := Option.some.inj dumped
      exact ⟨sockets, _, ds₂, rfl, rfl, onward⟩

/-- A pass that is cut in three around an interface gives it its turn. -/
theorem turn_of_stages (connected : r.connected = true)
    (trace : Program.Trace (reconcile wanted r) ds (end_, t))
    (dumped : dumpIn? (exchanges ds) = some actual) {p k : Step Unit}
    (parted : settleDumped wanted actual = (do p; settle wanted x; k))
    (registers : p.Obeys registering)
    (asks : p.Obeys (asking fun y =>
      y.call.index? ≠ some x.1 ∧ ∀ i, y.call ≠ .interface (.configure i)))
    (asks' : k.Obeys (asking fun y => y.call.index? ≠ some x.1))
    (keeps : ∀ name, name ≠ placeholderName →
      (isUntagged x = false → ∀ y ∈ actual.entries, y.1 ≠ 0 → y.1 ≠ x.1 →
        y.2.interface.name ≠ name) → k.Obeys (keeping name)) :
    (∃ e, end_ = .error e ∧ ∀ y ∈ exchanges ds, y.call.index? ≠ some x.1) ∨
    ∃ before now after s s', ds = before ++ now ++ after ∧
      Turn wanted actual x end_ before now after s s' := by
  obtain ⟨sockets, r', ds', rfl, unnamed, rest⟩ := settleDumped_of_trace connected trace dumped
  rw [parted] at rest
  -- what is read is about no index, and creates nothing
  have reads : ∀ c : Call, c.isDump = true →
      c.index? ≠ some x.1 ∧ ∀ i, c ≠ .interface (.configure i) := by
    intro c reads
    refine ⟨fun own => ?_, fun i created => ?_⟩
    · unfold Call.index? at own
      split at own <;> contradiction
    · rw [created] at reads
      contradiction
  rcases Pass.of_trace_bind rest with ⟨e, rfl, cut⟩ | ⟨_, s, ds₁, ds₂, rfl, first, rest'⟩
  · refine Or.inl ⟨e, rfl, ?_⟩
    have others := asks _ _ _ _ cut
    simp only [exchanges_called, List.forall_mem_cons]
    exact ⟨(reads _ rfl).1, (reads _ rfl).1, fun y hy => (others y hy).1⟩
  refine Or.inr ?_
  have others := asks _ _ _ _ first
  have named : s.names = (exchanges ds₁).foldl naming r'.names := registers _ _ _ _ first
  let before : List Deed := .called (.interface .dumpSockets) (.ok sockets) ::
    .called (.interface .dump) (.ok actual) :: ds₁
  have names_ : s.names = registeredBy (exchanges before) := by
    rw [named, unnamed]
    rfl
  have earlier : ∀ y ∈ exchanges before,
      y.call.index? ≠ some x.1 ∧ ∀ i, y.call ≠ .interface (.configure i) := by
    simp only [before, exchanges_called, List.forall_mem_cons]
    exact ⟨reads _ rfl, reads _ rfl, others⟩
  rcases Pass.of_trace_bind rest' with ⟨e, rfl, now⟩ | ⟨_, s', ds₃, ds₄, rfl, now, after⟩
  · refine ⟨before, ds₂, [], s, t, by simp [before], names_, ⟨_, now, nofun⟩,
      fun y hy => (earlier y hy).2, ?_, ?_⟩
    · simpa using fun y hy => (earlier y hy).1
    · simp
  · refine ⟨before, ds₃, ds₄, s, s', by simp [before], names_, ⟨_, now, fun _ => rfl⟩,
      fun y hy => (earlier y hy).2, ?_, fun name ordinary apart known => ?_⟩
    · exact List.forall_mem_append.mpr ⟨fun y hy => (earlier y hy).1, asks' _ _ _ _ after⟩
    · exact (keeps name ordinary apart _ _ _ _ after).2 known

end

/-! ### Every interface has its turn -/

/-- What is done about one entry of a dump in the first round. -/
def firstRound (wanted : List Interface) (y : UInt32 × InterfaceDetails) : Step Unit :=
  settleTagged wanted y.1 y.2

/-- What is done about one entry of a dump in the second round. -/
def secondRound (wanted : List Interface) (y : UInt32 × InterfaceDetails) : Step Unit :=
  settleUntagged wanted y.1 y.2

theorem settleDumped_rounds : settleDumped wanted actual = (do
    actual.entries.forM (firstRound wanted)
    (actual.entries.filter isUntagged).forM (secondRound wanted)
    finish wanted) := rfl

/-- A round over some entries is one over those before an entry, its own, and one over those
after it. -/
theorem forM_split {f : UInt32 × InterfaceDetails → Step Unit}
    {ys front back : List (UInt32 × InterfaceDetails)} (split_ : ys = front ++ x :: back) :
    ys.forM f = (do front.forM f; f x; back.forM f) := by
  rw [split_]
  simp only [List.forM_eq_forM, List.forM_append, List.forM_cons]

/-- What is about another index is not about this one, and creates nothing. -/
theorem elsewhere {j : UInt32} (other : j ≠ x.1) (y : Exchange) (own : y.call.index? = some j) :
    y.call.index? ≠ some x.1 ∧ ∀ i, y.call ≠ .interface (.configure i) := by
  refine ⟨fun same => other (Option.some.inj (own.symm.trans same)), fun i created => ?_⟩
  rw [created] at own
  contradiction

/-- The entries before and after one of them have other indexes, those after it higher ones. -/
theorem apart_of_ascending {ys front back : List (UInt32 × InterfaceDetails)}
    (ascending : ys.Pairwise fun y z => y.1 < z.1) (split_ : ys = front ++ x :: back) :
    (∀ y ∈ front, y.1 ≠ x.1) ∧ ∀ y ∈ back, x.1 < y.1 := by
  rw [split_] at ascending
  obtain ⟨-, above, below⟩ := List.pairwise_append.mp ascending
  refine ⟨fun y hy same => ?_, (List.pairwise_cons.mp above).1⟩
  exact UInt32.lt_irrefl _ (same ▸ below y hy x List.mem_cons_self)

theorem isTagged_of_isUntagged {y : UInt32 × InterfaceDetails} (untagged : isUntagged y = true) :
    y.2.interface.isTagged = false := by
  simp only [isUntagged, Bool.and_eq_true, Bool.not_eq_true'] at untagged
  exact untagged.2

/-- The second round leaves registered names alone. -/
theorem keeps_secondRound {ys : List (UInt32 × InterfaceDetails)}
    (ordinary : name ≠ placeholderName) (untagged : ∀ y ∈ ys, isUntagged y = true) :
    (ys.forM (secondRound wanted)).Obeys (keeping name) :=
  Pass.obeys_forM fun y hy =>
    keeps_settleUntagged ordinary (isTagged_of_isUntagged (untagged y hy))

section

variable {r t : InterfaceReconciler} {ds : List Deed} {end_ : Except InterfaceFailure Unit}

/-- A tagged interface has its turn in the first round. -/
theorem turn_of_tagged (connected : r.connected = true)
    (trace : Program.Trace (reconcile wanted r) ds (end_, t))
    (dumped : dumpIn? (exchanges ds) = some actual) (member : x ∈ actual.entries)
    (tagged : isUntagged x = false) :
    (∃ e, end_ = .error e ∧ ∀ y ∈ exchanges ds, y.call.index? ≠ some x.1) ∨
    ∃ before now after s s', ds = before ++ now ++ after ∧
      Turn wanted actual x end_ before now after s s' := by
  obtain ⟨front, back, split_⟩ := List.append_of_mem member
  obtain ⟨before_, after_⟩ := apart_of_ascending actual.ascending split_
  refine turn_of_stages connected trace dumped
    (p := front.forM (firstRound wanted))
    (k := do
      back.forM (firstRound wanted)
      (actual.entries.filter isUntagged).forM (secondRound wanted)
      finish wanted) ?_ ?_ ?_ ?_ ?_
  · have own : settle wanted x = firstRound wanted x := by
      unfold settle
      rw [tagged]
      rfl
    rw [settleDumped_rounds, forM_split split_, own]
    simp only [bind_assoc]
  · exact Pass.obeys_forM fun y _ => registering_steps.settleTagged wanted y.1 y.2
  · exact Pass.obeys_forM fun y hy => asks_settleTagged fun _ => elsewhere (before_ y hy)
  · refine (Pass.obeys_forM fun y hy => asks_settleTagged fun _ z own => ?_).bind fun _ =>
      (Pass.obeys_forM fun y hy => asks_settleUntagged fun z own => ?_).bind fun _ =>
        asks_finish fun z none_ => ?_
    · exact (elsewhere (fun same => UInt32.lt_irrefl _ (same ▸ after_ y hy)) z own).1
    · -- what has its turn in the second round is not this interface
      obtain ⟨there, untagged⟩ := List.mem_filter.mp hy
      refine (elsewhere (fun same => ?_) z own).1
      have same_ : y.2 = x.2 := Table.eq_of_mem_entries there (same ▸ member)
      rw [show y = x from Prod.ext same same_, tagged] at untagged
      contradiction
    · rw [none_]
      exact nofun
  · intro name ordinary apart
    refine (Pass.obeys_forM fun y hy => ?_).bind fun _ =>
      (keeps_secondRound ordinary fun y hy => (List.mem_filter.mp hy).2).bind fun _ => keeps_finish
    have higher := after_ y hy
    have device : y.1 ≠ 0 := fun zero => UInt32.not_lt_zero (zero ▸ higher)
    have other : y.1 ≠ x.1 := fun same => UInt32.lt_irrefl _ (same ▸ higher)
    have there : y ∈ actual.entries := split_ ▸ List.mem_append_right _ (List.mem_cons_of_mem _ hy)
    exact keeps_settleTagged device (apart tagged y there device other)

/-- An untagged interface has its turn in the second round. -/
theorem turn_of_untagged (connected : r.connected = true)
    (trace : Program.Trace (reconcile wanted r) ds (end_, t))
    (dumped : dumpIn? (exchanges ds) = some actual) (member : x ∈ actual.entries)
    (untagged : isUntagged x = true) :
    (∃ e, end_ = .error e ∧ ∀ y ∈ exchanges ds, y.call.index? ≠ some x.1) ∨
    ∃ before now after s s', ds = before ++ now ++ after ∧
      Turn wanted actual x end_ before now after s s' := by
  obtain ⟨front, back, split_⟩ := List.append_of_mem (List.mem_filter.mpr ⟨member, untagged⟩)
  obtain ⟨before_, after_⟩ :=
    apart_of_ascending (actual.ascending.sublist List.filter_sublist) split_
  have all : ∀ y ∈ front ++ x :: back, isUntagged y = true := fun y hy =>
    (List.mem_filter.mp (split_ ▸ hy)).2
  refine turn_of_stages connected trace dumped
    (p := do actual.entries.forM (firstRound wanted); front.forM (secondRound wanted))
    (k := do back.forM (secondRound wanted); finish wanted) ?_ ?_ ?_ ?_ ?_
  · have own : settle wanted x = secondRound wanted x := by
      unfold settle
      rw [untagged]
      rfl
    rw [settleDumped_rounds, forM_split split_, own]
    simp only [bind_assoc]
  · refine (Pass.obeys_forM fun y _ => registering_steps.settleTagged wanted y.1 y.2).bind
      fun _ => Pass.obeys_forM fun y hy => ?_
    have kind := isTagged_of_isUntagged (all y (List.mem_append_left _ hy))
    exact registering_steps.settleUntagged wanted y.1 kind
  · refine (Pass.obeys_forM fun y hy => asks_settleTagged fun settled => ?_).bind fun _ =>
      Pass.obeys_forM fun y hy => asks_settleUntagged (elsewhere (before_ y hy))
    -- nothing is asked for about this interface in the first round
    refine elsewhere fun same => ?_
    have same_ : y.2 = x.2 := Table.eq_of_mem_entries hy (same ▸ member)
    have entry : (y.1, y.2) = x := Prod.ext same same_
    rw [entry, untagged] at settled
    contradiction
  · refine (Pass.obeys_forM fun y hy => asks_settleUntagged fun z own => ?_).bind fun _ =>
      asks_finish fun z none_ => ?_
    · exact (elsewhere (fun same => UInt32.lt_irrefl _ (same ▸ after_ y hy)) z own).1
    · rw [none_]
      exact nofun
  · intro name ordinary _
    refine (keeps_secondRound ordinary fun y hy => ?_).bind fun _ => keeps_finish
    exact all y (List.mem_append_right _ (List.mem_cons_of_mem _ hy))

/-- Each dumped interface has its turn, unless the pass fails before it asks for anything about
it. -/
theorem turn_of_trace (connected : r.connected = true)
    (trace : Program.Trace (reconcile wanted r) ds (end_, t))
    (dumped : dumpIn? (exchanges ds) = some actual) (member : x ∈ actual.entries) :
    (∃ e, end_ = .error e ∧ ∀ y ∈ exchanges ds, y.call.index? ≠ some x.1) ∨
    ∃ before now after s s', ds = before ++ now ++ after ∧
      Turn wanted actual x end_ before now after s s' := by
  cases sort : isUntagged x with
  | false => exact turn_of_tagged connected trace dumped member sort
  | true => exact turn_of_untagged connected trace dumped member sort

end

end InterfaceReconciler

end DataplaneSync
