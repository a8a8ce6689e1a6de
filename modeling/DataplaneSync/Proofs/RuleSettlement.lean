import DataplaneSync.Proofs.RuleRemoval

namespace DataplaneSync

/-!
# What becomes of the wanted rules

A pass over the rules knows one rule for each interface, and the rules that wait by their names.
So a wanted rule may give way to another one of its interface, or of its name, and the pass ends
well all the same.  Here it is said which of them it gives way to.

* `StnRuleDetails.place` — address and index, all that a removal asks for.
* `StnReconciler.Sifted` — how things stand while rules of the dump are still ahead of a pass.
* `StnReconciler.Placed` — how things stand once some of the wanted rules have been dealt with.
* `StnReconciler.ensures_loops` — a pass is its two loops, each with an invariant.
* `StnReconciler.ensures_placed` — a pass that ends well deals with all of them.
* `StnReconciler.reconcile_accounts` — where a wanted rule is found then, or what has taken its
  place.
* `StnReconciler.reconcile_gives_way` — a pass that ends well and leaves three wanted rules out.
-/

/-! ### Places -/

/-- Where a rule of the dataplane is: its address and its index. -/
def StnRuleDetails.place (d : StnRuleDetails) : String × UInt32 := (d.address, d.index)

/-- A rule is at the place of another one if their places are the same. -/
theorem StnRuleDetails.isAt_eq (a d : StnRuleDetails) :
    a.isAt d.address d.index = (a.place == d.place) := by
  show (a.address == d.address && a.index == d.index) = (a.place == d.place)
  rw [Bool.eq_iff_iff]
  simp [place]

/-- To remove a rule takes one of its place away.  There may be others of the same place, and the
first of them is the one that goes. -/
theorem StnRuleDetails.map_place_eraseP (rules : List StnRuleDetails) (d : StnRuleDetails) :
    (rules.eraseP (·.isAt d.address d.index)).map place = (rules.map place).erase d.place := by
  have same : (fun a : StnRuleDetails => a.isAt d.address d.index) =
      (fun p => p == d.place) ∘ place := funext fun a => a.isAt_eq d
  rw [List.erase_eq_eraseP', List.eraseP_map, same]

/-- What is dumped for a wanted rule is on its interface. -/
theorem StnRuleDetails.interface_of_isFor {d : StnRuleDetails} {w : StnRule}
    (h : d.isFor w = true) : w.interface = d.interface := by
  simp only [isFor, Bool.and_eq_true, beq_iff_eq] at h
  exact h.1

/-- A dump shows rules where they are. -/
theorem Links.place_shown (l : Links) (d : StnRuleDetails) : (l.shown d).place = d.place := by
  unfold Links.shown
  split <;> rfl

/-- Rules of different interfaces are registered under different names. -/
theorem StnRule.registryName_inj {m n : String} : registryName m = registryName n ↔ m = n := by
  constructor
  · intro same
    have cut : "stn-rule-" ++ m = "stn-rule-" ++ n := by
      simpa only [registryName, toString, String.append_empty] using same
    exact (String.append_right_inj _).mp cut
  · exact congrArg registryName

namespace StnReconciler

variable {μ : Type} {interfaces : Registry μ} {wanted : List StnRule}
variable {r r' : StnReconciler} {l l' : Links} {unreliable : Prop}

/-- A rule of the dump is kept if its interface is known and it is one of the wanted rules. -/
theorem removes_eq_false_iff {known : String → Bool} {d : StnRuleDetails} :
    removes known wanted d = false ↔
      known d.interface = true ∧ ∃ w ∈ wanted, d.isFor w = true := by
  simp [removes, Option.isSome_iff_exists, ← List.find?_isSome]

/-! ### Steps -/

section

variable {allowed : Call → Prop} {Q : Unit → StnReconciler → Links → Prop}
variable {E : StnFailure → StnReconciler → Links → Prop}

/-- A rule is removed, or the call is refused. -/
theorem ensures_remove {d : StnRuleDetails}
    (permitted : allowed (.stn (.delete d.address d.index)))
    (done : ∀ r' : StnReconciler, r'.rules = r.rules → r'.pending = r.pending →
      r'.connected = r.connected →
      Q () r' { l with rules := l.rules.eraseP (·.isAt d.address d.index) })
    (failed : ∀ e, E e r l) :
    Pass.Ensures (Links.behaviour unreliable allowed) (remove d) r l Q E := by
  simp only [remove, Pass.ensures_bind, Pass.ensures_modify]
  rw [Pass.ensures_change]
  refine ⟨⟨rfl, permitted⟩, fun answer t given => ?_⟩
  change Effect.Gives unreliable l ((StnCall.delete d.address d.index).perform l) answer t at given
  cases found : l.rules.find? (·.isAt d.address d.index) with
  | some a =>
    have carried : (StnCall.delete d.address d.index).perform l =
        (.ok (), { l with rules := l.rules.eraseP (·.isAt d.address d.index) }) :=
      Effect.bind_of_ok (Effect.find_of_some found)
    rcases given.of_carried carried with ⟨rfl, rfl⟩ | ⟨-, rfl, reason, rfl⟩
    · exact done _ rfl rfl rfl
    · exact failed _
  | none =>
    -- a rule that is not there cannot be removed
    obtain ⟨reason, refused⟩ : ∃ reason, (StnCall.delete d.address d.index).perform l =
        (.error (.refused reason), l) := ⟨_, Effect.bind_of_error (Effect.find_of_none found)⟩
    rw [refused] at given
    cases given with
    | refused => exact failed _
    | failed _ reason _ => exact failed _

/-- A rule is added and registered, or the call is refused. -/
theorem ensures_add {w : StnRule} {index : UInt32} (permitted : allowed (.stn (.add w index)))
    (done : ∀ r' : StnReconciler, (∀ name, r'.rules.contains name =
        (decide (name = StnRule.registryName w.interface) || r.rules.contains name)) →
      r'.pending = r.pending → r'.connected = r.connected →
      Q () r' { l with rules := l.rules ++ [⟨w.address, w.interface, index⟩] })
    (failed : ∀ e, E e r l) :
    Pass.Ensures (Links.behaviour unreliable allowed) (add w index) r l Q E := by
  simp only [add, Pass.ensures_bind, Pass.ensures_modify]
  rw [Pass.ensures_change]
  refine ⟨⟨rfl, permitted⟩, fun answer t given => ?_⟩
  have carried : (StnCall.add w index).perform l =
      (.ok (), { l with rules := l.rules ++ [⟨w.address, w.interface, index⟩] }) := rfl
  rcases Effect.Gives.of_carried given carried with ⟨rfl, rfl⟩ | ⟨-, rfl, reason, rfl⟩
  · exact done _ (fun name => Registry.contains_register ..) rfl rfl
  · exact failed _

variable {x : StnReconciler × FailureTally StnFailure}
variable {Q : Unit → StnReconciler × FailureTally StnFailure → Links → Prop}

/-- A rule of the dump is kept, or removed unless the call is refused. -/
theorem ensures_settleActual {d : StnRuleDetails}
    (permitted : removes interfaces.contains wanted d = true →
      allowed (.stn (.delete d.address d.index)))
    (kept : removes interfaces.contains wanted d = false →
      ∀ w, wanted.find? d.isFor = some w → Q () (enroll w x.1, x.2) l)
    (removed : removes interfaces.contains wanted d = true → ∀ r' : StnReconciler,
      r'.rules = x.1.rules → r'.pending = x.1.pending → r'.connected = x.1.connected →
      Q () (r', x.2) { l with rules := l.rules.eraseP (·.isAt d.address d.index) })
    (failed : removes interfaces.contains wanted d = true → ∀ e, Q () (x.1, x.2.record e) l) :
    Sweep.Ensures (Links.behaviour unreliable allowed) (settleActual interfaces wanted d) x l
      Q := by
  have removal : removes interfaces.contains wanted d = true →
      Sweep.Ensures (Links.behaviour unreliable allowed) (Sweep.tolerate (remove d)) x l Q := by
    intro goes
    rw [Sweep.ensures_tolerate]
    exact ensures_remove (permitted goes) (removed goes) (failed goes)
  unfold settleActual
  by_cases known : interfaces.contains d.interface = true
  · rw [if_pos known]
    cases found : wanted.find? d.isFor with
    | some w =>
      rw [Sweep.ensures_update]
      exact kept (by simp [removes, known, found]) w found
    | none => exact removal (by simp [removes, found])
  · rw [if_neg known]
    exact removal (by simp [removes, known])

/-- A wanted rule is left alone if one is registered for its interface, added if the interface is
registered, unless the call is refused, and waits otherwise. -/
theorem ensures_settleWanted {w : StnRule}
    (permitted : x.1.rules.contains (StnRule.registryName w.interface) = false →
      ∀ index data, interfaces.lookup? w.interface = some (index, data) →
      allowed (.stn (.add w index)))
    (held : x.1.rules.contains (StnRule.registryName w.interface) = true → Q () x l)
    (added : x.1.rules.contains (StnRule.registryName w.interface) = false →
      ∀ index data, interfaces.lookup? w.interface = some (index, data) → ∀ r' : StnReconciler,
      (∀ name, r'.rules.contains name =
        (decide (name = StnRule.registryName w.interface) || x.1.rules.contains name)) →
      r'.pending = x.1.pending → r'.connected = x.1.connected →
      Q () (r', x.2) { l with rules := l.rules ++ [⟨w.address, w.interface, index⟩] })
    (failed : x.1.rules.contains (StnRule.registryName w.interface) = false →
      interfaces.contains w.interface = true → ∀ e, Q () (x.1, x.2.record e) l)
    (waits : interfaces.contains w.interface = false → ∀ r' : StnReconciler,
      r'.rules = x.1.rules → r'.pending = x.1.pending.insert w.name w →
      r'.connected = x.1.connected → Q () (r', x.2) l) :
    Sweep.Ensures (Links.behaviour unreliable allowed) (settleWanted interfaces w) x l Q := by
  unfold settleWanted
  rw [Sweep.ensures_bind, Sweep.ensures_state]
  cases present : x.1.rules.contains (StnRule.registryName w.interface) with
  | true =>
    rw [if_pos rfl]
    exact held present
  | false =>
    rw [if_neg Bool.false_ne_true]
    cases registered : interfaces.lookup? w.interface with
    | some entry =>
      obtain ⟨index, data⟩ := entry
      have known : interfaces.contains w.interface = true :=
        Registry.contains_iff.mpr ⟨index, data, registered⟩
      rw [Sweep.ensures_tolerate]
      exact ensures_add (permitted present index data registered)
        (added present index data registered) (failed present known)
    | none =>
      have unknown : interfaces.contains w.interface = false := by
        cases known : interfaces.contains w.interface with
        | false => rfl
        | true =>
          obtain ⟨index, data, there⟩ := Registry.contains_iff.mp known
          exact nomatch registered.symm.trans there
      rw [Sweep.ensures_tolerate]
      exact waits unknown _ rfl rfl rfl

end

/-! ### The rules of the dump -/

/-- How things stand while some rules of the dump have been dealt with and others are ahead. -/
structure Sifted (interfaces : Registry μ) (wanted : List StnRule)
    (done ahead : List StnRuleDetails) (r : StnReconciler) (l : Links) : Prop where
  /-- What is there is what is kept and what is ahead. -/
  rules : (l.rules.map StnRuleDetails.place).Perm
    ((done.filter (!removes interfaces.contains wanted ·) ++ ahead).map StnRuleDetails.place)
  /-- The interfaces of the kept rules are the ones that have a registered rule. -/
  held : ∀ name, r.rules.contains (StnRule.registryName name) = true ↔
    ∃ d ∈ done, removes interfaces.contains wanted d = false ∧ d.interface = name
  pending : r.pending = ∅

variable {done ahead dump : List StnRuleDetails} {d : StnRuleDetails}

/-- At the start everything that the dump shows is ahead. -/
theorem Sifted.start (interfaces : Registry μ) (wanted : List StnRule) (r : StnReconciler)
    (l : Links) : Sifted interfaces wanted [] (l.rules.map l.shown) r.forget l where
  rules := by
    have places : StnRuleDetails.place ∘ l.shown = StnRuleDetails.place := funext l.place_shown
    rw [List.filter_nil, List.nil_append, List.map_map, places]
  held name := by simp [forget, Registry.contains_iff]
  pending := rfl

/-- A rule that is kept is the last one of these instead of the first one ahead. -/
theorem kept_append_of_kept {known : String → Bool} (kept : removes known wanted d = false) :
    (done ++ [d]).filter (!removes known wanted ·) ++ ahead =
      done.filter (!removes known wanted ·) ++ d :: ahead := by
  rw [List.filter_append, List.filter_cons_of_pos (by simp [kept]), List.filter_nil,
    List.append_assoc, List.singleton_append]

/-- A rule that is removed is none of those that are kept. -/
theorem kept_append_of_removed {known : String → Bool} (removed : removes known wanted d = true) :
    (done ++ [d]).filter (!removes known wanted ·) = done.filter (!removes known wanted ·) := by
  rw [List.filter_append, List.filter_cons_of_neg (by simp [removed]), List.filter_nil,
    List.append_nil]

/-- A rule that is kept is registered for its interface. -/
theorem Sifted.keep (h : Sifted interfaces wanted done (d :: ahead) r l)
    (kept : removes interfaces.contains wanted d = false) {w : StnRule}
    (found : wanted.find? d.isFor = some w) :
    Sifted interfaces wanted (done ++ [d]) ahead (enroll w r) l where
  rules := by
    rw [kept_append_of_kept kept]
    exact h.rules
  held := by
    intro name
    have own : w.interface = d.interface :=
      StnRuleDetails.interface_of_isFor (List.find?_some found)
    have contains : (enroll w r).rules.contains (StnRule.registryName name) =
        (decide (StnRule.registryName name = StnRule.registryName w.interface) ||
          r.rules.contains (StnRule.registryName name)) := Registry.contains_register ..
    rw [contains, Bool.or_eq_true, h.held, decide_eq_true_iff, StnRule.registryName_inj, own]
    constructor
    · rintro (rfl | ⟨a, member, keptA, onA⟩)
      · exact ⟨d, by simp, kept, rfl⟩
      · exact ⟨a, List.mem_append_left _ member, keptA, onA⟩
    · rintro ⟨a, member, keptA, onA⟩
      rcases List.mem_append.mp member with before | here
      · exact Or.inr ⟨a, before, keptA, onA⟩
      · obtain rfl := List.mem_singleton.mp here
        exact Or.inl onA.symm
  pending := h.pending

/-- A rule that is removed leaves those that are kept and those ahead. -/
theorem Sifted.drop (h : Sifted interfaces wanted done (d :: ahead) r l)
    (removed : removes interfaces.contains wanted d = true)
    (rules : r'.rules = r.rules) (pending : r'.pending = r.pending) :
    Sifted interfaces wanted (done ++ [d]) ahead r'
      { l with rules := l.rules.eraseP (·.isAt d.address d.index) } where
  rules := by
    -- the place of the rule is among those of the kept ones and the ones ahead, at the front of
    -- the latter
    have front := (h.rules.trans (List.perm_middle.map _)).erase d.place
    rw [List.map_cons, List.erase_cons_head] at front
    rw [StnRuleDetails.map_place_eraseP, kept_append_of_removed removed]
    exact front
  held := by
    intro name
    rw [rules, h.held]
    constructor
    · rintro ⟨a, member, keptA, onA⟩
      exact ⟨a, List.mem_append_left _ member, keptA, onA⟩
    · rintro ⟨a, member, keptA, onA⟩
      rcases List.mem_append.mp member with before | here
      · exact ⟨a, before, keptA, onA⟩
      · obtain rfl := List.mem_singleton.mp here
        rw [removed] at keptA
        contradiction
  pending := pending.trans h.pending

/-! ### The wanted rules -/

/-- Whether a rule has to wait under a name: it has the name, and its interface is not
registered. -/
def waitsAs (interfaces : Registry μ) (name : String) (w : StnRule) : Bool :=
  w.name == name && !interfaces.contains w.interface

/-- How things stand once some of the wanted rules have been dealt with. -/
structure Placed (interfaces : Registry μ) (wanted : List StnRule) (dump : List StnRuleDetails)
    (done : List StnRule) (r : StnReconciler) (l : Links) : Prop where
  /-- The rules of the dump that are kept are there. -/
  kept : ∀ d ∈ dump, removes interfaces.contains wanted d = false →
    d.place ∈ l.rules.map StnRuleDetails.place
  /-- If no rule of the dump is kept on an interface, the first wanted one is there. -/
  first : ∀ name index data, interfaces.lookup? name = some (index, data) →
    (∀ d ∈ dump, removes interfaces.contains wanted d = false → d.interface ≠ name) →
    ∀ v, done.find? (·.interface == name) = some v →
      (v.address, index) ∈ l.rules.map StnRuleDetails.place
  held : ∀ name, r.rules.contains (StnRule.registryName name) = true ↔
    (∃ d ∈ dump, removes interfaces.contains wanted d = false ∧ d.interface = name) ∨
      interfaces.contains name = true ∧ ∃ w ∈ done, w.interface = name
  /-- Of the rules that wait under one name the last one is known. -/
  waiting : ∀ name, r.pending.get? name = (done.filter (waitsAs interfaces name)).getLast?

variable {seen : List StnRule} {w : StnRule}

/-- Once the rules of the dump have been dealt with, no wanted rule has. -/
theorem Sifted.placed (h : Sifted interfaces wanted dump [] r l) :
    Placed interfaces wanted dump [] r l where
  kept := by
    intro d member kept
    refine h.rules.mem_iff.mpr (List.mem_map_of_mem ?_)
    rw [List.append_nil]
    exact List.mem_filter.mpr ⟨member, by simp [kept]⟩
  first := by
    intro name index data _ _ v found
    contradiction
  held := by
    intro name
    rw [h.held]
    simp
  waiting := by
    intro name
    rw [h.pending]
    rfl

/-- A rule whose interface is registered does not wait under any name. -/
theorem filter_waitsAs_append (known : interfaces.contains w.interface = true) (name : String) :
    (seen ++ [w]).filter (waitsAs interfaces name) =
      seen.filter (waitsAs interfaces name) := by
  rw [List.filter_append, List.filter_cons_of_neg (by simp [waitsAs, known]), List.filter_nil,
    List.append_nil]

/-- Nothing is done about a rule whose interface has a registered rule. -/
theorem Placed.skip (h : Placed interfaces wanted dump seen r l)
    (held : r.rules.contains (StnRule.registryName w.interface) = true) :
    Placed interfaces wanted dump (seen ++ [w]) r l := by
  have known : interfaces.contains w.interface = true := by
    rcases (h.held _).mp held with ⟨d, -, kept, on_⟩ | ⟨known, -⟩
    · exact on_ ▸ (removes_eq_false_iff.mp kept).1
    · exact known
  refine ⟨h.kept, ?first, ?held, ?waiting⟩
  case first =>
    intro name index data registered free v found
    rw [List.find?_append] at found
    cases earlier : seen.find? (·.interface == name) with
    | some u =>
      rw [earlier] at found
      exact h.first name index data registered free v (earlier.trans found)
    | none =>
      -- the rule would be the first of its interface, but then none would be registered for it
      rw [earlier, Option.none_or] at found
      have same : w.interface = name := by
        have chosen := List.find?_some found
        obtain rfl := List.mem_singleton.mp (List.mem_of_find?_eq_some found)
        exact beq_iff_eq.mp chosen
      subst same
      rcases (h.held _).mp held with ⟨d, member, kept, on_⟩ | ⟨-, u, member, on_⟩
      · exact absurd on_ (free d member kept)
      · exact absurd (beq_iff_eq.mpr on_) (List.find?_eq_none.mp earlier u member)
  case held =>
    intro name
    rw [h.held]
    constructor
    · rintro (kept | ⟨known', u, member, on_⟩)
      · exact Or.inl kept
      · exact Or.inr ⟨known', u, List.mem_append_left _ member, on_⟩
    · rintro (kept | ⟨known', u, member, on_⟩)
      · exact Or.inl kept
      · rcases List.mem_append.mp member with before | here
        · exact Or.inr ⟨known', u, before, on_⟩
        · obtain rfl := List.mem_singleton.mp here
          exact on_ ▸ (h.held _).mp held
  case waiting =>
    intro name
    rw [filter_waitsAs_append known, h.waiting]

/-- A rule that is added is the first of its interface. -/
theorem Placed.put (h : Placed interfaces wanted dump seen r l) {index : UInt32} {data : μ}
    (registered : interfaces.lookup? w.interface = some (index, data))
    (rules : ∀ name, r'.rules.contains name =
      (decide (name = StnRule.registryName w.interface) || r.rules.contains name))
    (pending : r'.pending = r.pending) :
    Placed interfaces wanted dump (seen ++ [w]) r'
      { l with rules := l.rules ++ [⟨w.address, w.interface, index⟩] } := by
  have known : interfaces.contains w.interface = true :=
    Registry.contains_iff.mpr ⟨index, data, registered⟩
  have stays : ∀ p, p ∈ l.rules.map StnRuleDetails.place →
      p ∈ (l.rules ++ [(⟨w.address, w.interface, index⟩ : StnRuleDetails)]).map
        StnRuleDetails.place := by
    intro p member
    rw [List.map_append]
    exact List.mem_append_left _ member
  refine ⟨fun d member kept => stays _ (h.kept d member kept), ?first, ?held, ?waiting⟩
  case first =>
    intro name index' data' registered' free v found
    rw [List.find?_append] at found
    cases earlier : seen.find? (·.interface == name) with
    | some u =>
      rw [earlier] at found
      exact stays _ (h.first name index' data' registered' free v (earlier.trans found))
    | none =>
      -- the rule is the first one that is wanted on its interface, and it has just been added
      rw [earlier, Option.none_or] at found
      have chosen := List.find?_some found
      obtain rfl := List.mem_singleton.mp (List.mem_of_find?_eq_some found)
      obtain rfl : v.interface = name := beq_iff_eq.mp chosen
      obtain rfl : index = index' :=
        congrArg Prod.fst (Option.some.inj (registered.symm.trans registered'))
      simp [StnRuleDetails.place]
  case held =>
    intro name
    rw [rules, Bool.or_eq_true, h.held, decide_eq_true_iff, StnRule.registryName_inj]
    constructor
    · rintro (rfl | kept | ⟨known', u, member, on_⟩)
      · exact Or.inr ⟨known, w, by simp, rfl⟩
      · exact Or.inl kept
      · exact Or.inr ⟨known', u, List.mem_append_left _ member, on_⟩
    · rintro (kept | ⟨known', u, member, on_⟩)
      · exact Or.inr (Or.inl kept)
      · rcases List.mem_append.mp member with before | here
        · exact Or.inr (Or.inr ⟨known', u, before, on_⟩)
        · obtain rfl := List.mem_singleton.mp here
          exact Or.inl on_.symm
  case waiting =>
    intro name
    rw [filter_waitsAs_append known, pending, h.waiting]

/-- A rule that has to wait takes the place of any that waits under its name. -/
theorem Placed.postpone (h : Placed interfaces wanted dump seen r l)
    (unknown : interfaces.contains w.interface = false)
    (rules : r'.rules = r.rules) (pending : r'.pending = r.pending.insert w.name w) :
    Placed interfaces wanted dump (seen ++ [w]) r' l := by
  refine ⟨h.kept, ?first, ?held, ?waiting⟩
  case first =>
    intro name index data registered free v found
    -- the interface of the rule is not registered, so it is not the one asked for
    have other : w.interface ≠ name := by
      rintro rfl
      have known := Registry.contains_iff.mpr ⟨index, data, registered⟩
      rw [unknown] at known
      contradiction
    rw [List.find?_append, List.find?_cons_of_neg (by simpa using other), List.find?_nil,
      Option.or_none] at found
    exact h.first name index data registered free v found
  case held =>
    intro name
    rw [rules, h.held]
    constructor
    · rintro (kept | ⟨known, u, member, on_⟩)
      · exact Or.inl kept
      · exact Or.inr ⟨known, u, List.mem_append_left _ member, on_⟩
    · rintro (kept | ⟨known, u, member, on_⟩)
      · exact Or.inl kept
      · rcases List.mem_append.mp member with before | here
        · exact Or.inr ⟨known, u, before, on_⟩
        · obtain rfl := List.mem_singleton.mp here
          rw [← on_, unknown] at known
          contradiction
  case waiting =>
    intro name
    rw [pending, Table.get?_insert, List.filter_append]
    by_cases same : name = w.name
    · have waits : waitsAs interfaces name w = true := by simp [waitsAs, same, unknown]
      rw [if_pos same, List.filter_cons_of_pos waits, List.filter_nil, List.getLast?_concat]
    · have waitsNot : waitsAs interfaces name w ≠ true := by
        simp [waitsAs, Ne.symm same]
      rw [if_neg same, List.filter_cons_of_neg waitsNot, List.filter_nil, List.append_nil,
        h.waiting]

/-! ### The whole pass -/

/-- A pass comes to its end through two loops: about all that a dump shows and about the wanted
rules.  Each keeps an invariant about what it has dealt with. -/
theorem ensures_loops {allowed : Call → Prop} {Q : Unit → StnReconciler → Links → Prop}
    {E : StnFailure → StnReconciler → Links → Prop}
    (I : List StnRuleDetails → List StnRuleDetails →
      StnReconciler × FailureTally StnFailure → Links → Prop)
    (J : List StnRule → StnReconciler × FailureTally StnFailure → Links → Prop)
    (connected : r.connected = true) (permitted : allowed (.stn .dump))
    (start : I [] (l.rules.map l.shown) (r.forget, ∅) l)
    (unstarted : unreliable → ∀ reason, E (.dump reason) r.forget l)
    (actual : ∀ done d ahead x l', done ++ d :: ahead = l.rules.map l.shown →
      I done (d :: ahead) x l' →
      Sweep.Ensures (Links.behaviour unreliable allowed) (settleActual interfaces wanted d) x l'
        fun _ x' l'' => I (done ++ [d]) ahead x' l'')
    (between : ∀ x l', I (l.rules.map l.shown) [] x l' → J [] x l')
    (settle : ∀ seen w ahead x l', seen ++ w :: ahead = wanted → J seen x l' →
      Sweep.Ensures (Links.behaviour unreliable allowed) (settleWanted interfaces w) x l'
        fun _ x' l'' => J (seen ++ [w]) x' l'')
    (finish : ∀ x l' stats, J wanted x l' → x.2.last? = none → Q () { x.1 with stats := stats } l')
    (failed : ∀ x l' stats e, J wanted x l' → x.2.last? = some e →
      E e { x.1 with stats := stats } l') :
    Pass.Ensures (Links.behaviour unreliable allowed) (reconcile interfaces wanted) r l Q E := by
  have shows : (StnCall.dump).perform l = (.ok (l.rules.map l.shown), l) := rfl
  refine ensures_reconcile
    (fun done ahead x l' => done ++ ahead = l.rules.map l.shown ∧ I done ahead x l') J
    connected ⟨rfl, permitted⟩ (fun reply t given => ?start) (fun reason t given => ?unstarted)
    ?actual ?between settle finish failed
  case start =>
    obtain ⟨same, rfl⟩ | ⟨-, -, reason, refused⟩ := Effect.Gives.of_carried given shows
    · obtain rfl := Except.ok.inj same
      exact ⟨rfl, start⟩
    · exact nomatch refused
  case unstarted =>
    obtain ⟨same, -⟩ | ⟨faulty, rfl, -⟩ := Effect.Gives.of_carried given shows
    · exact nomatch same
    · exact unstarted faulty reason
  case actual =>
    rintro done d ahead x l' ⟨parts, h⟩
    refine (actual done d ahead x l' parts h).mono fun _ x' l'' h' => ⟨?_, h'⟩
    rw [← List.append_cons, parts]
  case between =>
    rintro dump x l' ⟨parts, h⟩
    rw [List.append_nil] at parts
    exact between x l' (parts ▸ h)

/-- A pass that ends well has dealt with all wanted rules, whatever it started from. -/
theorem ensures_placed :
    Pass.Ensures (Links.behaviour unreliable fun _ => True) (reconcile interfaces wanted) r l
      (fun _ r' l' => Placed interfaces wanted (l.rules.map l.shown) wanted r' l')
      (fun _ _ _ => True) := by
  by_cases connected : r.connected = true
  case neg =>
    unfold Pass.Ensures
    rw [reconcile_eq, if_neg connected]
    exact trivial
  -- once something has failed, nothing is claimed any more
  refine ensures_loops
    (fun done ahead x l' => x.2.last? = none → Sifted interfaces wanted done ahead x.1 l')
    (fun seen x l' => x.2.last? = none →
      Placed interfaces wanted (l.rules.map l.shown) seen x.1 l')
    connected trivial (fun _ => .start interfaces wanted r l) (fun _ _ => trivial) ?actual
    (fun x l' sifted clean => (sifted clean).placed) ?settle ?finish fun _ _ _ _ _ _ => trivial
  case actual =>
    intro done d ahead x l' _ sifted
    exact ensures_settleActual (fun _ => trivial)
      (fun kept w found clean => (sifted clean).keep kept found)
      (fun removed r' rules pending _ clean => (sifted clean).drop removed rules pending)
      fun _ _ => nofun
  case settle =>
    intro seen w ahead x l' _ placed
    exact ensures_settleWanted (fun _ _ _ _ => trivial)
      (fun held clean => (placed clean).skip held)
      (fun _ index data registered r' rules pending _ clean =>
        (placed clean).put registered rules pending)
      (fun _ _ _ => nofun)
      fun unknown r' rules pending _ clean => (placed clean).postpone unknown rules pending
  case finish =>
    intro x l' stats placed clean
    have all := placed clean
    exact ⟨all.kept, all.first, all.held, all.waiting⟩

/-! ### Runs -/

/-- A wanted rule is in place if its address is there at the index, or if a dump shows a rule of
its address and interface and what the dump shows is there. -/
def InPlace (before after : Links) (w : StnRule) (index : UInt32) : Prop :=
  (w.address, index) ∈ after.rules.map StnRuleDetails.place ∨
    ∃ d ∈ before.rules.map before.shown, d.isFor w = true ∧
      d.place ∈ after.rules.map StnRuleDetails.place

/-- A pass that ends well keeps what the dump shows of the wanted rules on known interfaces. -/
theorem Placed.inPlace (h : Placed interfaces wanted (l.rules.map l.shown) seen r' l')
    {d : StnRuleDetails} (shown : d ∈ l.rules.map l.shown) {v : StnRule} (member : v ∈ wanted)
    (isFor : d.isFor v = true) (known : interfaces.contains v.interface = true) (index : UInt32) :
    InPlace l l' v index := by
  have same := StnRuleDetails.interface_of_isFor isFor
  have kept : removes interfaces.contains wanted d = false :=
    removes_eq_false_iff.mpr ⟨same ▸ known, v, member, isFor⟩
  exact Or.inr ⟨d, shown, isFor, h.kept d shown kept⟩

/-- If a rule has to wait, the last one of those that wait under its name is known. -/
theorem Placed.last_waits (h : Placed interfaces wanted dump wanted r l) (member : w ∈ wanted)
    (unknown : interfaces.contains w.interface = false) :
    ∃ v ∈ r.pending.values,
      (wanted.filter (waitsAs interfaces w.name)).getLast? = some v := by
  -- the rule itself waits under its name, so there is a last one
  have waits : w ∈ wanted.filter (waitsAs interfaces w.name) :=
    List.mem_filter.mpr ⟨member, by simp [waitsAs, unknown]⟩
  cases last : (wanted.filter (waitsAs interfaces w.name)).getLast? with
  | none =>
    rw [List.getLast?_eq_none_iff.mp last] at waits
    contradiction
  | some v =>
    have known := (h.waiting w.name).trans last
    exact ⟨v, List.mem_map_of_mem (Table.mem_of_get? known), rfl⟩

/-- A registered interface that a rule is wanted on has one in place: one that the dump shows, or
else the first one that is wanted. -/
theorem Placed.exists_inPlace (h : Placed interfaces wanted (l.rules.map l.shown) wanted r' l')
    (member : w ∈ wanted) {index : UInt32} {data : μ}
    (registered : interfaces.lookup? w.interface = some (index, data)) :
    ∃ v ∈ wanted, v.interface = w.interface ∧ InPlace l l' v index ∧
      ((∃ d ∈ l.rules.map l.shown, d.isFor v = true) ∨
        wanted.find? (·.interface == w.interface) = some v) := by
  have known : interfaces.contains w.interface = true :=
    Registry.contains_iff.mpr ⟨index, data, registered⟩
  by_cases taken : ∃ d ∈ l.rules.map l.shown,
      removes interfaces.contains wanted d = false ∧ d.interface = w.interface
  case pos =>
    obtain ⟨d, there, kept, same⟩ := taken
    obtain ⟨-, v, wants, isFor⟩ := removes_eq_false_iff.mp kept
    have own : v.interface = w.interface :=
      (StnRuleDetails.interface_of_isFor isFor).trans same
    have inPlace := h.inPlace there wants isFor (own ▸ known) index
    exact ⟨v, wants, own, inPlace, Or.inl ⟨d, there, isFor⟩⟩
  case neg =>
    -- no rule of the dump has the interface, so the first wanted one was added
    have free : ∀ d ∈ l.rules.map l.shown,
        removes interfaces.contains wanted d = false → d.interface ≠ w.interface :=
      fun d there kept same => taken ⟨d, there, kept, same⟩
    cases first : wanted.find? (·.interface == w.interface) with
    | none => exact absurd (beq_self_eq_true _) (List.find?_eq_none.mp first w member)
    | some v =>
      have added := h.first w.interface index data registered free v first
      have chosen := List.find?_some first
      exact ⟨v, List.mem_of_find?_eq_some first, beq_iff_eq.mp chosen, Or.inl added, Or.inr rfl⟩

/-- When a pass ends well, whatever was refused before, every wanted rule is accounted for.

If its interface is not registered, the last wanted rule that waits under its name is known.
If it is, the rule is in place, or else another one of the same interface is: one that was there
before, or the first one that is wanted. -/
theorem reconcile_accounts {t u : Trial}
    (result : Trial.run (reconcile interfaces wanted r) t = some ((.ok (), r'), u))
    (member : w ∈ wanted) :
    (interfaces.contains w.interface = false → ∃ v ∈ r'.pending.values,
      (wanted.filter (waitsAs interfaces w.name)).getLast? = some v) ∧
    ∀ index data, interfaces.lookup? w.interface = some (index, data) →
      InPlace t.simulation.links u.simulation.links w index ∨
      (∀ d ∈ t.simulation.links.rules.map t.simulation.links.shown, d.isFor w = false) ∧
      ∃ v ∈ wanted, v ≠ w ∧ v.interface = w.interface ∧
        InPlace t.simulation.links u.simulation.links v index ∧
        ((∃ d ∈ t.simulation.links.rules.map t.simulation.links.shown, d.isFor v = true) ∨
          wanted.find? (·.interface == w.interface) = some v) := by
  have ensures : (reconcile interfaces wanted r).Ensures
      (Links.behaviour True fun _ => True) t.simulation.links _ := ensures_placed
  obtain ⟨⟨-, placed⟩, -⟩ := Trial.result_of_ensures
    (Simulation.ensures_of_links ensures (Or.inr trivial)) (Or.inr trivial) result
  refine ⟨fun unknown => placed.last_waits member unknown, fun index data registered => ?_⟩
  have known : interfaces.contains w.interface = true :=
    Registry.contains_iff.mpr ⟨index, data, registered⟩
  obtain ⟨v, wants, own, inPlace, chosen⟩ := placed.exists_inPlace member registered
  by_cases same : v = w
  · exact Or.inl (same ▸ inPlace)
  by_cases shown : ∃ d ∈ t.simulation.links.rules.map t.simulation.links.shown, d.isFor w = true
  · obtain ⟨d, there, isFor⟩ := shown
    exact Or.inl (placed.inPlace there member isFor known index)
  · have absent : ∀ d ∈ t.simulation.links.rules.map t.simulation.links.shown,
        d.isFor w = false :=
      fun d there => Bool.eq_false_iff.mpr fun isFor => shown ⟨d, there, isFor⟩
    exact Or.inr ⟨absent, v, wants, same, own, inPlace, chosen⟩

/-- A dataplane in which two interfaces have one tag, with a rule on the first of them. -/
def twinSnapshot : Snapshot where
  interfaces :=
    [{ internalName := "local0" },
      { interface := { name := "uplink" }, internalName := "loop1", index := 1 },
      { interface := { name := "lan" }, internalName := "loop2", index := 2 },
      { interface := { name := "lan" }, internalName := "loop3", index := 3 }]
  rules := [{ address := "10.0.0.3", interface := "lan", index := 2 }]

/-- The tags of that dataplane, each under the last index that has it. -/
def twinRegistry : Registry Interface :=
  ((∅ : Registry Interface).register "uplink" 1 { name := "uplink" }).register "lan" 3
    { name := "lan" }

/-- Two rules on one interface, one on the interface with the ambiguous tag, and two rules of one
name on interfaces that are not there. -/
def twinRules : List StnRule :=
  [{ name := "gate", address := "10.0.0.1", interface := "uplink" },
    { name := "door", address := "10.0.0.2", interface := "uplink" },
    { name := "desk", address := "10.0.0.3", interface := "lan" },
    { name := "later", address := "10.0.0.4", interface := "wan" },
    { name := "later", address := "10.0.0.5", interface := "dmz" }]

/-- Of the two rules on one interface the first one is in place, and of the two of one name the
last one waits. -/
theorem reconcile_accounts_uplink :
    ∃ s r' u, Simulation.ofSnapshot? twinSnapshot = some s ∧
      Trial.run (reconcile twinRegistry twinRules {}) { simulation := s } =
        some ((.ok (), r'), u) ∧
      (∃ v ∈ twinRules, v.interface = "uplink" ∧ InPlace s.links u.simulation.links v 1) ∧
      { name := "later", address := "10.0.0.5", interface := "dmz" } ∈ r'.pending.values := by
  have goes : Trial.succeedsOn twinSnapshot (reconcile twinRegistry twinRules {})
      (fun _ _ _ => true) = true := by
    decide +kernel
  obtain ⟨s, ⟨⟩, r', u, start, result, -⟩ := Trial.exists_of_succeedsOn goes
  refine ⟨s, r', u, start, result, ?_, ?_⟩
  · have accounts := reconcile_accounts result (w := twinRules[1]) (by decide)
    rcases accounts.2 1 _ rfl with inPlace | ⟨-, v, member, -, own, inPlace, -⟩
    · exact ⟨twinRules[1], by decide, rfl, inPlace⟩
    · exact ⟨v, member, own, inPlace⟩
  · have accounts := reconcile_accounts result (w := twinRules[3]) (by decide)
    obtain ⟨v, waits, last⟩ := accounts.1 rfl
    obtain rfl : twinRules[4] = v := Option.some.inj (last.symm.trans (by decide +kernel)).symm
    exact waits

/-- Whether a rule is there under the index of its interface, or waits if there is no such
index. -/
def present (interfaces : Registry μ) (r : StnReconciler) (l : Links) (w : StnRule) : Bool :=
  match interfaces.lookup? w.interface with
  | some (index, _) =>
    l.rules.any fun a => StnRuleDetails.sameAddress w.address a.address && a.index == index
  | none => r.pending.values.contains w

/-- A pass that ends well leaves out the second rule of an interface, a rule that is there under
another index of its tag, and the first of two rules that wait under one name. -/
theorem reconcile_gives_way :
    ∃ s r' u, Simulation.ofSnapshot? twinSnapshot = some s ∧
      Trial.run (reconcile twinRegistry twinRules {}) { simulation := s } =
        some ((.ok (), r'), u) ∧
      twinRules.filter (!present twinRegistry r' u.simulation.links ·) =
        [{ name := "door", address := "10.0.0.2", interface := "uplink" },
          { name := "desk", address := "10.0.0.3", interface := "lan" },
          { name := "later", address := "10.0.0.4", interface := "wan" }] := by
  have goes : Trial.succeedsOn twinSnapshot (reconcile twinRegistry twinRules {})
      (fun _ r' u => twinRules.filter (!present twinRegistry r' u.simulation.links ·) ==
        [{ name := "door", address := "10.0.0.2", interface := "uplink" },
          { name := "desk", address := "10.0.0.3", interface := "lan" },
          { name := "later", address := "10.0.0.4", interface := "wan" }]) = true := by
    decide +kernel
  obtain ⟨s, ⟨⟩, r', u, start, result, left⟩ := Trial.exists_of_succeedsOn goes
  exact ⟨s, r', u, start, result, eq_of_beq left⟩

end StnReconciler

end DataplaneSync
