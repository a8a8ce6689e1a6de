import DataplaneSync.Proofs.InterfaceIdempotence
import DataplaneSync.Proofs.RegistryGrounding
import DataplaneSync.Proofs.RuleSettlement

namespace DataplaneSync

/-!
# Idempotence of a pass over the rules

Passes over the interfaces and then over the rules that end well leave nothing to be done about
the rules, so that the same passes put and remove none if they are made once more.  There is one
thing that stands in the way: a call that removes a rule says no more of it than where it is, and
a rule that is kept may be there as well.

* `Links.Rooted` — index 0 is that of the local device, whatever is done to the interfaces.
* `StnReconciler.Apart` — no rule that is removed comes after one of its place that is kept.
* `StnReconciler.Settled` — what a dump shows is wanted, and what is wanted has a rule.
* `StnReconciler.ensures_settled` — a pass that ends well leaves the rules settled.
* `StnReconciler.ensures_still` — over rules that are settled, a pass makes no change.
* `StnReconciler.rules_stay` — the second round of passes.
* `StnReconciler.rules_shift` — without `StnReconciler.Apart` it may change rules.
-/

open Interface (localName Accepted)

/-! ### The local device -/

/-- The device at index 0, if there is one, is the local one, and no new interface gets its
index. -/
structure Links.Rooted (l : Links) : Prop where
  device : ∀ d, l.interfaces.get? 0 = some d → d.internalName = localName
  positive : 0 < l.nextIndex

variable {l l' : Links} {unreliable : Prop} {allowed : Call → Prop}

/-- Calls about interfaces give the device no other name. -/
theorem InterfaceCall.rooted_of_perform {c : InterfaceCall} {reply : c.Reply} (h : l.Rooted)
    (carried : c.perform l = (.ok reply, l')) : l'.Rooted := by
  obtain rfl | ⟨d, index, i, present, -, rfl⟩ | ⟨i, -, room, rfl⟩ | ⟨-, actual, index, -, -, rfl⟩ :=
    cases_of_perform carried
  · exact h
  · -- an interface in the place of another one keeps the name that the dataplane gave that one
    refine ⟨fun e found => ?_, h.positive⟩
    rw [(Links.updated_replace l index d i).get?] at found
    split at found
    · next zero =>
      obtain rfl := Option.some.inj found
      exact h.device d (zero ▸ present)
    · exact h.device e found
  · have new : 0 ≠ l.nextIndex := UInt32.ne_of_lt h.positive
    refine ⟨fun e found => ?_, UInt32.lt_trans h.positive (Links.Bounded.lt_next l room)⟩
    rw [get?_added, if_neg new] at found
    exact h.device e found
  · refine ⟨fun e found => ?_, h.positive⟩
    rw [(Links.updated_without l index).get?] at found
    split at found
    · contradiction
    · exact h.device e found

theorem Links.Rooted.answered {c : Call} {answer : Answer c} (h : l.Rooted)
    (about : c.IsInterface) (given : (behaviour unreliable allowed).answers l c answer l') :
    l'.Rooted := by
  obtain ⟨call, rfl⟩ := about
  rcases given.refused_or_carried call.atomic_perform with rfl | ⟨reply, carried⟩
  · exact h
  · exact InterfaceCall.rooted_of_perform h carried

/-- Whether a call is about interfaces, and neither creates nor removes one. -/
def Call.retainsInterfaces : Call → Bool
  | interface (.configure _) => false
  | interface (.delete _ _) => false
  | interface _ => true
  | _ => false

theorem Call.isInterface_of_retains {c : Call} (h : c.retainsInterfaces = true) :
    c.IsInterface := by
  cases c with
  | interface call => exact ⟨call, rfl⟩
  | stn call => contradiction
  | bfd call => contradiction
  | nat call => contradiction

/-- As long as no interface is removed, calls about interfaces leave the rules alone. -/
theorem Links.rules_of_retains {c : Call} {answer : Answer c} (retains : c.retainsInterfaces = true)
    (given : (behaviour unreliable allowed).answers l c answer l') : l'.rules = l.rules := by
  obtain ⟨call, rfl⟩ := Call.isInterface_of_retains retains
  rcases given.refused_or_carried call.atomic_perform with rfl | ⟨reply, carried⟩
  · rfl
  · obtain rfl | ⟨d, index, i, -, -, rfl⟩ | ⟨i, -, -, rfl⟩ | ⟨-, actual, index, -, rfl, -⟩ :=
      InterfaceCall.cases_of_perform carried
    · rfl
    · rfl
    · rfl
    · contradiction

/-! ### Names and tags -/

section

variable {wanted : List Interface} {registry : Registry Interface} {name : String}
variable {index : UInt32} {data : Interface}

/-- After a pass that came to its end, a name that is registered is the tag at its index, unless
it is the name of the local device. -/
theorem Finished.tagAt?_of_lookup (finished : Finished False wanted registry l)
    (rooted : l.Rooted) (other : name ≠ localName)
    (found : registry.lookup? name = some (index, data)) :
    index ≠ 0 ∧ l.tagAt? index = some name := by
  obtain ⟨-, d, there, named⟩ := finished.progress.underway.registered name index data found
  -- at index 0 there is the local device, which is registered under its own name
  have device : index ≠ 0 := by
    rintro rfl
    exact other (named.symm.trans (rooted.device d there))
  rw [d.nameAt_of_ne device] at named
  exact ⟨device, by rw [Links.tagAt?, there, Option.map_some, named]⟩

/-- After a pass that came to its end, the names that are registered are the wanted ones, and
that of the local device. -/
theorem Finished.contains_iff (finished : Finished False wanted registry l) (rooted : l.Rooted)
    (other : name ≠ localName) : registry.contains name = true ↔ ∃ w ∈ wanted, w.name = name := by
  constructor
  · intro known
    obtain ⟨index, data, found⟩ := Registry.contains_iff.mp known
    obtain ⟨device, tag⟩ := finished.tagAt?_of_lookup rooted other found
    obtain ⟨d, there, rfl⟩ := Option.map_eq_some_iff.mp tag
    exact finished.labelled.named index d there device
  · rintro ⟨w, member, rfl⟩
    exact finished.all w member

end

/-- The rules are no matter to what a pass over the interfaces leaves behind. -/
theorem Finished.with_rules {wanted : List Interface} {registry : Registry Interface}
    (finished : Finished False wanted registry l) (rules : List StnRuleDetails) :
    Finished False wanted registry { l with rules := rules } := by
  have underway := finished.progress.underway
  have bounded : ({ l with rules := rules } : Links).Bounded :=
    ⟨underway.bounded.positive, underway.bounded.below⟩
  exact ⟨⟨⟨underway.untouched, underway.settled, underway.registered, bounded⟩, False.elim⟩,
    finished.all⟩

/-- A rule is shown with the tag at its index. -/
theorem Links.shown_of_tagAt? {d : StnRuleDetails} {tag : String}
    (h : l.tagAt? d.index = some tag) : l.shown d = { d with interface := tag } := by
  obtain ⟨e, there, rfl⟩ := Option.map_eq_some_iff.mp h
  rw [shown, there]

/-- Where the tags are the same, a rule is shown alike. -/
theorem Links.shown_congr (same : ∀ j, l'.tagAt? j = l.tagAt? j) : l'.shown = l.shown := by
  funext d
  cases h : l.tagAt? d.index with
  | some tag => rw [shown_of_tagAt? h, shown_of_tagAt? ((same d.index).trans h)]
  | none =>
    have nothing : l.interfaces.get? d.index = none := Option.map_eq_none_iff.mp h
    have nothing' : l'.interfaces.get? d.index = none :=
      Option.map_eq_none_iff.mp ((same d.index).trans h)
    rw [shown, shown, nothing, nothing']

/-- What is removed from the rules is removed from what a dump shows. -/
theorem Links.map_shown_eraseP (l : Links) (rules : List StnRuleDetails) (d : StnRuleDetails) :
    (rules.eraseP (·.isAt d.address d.index)).map l.shown =
      (rules.map l.shown).eraseP (·.isAt d.address d.index) := by
  have same : (fun a : StnRuleDetails => a.isAt d.address d.index) =
      (fun a => a.isAt d.address d.index) ∘ l.shown := by
    funext a
    rw [Function.comp_apply, StnRuleDetails.isAt_eq, StnRuleDetails.isAt_eq, l.place_shown]
  rw [List.eraseP_map, ← same]

namespace StnReconciler

variable {μ : Type} {interfaces : Registry μ} {known known' : String → Bool}
variable {wanted : List StnRule} {r r' : StnReconciler}

/-! ### Settled rules -/

/-- No rule of a dump that is to be removed comes after one that is kept and is at the same
place. -/
def Apart (known : String → Bool) (wanted : List StnRule) (dump : List StnRuleDetails) : Prop :=
  dump.Pairwise fun a b =>
    a.place = b.place → removes known wanted a = false → removes known wanted b = false

instance (known : String → Bool) (wanted : List StnRule) (dump : List StnRuleDetails) :
    Decidable (Apart known wanted dump) := inferInstanceAs (Decidable (List.Pairwise _ _))

/-- There is nothing to be done about the rules: what a dump shows is kept, and each known
interface that a rule is wanted on has one. -/
structure Settled (known : String → Bool) (wanted : List StnRule) (l : Links) : Prop where
  kept : ∀ d ∈ l.rules.map l.shown, removes known wanted d = false
  covered : ∀ w ∈ wanted, known w.interface = true →
    ∃ d ∈ l.rules.map l.shown, d.interface = w.interface

/-- That rules are settled is a matter of what a dump shows and of which of the interfaces of
wanted rules are known. -/
theorem Settled.congr (h : Settled known wanted l)
    (agree : ∀ w ∈ wanted, known w.interface = known' w.interface)
    (same : l'.rules.map l'.shown = l.rules.map l.shown) : Settled known' wanted l' where
  kept := by
    intro d member
    obtain ⟨there, w, wants, isFor⟩ := removes_eq_false_iff.mp (h.kept d (same ▸ member))
    have own := StnRuleDetails.interface_of_isFor isFor
    rw [← own, agree w wants, own] at there
    exact removes_eq_false_iff.mpr ⟨there, w, wants, isFor⟩
  covered := by
    intro w wants there
    rw [same]
    exact h.covered w wants ((agree w wants).trans there)

/-! ### The pass that settles them -/

variable {done ahead : List StnRuleDetails} {d : StnRuleDetails} {seen : List StnRule}
variable {w : StnRule} {s : Links}

/-- How things stand while some rules of the dump have been dealt with and others are ahead, if the
dataplane was `s` before. -/
structure Swept (interfaces : Registry μ) (wanted : List StnRule) (s : Links)
    (done ahead : List StnRuleDetails) (r : StnReconciler) (l : Links) : Prop where
  sifted : Sifted interfaces wanted done ahead r l
  /-- What a dump would show is what is kept and what is ahead. -/
  shows : l.rules.map s.shown = done.filter (!removes interfaces.contains wanted ·) ++ ahead
  frame : ∃ rules, l = { s with rules := rules }
  connected : r.connected = true

theorem Swept.keep (h : Swept interfaces wanted s done (d :: ahead) r l)
    (kept : removes interfaces.contains wanted d = false) (found : wanted.find? d.isFor = some w) :
    Swept interfaces wanted s (done ++ [d]) ahead (enroll w r) l where
  sifted := h.sifted.keep kept found
  shows := by
    rw [kept_append_of_kept kept]
    exact h.shows
  frame := h.frame
  connected := h.connected

/-- A rule is removed that is nowhere among those that are kept, so it is the first one ahead that
goes. -/
theorem Swept.drop (h : Swept interfaces wanted s done (d :: ahead) r l)
    (apart : Apart interfaces.contains wanted (done ++ d :: ahead))
    (removed : removes interfaces.contains wanted d = true) (rules : r'.rules = r.rules)
    (pending : r'.pending = r.pending) (connected : r'.connected = r.connected) :
    Swept interfaces wanted s (done ++ [d]) ahead r'
      { l with rules := l.rules.eraseP (·.isAt d.address d.index) } where
  sifted := h.sifted.drop removed rules pending
  shows := by
    -- a rule at the same place that is kept and comes before is what `Apart` rules out
    have elsewhere : ∀ a ∈ done.filter (!removes interfaces.contains wanted ·),
        ¬ a.isAt d.address d.index = true := by
      intro a member here
      obtain ⟨before, kept⟩ := List.mem_filter.mp member
      rw [StnRuleDetails.isAt_eq, beq_iff_eq] at here
      have stays := (List.pairwise_append.mp apart).2.2 a before d List.mem_cons_self here
        (by simpa using kept)
      rw [removed] at stays
      contradiction
    have own : d.isAt d.address d.index = true := by
      rw [StnRuleDetails.isAt_eq, beq_self_eq_true]
    rw [Links.map_shown_eraseP, h.shows, List.eraseP_append_right _ elsewhere,
      List.eraseP_cons_of_pos own, kept_append_of_removed removed]
  frame := by
    obtain ⟨_, rfl⟩ := h.frame
    exact ⟨_, rfl⟩
  connected := connected.trans h.connected

/-- How things stand once the rules of the dump and some of the wanted ones have been dealt with, if
the dataplane was `s` before. -/
structure Stocked (interfaces : Registry μ) (wanted : List StnRule) (s : Links)
    (seen : List StnRule) (r : StnReconciler) (l : Links) : Prop where
  kept : ∀ d ∈ l.rules.map s.shown, removes interfaces.contains wanted d = false
  /-- What is registered has a rule. -/
  held : ∀ name, r.rules.contains (StnRule.registryName name) = true →
    ∃ d ∈ l.rules.map s.shown, d.interface = name
  covered : ∀ w ∈ seen, interfaces.contains w.interface = true →
    r.rules.contains (StnRule.registryName w.interface) = true
  frame : ∃ rules, l = { s with rules := rules }
  connected : r.connected = true

theorem Swept.stocked {dump : List StnRuleDetails} (h : Swept interfaces wanted s dump [] r l) :
    Stocked interfaces wanted s [] r l where
  kept := by
    intro d member
    rw [h.shows, List.append_nil] at member
    simpa using (List.mem_filter.mp member).2
  held := by
    intro name there
    obtain ⟨d, member, kept, own⟩ := (h.sifted.held name).mp there
    refine ⟨d, ?_, own⟩
    rw [h.shows, List.append_nil]
    exact List.mem_filter.mpr ⟨member, by simp [kept]⟩
  covered := nofun
  frame := h.frame
  connected := h.connected

/-- One more wanted rule is covered, if anything that was registered still is. -/
theorem Stocked.covered_append (h : Stocked interfaces wanted s seen r l)
    (stays : ∀ name, r.rules.contains name = true → r'.rules.contains name = true)
    (own : interfaces.contains w.interface = true →
      r'.rules.contains (StnRule.registryName w.interface) = true) :
    ∀ v ∈ seen ++ [w], interfaces.contains v.interface = true →
      r'.rules.contains (StnRule.registryName v.interface) = true := by
  intro v member there
  rcases List.mem_append.mp member with before | here
  · exact stays _ (h.covered v before there)
  · obtain rfl := List.mem_singleton.mp here
    exact own there

/-- A wanted rule that is added is shown as what it is. -/
theorem Stocked.put (h : Stocked interfaces wanted s seen r l) (member : w ∈ wanted)
    (spelled : (IpAddress.ofText? w.address).isSome = true) {index : UInt32} {data : μ}
    (registered : interfaces.lookup? w.interface = some (index, data))
    (tag : s.tagAt? index = some w.interface)
    (rules : ∀ name, r'.rules.contains name =
      (decide (name = StnRule.registryName w.interface) || r.rules.contains name))
    (connected : r'.connected = r.connected) :
    Stocked interfaces wanted s (seen ++ [w]) r'
      { l with rules := l.rules ++ [⟨w.address, w.interface, index⟩] } := by
  have there : interfaces.contains w.interface = true :=
    Registry.contains_iff.mpr ⟨index, data, registered⟩
  -- the index has the name of the interface as its tag
  have shown : List.map s.shown (l.rules ++ [⟨w.address, w.interface, index⟩]) =
      l.rules.map s.shown ++ [⟨w.address, w.interface, index⟩] := by
    rw [List.map_append, List.map_singleton]
    exact congrArg (fun d => l.rules.map s.shown ++ [d]) (s.shown_of_tagAt? tag)
  refine ⟨fun d among => ?kept, fun name known => ?held, ?covered, ?frame,
    connected.trans h.connected⟩
  case kept =>
    rw [shown] at among
    rcases List.mem_append.mp among with before | new
    · exact h.kept d before
    · -- its address is spelled, so it is the same as itself
      obtain rfl := List.mem_singleton.mp new
      obtain ⟨x, spells⟩ := Option.isSome_iff_exists.mp spelled
      have isFor : StnRuleDetails.isFor ⟨w.address, w.interface, index⟩ w = true := by
        simp [StnRuleDetails.isFor, StnRuleDetails.sameAddress, spells]
      exact removes_eq_false_iff.mpr ⟨there, w, member, isFor⟩
  case held =>
    rw [shown]
    rw [rules, Bool.or_eq_true, decide_eq_true_iff, StnRule.registryName_inj] at known
    rcases known with rfl | known
    · exact ⟨_, List.mem_append_right _ List.mem_cons_self, rfl⟩
    · obtain ⟨d, among, own⟩ := h.held name known
      exact ⟨d, List.mem_append_left _ among, own⟩
  case covered =>
    refine h.covered_append (fun name known => ?_) fun _ => ?_
    · rw [rules, known, Bool.or_true]
    · rw [rules, decide_eq_true rfl, Bool.true_or]
  case frame =>
    obtain ⟨_, rfl⟩ := h.frame
    exact ⟨_, rfl⟩

/-- A wanted rule for which nothing is done has a registered one, or no known interface. -/
theorem Stocked.pass (h : Stocked interfaces wanted s seen r l) (rules : r'.rules = r.rules)
    (connected : r'.connected = r.connected)
    (own : interfaces.contains w.interface = true →
      r.rules.contains (StnRule.registryName w.interface) = true) :
    Stocked interfaces wanted s (seen ++ [w]) r' l where
  kept := h.kept
  held name there := h.held name (rules ▸ there)
  covered := h.covered_append (fun _ there => rules.symm ▸ there) fun there => rules.symm ▸ own there
  frame := h.frame
  connected := connected.trans h.connected

theorem Stocked.settled (h : Stocked interfaces wanted s wanted r l) :
    Settled interfaces.contains wanted l := by
  obtain ⟨_, rfl⟩ := h.frame
  exact ⟨h.kept, fun w member there => h.held _ (h.covered w member there)⟩

/-- A pass that ends well leaves the rules settled. -/
theorem ensures_settled (connected : r.connected = true)
    (tagged : ∀ w ∈ wanted, ∀ index data, interfaces.lookup? w.interface = some (index, data) →
      l.tagAt? index = some w.interface)
    (spelled : ∀ w ∈ wanted, (IpAddress.ofText? w.address).isSome = true)
    (apart : Apart interfaces.contains wanted (l.rules.map l.shown)) :
    Pass.Ensures (Links.behaviour unreliable fun _ => True) (reconcile interfaces wanted) r l
      (fun _ r' l' => Settled interfaces.contains wanted l' ∧
        (∃ rules, l' = { l with rules := rules }) ∧ r'.connected = true)
      (fun _ _ _ => True) := by
  -- once something has failed, nothing is claimed any more
  refine ensures_loops
    (fun done ahead x l' => x.2.last? = none → Swept interfaces wanted l done ahead x.1 l')
    (fun seen x l' => x.2.last? = none → Stocked interfaces wanted l seen x.1 l')
    connected trivial (fun _ => ?start) (fun _ _ => trivial) ?actual
    (fun x l' swept clean => (swept clean).stocked) ?settle
    (fun x l' stats stocked clean => ?finish) fun _ _ _ _ _ _ => trivial
  case start => exact ⟨.start interfaces wanted r l, rfl, ⟨_, rfl⟩, connected⟩
  case actual =>
    intro done d ahead x l' parts swept
    exact ensures_settleActual (fun _ => trivial)
      (fun kept w found clean => (swept clean).keep kept found)
      (fun removed r' rules pending connected' clean =>
        (swept clean).drop (parts ▸ apart) removed rules pending connected')
      fun _ _ => nofun
  case settle =>
    intro seen w ahead x l' parts stocked
    have member : w ∈ wanted := parts ▸ List.mem_append_right _ List.mem_cons_self
    exact ensures_settleWanted (fun _ _ _ _ => trivial)
      (fun held clean => (stocked clean).pass rfl rfl fun _ => held)
      (fun _ index data registered r' rules _ connected' clean =>
        (stocked clean).put member (spelled w member) registered
          (tagged w member index data registered) rules connected')
      (fun _ _ _ => nofun)
      fun unknown r' rules _ connected' clean => (stocked clean).pass rules connected'
        fun there => nomatch unknown.symm.trans there
  case finish =>
    exact ⟨(stocked clean).settled, (stocked clean).frame, (stocked clean).connected⟩

/-! ### The pass that finds them settled -/

/-- Over rules that are settled, a pass makes no call but its dump, and comes to its end. -/
theorem ensures_still (settled : Settled interfaces.contains wanted l)
    (connected : r.connected = true) :
    Pass.Ensures (Links.behaviour unreliable (· = .stn .dump)) (reconcile interfaces wanted) r l
      (fun _ _ _ => True) (fun _ _ _ => unreliable) := by
  refine ensures_loops
    (fun done ahead x l' => x.2.last? = none ∧ Sifted interfaces wanted done ahead x.1 l')
    (fun _ x _ => x.2.last? = none ∧ ∀ w ∈ wanted, interfaces.contains w.interface = true →
      x.1.rules.contains (StnRule.registryName w.interface) = true)
    connected rfl ⟨rfl, .start interfaces wanted r l⟩ (fun faulty _ => faulty) ?actual ?between
    ?settle (fun _ _ _ _ _ => trivial) fun x _ _ e clean last => nomatch clean.1.symm.trans last
  case actual =>
    rintro done d ahead x l' parts ⟨clean, sifted⟩
    have kept := settled.kept d (parts ▸ List.mem_append_right _ List.mem_cons_self)
    have stays : removes interfaces.contains wanted d ≠ true := by simp [kept]
    exact ensures_settleActual (fun removed => absurd removed stays)
      (fun _ w found => ⟨clean, sifted.keep kept found⟩)
      (fun removed => absurd removed stays) fun removed => absurd removed stays
  case between =>
    rintro x l' ⟨clean, sifted⟩
    refine ⟨clean, fun w member known => (sifted.held _).mpr ?_⟩
    obtain ⟨d, there, own⟩ := settled.covered w member known
    exact ⟨d, there, settled.kept d there, own⟩
  case settle =>
    rintro seen w ahead x l' parts ⟨clean, held⟩
    have member : w ∈ wanted := parts ▸ List.mem_append_right _ List.mem_cons_self
    -- a rule for which none is registered is one whose interface is not known
    have unknown : x.1.rules.contains (StnRule.registryName w.interface) = false →
        interfaces.contains w.interface ≠ true := by
      intro free known
      rw [held w member known] at free
      contradiction
    have unregistered : x.1.rules.contains (StnRule.registryName w.interface) = false →
        ∀ index data, interfaces.lookup? w.interface ≠ some (index, data) :=
      fun free index data found => unknown free (Registry.contains_iff.mpr ⟨index, data, found⟩)
    exact ensures_settleWanted
      (fun free index data found => absurd found (unregistered free index data))
      (fun _ => ⟨clean, held⟩)
      (fun free index data found => absurd found (unregistered free index data))
      (fun free known => absurd known (unknown free))
      fun _ r' rules _ _ => ⟨clean, fun v among known => rules.symm ▸ held v among known⟩

/-! ### Two rounds of passes -/

/-- Whether a call puts or removes a rule. -/
def changesRules : Call → Bool
  | .stn (.add _ _) => true
  | .stn (.delete _ _) => true
  | _ => false

theorem changesRules_of_retains {c : Call} (h : c.retainsInterfaces = true) :
    changesRules c = false := by
  obtain ⟨call, rfl⟩ := Call.isInterface_of_retains h
  rfl

end StnReconciler

namespace InterfaceReconciler

variable {s : Simulation} {wanted : List Interface} {r r' : InterfaceReconciler} {t u : Trial}
variable {registry : Registry Interface} {end_ : Except InterfaceFailure Unit}

/-- Without a dataplane a pass over the interfaces does not come to its end. -/
theorem connected_of_run (result : Trial.run (reconcile wanted r) t = some ((.ok (), r'), u)) :
    r.connected = true := by
  by_contra missing
  rw [reconcile_eq, if_neg missing] at result
  exact nomatch Option.some.inj result

/-- Where no call fails, a pass over the interfaces that comes to its end has finished with them,
and no call fails afterwards. -/
theorem finished_of_run (proper : Proper False wanted) (bounded : s.links.Bounded)
    (calm : s.failing = [])
    (result : Trial.run (reconcile wanted r) { simulation := s } = some ((.ok (), r'), u)) :
    u.simulation.failing = [] ∧ Finished False wanted r'.registry u.simulation.links ∧
      r'.connected = true := by
  have ensures : Program.Ensures (Simulation.behaviour False fun _ => True)
      (reconcile wanted r) s _ :=
    Simulation.ensures_of_links
      (ensures_pass proper ⟨bounded, False.elim, connected_of_run result⟩) (Or.inl calm)
  obtain ⟨⟨failing, finished⟩, -⟩ := Trial.result_of_ensures ensures (Or.inl rfl) result
  exact ⟨failing.trans calm, finished⟩

/-- After a pass over the interfaces, the device is still the local one. -/
theorem rooted_of_run (rooted : s.links.Rooted) (calm : s.failing = [])
    (connected : r.connected = true)
    (result : Trial.run (reconcile wanted r) { simulation := s } = some ((end_, r'), u)) :
    u.simulation.links.Rooted := by
  have kept : Program.Ensures (Links.behaviour False Call.IsInterface) (reconcile wanted r)
      s.links _ :=
    Program.Ensures.keeps (I := Links.Rooted) (ensures_grounded connected) rooted
      fun _ _ _ _ expected given h => h.answered expected.2 given
  obtain ⟨⟨-, -, rooted'⟩, -⟩ := Trial.result_of_ensures
    (Simulation.ensures_of_links kept (Or.inl calm)) (Or.inl rfl) result
  exact rooted'

/-- A pass over the interfaces after one that came to its end leaves the rules as they are, and a
dump shows them as before. -/
theorem exists_retaining_run (proper : Proper False wanted)
    (finished : Finished False wanted registry s.links) (rooted : s.links.Rooted)
    (calm : s.failing = []) (connected : r.connected = true) :
    ∃ r' u, Trial.run (reconcile wanted r) { simulation := s } = some ((.ok (), r'), u) ∧
      u.simulation.failing = [] ∧
      Finished False wanted r'.registry u.simulation.links ∧ u.simulation.links.Rooted ∧
      u.simulation.links.rules = s.links.rules ∧ u.simulation.links.shown = s.links.shown ∧
      ∀ c ∈ u.calls, c.retainsInterfaces = true := by
  -- what a dump shows is a matter of the tags, which the pass leaves as they are
  have retaining : Pass.Ensures (Links.behaviour False fun c => c.retainsInterfaces = true)
      (reconcile wanted) r s.links
      (fun _ r' l' => (∀ j, l'.tagAt? j = s.links.tagAt? j) ∧ r'.connected = true)
      (fun _ _ _ => False) :=
    ensures_labelled proper finished.labelled connected rfl rfl (fun _ _ => rfl)
      fun _ _ _ _ _ _ _ _ _ => rfl
  have whole := (retaining.keeps (I := fun l' => l'.rules = s.links.rules) rfl
    fun l c answer l' expected given kept =>
      (Links.rules_of_retains expected.2 given).trans kept).mono (fun _ _ _ => id)
    fun _ _ _ unreached => unreached.1
  obtain ⟨⟨⟩, r', u, result, ⟨⟨tags, -⟩, rules⟩, retains⟩ :=
    Trial.exists_run_of_links whole calm fun _ => Bool.noConfusion
  obtain ⟨calm', finished', -⟩ :=
    finished_of_run proper finished.progress.underway.bounded calm result
  exact ⟨r', u, result, calm', finished', rooted_of_run rooted calm connected result, rules,
    Links.shown_congr tags, retains⟩

end InterfaceReconciler

namespace StnReconciler

/-- Without a dataplane a pass over the rules does not come to its end. -/
theorem connected_of_run {μ : Type} {interfaces : Registry μ} {wanted : List StnRule}
    {r r' : StnReconciler} {t u : Trial}
    (result : Trial.run (reconcile interfaces wanted r) t = some ((.ok (), r'), u)) :
    r.connected = true := by
  by_contra missing
  rw [reconcile_eq, if_neg missing] at result
  exact nomatch Option.some.inj result

/-- Where no call fails, a pass over the rules that comes to its end leaves them settled, and
everything else as it was. -/
theorem settled_of_run {μ : Type} {interfaces : Registry μ} {wanted : List StnRule}
    {r r' : StnReconciler} {s : Simulation} {u : Trial}
    (tagged : ∀ w ∈ wanted, ∀ index data, interfaces.lookup? w.interface = some (index, data) →
      s.links.tagAt? index = some w.interface)
    (spelled : ∀ w ∈ wanted, (IpAddress.ofText? w.address).isSome = true)
    (apart : Apart interfaces.contains wanted (s.links.rules.map s.links.shown))
    (calm : s.failing = [])
    (result : Trial.run (reconcile interfaces wanted r) { simulation := s } =
      some ((.ok (), r'), u)) :
    u.simulation.failing = [] ∧ Settled interfaces.contains wanted u.simulation.links ∧
      (∃ rules, u.simulation.links = { s.links with rules := rules }) ∧ r'.connected = true := by
  have ensures : Program.Ensures (Simulation.behaviour False fun _ => True)
      (reconcile interfaces wanted r) s _ :=
    Simulation.ensures_of_links
      (ensures_settled (connected_of_run result) tagged spelled apart) (Or.inl calm)
  obtain ⟨⟨failing, settled⟩, -⟩ := Trial.result_of_ensures ensures (Or.inl rfl) result
  exact ⟨failing.trans calm, settled⟩

/-- Over rules that are settled, a pass comes to its end and changes none. -/
theorem exists_still_run {μ : Type} {interfaces : Registry μ} {wanted : List StnRule}
    {r : StnReconciler} {s : Simulation} (settled : Settled interfaces.contains wanted s.links)
    (calm : s.failing = []) (connected : r.connected = true) :
    ∃ r' u, Trial.run (reconcile interfaces wanted r) { simulation := s } =
        some ((.ok (), r'), u) ∧ ∀ c ∈ u.calls, changesRules c = false := by
  obtain ⟨⟨⟩, r', u, result, -, still⟩ :=
    Trial.exists_run_of_links (ensures_still settled connected) calm fun _ => nofun
  exact ⟨r', u, result, fun c made => still c made ▸ rfl⟩

/-- A pass over the interfaces and one over the rules have come to their ends, and no rule that the
second one removed came after one of its address and its index that it kept.  Then both passes once
more, be it by the same reconcilers or by others, come to their ends as well, and put and remove no
rule. -/
theorem rules_stay {snapshot : Snapshot} {s : Simulation} {desired : List Interface}
    {wanted : List StnRule} {r r₁ : InterfaceReconciler} {q q₁ : StnReconciler} {t₁ t₂ : Trial}
    (start : Simulation.ofSnapshot? snapshot = some s)
    (device : ∀ d, s.links.interfaces.get? 0 = some d → d.internalName = localName)
    (accepted : Accepted desired)
    (spelled : ∀ w ∈ wanted, (IpAddress.ofText? w.address).isSome = true)
    (elsewhere : ∀ w ∈ wanted, w.interface ≠ localName)
    (first : Trial.run (InterfaceReconciler.reconcile desired r) { simulation := s } =
      some ((.ok (), r₁), t₁))
    (second : Trial.run (reconcile r₁.registry wanted q) { simulation := t₁.simulation } =
      some ((.ok (), q₁), t₂))
    (apart : Apart r₁.registry.contains wanted
      (t₁.simulation.links.rules.map t₁.simulation.links.shown)) :
    r₁.connected = true ∧ q₁.connected = true ∧
      ∀ (r' : InterfaceReconciler) (q' : StnReconciler), r'.connected = true →
      q'.connected = true → ∃ r₂ t₃ q₂ t₄,
        Trial.run (InterfaceReconciler.reconcile desired r') { simulation := t₂.simulation } =
          some ((.ok (), r₂), t₃) ∧
        Trial.run (reconcile r₂.registry wanted q') { simulation := t₃.simulation } =
          some ((.ok (), q₂), t₄) ∧
        ∀ c ∈ t₃.calls ++ t₄.calls, changesRules c = false := by
  obtain ⟨-, bounded, calm⟩ := Simulation.ofSnapshot?_eq_some start
  have proper : Proper False desired := Proper.of_accepted accepted False.elim
  have connected := InterfaceReconciler.connected_of_run first
  -- the first round: the interfaces get their tags, by which the rules are settled then
  obtain ⟨calm₁, finished, connected₁⟩ :=
    InterfaceReconciler.finished_of_run proper bounded calm first
  have rooted : t₁.simulation.links.Rooted :=
    InterfaceReconciler.rooted_of_run ⟨device, bounded.positive⟩ calm connected first
  obtain ⟨calm₂, settled, ⟨rules, frame⟩, connected₂⟩ := settled_of_run
    (fun w member index data found =>
      (finished.tagAt?_of_lookup rooted (elsewhere w member) found).2)
    spelled apart calm₁ second
  refine ⟨connected₁, connected₂, fun r' q' connected₃ connected₄ => ?_⟩
  -- the second round: the interfaces keep their tags, so the rules are shown as they were
  have finished₂ : Finished False desired r₁.registry t₂.simulation.links := by
    rw [frame]
    exact finished.with_rules rules
  have rooted₂ : t₂.simulation.links.Rooted := by
    rw [frame]
    exact ⟨rooted.device, rooted.positive⟩
  obtain ⟨r₂, t₃, third, calm₃, finished₃, rooted₃, rules₃, shown₃, retains⟩ :=
    InterfaceReconciler.exists_retaining_run proper finished₂ rooted₂ calm₂ connected₃
  -- both registries know the same of the interfaces that rules are wanted on
  have agree : ∀ w ∈ wanted,
      r₁.registry.contains w.interface = r₂.registry.contains w.interface := by
    intro w member
    rw [Bool.eq_iff_iff, finished₂.contains_iff rooted₂ (elsewhere w member),
      finished₃.contains_iff rooted₃ (elsewhere w member)]
  obtain ⟨q₂, t₄, fourth, still⟩ := exists_still_run
    (settled.congr agree (by rw [rules₃, shown₃])) calm₃ connected₄
  refine ⟨r₂, t₃, q₂, t₄, third, fourth, fun c made => ?_⟩
  rcases List.mem_append.mp made with before | after
  · exact changesRules_of_retains (retains c before)
  · exact still c after

/-- A dataplane with two rules on one interface, and two of one address and one index at which there
is no interface. -/
def quaySnapshot : Snapshot where
  interfaces :=
    [{ interface := { name := "uplink" }, internalName := "loop1", index := 1 },
      { interface := { name := "spare" }, internalName := "loop2", index := 2 }]
  rules :=
    [{ address := "2001:DB8::1", interface := "uplink", index := 1 },
      { address := "10.0.0.9", interface := "uplink", index := 1 },
      { address := "10.0.0.2", interface := "old", index := 7 },
      { address := "10.0.0.2", interface := "lan", index := 7 }]

/-- A rule that is there in another spelling, two more on its interface and on one that is not there
yet, and one that has to wait. -/
def quayRules : List StnRule :=
  [{ name := "gate", address := "2001:db8::1", interface := "uplink" },
    { name := "door", address := "10.0.0.3", interface := "uplink" },
    { name := "desk", address := "10.0.0.2", interface := "lan" },
    { name := "later", address := "10.0.0.4", interface := "wan" }]

/-- A second round of passes leaves the rules of that dataplane alone. -/
theorem rules_stay_quay :
    ∃ s r₁ t₁ q₁ t₂ r₂ t₃ q₂ t₄, Simulation.ofSnapshot? quaySnapshot = some s ∧
      Trial.run (InterfaceReconciler.reconcile [{ name := "uplink" }, { name := "lan" }] {})
        { simulation := s } = some ((.ok (), r₁), t₁) ∧
      Trial.run (reconcile r₁.registry quayRules {}) { simulation := t₁.simulation } =
        some ((.ok (), q₁), t₂) ∧
      Trial.run (InterfaceReconciler.reconcile [{ name := "uplink" }, { name := "lan" }] r₁)
        { simulation := t₂.simulation } = some ((.ok (), r₂), t₃) ∧
      Trial.run (reconcile r₂.registry quayRules q₁) { simulation := t₃.simulation } =
        some ((.ok (), q₂), t₄) ∧
      ∀ c ∈ t₃.calls ++ t₄.calls, changesRules c = false := by
  have goes : Trial.succeedsOn quaySnapshot
      (InterfaceReconciler.reconcile [{ name := "uplink" }, { name := "lan" }] {})
      (fun s r₁ t₁ => (s.links.interfaces.get? 0).all (·.internalName == localName) &&
        decide (Apart r₁.registry.contains quayRules
          (t₁.simulation.links.rules.map t₁.simulation.links.shown)) &&
        Trial.succeeds (reconcile r₁.registry quayRules {})
          { simulation := t₁.simulation }) = true := by
    decide +kernel
  obtain ⟨s, ⟨⟩, r₁, t₁, start, first, goes⟩ := Trial.exists_of_succeedsOn goes
  obtain ⟨checks, goes⟩ := (Bool.and_eq_true _ _).mp goes
  obtain ⟨device, apart⟩ := (Bool.and_eq_true _ _).mp checks
  obtain ⟨⟨⟩, q₁, t₂, second⟩ := Trial.exists_of_succeeds goes
  have accepted : Accepted [{ name := "uplink" }, { name := "lan" }] := by
    simp [Accepted, Configuration.validate_eq_ok_iff]
  obtain ⟨connected, connected', again⟩ := rules_stay start
    (fun d found => eq_of_beq ((Option.all_eq_true _ _).mp device d found))
    accepted (by decide +kernel) (by decide) first second (of_decide_eq_true apart)
  obtain ⟨r₂, t₃, q₂, t₄, third, fourth, still⟩ := again r₁ q₁ connected connected'
  exact ⟨s, r₁, t₁, q₁, t₂, r₂, t₃, q₂, t₄, start, first, second, third, fourth, still⟩

/-- A dataplane with two rules of one address and one index at which there is no interface. -/
def wharfSnapshot : Snapshot where
  rules :=
    [{ address := "10.0.0.1", interface := "lan", index := 7 },
      { address := "10.0.0.1", interface := "old", index := 7 }]

/-- The one rule that is wanted there. -/
def wharfRule : StnRule := { name := "gate", address := "10.0.0.1", interface := "lan" }

/-- Of two rules of one address and one index the first is kept and the second is removed, but what
goes is the first.  So the next pass over the rules removes the one that is left, and adds the
wanted one. -/
theorem rules_shift :
    ∃ s r₁ t₁ q₁ t₂ r₂ t₃ q₂ t₄, Simulation.ofSnapshot? wharfSnapshot = some s ∧
      (∀ d, s.links.interfaces.get? 0 = some d → d.internalName = localName) ∧
      Accepted [{ name := "lan" }] ∧ (IpAddress.ofText? wharfRule.address).isSome = true ∧
      wharfRule.interface ≠ localName ∧
      Trial.run (InterfaceReconciler.reconcile [{ name := "lan" }] {}) { simulation := s } =
        some ((.ok (), r₁), t₁) ∧
      Trial.run (reconcile r₁.registry [wharfRule] {}) { simulation := t₁.simulation } =
        some ((.ok (), q₁), t₂) ∧
      Trial.run (InterfaceReconciler.reconcile [{ name := "lan" }] r₁)
        { simulation := t₂.simulation } = some ((.ok (), r₂), t₃) ∧
      Trial.run (reconcile r₂.registry [wharfRule] q₁) { simulation := t₃.simulation } =
        some ((.ok (), q₂), t₄) ∧
      removals t₄.deeds = [("10.0.0.1", 7)] ∧ t₄.calls.countP changesRules = 2 := by
  have goes : Trial.succeedsOn wharfSnapshot
      (InterfaceReconciler.reconcile [{ name := "lan" }] {}) (fun s r₁ t₁ =>
        (s.links.interfaces.get? 0).all (·.internalName == localName) &&
        Trial.succeedsWith (reconcile r₁.registry [wharfRule] {})
          { simulation := t₁.simulation } fun q₁ t₂ =>
        Trial.succeedsWith (InterfaceReconciler.reconcile [{ name := "lan" }] r₁)
          { simulation := t₂.simulation } fun r₂ t₃ =>
        Trial.succeedsWith (reconcile r₂.registry [wharfRule] q₁)
          { simulation := t₃.simulation } fun _ t₄ =>
        decide (removals t₄.deeds = [("10.0.0.1", 7)] ∧ t₄.calls.countP changesRules = 2)) =
      true := by
    decide +kernel
  obtain ⟨s, ⟨⟩, r₁, t₁, start, first, goes⟩ := Trial.exists_of_succeedsOn goes
  obtain ⟨device, goes⟩ := (Bool.and_eq_true _ _).mp goes
  obtain ⟨⟨⟩, q₁, t₂, second, goes⟩ := Trial.exists_of_succeedsWith goes
  obtain ⟨⟨⟩, r₂, t₃, third, goes⟩ := Trial.exists_of_succeedsWith goes
  obtain ⟨⟨⟩, q₂, t₄, fourth, goes⟩ := Trial.exists_of_succeedsWith goes
  obtain ⟨removed, changed⟩ := of_decide_eq_true goes
  have accepted : Accepted [{ name := "lan" }] := by
    simp [Accepted, Configuration.validate_eq_ok_iff]
  exact ⟨s, r₁, t₁, q₁, t₂, r₂, t₃, q₂, t₄, start,
    fun d found => eq_of_beq ((Option.all_eq_true _ _).mp device d found), accepted,
    by decide +kernel, by decide, first, second, third, fourth, removed, changed⟩

end StnReconciler

end DataplaneSync
