import DataplaneSync.Proofs.RegistryNumbering

namespace DataplaneSync

/-!
# Registries stay bijections

However often reconcilers are told to do something, and whatever they are answered, names and
indexes stand for each other in all their registries, as long as no counter wraps around.  One pass
may reset a counter and another one go on with it, and passes may end early; so it is counted how
many indexes have been drawn since the last reset.

* `Errand` — what reconcilers can be told to do.
* `Errand.count` — how many indexes have been drawn after it.
* `Reconcilers.Sound.errand` — what one errand preserves.
* `Reached.registries_bijective` — what all registries are after any errands.
* `Reached.of_runAll` — what is reached on the simulated dataplane.
-/

/-! ### Errands -/

/-- The reconcilers that draw indexes. -/
structure Reconcilers where
  detection : BfdReconciler := {}
  rules : StnReconciler := {}
  nat : NatReconciler := {}

/-- How many indexes have been drawn from each of their counters since it was last reset. -/
structure Drawn where
  detection : Nat := 0
  rules : Nat := 0
  nat : Nat := 0

/-- No counter has run out of indexes. -/
structure Drawn.Fits (n : Drawn) : Prop where
  detection : n.detection < UInt32.size
  rules : n.rules < UInt32.size
  nat : n.nat < UInt32.size

instance (n : Drawn) : Decidable n.Fits :=
  decidable_of_iff (n.detection < UInt32.size ∧ n.rules < UInt32.size ∧ n.nat < UInt32.size)
    ⟨fun ⟨h₁, h₂, h₃⟩ => ⟨h₁, h₂, h₃⟩, fun ⟨h₁, h₂, h₃⟩ => ⟨h₁, h₂, h₃⟩⟩

/-- What one of the reconcilers can be told to do. -/
inductive Errand where
  | sessions (wanted : List BfdSession)
  | keys (wanted : List BfdKey)
  | echo (wanted : List BfdEcho)
  | rules (interfaces : Registry Interface) (wanted : List StnRule)
  | global (wanted : NatGlobal)
  | destinations (wanted : List DestinationNat)
  | configure (wanted : DestinationNat)

namespace Errand

/-- Run a pass and store the reconciler at its end, whether it fails or not. -/
def storing {α σ : Type} (p : Program (α × σ)) (store : σ → Reconcilers) : Program Reconcilers := do
  let (_, t) ← p
  pure (store t)

/-- What the reconcilers are after an errand. -/
def perform (r : Reconcilers) : Errand → Program Reconcilers
  | sessions wanted =>
    storing (BfdReconciler.reconcileSessions wanted r.detection) fun t => { r with detection := t }
  | keys wanted =>
    storing (BfdReconciler.reconcileKeys wanted r.detection) fun t => { r with detection := t }
  | echo wanted =>
    storing (BfdReconciler.reconcileEcho wanted r.detection) fun t => { r with detection := t }
  | rules interfaces wanted =>
    storing (StnReconciler.reconcile interfaces wanted r.rules) fun t => { r with rules := t }
  | global wanted =>
    storing (NatReconciler.reconcileGlobal wanted r.nat) fun t => { r with nat := t }
  | destinations wanted =>
    storing (NatReconciler.reconcileDestinations wanted r.nat) fun t => { r with nat := t }
  | configure wanted =>
    storing (NatReconciler.configure wanted r.nat) fun t => { r with nat := t }

/-- How many indexes are drawn for wanted objects that are in the dump, if that comes first. -/
def kept : Errand → List Exchange → Nat
  | sessions wanted, ⟨.bfd .dumpSessions, .ok dump⟩ :: _ =>
    BfdReconciler.sessionObjects.countKept wanted dump
  | keys wanted, ⟨.bfd .dumpKeys, .ok dump⟩ :: _ =>
    BfdReconciler.keyObjects.countKept wanted dump
  | rules interfaces wanted, ⟨.stn .dump, .ok dump⟩ :: _ =>
    dump.countP (StnReconciler.keeps interfaces wanted)
  | destinations wanted, ⟨.nat .dumpDestinations, .ok dump⟩ :: _ =>
    (wanted.map (NatReconciler.countFound dump)).sum
  | _, _ => 0

/-- How many indexes have been drawn after an errand, from those drawn before it and from its
exchanges.  Without a dataplane an errand does nothing.  Most reset a counter, and draw an index
for each wanted object that they find or create; a group to configure comes on top of what was drawn
before. -/
def count (errand : Errand) (r : Reconcilers) (xs : List Exchange) (n : Drawn) : Drawn :=
  match errand with
  | sessions _ | keys _ =>
    if r.detection.connected then { n with detection := errand.kept xs + creationCount xs } else n
  | rules _ _ =>
    if r.rules.connected then { n with rules := errand.kept xs + creationCount xs } else n
  | destinations _ =>
    if r.nat.connected then { n with nat := errand.kept xs + creationCount xs } else n
  | configure _ => if r.nat.connected then { n with nat := n.nat + creationCount xs + 1 } else n
  | echo _ | global _ => n

theorem of_trace_storing {α σ : Type} {p : Program (α × σ)} {store : σ → Reconcilers}
    {ds : List Deed} {r : Reconcilers} (trace : Program.Trace (storing p store) ds r) :
    ∃ end_ t, Program.Trace p ds (end_, t) ∧ r = store t := by
  obtain ⟨⟨end_, t⟩, ds₁, ds₂, rfl, went, rest⟩ := Program.trace_bind.mp trace
  cases rest
  exact ⟨end_, t, (List.append_nil ds₁).symm ▸ went, rfl⟩

/-- What a pass draws that first reads the dataplane: nothing if it may not, and otherwise as many
indexes as it keeps objects, besides those that it creates. -/
theorem of_kept (errand : Errand) {c : Call} (P : Nat → Prop) {keeps : c.Reply → Nat}
    {xs : List Exchange}
    (drawn : (∃ reason, xs = [⟨c, .error reason⟩] ∧ P 0) ∨
      ∃ reply ys, xs = ⟨c, .ok reply⟩ :: ys ∧ P (keeps reply + creationCount ys))
    (reads : c.operation.kind ≠ .create)
    (refused : ∀ reason, errand.kept [⟨c, .error reason⟩] = 0)
    (granted : ∀ reply ys, errand.kept (⟨c, .ok reply⟩ :: ys) = keeps reply) :
    P (errand.kept xs + creationCount xs) := by
  rcases drawn with ⟨reason, rfl, now⟩ | ⟨reply, ys, rfl, now⟩
  · rwa [refused, creationCount_of_kind _ reads]
  · rwa [granted, ← List.singleton_append, creationCount_append, creationCount_of_kind _ reads,
      Nat.zero_add]

end Errand

/-- Reconcilers that knew nothing have been sent on some errands, on dataplanes that answer as they
like.  Each counter has always had indexes left. -/
inductive Reached : Reconcilers → Drawn → Prop where
  | start (detection rules nat : Bool) : Reached
    { detection := { connected := detection }, rules := { connected := rules },
      nat := { connected := nat } } {}
  | next {r t : Reconcilers} {n : Drawn} {errand : Errand} {ds : List Deed} : Reached r n →
    Program.Trace (errand.perform r) ds t → (errand.count r (exchanges ds) n).Fits →
    Reached t (errand.count r (exchanges ds) n)

/-! ### What an errand preserves -/

/-- As many indexes have been drawn, and all registries are in order. -/
structure Reconcilers.Sound (n : Drawn) (r : Reconcilers) : Prop where
  detection : r.detection.Sound n.detection
  rules : r.rules.Numbering n.rules
  nat : r.nat.Numbering n.nat

namespace Reconcilers.Sound

variable {n : Drawn} {r : Reconcilers} {ds : List Deed}

theorem of_sessions {wanted : List BfdSession} {t : BfdReconciler} {end_ : Except BfdFailure Unit}
    (h : r.Sound n)
    (trace : Program.Trace (BfdReconciler.reconcileSessions wanted r.detection) ds (end_, t))
    (fits : (Errand.count (.sessions wanted) r (exchanges ds) n).Fits) :
    Sound (Errand.count (.sessions wanted) r (exchanges ds) n) { r with detection := t } := by
  unfold Errand.count at fits ⊢
  cases connected : r.detection.connected with
  | false =>
    obtain ⟨-, rfl⟩ := BfdReconciler.of_trace_disconnected connected trace
    exact h
  | true =>
    simp only [connected, if_true] at fits ⊢
    -- keys and echo source may have indexes of their own, from before the reset
    have drawn := BfdObjects.numbered_of_trace BfdReconciler.regular_sessionObjects
      BfdReconciler.minds_sessionObjects connected ⟨h.detection.keys, h.detection.echo⟩ trace
    have now := Errand.of_kept (.sessions wanted) (BfdReconciler.sessionObjects.Numbering _ · t)
      drawn nofun (fun _ => rfl) fun _ _ => rfl
    exact ⟨BfdReconciler.sound_of_sessions (Nat.le_of_lt fits.detection) now, h.rules, h.nat⟩

theorem of_keys {wanted : List BfdKey} {t : BfdReconciler} {end_ : Except BfdFailure Unit}
    (h : r.Sound n)
    (trace : Program.Trace (BfdReconciler.reconcileKeys wanted r.detection) ds (end_, t))
    (fits : (Errand.count (.keys wanted) r (exchanges ds) n).Fits) :
    Sound (Errand.count (.keys wanted) r (exchanges ds) n) { r with detection := t } := by
  unfold Errand.count at fits ⊢
  cases connected : r.detection.connected with
  | false =>
    obtain ⟨-, rfl⟩ := BfdReconciler.of_trace_disconnected connected trace
    exact h
  | true =>
    simp only [connected, if_true] at fits ⊢
    have drawn := BfdObjects.numbered_of_trace BfdReconciler.regular_keyObjects
      BfdReconciler.minds_keyObjects connected ⟨h.detection.sessions, h.detection.echo⟩ trace
    have now := Errand.of_kept (.keys wanted) (BfdReconciler.keyObjects.Numbering _ · t) drawn
      nofun (fun _ => rfl) fun _ _ => rfl
    exact ⟨BfdReconciler.sound_of_keys (Nat.le_of_lt fits.detection) now, h.rules, h.nat⟩

theorem of_rules {interfaces : Registry Interface} {wanted : List StnRule} {t : StnReconciler}
    {end_ : Except StnFailure Unit} (h : r.Sound n)
    (trace : Program.Trace (StnReconciler.reconcile interfaces wanted r.rules) ds (end_, t)) :
    Sound (Errand.count (.rules interfaces wanted) r (exchanges ds) n) { r with rules := t } := by
  unfold Errand.count
  cases connected : r.rules.connected with
  | false =>
    rw [StnReconciler.reconcile_eq, if_neg (by simp [connected])] at trace
    cases trace
    exact h
  | true =>
    have drawn := StnReconciler.numbered_of_trace connected trace
    have now := Errand.of_kept (.rules interfaces wanted) (StnReconciler.Numbering · t) drawn
      nofun (fun _ => rfl) fun _ _ => rfl
    exact ⟨h.detection, now, h.nat⟩

theorem of_destinations {wanted : List DestinationNat} {t : NatReconciler}
    {end_ : Except NatFailure Unit} (h : r.Sound n)
    (trace : Program.Trace (NatReconciler.reconcileDestinations wanted r.nat) ds (end_, t)) :
    Sound (Errand.count (.destinations wanted) r (exchanges ds) n) { r with nat := t } := by
  unfold Errand.count
  cases connected : r.nat.connected with
  | false =>
    obtain ⟨-, rfl⟩ := NatReconciler.of_trace_disconnected connected trace
    exact h
  | true =>
    have drawn := NatReconciler.numbered_of_trace connected trace
    have now := Errand.of_kept (.destinations wanted) (NatReconciler.Numbering · t) drawn
      nofun (fun _ => rfl) fun _ _ => rfl
    exact ⟨h.detection, h.rules, now⟩

theorem of_configure {wanted : DestinationNat} {t : NatReconciler} {end_ : Except NatFailure Unit}
    (h : r.Sound n) (trace : Program.Trace (NatReconciler.configure wanted r.nat) ds (end_, t)) :
    Sound (Errand.count (.configure wanted) r (exchanges ds) n) { r with nat := t } := by
  unfold Errand.count
  cases connected : r.nat.connected with
  | false =>
    obtain ⟨-, rfl⟩ := NatReconciler.of_trace_disconnected connected trace
    exact h
  | true => exact ⟨h.detection, h.rules, NatReconciler.numbering_of_configure connected h.nat trace⟩

/-- No errand spoils a registry while its counter has indexes left. -/
theorem errand {errand : Errand} {t : Reconcilers} (h : r.Sound n)
    (trace : Program.Trace (errand.perform r) ds t)
    (fits : (errand.count r (exchanges ds) n).Fits) :
    t.Sound (errand.count r (exchanges ds) n) := by
  unfold Errand.perform at trace
  cases errand with
  | sessions wanted =>
    obtain ⟨_, t, went, rfl⟩ := Errand.of_trace_storing trace
    exact h.of_sessions went fits
  | keys wanted =>
    obtain ⟨_, t, went, rfl⟩ := Errand.of_trace_storing trace
    exact h.of_keys went fits
  | echo wanted =>
    obtain ⟨_, t, went, rfl⟩ := Errand.of_trace_storing trace
    exact ⟨BfdReconciler.sound_of_echo h.detection went, h.rules, h.nat⟩
  | rules interfaces wanted =>
    obtain ⟨_, t, went, rfl⟩ := Errand.of_trace_storing trace
    exact h.of_rules went
  | global wanted =>
    obtain ⟨_, t, went, rfl⟩ := Errand.of_trace_storing trace
    exact ⟨h.detection, h.rules, NatReconciler.numbering_of_global h.nat went⟩
  | destinations wanted =>
    obtain ⟨_, t, went, rfl⟩ := Errand.of_trace_storing trace
    exact h.of_destinations went
  | configure wanted =>
    obtain ⟨_, t, went, rfl⟩ := Errand.of_trace_storing trace
    exact h.of_configure went

end Reconcilers.Sound

/-! ### After any errands -/

/-- In each registry names and indexes stand for each other, and those of NAT share no index. -/
structure Reconcilers.Bijective (r : Reconcilers) : Prop where
  sessions : r.detection.sessions.Bijective
  keys : r.detection.keys.Bijective
  echo : r.detection.echo.Bijective
  rules : r.rules.rules.Bijective
  statics : r.nat.statics.Bijective
  identities : r.nat.identities.Bijective
  labels : r.nat.labels.Bijective
  statics_identities : r.nat.statics.Apart r.nat.identities
  statics_labels : r.nat.statics.Apart r.nat.labels
  identities_labels : r.nat.identities.Apart r.nat.labels

/-- Each counter has drawn as many indexes. -/
structure Reconcilers.Drew (n : Drawn) (r : Reconcilers) : Prop where
  detection : r.detection.counter.Drew n.detection
  rules : r.rules.counter.Drew n.rules
  nat : r.nat.counter.Drew n.nat

namespace Reached

variable {n : Drawn} {r : Reconcilers}

theorem fits (h : Reached r n) : n.Fits := by
  cases h with
  | start detection rules nat => decide
  | next _ _ fits => exact fits

/-- Reconcilers that know nothing are sound, and no errand changes that. -/
theorem sound (h : Reached r n) : r.Sound n := by
  induction h with
  | start detection rules nat =>
    -- with nothing registered, no index is below 0 or in two registries
    have none_ : NatReconciler.Numbered 0 { connected := nat } :=
      ⟨Registry.numbered_empty 0, Registry.numbered_empty 0, Registry.numbered_empty 0,
        Registry.apart_empty, Registry.apart_empty, Registry.apart_empty⟩
    refine ⟨?_, ?_, ?_⟩
    · exact ⟨Registry.faithful_empty, Registry.faithful_empty, Registry.faithful_empty,
        IndexCounter.drew_start⟩
    · exact ⟨IndexCounter.drew_start, fun _ => Registry.numbered_empty 0⟩
    · exact ⟨IndexCounter.drew_start, fun _ => none_⟩
  | next _ trace fits sound => exact sound.errand trace fits

/-- After any errands, whatever was answered and whatever failed, all registries are bijections, as
long as fewer indexes have been drawn from each counter since its last reset than there are. -/
theorem registries_bijective (h : Reached r n) : r.Bijective ∧ r.Drew n := by
  obtain ⟨detection, rules, nat⟩ := h.sound
  have fits := h.fits
  -- within the bound, the registries are numbered and not only counted
  have numbered := nat.registries (Nat.le_of_lt fits.nat)
  refine ⟨?_, detection.counter, rules.counter, nat.counter⟩
  constructor
  · exact detection.sessions.bijective
  · exact detection.keys.bijective
  · exact detection.echo.bijective
  · exact (rules.registry (Nat.le_of_lt fits.rules)).faithful.bijective
  · exact numbered.statics.faithful.bijective
  · exact numbered.identities.faithful.bijective
  · exact numbered.labels.faithful.bijective
  · exact numbered.statics_identities
  · exact numbered.statics_labels
  · exact numbered.identities_labels

end Reached

/-- Send reconcilers on errands in a trial, as long as no counter runs out of indexes. -/
def Errand.runAll : List Errand → Reconcilers → Drawn → Trial → Option (Reconcilers × Drawn)
  | [], r, n, _ => some (r, n)
  | errand :: later, r, n, t => do
    let (r', t') ← Trial.run (errand.perform r) { t with deeds := [] }
    let m := errand.count r (exchanges t'.deeds) n
    if m.Fits then runAll later r' m t' else none

/-- What is reached in a trial is reached. -/
theorem Reached.of_runAll {errands : List Errand} {r s : Reconcilers} {n m : Drawn} {t : Trial}
    (h : Reached r n) (result : Errand.runAll errands r n t = some (s, m)) : Reached s m := by
  induction errands generalizing r n t with
  | nil =>
    obtain ⟨rfl, rfl⟩ := Prod.mk.inj (Option.some.inj result)
    exact h
  | cons errand later ih =>
    rw [Errand.runAll, Option.bind_eq_bind, Option.bind_eq_some_iff] at result
    obtain ⟨⟨r', t'⟩, run, rest⟩ := result
    obtain ⟨ds, deeds, trace⟩ := Trial.trace_of_run run
    obtain rfl : t'.deeds = ds := deeds
    dsimp only at rest
    split at rest
    · next fits => exact ih (h.next trace fits) rest
    · contradiction

/-- A group that the dataplane has in part, one that is new and shares its mappings, a session that
the dataplane has, and no keys. -/
def harbourErrands : List Errand :=
  let http : StaticMapping :=
    { externalAddress := "192.0.2.1", externalPort := 80
      locals := [{ address := "10.0.0.1", port := 8080 }] }
  let https : StaticMapping :=
    { externalAddress := "192.0.2.1", externalPort := 443
      locals := [{ address := "10.0.0.1", port := 8443 }] }
  [.destinations
    [{ label := "web", statics := [http, https]
       identities := [{ address := "192.0.2.1", port := 22 }] }],
   .configure { label := "mirror", statics := [http, https] },
   .sessions [{ interface := "tap0", source := "10.0.0.1", destination := "10.0.0.2" }],
   .keys []]

/-- The dataplane of these errands refuses the second mapping at first, and does not let the keys be
read. -/
def harbourTrial : Option Trial := do
  let s ← Simulation.ofSnapshot?
    { destinations :=
        [{ label := "web"
           statics :=
             [{ externalAddress := "192.0.2.1", externalPort := 80
                locals := [{ address := "10.0.0.1", port := 8080 }] }] }]
      sessions := [{ interface := "tap0", source := "10.0.0.1", destination := "10.0.0.2" }] }
  pure { simulation := s
         refusals := [none, some "busy", none, none, none, some "down"] }

/-- Two passes draw five indexes, for three mappings and two groups.  The session keeps its index
while the counter has been reset for the keys. -/
theorem registries_bijective_harbour :
    ∃ r n, Reached r n ∧ n.nat = 5 ∧ n.detection = 0 ∧
      r.nat.labels.toList.map (fun x => (x.1, x.2.1)) = [("web", 2), ("mirror", 4)] ∧
      r.detection.sessions.size = 1 ∧ r.Bijective := by
  have runs : (harbourTrial.bind (Errand.runAll harbourErrands {} {})).any (fun (r, n) =>
      decide (n.nat = 5 ∧ n.detection = 0 ∧
        r.nat.labels.toList.map (fun x => (x.1, x.2.1)) = [("web", 2), ("mirror", 4)] ∧
        r.detection.sessions.size = 1)) = true := by decide +kernel
  obtain ⟨⟨r, n⟩, result, seen⟩ := (Option.any_eq_true _ _).mp runs
  obtain ⟨t, -, run⟩ := Option.bind_eq_some_iff.mp result
  have reached : Reached r n := Reached.of_runAll (.start true true true) run
  obtain ⟨nat, detection, labels, sessions⟩ := of_decide_eq_true seen
  exact ⟨r, n, reached, nat, detection, labels, sessions, reached.registries_bijective.1⟩

end DataplaneSync
