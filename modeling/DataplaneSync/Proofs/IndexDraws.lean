import DataplaneSync.Proofs.Audited
import DataplaneSync.Proofs.Lookup
import Mathlib.Algebra.GroupWithZero.Nat

namespace DataplaneSync

/-!
# Drawing indexes

Registries whose indexes come from a counter, and how many indexes are drawn from it.

* `Registry.Bijective` — names and indexes stand for each other, in all that a registry answers.
* `Registry.Numbered` — a faithful registry with indexes below a number; that number is free.
* `Registry.Apart` — registries that share no index.
* `creationCount` — how many creations a dataplane has granted.
* `Discipline.drawing` — an index is drawn for each creation that is granted.
* `Sweep.Draws` — as many, and some more whatever is answered.
-/

/-! ### Registries -/

namespace Registry

variable {μ ν : Type} {r : Registry μ} {s : Registry ν} {n : Nat} {name : String}
variable {index j : UInt32}

/-- Names and indexes stand for each other, whichever way they are asked for, and the listing shows
each name once. -/
structure Bijective (r : Registry μ) : Prop where
  distinct : ∀ {name other index data data'}, r.lookup? name = some (index, data) →
    r.lookup? other = some (index, data') → name = other
  inverse : ∀ name index data,
    r.nameAt? index = some (name, data) ↔ r.lookup? name = some (index, data)
  listed : ∀ name index data,
    (name, index, data) ∈ r.toList ↔ r.lookup? name = some (index, data)
  once : (r.toList.map Prod.fst).Nodup

theorem Faithful.bijective (h : r.Faithful) : r.Bijective where
  distinct {name other index data data'} found found' := by
    have shown := (h name index).mpr ⟨data, found⟩
    have shown' := (h other index).mpr ⟨data', found'⟩
    exact Option.some.inj (shown.symm.trans shown')
  inverse _ _ _ := h.nameAt?_eq_some
  listed _ _ _ := mem_toList.trans h.nameAt?_eq_some
  once := h.truthful.nodup_names

/-- A name is registered under an index. -/
def Uses (r : Registry μ) (index : UInt32) : Prop :=
  ∃ name data, r.lookup? name = some (index, data)

theorem not_uses_empty : ¬ (∅ : Registry μ).Uses index := nofun

/-- A registration uses its own index, and otherwise none that was not used before. -/
theorem Uses.of_register {data : μ} (used : (r.register name index data).Uses j) :
    j = index ∨ r.Uses j := by
  obtain ⟨other, d, found⟩ := used
  rw [lookup?_register] at found
  split at found
  · exact Or.inl (Prod.mk.inj (Option.some.inj found)).1.symm
  · exact Or.inr ⟨other, d, found⟩

/-- A faithful registry with indexes below a number. -/
structure Numbered (n : Nat) (r : Registry μ) : Prop where
  faithful : r.Faithful
  below : ∀ index, r.Uses index → index.toNat < n

theorem numbered_empty (n : Nat) : (∅ : Registry μ).Numbered n :=
  ⟨faithful_empty, fun _ used => absurd used not_uses_empty⟩

/-- The number itself is not used yet, so long as it is an index. -/
theorem Numbered.not_uses (h : r.Numbered n) (small : n < UInt32.size) :
    ¬ r.Uses (UInt32.ofNat n) := by
  intro used
  have lower := h.below _ used
  rw [UInt32.toNat_ofNat_of_lt' small] at lower
  exact Nat.lt_irrefl n lower

theorem Numbered.succ (h : r.Numbered n) : r.Numbered (n + 1) :=
  ⟨h.faithful, fun index used => Nat.lt_succ_of_lt (h.below index used)⟩

/-- What is registered next may have that number. -/
theorem Numbered.register (h : r.Numbered n) (small : n < UInt32.size) (name : String) (data : μ) :
    (r.register name (UInt32.ofNat n) data).Numbered (n + 1) where
  faithful := h.faithful.register data fun other d found =>
    absurd ⟨other, d, found⟩ (h.not_uses small)
  below j used := by
    rcases used.of_register with rfl | before
    · rw [UInt32.toNat_ofNat_of_lt' small]
      exact Nat.lt_succ_self n
    · exact h.succ.below j before

/-- Two registries share no index. -/
def Apart (r : Registry μ) (s : Registry ν) : Prop := ∀ index, r.Uses index → ¬ s.Uses index

theorem apart_empty : (∅ : Registry μ).Apart s := fun _ used => absurd used not_uses_empty

theorem Apart.symm (h : r.Apart s) : s.Apart r := fun index used used' => h index used' used

/-- Registries stay apart if one of them registers something next. -/
theorem Apart.register (h : r.Apart s) (others : s.Numbered n) (small : n < UInt32.size)
    (name : String) (data : μ) : (r.register name (UInt32.ofNat n) data).Apart s := by
  intro index used used'
  rcases used.of_register with rfl | before
  · exact others.not_uses small used'
  · exact h index before used'

end Registry

/-- As many indexes have been drawn from a counter since it started at 0, up to its wrapping
around. -/
def IndexCounter.Drew (n : Nat) (c : IndexCounter) : Prop := c.next = UInt32.ofNat n

theorem IndexCounter.drew_start : IndexCounter.Drew 0 {} := rfl

theorem IndexCounter.Drew.mint {n : Nat} {c : IndexCounter} (h : c.Drew n) :
    c.mint.1 = UInt32.ofNat n ∧ c.mint.2.Drew (n + 1) := by
  refine ⟨h, ?_⟩
  show c.next + 1 = UInt32.ofNat (n + 1)
  rw [h, UInt32.ofNat_add]
  rfl

/-! ### Creations -/

/-- The number of creations that were granted. -/
def creationCount (xs : List Exchange) : Nat :=
  xs.countP fun x => x.call.operation.kind == .create && x.refusal?.isNone

@[simp] theorem creationCount_append (xs ys : List Exchange) :
    creationCount (xs ++ ys) = creationCount xs + creationCount ys := List.countP_append

theorem creationCount_of_kind {c : Call} (answer : Answer c) (other : c.operation.kind ≠ .create) :
    creationCount [⟨c, answer⟩] = 0 := by
  simp [creationCount, other]

/-- A discipline that changes a numbered state step by step: it draws one index for each creation
that is granted. -/
def Discipline.drawing {σ ε : Type} (I : Nat → σ → Prop) : Discipline σ ε where
  allows s ds _ t := ∀ n, I n s → I (n + creationCount (exchanges ds)) t
  rest _ _ h := h
  join first then_ n h := by
    rw [exchanges_append, creationCount_append, ← Nat.add_assoc]
    exact then_ _ (first n h)

variable {σ ε α β : Type} {I : Nat → σ → Prop} {k l : Nat}

namespace Pass

/-- A failure of its own draws nothing. -/
theorem drawing_throw (e : ε) : (throw e : Pass σ ε α).Obeys (.drawing I) :=
  obeys_throw fun _ _ h => h

theorem drawing_modify {f : σ → σ} (same : ∀ n s, I n s → I n (f s)) :
    (modify f : Pass σ ε PUnit).Obeys (.drawing I) := obeys_modify fun s n h => same n s h

theorem drawing_conclude (tally : FailureTally ε) :
    (conclude tally : Pass σ ε Unit).Obeys (.drawing I) := by
  intro s ds end_ t trace n held
  cases trace
  exact held

/-- What changes or removes something draws nothing. -/
theorem drawing_change {c : Call} {subject : Answer c → AuditSubject} {failure : String → ε}
    (other : c.operation.kind ≠ .create) :
    (change c subject failure : Pass σ ε c.Reply).Obeys (.drawing I) := by
  refine obeys_change fun s answer e _ n h => ?_
  have none_ : creationCount (exchanges [.called c answer, .reported e]) = 0 :=
    creationCount_of_kind answer other
  rwa [none_]

/-- A pass asks for one creation, and fails if that is refused. -/
def Creates (I : Nat → σ → Prop) (p : Pass σ ε α) : Prop :=
  ∀ s ds end_ t, Program.Trace (p s) ds (end_, t) → (∀ n, I n s → I n t) ∧
    creationCount (exchanges ds) = if (failureIn end_).isSome then 0 else 1

theorem creates_change {c : Call} {subject : Answer c → AuditSubject} {failure : String → ε}
    (kind : c.operation.kind = .create) :
    (change c subject failure : Pass σ ε c.Reply).Creates I := by
  intro s ds end_ t trace
  obtain ⟨answer, e, rfl, -, rfl, rfl⟩ := of_trace_change trace
  refine ⟨fun _ => id, ?_⟩
  rw [failureIn_mapError]
  cases answer with
  | ok reply => simp [creationCount, kind, Exchange.refusal?]
  | error reason => simp [creationCount, kind, Exchange.refusal?]

theorem Creates.modify {p : Pass σ ε α} {f : σ → σ} (h : p.Creates I)
    (same : ∀ n s, I n s → I n (f s)) :
    (p >>= fun _ => modify f : Pass σ ε PUnit).Creates I := by
  intro s ds end_ t trace
  rcases of_trace_bind trace with ⟨e, rfl, failed⟩ | ⟨a, u, ds₁, ds₂, rfl, went, rest⟩
  · exact h s ds (.error e) t failed
  · obtain ⟨kept, granted⟩ := h s ds₁ (.ok a) u went
    cases rest
    rw [List.append_nil]
    exact ⟨fun n h => same n u (kept n h), granted⟩

/-- Once the creation has been granted, the index may be drawn. -/
theorem Creates.drawing {p : Pass σ ε α} {f : α → Pass σ ε β} (h : p.Creates I)
    (then_ : ∀ a s ds end_ t, Program.Trace (f a s) ds (end_, t) →
      ds = [] ∧ ∀ n, I n s → I (n + 1) t) : (p >>= f).Obeys (.drawing I) := by
  intro s ds end_ t trace n held
  rcases of_trace_bind trace with ⟨e, rfl, failed⟩ | ⟨a, u, ds₁, ds₂, rfl, went, rest⟩
  · -- what is refused draws no index
    obtain ⟨kept, refused⟩ := h s ds (.error e) t failed
    rw [refused]
    exact kept n held
  · obtain ⟨kept, granted⟩ := h s ds₁ (.ok a) u went
    obtain ⟨rfl, draws⟩ := then_ a u ds₂ end_ t rest
    rw [List.append_nil, granted]
    exact draws n (kept n held)

end Pass

/-- A sweep draws `k` indexes, and one more for each creation that is granted. -/
def Sweep.Draws (I : Nat → σ → Prop) (k : Nat) (p : Sweep σ ε α) : Prop :=
  ∀ n x ds a y, Program.Trace (p x) ds (a, y) → I n x.1 →
    I (n + k + creationCount (exchanges ds)) y.1

namespace Sweep

theorem Obeys.draws {p : Sweep σ ε α} (h : p.Obeys (.drawing I)) : p.Draws I 0 := by
  intro n x ds a y trace held
  obtain ⟨_, allowed, -⟩ := h x ds a y trace
  exact allowed n held

theorem draws_pure (a : α) : (pure a : Sweep σ ε α).Draws I 0 := (obeys_pure a).draws

theorem draws_update {f : σ → σ} (draws : ∀ n s, I n s → I (n + k) (f s)) :
    (update f : Sweep σ ε Unit).Draws I k := by
  rintro n x - - - ⟨⟩ held
  exact draws n x.1 held

theorem Draws.bind {p : Sweep σ ε α} {f : α → Sweep σ ε β} (first : p.Draws I k)
    (then_ : ∀ a, (f a).Draws I l) : (p >>= f).Draws I (k + l) := by
  intro n x ds b z trace held
  obtain ⟨⟨a, y⟩, ds₁, ds₂, rfl, trace₁, trace₂⟩ := Program.trace_bind.mp trace
  have reached := then_ a _ y ds₂ b z trace₂ (first n x ds₁ a y trace₁ held)
  have same : n + k + creationCount (exchanges ds₁) + l + creationCount (exchanges ds₂) =
      n + (k + l) + creationCount (exchanges (ds₁ ++ ds₂)) := by
    rw [exchanges_append, creationCount_append]
    omega
  rwa [same] at reached

/-- A loop draws what its rounds draw. -/
theorem draws_forM {f : β → Sweep σ ε PUnit} {count : β → Nat} (xs : List β)
    (each : ∀ x ∈ xs, (f x).Draws I (count x)) : (xs.forM f).Draws I (xs.map count).sum := by
  induction xs with
  | nil => exact draws_pure ()
  | cons x xs ih =>
    rw [List.map_cons, List.sum_cons]
    refine (each x List.mem_cons_self).bind fun _ => ?_
    exact ih fun y member => each y (List.mem_cons_of_mem x member)

end Sweep

/-- A pass that goes on after a sweep without drawing any more. -/
theorem Pass.drawn_of_sweeping {p : Sweep σ ε Unit} {f : FailureTally ε → Pass σ ε Unit} {s t : σ}
    {ds : List Deed} {end_ : Except ε Unit} {n : Nat} (draws : p.Draws I k)
    (then_ : ∀ tally, (f tally).Obeys (.drawing I))
    (trace : Program.Trace ((sweeping p >>= f) s) ds (end_, t)) (held : I n s) :
    I (n + k + creationCount (exchanges ds)) t := by
  obtain ⟨y, ds₁, ds₂, rfl, swept, rest⟩ := of_trace_sweeping trace
  have reached := then_ y.2 y.1 ds₂ end_ t rest _ (draws n (s, ∅) ds₁ () y swept held)
  rwa [Nat.add_assoc, ← creationCount_append, ← exchanges_append] at reached

end DataplaneSync
