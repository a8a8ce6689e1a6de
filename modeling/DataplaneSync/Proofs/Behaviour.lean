import DataplaneSync.Dataplane.Pass
import DataplaneSync.Proofs.AtomicEffects

namespace DataplaneSync

/-!
# What a program ensures of a dataplane

A program fixes no dataplane.  What it brings about is said here of every dataplane that behaves
in a certain way, by weakest preconditions:

* `Behaviour σ` — which calls a dataplane with states `σ` expects and how it may answer them.
* `Program.Ensures`, `Pass.Ensures`, `Sweep.Ensures` — every call is expected, and every end is
  as it should be; the rules follow the constructors of programs and the steps of passes and
  sweeps.
* `Program.Ensures.transfer` — from one dataplane to another that it mirrors.
* `Effect.Gives` — the answers of a part of the simulated dataplane that may refuse calls, and
  `Links.behaviour`, `Detection.behaviour`, `NatTables.behaviour` built from them.
-/

/-! ### Behaviours -/

/-- How a dataplane with states `σ` may behave. -/
structure Behaviour (σ : Type) where
  /-- Whether a call is expected in a state. -/
  expects : σ → Call → Prop
  /-- Whether a call may be answered so in a state, and with what state afterwards. -/
  answers : σ → (c : Call) → Answer c → σ → Prop

variable {σ τ ρ ε α β : Type} {b : Behaviour σ}

namespace Program

/-- Whatever the dataplane answers, the program makes only calls that are expected, and its end
is one that `Q` accepts. -/
def Ensures (b : Behaviour σ) : Program α → σ → (α → σ → Prop) → Prop
  | done a, s, Q => Q a s
  | ask c next, s, Q =>
    b.expects s c ∧ ∀ answer t, b.answers s c answer t → (next answer).Ensures b t Q
  | note _ next, s, Q => next.Ensures b s Q

/-- Going on is a matter of every end of the first program. -/
theorem ensures_bind (p : Program α) (f : α → Program β) (s : σ) (Q : β → σ → Prop) :
    (p.bind f).Ensures b s Q ↔ p.Ensures b s fun a t => (f a).Ensures b t Q := by
  induction p generalizing s with
  | done a => exact Iff.rfl
  | ask c next ih => simp only [bind, Ensures, ih]
  | note e next ih => exact ih s

/-- What every end satisfies may be weakened. -/
theorem Ensures.mono {p : Program α} {s : σ} {P Q : α → σ → Prop} (h : p.Ensures b s P)
    (weaker : ∀ a t, P a t → Q a t) : p.Ensures b s Q := by
  induction p generalizing s with
  | done a => exact weaker a s h
  | ask c next ih => exact ⟨h.1, fun answer t ht => ih answer (h.2 answer t ht)⟩
  | note e next ih => exact ih h

/-- What every answer to an expected call keeps holds at every end. -/
theorem Ensures.keeps {I : σ → Prop} {p : Program α} {s : σ} {Q : α → σ → Prop}
    (h : p.Ensures b s Q) (start : I s)
    (kept : ∀ s c answer t, b.expects s c → b.answers s c answer t → I s → I t) :
    p.Ensures b s fun a t => Q a t ∧ I t := by
  induction p generalizing s with
  | done a => exact ⟨h, start⟩
  | ask c next ih =>
    exact ⟨h.1, fun answer t given =>
      ih answer (h.2 answer t given) (kept s c answer t h.1 given start)⟩
  | note e next ih => exact ih h start

/-- What is ensured of one dataplane is ensured of each whose states it mirrors: it expects no
more calls, and answers as the other does. -/
theorem Ensures.transfer {b' : Behaviour τ} {R : σ → τ → Prop} {p : Program α} {s : σ} {t : τ}
    {Q : α → τ → Prop} (h : p.Ensures b' t Q) (start : R s t)
    (expects : ∀ s t c, R s t → b'.expects t c → b.expects s c)
    (answers : ∀ s t c answer s', R s t → b'.expects t c → b.answers s c answer s' →
      ∃ t', b'.answers t c answer t' ∧ R s' t') :
    p.Ensures b s fun a s' => ∃ t', R s' t' ∧ Q a t' := by
  induction p generalizing s t with
  | done a => exact ⟨t, start, h⟩
  | ask c next ih =>
    refine ⟨expects s t c start h.1, fun answer s' hs' => ?_⟩
    obtain ⟨t', ht', mirrored⟩ := answers s t c answer s' start h.1 hs'
    exact ih answer (h.2 answer t' ht') mirrored
  | note e next ih => exact ih h start

end Program

/-! ### Passes -/

namespace Pass

/-- What a pass ensures that starts with what is known: `Q` if it comes to its end, and `E` if
it fails. -/
def Ensures (b : Behaviour σ) (p : Pass ρ ε α) (r : ρ) (s : σ) (Q : α → ρ → σ → Prop)
    (E : ε → ρ → σ → Prop) : Prop :=
  Program.Ensures b (p r) s fun end_ t =>
    match end_ with
    | (.ok a, r') => Q a r' t
    | (.error e, r') => E e r' t

variable {r : ρ} {s : σ} {Q : α → ρ → σ → Prop} {E : ε → ρ → σ → Prop}

@[simp] theorem ensures_pure (a : α) :
    Ensures b (pure a : Pass ρ ε α) r s Q E ↔ Q a r s := Iff.rfl

@[simp] theorem ensures_throw (e : ε) :
    Ensures b (throw e : Pass ρ ε α) r s Q E ↔ E e r s := Iff.rfl

@[simp] theorem ensures_get {Q : ρ → ρ → σ → Prop} :
    Ensures b (get : Pass ρ ε ρ) r s Q E ↔ Q r r s := Iff.rfl

@[simp] theorem ensures_set {Q : PUnit → ρ → σ → Prop} (r' : ρ) :
    Ensures b (set r' : Pass ρ ε PUnit) r s Q E ↔ Q ⟨⟩ r' s := Iff.rfl

@[simp] theorem ensures_modify {Q : PUnit → ρ → σ → Prop} (f : ρ → ρ) :
    Ensures b (modify f : Pass ρ ε PUnit) r s Q E ↔ Q ⟨⟩ (f r) s := Iff.rfl

/-- The second step starts from every end of the first one that is no failure. -/
@[simp] theorem ensures_bind {p : Pass ρ ε α} {f : α → Pass ρ ε β} {Q : β → ρ → σ → Prop} :
    Ensures b (p >>= f) r s Q E ↔
      Ensures b p r s (fun a r' t => Ensures b (f a) r' t Q E) E := by
  refine (Program.ensures_bind (p r) _ s _).trans ?_
  unfold Ensures
  constructor
  · refine fun h => h.mono fun end_ t => ?_
    match end_ with
    | (.ok a, r') => exact id
    | (.error e, r') => exact id
  · refine fun h => h.mono fun end_ t => ?_
    match end_ with
    | (.ok a, r') => exact id
    | (.error e, r') => exact id

/-- A call may be answered in every way in which the dataplane may answer it. -/
@[simp] theorem ensures_call (c : Call) {Q : Answer c → ρ → σ → Prop} :
    Ensures b (perform (Program.call c) : Pass ρ ε (Answer c)) r s Q E ↔
      b.expects s c ∧ ∀ answer t, b.answers s c answer t → Q answer r t := Iff.rfl

theorem Ensures.mono {p : Pass ρ ε α} {Q' : α → ρ → σ → Prop} {E' : ε → ρ → σ → Prop}
    (h : Ensures b p r s Q E) (ends : ∀ a r t, Q a r t → Q' a r t)
    (failures : ∀ e r t, E e r t → E' e r t) : Ensures b p r s Q' E' := by
  refine Program.Ensures.mono h fun end_ t => ?_
  match end_ with
  | (.ok a, r') => exact ends a r' t
  | (.error e, r') => exact failures e r' t

/-- What every answer to an expected call keeps holds at every end. -/
theorem Ensures.keeps {I : σ → Prop} {p : Pass ρ ε α} (h : Ensures b p r s Q E) (start : I s)
    (kept : ∀ s c answer t, b.expects s c → b.answers s c answer t → I s → I t) :
    Ensures b p r s (fun a r' t => Q a r' t ∧ I t) (fun e r' t => E e r' t ∧ I t) := by
  refine (Program.Ensures.keeps h start kept).mono fun end_ t => ?_
  match end_ with
  | (.ok _, _) => exact id
  | (.error _, _) => exact id

/-- Reading through a call gives the reply, or fails with the reason of the refusal. -/
theorem ensures_dump (c : Call) (failure : String → ε) {Q : c.Reply → ρ → σ → Prop} :
    Ensures b (dump c failure) r s Q E ↔
      b.expects s c ∧ ∀ answer t, b.answers s c answer t →
        match answer with
        | .ok reply => Q reply r t
        | .error reason => E (failure reason) r t := by
  simp only [dump, ensures_bind, ensures_call]
  refine and_congr_right fun _ => forall_congr' fun answer => forall_congr' fun t => ?_
  cases answer <;> exact Iff.rfl

/-- A change gives the reply, or fails with the reason of the refusal; that it is reported is of
no consequence for the dataplane. -/
theorem ensures_change (c : Call) (subject : Answer c → AuditSubject) (failure : String → ε)
    {Q : c.Reply → ρ → σ → Prop} :
    Ensures b (change c subject failure) r s Q E ↔
      b.expects s c ∧ ∀ answer t, b.answers s c answer t →
        match answer with
        | .ok reply => Q reply r t
        | .error reason => E (failure reason) r t := by
  simp only [change, ensures_bind, ensures_call]
  refine and_congr_right fun _ => forall_congr' fun answer => forall_congr' fun t => ?_
  cases answer <;> exact Iff.rfl

/-- A loop is its first round and then the loop over the rest. -/
theorem ensures_forM_cons {f : β → Pass ρ ε PUnit} {x : β} {xs : List β}
    {Q : PUnit → ρ → σ → Prop} :
    Ensures b ((x :: xs).forM f) r s Q E ↔
      Ensures b (f x) r s (fun _ r' t => Ensures b (xs.forM f) r' t Q E) E := by
  show Ensures b (f x >>= fun _ => xs.forM f) r s Q E ↔ _
  rw [ensures_bind]

/-- A loop keeps an invariant about the elements still ahead of it if every round does. -/
theorem ensures_forM {f : β → Pass ρ ε PUnit} (I : List β → ρ → σ → Prop) {xs : List β}
    (start : I xs r s)
    (round : ∀ x rest r s, x :: rest <:+ xs → I (x :: rest) r s →
      Ensures b (f x) r s (fun _ r' t => I rest r' t) E) :
    Ensures b (xs.forM f) r s (fun _ r' t => I [] r' t) E := by
  induction xs generalizing r s with
  | nil => exact start
  | cons x rest ih =>
    rw [ensures_forM_cons]
    refine (round x rest r s (List.suffix_refl _) start).mono (fun _ r' t h => ?_)
      (fun _ _ _ h => h)
    exact ih h fun y rest' r s suffix =>
      round y rest' r s (suffix.trans (List.suffix_cons x rest))

end Pass

/-! ### Sweeps -/

namespace Sweep

/-- What a sweep ensures that starts with what is known and a tally. -/
def Ensures (b : Behaviour σ) (p : Sweep ρ ε α) (x : ρ × FailureTally ε) (s : σ)
    (Q : α → ρ × FailureTally ε → σ → Prop) : Prop :=
  Program.Ensures b (p x) s fun end_ t => Q end_.1 end_.2 t

variable {x : ρ × FailureTally ε} {s : σ} {Q : α → ρ × FailureTally ε → σ → Prop}

@[simp] theorem ensures_pure (a : α) : Ensures b (pure a : Sweep ρ ε α) x s Q ↔ Q a x s := Iff.rfl

@[simp] theorem ensures_state {Q : ρ → ρ × FailureTally ε → σ → Prop} :
    Ensures b (state : Sweep ρ ε ρ) x s Q ↔ Q x.1 x s := Iff.rfl

@[simp] theorem ensures_update {Q : Unit → ρ × FailureTally ε → σ → Prop} (f : ρ → ρ) :
    Ensures b (update f : Sweep ρ ε Unit) x s Q ↔ Q () (f x.1, x.2) s := Iff.rfl

@[simp] theorem ensures_failures {Q : Nat → ρ × FailureTally ε → σ → Prop} :
    Ensures b (failures : Sweep ρ ε Nat) x s Q ↔ Q x.2.count x s := Iff.rfl

/-- The second step starts from every end of the first one. -/
@[simp] theorem ensures_bind {p : Sweep ρ ε α} {f : α → Sweep ρ ε β}
    {Q : β → ρ × FailureTally ε → σ → Prop} :
    Ensures b (p >>= f) x s Q ↔ Ensures b p x s fun a y t => Ensures b (f a) y t Q :=
  Program.ensures_bind (p x) _ s _

/-- A pass that is a step of a sweep may end with one more failure. -/
theorem ensures_tolerate {p : Pass ρ ε Unit} {Q : Unit → ρ × FailureTally ε → σ → Prop} :
    Ensures b (tolerate p) x s Q ↔
      Pass.Ensures b p x.1 s (fun _ r t => Q () (r, x.2) t)
        (fun e r t => Q () (r, x.2.record e) t) := by
  refine (Program.ensures_bind (p x.1) _ s _).trans ?_
  unfold Pass.Ensures
  constructor
  · refine fun h => h.mono fun end_ t => ?_
    match end_ with
    | (.ok _, _) => exact id
    | (.error _, _) => exact id
  · refine fun h => h.mono fun end_ t => ?_
    match end_ with
    | (.ok _, _) => exact id
    | (.error _, _) => exact id

theorem Ensures.mono {p : Sweep ρ ε α} {Q' : α → ρ × FailureTally ε → σ → Prop}
    (h : Ensures b p x s Q) (ends : ∀ a y t, Q a y t → Q' a y t) : Ensures b p x s Q' :=
  Program.Ensures.mono h fun end_ t => ends end_.1 end_.2 t

/-- A loop is its first round and then the loop over the rest. -/
theorem ensures_forM_cons {f : β → Sweep ρ ε PUnit} {y : β} {ys : List β}
    {Q : PUnit → ρ × FailureTally ε → σ → Prop} :
    Ensures b ((y :: ys).forM f) x s Q ↔
      Ensures b (f y) x s fun _ x' t => Ensures b (ys.forM f) x' t Q := by
  show Ensures b (f y >>= fun _ => ys.forM f) x s Q ↔ _
  rw [ensures_bind]

/-- A loop keeps an invariant about the elements still ahead of it if every round does. -/
theorem ensures_forM {f : β → Sweep ρ ε PUnit} (I : List β → ρ × FailureTally ε → σ → Prop)
    {xs : List β} (start : I xs x s)
    (round : ∀ y rest x s, y :: rest <:+ xs → I (y :: rest) x s →
      Ensures b (f y) x s (fun _ x' t => I rest x' t)) :
    Ensures b (xs.forM f) x s (fun _ x' t => I [] x' t) := by
  induction xs generalizing x s with
  | nil => exact start
  | cons y rest ih =>
    rw [ensures_forM_cons]
    refine (round y rest x s (List.suffix_refl _) start).mono fun _ x' t h => ?_
    exact ih h fun z rest' x s suffix =>
      round z rest' x s (suffix.trans (List.suffix_cons y rest))

/-- A loop keeps an invariant about the elements that it has dealt with and those still ahead of
it if every round does. -/
theorem ensures_forM_done {f : β → Sweep ρ ε PUnit}
    (I : List β → List β → ρ × FailureTally ε → σ → Prop) {ys : List β} (start : I [] ys x s)
    (round : ∀ done y ahead x s, done ++ y :: ahead = ys → I done (y :: ahead) x s →
      Ensures b (f y) x s (fun _ x' t => I (done ++ [y]) ahead x' t)) :
    Ensures b (ys.forM f) x s (fun _ x' t => I ys [] x' t) := by
  -- what has been dealt with is what makes the rest the whole list
  refine (ensures_forM (fun ahead x t => ∃ done, done ++ ahead = ys ∧ I done ahead x t)
    ⟨[], rfl, start⟩ ?_).mono ?_
  · rintro y ahead x s - ⟨done, parts, h⟩
    refine (round done y ahead x s parts h).mono fun _ x' t h' => ?_
    exact ⟨done ++ [y], by rw [List.append_assoc, List.singleton_append, parts], h'⟩
  · rintro - x' t ⟨done, parts, h⟩
    rw [List.append_nil] at parts
    exact parts ▸ h

end Sweep

namespace Pass

variable {r : ρ} {s : σ} {E : ε → ρ → σ → Prop}

/-- A sweep inside a pass starts with nothing tallied. -/
@[simp] theorem ensures_sweeping {p : Sweep ρ ε Unit} {Q : FailureTally ε → ρ → σ → Prop} :
    Ensures b (sweeping p) r s Q E ↔ Sweep.Ensures b p (r, ∅) s fun _ x t => Q x.2 x.1 t :=
  Program.ensures_bind (p (r, ∅)) _ s _

/-- A tally ends a pass with its last failure, or well. -/
theorem ensures_conclude {tally : FailureTally ε} {Q : Unit → ρ → σ → Prop} :
    Ensures b (conclude tally) r s Q E ↔
      match tally.last? with
      | some e => E e r s
      | none => Q () r s := by
  obtain ⟨count, last⟩ := tally
  cases last <;> exact Iff.rfl

/-- A pass whose tally is empty ends well. -/
@[simp] theorem ensures_conclude_empty {Q : Unit → ρ → σ → Prop} :
    Ensures b (conclude ∅) r s Q E ↔ Q () r s := Iff.rfl

end Pass

/-- In a loop over things that are either still ahead or done, the thing of a round gets done and
what was done before stays so. -/
theorem ahead_or_done {x : α} {rest all : List α} {P P' : α → Prop}
    (before : ∀ y ∈ all, y ∈ x :: rest ∨ P y) (first : P' x) (kept : ∀ y, P y → P' y) :
    ∀ y ∈ all, y ∈ rest ∨ P' y := by
  intro y hy
  rcases before y hy with ahead | done
  · rcases List.mem_cons.mp ahead with rfl | ahead
    · exact Or.inr first
    · exact Or.inl ahead
  · exact Or.inr (kept y done)

/-! ### Parts of the simulated dataplane -/

/-- A part of the simulated dataplane, with the calls that work on it. -/
inductive Part where
  | links
  | detection
  | nat
  deriving DecidableEq

/-- The part that a call works on. -/
def Call.part : Call → Part
  | interface _ => .links
  | stn _ => .links
  | bfd _ => .detection
  | nat _ => .nat

/-- How a call may be answered whose steps have come to an outcome, and the state afterwards.  An
unreliable dataplane may refuse every call before its first step. -/
inductive Effect.Gives (unreliable : Prop) (s : σ) :
    Except Obstacle ρ × σ → Except String ρ → σ → Prop where
  | done (reply : ρ) (t : σ) : Gives unreliable s (.ok reply, t) (.ok reply) t
  | refused (reason : String) (t : σ) :
    Gives unreliable s (.error (.refused reason), t) (.error reason) t
  | failed (outcome : Except Obstacle ρ × σ) (reason : String) :
    unreliable → Gives unreliable s outcome (.error reason) s

/-- A call that can be carried out is, unless an unreliable dataplane refuses it. -/
theorem Effect.Gives.of_carried {unreliable : Prop} {s t t' : σ}
    {outcome : Except Obstacle ρ × σ} {answer : Except String ρ} {reply : ρ}
    (given : Gives unreliable s outcome answer t) (carried : outcome = (.ok reply, t')) :
    answer = .ok reply ∧ t = t' ∨ unreliable ∧ t = s ∧ ∃ reason, answer = .error reason := by
  subst carried
  cases given with
  | done => exact Or.inl ⟨rfl, rfl⟩
  | failed _ reason faulty => exact Or.inr ⟨faulty, rfl, reason, rfl⟩

/-- An atomic call that is answered has been refused, without effect, or carried out. -/
theorem Effect.Gives.refused_or_carried {unreliable : Prop} {kind : Obstacle → Prop} {s t : σ}
    {effect : Effect σ ρ} {answer : Except String ρ}
    (given : Gives unreliable s (effect s) answer t) (atomic : effect.Atomic kind) :
    t = s ∨ ∃ reply, effect s = (.ok reply, t) := by
  generalize came : effect s = outcome at given
  cases given with
  | done reply t => exact Or.inr ⟨reply, rfl⟩
  | refused reason t => exact Or.inl (atomic s _ t came).1
  | failed outcome reason faulty => exact Or.inl rfl

/-- Interfaces, sockets and rules as a dataplane of their own, which expects the calls about
them that are allowed. -/
def Links.behaviour (unreliable : Prop) (allowed : Call → Prop) : Behaviour Links where
  expects _ c := c.part = .links ∧ allowed c
  answers s c :=
    match c with
    | .interface call => Effect.Gives unreliable s (call.perform s)
    | .stn call => Effect.Gives unreliable s (call.perform s)
    | .bfd _ => fun _ _ => False
    | .nat _ => fun _ _ => False

/-- Sessions, keys and the echo source as a dataplane of their own. -/
def Detection.behaviour (unreliable : Prop) (allowed : Call → Prop) : Behaviour Detection where
  expects _ c := c.part = .detection ∧ allowed c
  answers s c :=
    match c with
    | .bfd call => Effect.Gives unreliable s (call.perform s)
    | .interface _ => fun _ _ => False
    | .stn _ => fun _ _ => False
    | .nat _ => fun _ _ => False

/-- Global settings and groups of mappings as a dataplane of their own. -/
def NatTables.behaviour (unreliable : Prop) (allowed : Call → Prop) : Behaviour NatTables where
  expects _ c := c.part = .nat ∧ allowed c
  answers s c :=
    match c with
    | .nat call => Effect.Gives unreliable s (call.perform s)
    | .interface _ => fun _ _ => False
    | .stn _ => fun _ _ => False
    | .bfd _ => fun _ _ => False

end DataplaneSync
