import DataplaneSync.Proofs.DestinationAgenda
import DataplaneSync.Proofs.TaskParts
import Mathlib.Data.List.Forall2

namespace DataplaneSync

/-!
# Exact reports

A run reports of each stage the last thing in it that failed, and nothing if nothing failed.

* `Turn` — something in a run that may fail: a call, or a mapping that cannot be created.
* `Carried` — the turns that the jobs of an agenda take.
* `Report.AccountsFor` — what makes a report exact.
* `Run.reports_exact` — runs report exactly, whatever they are answered.
-/

/-! ### Turns -/

/-- Something that may fail in a run. -/
inductive Turn where
  /-- A call is made and answered. -/
  | asked (x : Exchange)
  /-- A static mapping without endpoint is due for creation. -/
  | barren (label : String) (m : StaticMapping)

namespace Turn

/-- The exchange of a turn that is one. -/
def exchange? : Turn → Option Exchange
  | asked x => some x
  | barren _ _ => none

/-- The stage that takes a turn. -/
def stage : Turn → Stage
  | asked x => x.call.stage
  | barren _ _ => .destinations

/-- Whether a turn is a failure. -/
def fails : Turn → Bool
  | asked x => x.refusal?.isSome
  | barren _ _ => true

/-- What is to be reported of a turn that is a failure. -/
def failureText? (dumped : Bool) : Turn → Option String
  | asked x => x.failureText? dumped
  | barren label m => some (NatFailure.noEndpoint label m.identifier).message

theorem isSome_failureText? (dumped : Bool) (t : Turn) :
    (t.failureText? dumped).isSome = t.fails := by
  cases t with
  | asked x => exact Option.isSome_map
  | barren label m => rfl

end Turn

/-- The calls among some turns. -/
def askedIn (turns : List Turn) : List Exchange := turns.filterMap Turn.exchange?

@[simp] theorem askedIn_append (turns turns' : List Turn) :
    askedIn (turns ++ turns') = askedIn turns ++ askedIn turns' := List.filterMap_append

@[simp] theorem askedIn_asked (xs : List Exchange) : askedIn (xs.map .asked) = xs := by
  induction xs with
  | nil => rfl
  | cons x xs ih => exact congrArg (x :: ·) ih

/-- What is to be reported of some turns, the oldest first. -/
def turnTexts (dumped : Bool) (turns : List Turn) : List String :=
  turns.filterMap (Turn.failureText? dumped)

@[simp] theorem turnTexts_asked (dumped : Bool) (xs : List Exchange) :
    turnTexts dumped (xs.map .asked) = failureTexts dumped xs := by
  rw [turnTexts, List.filterMap_map]
  rfl

@[simp] theorem turnTexts_append (dumped : Bool) (turns turns' : List Turn) :
    turnTexts dumped (turns ++ turns') = turnTexts dumped turns ++ turnTexts dumped turns' :=
  List.filterMap_append

/-- That interfaces have been dumped is of consequence only for the stage that dumps them. -/
theorem turnTexts_congr {b b' : Bool} {turns : List Turn}
    (same : ∀ t ∈ turns, t.stage = .interfaces → b = b') :
    turnTexts b turns = turnTexts b' turns := by
  refine List.filterMap_congr fun t mem => ?_
  match t, same t mem with
  | .barren label m, _ => rfl
  | .asked ⟨.interface c, answer⟩, own => rw [own rfl]
  | .asked ⟨.stn c, answer⟩, _ => rfl
  | .asked ⟨.bfd c, answer⟩, _ => rfl
  | .asked ⟨.nat c, answer⟩, _ => rfl

/-- There is something to report just if a turn is a failure. -/
theorem isSome_getLast?_turnTexts {dumped : Bool} {turns : List Turn} :
    (turnTexts dumped turns).getLast?.isSome = true ↔ ∃ t ∈ turns, t.fails = true := by
  have silent : turnTexts dumped turns = [] ↔ ∀ t ∈ turns, t.fails = false := by
    simp [turnTexts, List.filterMap_eq_nil_iff, ← Turn.isSome_failureText? dumped]
  rw [List.getLast?_isSome, Ne, silent]
  simp

/-! ### The turns of destination NAT -/

/-- The turns that some jobs take when some mappings are known. -/
inductive Carried : List MappingKey → List Job → List Turn → Prop where
  | nil {known : List MappingKey} : Carried known [] []
  | keep {label : String} {wanted actual : Mapping} {known : List MappingKey} {jobs : List Job}
      {turns : List Turn} :
    Carried (wanted.key :: known) jobs turns →
    Carried known (.keep label wanted actual :: jobs) turns
  | skip {label : String} {m : Mapping} {known : List MappingKey} {jobs : List Job}
      {turns : List Turn} :
    m.key ∈ known → Carried known jobs turns → Carried known (.create label m :: jobs) turns
  | barren {label : String} {m : StaticMapping} {known : List MappingKey} {jobs : List Job}
      {turns : List Turn} :
    (Mapping.ofStatic m).key ∉ known → m.locals = [] → Carried known jobs turns →
    Carried known (.create label (.ofStatic m) :: jobs) (.barren label m :: turns)
  | created {label : String} {m : Mapping} {known : List MappingKey} {jobs : List Job}
      {turns : List Turn} :
    m.key ∉ known → m.Creatable → Carried (m.key :: known) jobs turns →
    Carried known (.create label m :: jobs) (.asked ⟨.nat (.addMapping label m), .ok ()⟩ :: turns)
  | refused {label : String} {m : Mapping} {known : List MappingKey} {jobs : List Job}
      {turns : List Turn} (reason : String) :
    m.key ∉ known → m.Creatable → Carried known jobs turns →
    Carried known (.create label m :: jobs)
      (.asked ⟨.nat (.addMapping label m), .error reason⟩ :: turns)
  | delete {label : String} {m : Mapping} {known : List MappingKey} {jobs : List Job}
      {turns : List Turn} (answer : Answer (.nat (.deleteMapping label m))) :
    Carried known jobs turns →
    Carried known (.delete label m :: jobs)
      (.asked ⟨.nat (.deleteMapping label m), answer⟩ :: turns)

/-- The turns of the stage that reconciles groups: the dump and, unless it is refused, those of the
agenda. -/
inductive DestinationTurns (wanted : List DestinationNat) : List Turn → Prop where
  | refused (reason : String) :
    DestinationTurns wanted [.asked ⟨.nat .dumpDestinations, .error reason⟩]
  | carried {turns : List Turn} (dump : List DestinationNat) :
    Carried [] (agenda wanted dump) turns →
    DestinationTurns wanted (.asked ⟨.nat .dumpDestinations, .ok dump⟩ :: turns)

/-- The turns so far with those of the jobs ahead make up those of an agenda. -/
def Carrying (wanted : List DestinationNat) (ahead : List Job) (known : List MappingKey)
    (last : Option NatFailure) (h : List Exchange) : Prop :=
  ∃ dump turns, h = ⟨.nat .dumpDestinations, .ok dump⟩ :: askedIn turns ∧
    (turnTexts false turns).getLast? = last.map NatFailure.message ∧
    ∀ rest, Carried known ahead rest → Carried [] (agenda wanted dump) (turns ++ rest)

namespace Carrying

variable {wanted : List DestinationNat} {job : Job} {ahead : List Job}
variable {known known' : List MappingKey} {last last' : Option NatFailure} {h h' : List Exchange}

/-- A job that takes some turns has been done. -/
theorem next (so : Carrying wanted (job :: ahead) known last h) (taken : List Turn)
    (e : Option NatFailure) (asked : h' = h ++ askedIn taken)
    (worded : (turnTexts false taken).getLast? = e.map NatFailure.message)
    (done : ∀ rest, Carried known' ahead rest → Carried known (job :: ahead) (taken ++ rest)) :
    Carrying wanted ahead known' (e.or last) h' := by
  obtain ⟨dump, turns, rfl, worded', carried⟩ := so
  refine ⟨dump, turns ++ taken, ?_, ?_, fun rest ahead => ?_⟩
  · rw [asked, askedIn_append, List.cons_append]
  · rw [turnTexts_append, List.getLast?_append, worded, worded']
    cases e <;> rfl
  · rw [List.append_assoc]
    exact carried _ (done rest ahead)

/-- Every way to deal with a job is one that carries it out. -/
theorem handles (wanted : List DestinationNat) :
    Handles (transcript (·.stage = .destinations)) (Carrying wanted) where
  keep so := so.next [] none (List.append_nil _).symm rfl fun _ => .keep
  skip so found := so.next [] none (List.append_nil _).symm rfl fun _ => .skip found
  barren so unknown barren := so.next [.barren _ _] (some _) (List.append_nil _).symm rfl
    fun _ => .barren unknown barren
  create {label m} _ _ _ _ so unknown creatable := by
    refine ⟨rfl, fun answer h' asked => ?_⟩
    match answer with
    | .ok () =>
      exact so.next [.asked ⟨.nat (.addMapping label m), .ok ()⟩] none asked rfl
        fun _ => .created unknown creatable
    | .error reason =>
      exact so.next [.asked ⟨.nat (.addMapping label m), .error reason⟩]
        (some (.createMapping label m.identifier reason)) asked rfl
        fun _ => .refused reason unknown creatable
  delete {label m} _ _ _ _ so := by
    refine ⟨rfl, fun answer h' asked => ?_⟩
    match answer with
    | .ok () =>
      exact so.next [.asked ⟨.nat (.deleteMapping label m), .ok ()⟩] none asked rfl
        fun _ => .delete (.ok ())
    | .error reason =>
      exact so.next [.asked ⟨.nat (.deleteMapping label m), .error reason⟩]
        (some (.deleteMapping label m.identifier reason)) asked rfl fun _ => .delete (.error reason)

end Carrying

/-! ### Stages -/

/-- The turns of a stage, which ended as they say. -/
structure StageOutcome.Accounts (dumped : Bool) (turns : List Turn) (o : StageOutcome) : Prop where
  own : ∀ t ∈ turns, t.stage = o.stage
  last : (turnTexts dumped turns).getLast? = o.error

/-- A stage that did its duty had the turns that it asked for. -/
theorem Blamed.accounts {σ ε : Type} {duty : Duty σ ε} {ds : List Deed} {end_ : Except ε Unit}
    {dumped : Bool} (blamed : Blamed duty ds (failureIn end_))
    (same : duty.stage = .interfaces → dumped = duty.dumped) :
    StageOutcome.Accounts dumped ((exchanges ds).map .asked) (.of duty.stage duty.word end_) := by
  have own : ∀ t ∈ (exchanges ds).map Turn.asked, t.stage = duty.stage := by
    intro t mem
    obtain ⟨x, hx, rfl⟩ := List.mem_map.mp mem
    exact blamed.own x hx
  refine ⟨own, ?_⟩
  rw [turnTexts_congr fun t mem interfaces => same ((own t mem).symm.trans interfaces),
    turnTexts_asked, blamed.last]
  cases end_ <;> rfl

namespace Run

/-- The stage that reconciles groups carries out its agenda, and ends with the last failure. -/
theorem trace_destinationStage {wanted : List DestinationNat} {r r' : NatReconciler}
    {ds : List Deed} {end_ : Except NatFailure Unit} (connected : r.connected = true)
    (trace : Program.Trace (destinationStage wanted r) ds (end_, r')) :
    ∃ turns, DestinationTurns wanted turns ∧ askedIn turns = exchanges ds ∧
      ∀ dumped, StageOutcome.Accounts dumped turns (.of .destinations NatFailure.message end_) := by
  have start : ∀ dump h, h = [] ++ [⟨.nat .dumpDestinations, .ok dump⟩] →
      Carrying wanted (agenda wanted dump) [] none h := by
    rintro dump _ rfl
    exact ⟨dump, [], rfl, rfl, fun _ => id⟩
  have ensures := ensures_destinationStage_jobs (Carrying.handles wanted) connected rfl start
  obtain ⟨ended, own⟩ := ensures.of_trace trace
  rw [List.nil_append] at ended
  rcases ended with ⟨reason, rfl, asked⟩ | ⟨known, last, rfl, dump, turns, asked, worded, carried⟩
  · refine ⟨_, .refused reason, asked.symm, fun dumped => ⟨?_, rfl⟩⟩
    simp [Turn.stage, Call.stage, NatCall.stage, StageOutcome.of]
  · have carried' := carried [] .nil
    rw [List.append_nil] at carried'
    refine ⟨_, .carried dump carried', asked.symm, fun dumped => ?_⟩
    have stages : ∀ t ∈ Turn.asked ⟨.nat .dumpDestinations, .ok dump⟩ :: turns,
        t.stage = .destinations := by
      rintro (x | ⟨label, m⟩) mem
      · refine own x ?_
        rw [asked]
        exact List.mem_filterMap (f := Turn.exchange?).mpr ⟨.asked x, mem, rfl⟩
      · rfl
    have texts : turnTexts dumped _ = turnTexts false _ := turnTexts_congr fun t mem interfaces =>
      absurd ((stages t mem).symm.trans interfaces) nofun
    refine ⟨stages, ?_⟩
    rw [texts]
    exact worded.trans (by cases last <;> rfl)

/-- The stages of a run, in the order of its report. -/
def stages (wanted : DesiredState) : List Stage :=
  [.interfaces, .rules, .keys, .sessions, .echo] ++
    (if wanted.natGlobal.isSome then [.natGlobal] else []) ++ [.sources, .destinations]

/-- The stages of a task, which ended as their turns say. -/
abbrev Accounted (dumped : Bool) : List (List Turn) → List StageOutcome → Prop :=
  List.Forall₂ (StageOutcome.Accounts dumped)

theorem trace_linkTask_turns {skipRefresh : Bool} {wanted : DesiredState} {ds : List Deed}
    {report : TaskReport} (trace : (linkTask skipRefresh wanted).Trace ds report) :
    ∃ first second, askedIn first ++ askedIn second = exchanges ds ∧
      Accounted (InterfaceReconciler.hasDump (askedIn first)) [first, second] report.outcomes ∧
      report.outcomes.map (·.stage) = [.interfaces, .rules] := by
  obtain ⟨⟨interfaces, r⟩, ds₁, ds', rfl, trace₁, trace'⟩ := Program.trace_bind.mp trace
  obtain ⟨⟨rules, s⟩, ds₂, ds₃, rfl, trace₂, ⟨⟩⟩ := Program.trace_bind.mp trace'
  obtain ⟨-, first⟩ := InterfaceReconciler.trace_settleAll trace₁
  obtain ⟨-, second⟩ := StnReconciler.trace_reconcile rfl trace₂
  refine ⟨(exchanges ds₁).map .asked, (exchanges ds₂).map .asked, by simp, ?_, rfl⟩
  rw [askedIn_asked]
  exact .cons (first.accounts fun _ => rfl) (.cons (second.accounts nofun) .nil)

theorem trace_detectionTask_turns {wanted : DesiredState} {ds : List Deed} {report : TaskReport}
    (trace : (detectionTask wanted).Trace ds report) :
    ∃ turns, askedIn turns.flatten = exchanges ds ∧
      (∀ dumped, Accounted dumped turns report.outcomes) ∧
      report.outcomes.map (·.stage) = [.keys, .sessions, .echo] := by
  obtain ⟨⟨keys, r⟩, ds₁, ds', rfl, trace₁, trace'⟩ := Program.trace_bind.mp trace
  obtain ⟨⟨sessions, r'⟩, ds₂, ds'', rfl, trace₂, trace''⟩ := Program.trace_bind.mp trace'
  obtain ⟨⟨echo, r''⟩, ds₃, ds₄, rfl, trace₃, ⟨⟩⟩ := Program.trace_bind.mp trace''
  obtain ⟨-, first, kept⟩ := BfdReconciler.told_keyObjects.trace_reconcile rfl trace₁
  obtain ⟨-, second, kept'⟩ := BfdReconciler.told_sessionObjects.trace_reconcile kept trace₂
  obtain ⟨-, third, -⟩ := BfdReconciler.trace_reconcileEcho (kept'.trans kept) trace₃
  refine ⟨[(exchanges ds₁).map .asked, (exchanges ds₂).map .asked, (exchanges ds₃).map .asked],
    by simp, fun dumped => ?_, rfl⟩
  exact .cons (first.accounts nofun) (.cons (second.accounts nofun)
    (.cons (third.accounts nofun) .nil))

theorem trace_globalStage_turns {wanted : Option NatGlobal} {r r' : NatReconciler} {ds : List Deed}
    {outcomes : List StageOutcome} (connected : r.connected = true)
    (trace : (globalStage wanted r).Trace ds (outcomes, r')) :
    ∃ turns, askedIn turns.flatten = exchanges ds ∧
      (∀ dumped, Accounted dumped turns outcomes) ∧
      outcomes.map (·.stage) = (if wanted.isSome then [.natGlobal] else []) ∧
      r'.connected = true := by
  cases wanted with
  | none =>
    cases trace
    exact ⟨[], rfl, fun _ => .nil, rfl, connected⟩
  | some g =>
    obtain ⟨⟨result, r₁⟩, ds₁, ds₂, rfl, trace₁, ⟨⟩⟩ := Program.trace_bind.mp trace
    obtain ⟨-, blamed, kept⟩ := NatReconciler.trace_reconcileGlobal connected trace₁
    refine ⟨[(exchanges ds₁).map .asked], by simp, fun dumped => ?_, rfl, kept.trans connected⟩
    exact .cons (blamed.accounts nofun) .nil

theorem trace_natTask_turns {wanted : DesiredState} {ds : List Deed} {report : TaskReport}
    (trace : (natTask wanted).Trace ds report) :
    ∃ turns last outcomes o, askedIn turns.flatten ++ askedIn last = exchanges ds ∧
      report.outcomes = outcomes ++ [o] ∧
      (∀ dumped, Accounted dumped turns outcomes ∧ StageOutcome.Accounts dumped last o) ∧
      outcomes.map (·.stage) =
        (if wanted.natGlobal.isSome then [.natGlobal] else []) ++ [.sources] ∧
      o.stage = .destinations ∧ DestinationTurns wanted.destinations last := by
  obtain ⟨⟨global, r⟩, ds₁, ds', rfl, trace₁, trace'⟩ := Program.trace_bind.mp trace
  obtain ⟨⟨sources, r'⟩, ds₂, ds'', rfl, ⟨⟩, trace''⟩ := Program.trace_bind.mp trace'
  obtain ⟨⟨destinations, r''⟩, ds₃, ds₄, rfl, trace₃, ⟨⟩⟩ := Program.trace_bind.mp trace''
  obtain ⟨turns, asked, accounted, stages, connected⟩ := trace_globalStage_turns rfl trace₁
  obtain ⟨last, carried, asked', accounted'⟩ := trace_destinationStage connected trace₃
  refine ⟨turns ++ [[]], last, global ++ [.of .sources NatFailure.message (.ok ())], _,
    by simp [asked, asked'], by simp, fun dumped => ⟨?_, accounted' dumped⟩,
    ?_, rfl, carried⟩
  · have sources : StageOutcome.Accounts dumped [] (.of .sources NatFailure.message (.ok ())) :=
      ⟨fun t mem => absurd mem List.not_mem_nil, rfl⟩
    exact List.rel_append (accounted dumped) (.cons sources .nil)
  · rw [List.map_append, stages]
    rfl

/-! ### Reports -/

end Run

/-- The turns of a run that fail in a stage are worded so, the oldest first. -/
def failuresOf (s : Stage) (turns : List Turn) : List String :=
  turnTexts (InterfaceReconciler.hasDump (askedIn (turns.filter (·.stage == .interfaces))))
    (turns.filter (·.stage == s))

/-- A report accounts for the turns of a run: for each stage it has the last thing that failed, if
anything did. -/
structure Report.AccountsFor (wanted : DesiredState) (turns : List Turn) (report : Report) :
    Prop where
  /-- Mappings are due for creation as the agenda says. -/
  destinations : DestinationTurns wanted.destinations (turns.filter (·.stage == .destinations))
  outcomes : report.outcomes =
    (Run.stages wanted).map fun s => ⟨s, (failuresOf s turns).getLast?⟩
  isSuccess : report.isSuccess = true ↔ ∀ t ∈ turns, t.fails = false
  failures : ∀ s, s ∈ report.failures.map (·.stage) ↔ ∃ t ∈ turns, t.stage = s ∧ t.fails = true

section

variable {s : Stage} {turns : List Turn}

theorem filter_stage_self (own : ∀ t ∈ turns, t.stage = s) :
    turns.filter (·.stage == s) = turns := by
  rw [List.filter_eq_self]
  exact fun t mem => beq_iff_eq.mpr (own t mem)

theorem filter_stage_ne (other : ∀ t ∈ turns, t.stage ≠ s) : turns.filter (·.stage == s) = [] := by
  rw [List.filter_eq_nil_iff]
  exact fun t mem same => other t mem (beq_iff_eq.mp same)

end

namespace Run

variable {dumped : Bool} {turns turns' : List (List Turn)} {outcomes outcomes' : List StageOutcome}
variable {ts : List Turn} {o : StageOutcome}

/-- The turns of some stages are of those stages. -/
theorem stage_of_mem_flatten (accounted : Accounted dumped turns outcomes) :
    ∀ t ∈ turns.flatten, t.stage ∈ outcomes.map (·.stage) := by
  induction accounted with
  | nil => exact fun t mem => absurd mem List.not_mem_nil
  | cons first _ ih =>
    intro t mem
    rw [List.flatten_cons] at mem
    rw [List.map_cons, List.mem_cons]
    exact (List.mem_append.mp mem).imp (first.own t) (ih t)

/-- Among the turns of different stages are exactly those of each. -/
theorem filter_flatten (before : Accounted dumped turns outcomes)
    (own : StageOutcome.Accounts dumped ts o) (after : Accounted dumped turns' outcomes')
    (distinct : ((outcomes ++ o :: outcomes').map (·.stage)).Nodup) :
    (turns ++ ts :: turns').flatten.filter (·.stage == o.stage) = ts := by
  rw [List.map_append, List.map_cons, List.nodup_middle, List.nodup_cons, List.mem_append,
    not_or] at distinct
  rw [List.flatten_append, List.flatten_cons, List.filter_append, List.filter_append,
    filter_stage_ne, filter_stage_self own.own, filter_stage_ne, List.append_nil, List.nil_append]
  · exact fun t mem same => distinct.1.2 (same ▸ stage_of_mem_flatten after t mem)
  · exact fun t mem same => distinct.1.1 (same ▸ stage_of_mem_flatten before t mem)

/-- Each stage ended as its turns among all say. -/
theorem getLast?_filter_flatten (accounted : Accounted dumped turns outcomes)
    (distinct : (outcomes.map (·.stage)).Nodup) :
    ∀ o ∈ outcomes,
      (turnTexts dumped (turns.flatten.filter (·.stage == o.stage))).getLast? = o.error := by
  intro o mem
  obtain ⟨before, after, rfl⟩ := List.append_of_mem mem
  have front := List.forall₂_take_append turns before (o :: after) accounted
  have back := List.forall₂_drop_append turns before (o :: after) accounted
  obtain ⟨ts, turns', own, rest, same⟩ := List.forall₂_cons_right_iff.mp back
  have parts : turns = turns.take before.length ++ ts :: turns' := by
    rw [← same, List.take_append_drop]
  rw [parts, filter_flatten front own rest distinct]
  exact own.last

/-- The stages that failed are those in which a turn did. -/
theorem exists_failed_iff (accounted : Accounted dumped turns outcomes)
    (distinct : (outcomes.map (·.stage)).Nodup) (s : Stage) :
    (∃ o ∈ outcomes, o.error.isSome = true ∧ o.stage = s) ↔
      ∃ t ∈ turns.flatten, t.stage = s ∧ t.fails = true := by
  have each := getLast?_filter_flatten accounted distinct
  constructor
  · rintro ⟨o, mem, failed, rfl⟩
    rw [← each o mem] at failed
    obtain ⟨t, ht, fails⟩ := isSome_getLast?_turnTexts.mp failed
    obtain ⟨there, own⟩ := List.mem_filter.mp ht
    exact ⟨t, there, beq_iff_eq.mp own, fails⟩
  · rintro ⟨t, there, rfl, fails⟩
    obtain ⟨o, mem, same⟩ := List.mem_map.mp (stage_of_mem_flatten accounted t there)
    refine ⟨o, mem, ?_, same⟩
    rw [← each o mem]
    refine isSome_getLast?_turnTexts.mpr ⟨t, List.mem_filter.mpr ⟨there, ?_⟩, fails⟩
    exact beq_iff_eq.mpr same.symm

/-- A run has each of its stages once. -/
theorem nodup_stages (wanted : DesiredState) : (stages wanted).Nodup := by
  unfold stages
  split <;> decide

/-- A report accounts for the turns of its stages, of which the first one is about interfaces and
the last one about groups. -/
theorem accountsFor_flatten {wanted : DesiredState} {report : Report} {first last : List Turn}
    (split_ : report.outcomes = outcomes ++ [o])
    (accounted : Accounted (InterfaceReconciler.hasDump (askedIn first)) (first :: turns) outcomes)
    (own : StageOutcome.Accounts (InterfaceReconciler.hasDump (askedIn first)) last o)
    (stages_ : report.outcomes.map (·.stage) = stages wanted) (ends : o.stage = .destinations)
    (destinations : DestinationTurns wanted.destinations last) :
    report.AccountsFor wanted (first :: (turns ++ [last])).flatten := by
  have distinct : (report.outcomes.map (·.stage)).Nodup := stages_ ▸ nodup_stages wanted
  have all : Accounted (InterfaceReconciler.hasDump (askedIn first)) (first :: (turns ++ [last]))
      report.outcomes := by
    rw [split_]
    exact List.rel_append accounted (.cons own .nil)
  have interfaces :
      (first :: (turns ++ [last])).flatten.filter (·.stage == .interfaces) = first := by
    cases accounted with
    | @cons _ o₁ _ os own₁ rest =>
      rw [split_] at stages_ distinct
      obtain starts : o₁.stage = .interfaces := (List.cons.inj stages_).1
      rw [← starts]
      exact filter_flatten .nil own₁ (List.rel_append rest (.cons own .nil)) distinct
  have destinations_ :
      (first :: (turns ++ [last])).flatten.filter (·.stage == .destinations) = last := by
    rw [split_] at distinct
    rw [← ends]
    exact filter_flatten accounted own .nil distinct
  have failed := exists_failed_iff all distinct
  refine ⟨?_, ?_, ?_, fun s => ?_⟩
  · rwa [destinations_]
  · rw [← stages_, List.map_map]
    refine (List.map_id _).symm.trans (List.map_congr_left fun o mem => ?_)
    have ended := getLast?_filter_flatten all distinct o mem
    simp only [Function.comp_apply, failuresOf, interfaces, ended]
    rfl
  · rw [Report.isSuccess, List.all_eq_true]
    constructor
    · intro well t mem
      by_contra fails
      obtain ⟨o, there, error, -⟩ := (failed t.stage).mpr ⟨t, mem, rfl, by simpa using fails⟩
      rw [Option.isNone_iff_eq_none.mp (well o there)] at error
      contradiction
    · intro well o there
      by_contra error
      have failed_ : o.error.isSome = true := Option.isSome_iff_ne_none.mpr (by simpa using error)
      obtain ⟨t, mem, -, fails⟩ := (failed o.stage).mp ⟨o, there, failed_, rfl⟩
      rw [well t mem] at fails
      contradiction
  · rw [← failed s]
    simp [Report.failures, and_assoc]

/-- The report of the tasks accounts for their turns. -/
theorem accountsFor_collect {skipRefresh : Bool} {wanted : DesiredState} {ds₁ ds₂ ds₃ : List Deed}
    {links detection nat : TaskReport} (trace₁ : (linkTask skipRefresh wanted).Trace ds₁ links)
    (trace₂ : (detectionTask wanted).Trace ds₂ detection)
    (trace₃ : (natTask wanted).Trace ds₃ nat) :
    ∃ turns, askedIn turns = exchanges ds₁ ++ exchanges ds₂ ++ exchanges ds₃ ∧
      (collect links detection nat).AccountsFor wanted turns := by
  obtain ⟨first, second, asked₁, accounted₁, stages₁⟩ := trace_linkTask_turns trace₁
  obtain ⟨turns₂, asked₂, accounted₂, stages₂⟩ := trace_detectionTask_turns trace₂
  obtain ⟨turns₃, last, outcomes, o, asked₃, split_, accounted₃, stages₃, ends, destinations⟩ :=
    trace_natTask_turns trace₃
  have front := List.rel_append (List.rel_append accounted₁ (accounted₂ _)) (accounted₃ _).1
  refine ⟨(first :: (second :: turns₂ ++ turns₃ ++ [last])).flatten, ?_, ?_⟩
  · simp [← asked₁, ← asked₂, ← asked₃]
  · refine accountsFor_flatten ?_ front (accounted₃ _).2 ?_ ends destinations
    · simp [collect, split_]
    · simp [collect, split_, stages₁, stages₂, stages₃, ends, stages]

/-- Whatever a dataplane answers, the report of a run is exact.  That is so of the report of its
tasks, in whatever turns these are done, and of a run with its tasks one after the other. -/
theorem reports_exact :
    (∀ skipRefresh wanted ds₁ ds₂ ds₃ links detection nat,
      (linkTask skipRefresh wanted).Trace ds₁ links →
      (detectionTask wanted).Trace ds₂ detection →
      (natTask wanted).Trace ds₃ nat →
      ∃ turns, askedIn turns = exchanges ds₁ ++ exchanges ds₂ ++ exchanges ds₃ ∧
        (collect links detection nat).AccountsFor wanted turns) ∧
    ∀ strategy skipRefresh wanted ds report,
      (program strategy skipRefresh wanted).Trace ds report → report.skipped = false →
      ∃ before turns, exchanges ds = exchanges before ++ askedIn turns ∧
        Prechecked strategy before ∧ report.AccountsFor wanted turns := by
  refine ⟨fun _ _ _ _ _ _ _ _ => accountsFor_collect, ?_⟩
  intro strategy skipRefresh wanted ds report trace ran
  obtain ⟨before, prechecked, ⟨skipped, -, -⟩ |
    ⟨ds₁, ds₂, ds₃, links, detection, nat, trace₁, trace₂, trace₃, rfl, rfl⟩⟩ := program_cases trace
  · rw [ran] at skipped
    contradiction
  · obtain ⟨turns, asked, accounts⟩ := accountsFor_collect trace₁ trace₂ trace₃
    exact ⟨before, turns, by simp [asked], prechecked, accounts⟩

/-- An interface that is to be created, and a group with a mapping that has no endpoint. -/
def lossyState : DesiredState where
  interfaces := [{ name := "uplink" }]
  destinations :=
    [{ label := "web"
       statics :=
        [{ externalAddress := "192.0.2.1", externalPort := 80 },
          { externalAddress := "192.0.2.1", externalPort := 443
            locals := [{ address := "10.0.0.1", port := 8443 }] }] }]

/-- The report of a run in which the interface is refused, as is the dump of the sessions, and in
which the mapping cannot be created. -/
theorem reports_exact_lossy :
    ∃ report t before turns, Trial.run (program .full true lossyState)
        { simulation := {}
          refusals := [none, none, some "busy", none, none, some "timeout"] } = some (report, t) ∧
      exchanges t.deeds = exchanges before ++ askedIn turns ∧ Prechecked .full before ∧
      report.AccountsFor lossyState turns ∧
      report.failures =
        [⟨.interfaces, some "failed to configure interface uplink: busy"⟩,
          ⟨.sessions, some "failed to dump BFD sessions: timeout"⟩,
          ⟨.destinations,
            some "DNAT web: mapping stmap||192.0.2.1|80|tcp|disabled| has no local endpoint"⟩] := by
  have goes : (Trial.run (program .full true lossyState)
      { simulation := {}
        refusals := [none, none, some "busy", none, none, some "timeout"] }).any (fun x =>
      !x.1.skipped && x.1.failures ==
        [⟨.interfaces, some "failed to configure interface uplink: busy"⟩,
          ⟨.sessions, some "failed to dump BFD sessions: timeout"⟩,
          ⟨.destinations,
            some "DNAT web: mapping stmap||192.0.2.1|80|tcp|disabled| has no local endpoint"⟩]) =
      true := by
    decide +kernel
  obtain ⟨⟨report, t⟩, result, ran⟩ := (Option.any_eq_true _ _).mp goes
  obtain ⟨went, failed⟩ := Bool.and_eq_true_iff.mp ran
  obtain ⟨ds, deeds, trace⟩ := Trial.trace_of_run result
  obtain rfl : t.deeds = ds := deeds
  obtain ⟨before, turns, asked, prechecked, accounts⟩ :=
    reports_exact.2 .full true lossyState t.deeds report trace (Bool.not_eq_true' _ |>.mp went)
  exact ⟨report, t, before, turns, result, asked, prechecked, accounts, eq_of_beq failed⟩

end Run

end DataplaneSync
