import DataplaneSync.Bfd.Basic
import DataplaneSync.Dataplane.Pass
import DataplaneSync.Registry

namespace DataplaneSync

/-!
# Reconciliation of forwarding detection

Passes over sessions and over authentication keys, and the choice of the echo source.

* `BfdObjects α` — what a pass has to know about the objects `α` it reconciles.
* `BfdObjects.reconcile` — one pass: wanted objects that the dataplane has are registered and
  modified if they differ, the others are created, and what is registered by no wanted object
  is removed.  A refused change does not end the pass; it reports the last one.
* `BfdReconciler.reconcileEcho` — the first wanted echo source is set; the dataplane cannot
  tell which one it has.
-/

/-- Why a pass over BFD objects failed. -/
inductive BfdFailure where
  | dumpSessions (reason : String)
  | dumpKeys (reason : String)
  /-- A change of a session was refused. -/
  | changeSession (kind : CallKind) (endpoints : String) (reason : String)
  /-- A change of an authentication key was refused. -/
  | changeKey (kind : CallKind) (id : UInt32) (reason : String)
  | setEcho (interface : String) (reason : String)
  /-- The reconciler is not connected to a dataplane. -/
  | disconnected
  deriving DecidableEq

/-- The wording of a failure. -/
def BfdFailure.message : BfdFailure → String
  | dumpSessions reason => s!"failed to dump BFD sessions: {reason}"
  | dumpKeys reason => s!"failed to dump BFD authentication keys: {reason}"
  | changeSession kind endpoints reason =>
    s!"failed to {kind.name} BFD session {endpoints}: {reason}"
  | changeKey kind id reason => s!"failed to {kind.name} BFD authentication key {id.toNat}: {reason}"
  | setEcho interface reason => s!"failed to set {interface} as BFD echo source: {reason}"
  | disconnected => "no callbacks set"

/-- How many objects of a kind were created, modified and removed. -/
structure ChangeCounts where
  created : Nat := 0
  modified : Nat := 0
  removed : Nat := 0
  deriving DecidableEq

/-- Count one more change. -/
def ChangeCounts.record (c : ChangeCounts) : CallKind → ChangeCounts
  | .create => { c with created := c.created + 1 }
  | .modify => { c with modified := c.modified + 1 }
  | .delete => { c with removed := c.removed + 1 }
  | .dump => c
  | .tag => c

/-- What all passes over BFD objects did so far. -/
structure BfdStats where
  sessions : ChangeCounts := {}
  keys : ChangeCounts := {}
  echoConfigured : Nat := 0
  failures : Nat := 0
  deriving DecidableEq

/-- What is known about the BFD objects. -/
structure BfdReconciler where
  /-- Whether there is a dataplane to call. -/
  connected : Bool := true
  /-- The sessions, by interface. -/
  sessions : Registry BfdSession := ∅
  /-- The keys, by the names of their numbers. -/
  keys : Registry BfdKey := ∅
  /-- The echo source, by its interface. -/
  echo : Registry BfdEcho := ∅
  counter : IndexCounter := {}
  stats : BfdStats := {}

namespace BfdReconciler

/-- A pass over BFD objects, or a part of one. -/
abbrev Step : Type → Type := Pass BfdReconciler BfdFailure

/-- Refuse to go on without a dataplane. -/
def requireConnection : Step Unit := do
  let r ← get
  if r.connected then pure () else throw .disconnected

/-- Count the failures of a pass and end it with the last of them. -/
def finish (tally : FailureTally BfdFailure) : Step Unit := do
  modify fun r => { r with stats := { r.stats with failures := r.stats.failures + tally.count } }
  Pass.conclude tally

end BfdReconciler

/-! ### Passes over sessions or keys -/

/-- What a pass has to know about the objects `α` it reconciles. -/
structure BfdObjects (α : Type) where
  /-- The type of the objects in reports. -/
  type : String
  /-- Whether an actual object counts as a wanted one. -/
  counterpart : (wanted actual : α) → Bool
  /-- Whether a counterpart has to be modified. -/
  differs : (wanted actual : α) → Bool
  /-- The name under which an object is registered. -/
  registryName : α → String
  /-- The name of an object in reports. -/
  label : α → String
  dump : BfdReconciler.Step (List α)
  create : α → BfdCall
  change : (actual wanted : α) → BfdCall
  delete : α → BfdCall
  failure : CallKind → α → String → BfdFailure
  /-- The registry of the objects. -/
  registry : BfdReconciler → Registry α
  setRegistry : Registry α → BfdReconciler → BfdReconciler
  /-- Count a change. -/
  count : CallKind → BfdStats → BfdStats

namespace BfdObjects

variable {α : Type}

/-- A pass over the objects that goes on after failures, or a part of one. -/
abbrev Step : Type → Type := Sweep BfdReconciler BfdFailure

/-- Make a change and count it; a refusal is tallied. -/
def apply (o : BfdObjects α) (call : BfdCall) (kind : CallKind) (x : α)
    (after : BfdReconciler → BfdReconciler) : Step Unit :=
  Sweep.tolerate do
    let _ ← Pass.change (.bfd call)
      (fun _ => { source := "BfdOrch", objectType := o.type, objectId := o.label x })
      (o.failure kind x)
    modify after
    modify fun r => { r with stats := o.count kind r.stats }

/-- Register an object under the next index. -/
def enroll (o : BfdObjects α) (x : α) (r : BfdReconciler) : BfdReconciler :=
  let (index, counter) := r.counter.mint
  { o.setRegistry ((o.registry r).register (o.registryName x) index x) r with counter := counter }

/-- Register a wanted object that the dataplane has, and modify it if it differs. -/
def keep (o : BfdObjects α) (wanted actual : α) : Step Unit := do
  Sweep.update (o.enroll wanted)
  if o.differs wanted actual then o.apply (o.change actual wanted) .modify wanted id else pure ()

/-- Deal with a wanted object: keep every counterpart it has, or create it. -/
def settle (o : BfdObjects α) (actual : List α) (wanted : α) : Step Unit :=
  let counterparts := actual.filter (o.counterpart wanted)
  if counterparts.isEmpty then o.apply (o.create wanted) .create wanted (o.enroll wanted)
  else counterparts.forM (o.keep wanted)

/-- Remove an actual object unless its name is registered. -/
def clean (o : BfdObjects α) (actual : α) : Step Unit := do
  let r ← Sweep.state
  if (o.registry r).contains (o.registryName actual) then pure ()
  else o.apply (o.delete actual) .delete actual id

/-- Bring the objects of the dataplane to the wanted ones. -/
def reconcile (o : BfdObjects α) (wanted : List α) : BfdReconciler.Step Unit := do
  BfdReconciler.requireConnection
  modify fun r => { o.setRegistry ∅ r with counter := {} }
  let actual ← o.dump
  let tally ← Pass.sweeping do
    wanted.forM (o.settle actual)
    actual.forM o.clean
  BfdReconciler.finish tally

end BfdObjects

/-! ### The objects -/

namespace BfdReconciler

/-- Sessions: the endpoints identify them, the interface names them. -/
def sessionObjects : BfdObjects BfdSession where
  type := "bfd_session"
  counterpart := BfdSession.sameEndpoints
  differs := BfdSession.differs
  registryName := BfdSession.interface
  label := BfdSession.key
  dump := Pass.dump (.bfd .dumpSessions) .dumpSessions
  create := .configureSession
  change := .modifySession
  delete := .deleteSession
  failure kind s := .changeSession kind s.key
  registry := sessions
  setRegistry registry r := { r with sessions := registry }
  count kind s := { s with sessions := s.sessions.record kind }

/-- Keys: the number identifies and names them. -/
def keyObjects : BfdObjects BfdKey where
  type := "bfd_auth_key"
  counterpart wanted actual := actual.id == wanted.id
  differs := BfdKey.differs
  registryName k := BfdKey.registryName k.id
  label k := BfdKey.registryName k.id
  dump := Pass.dump (.bfd .dumpKeys) .dumpKeys
  create := .configureKey
  change := .modifyKey
  delete := .deleteKey
  failure kind k := .changeKey kind k.id
  registry := keys
  setRegistry registry r := { r with keys := registry }
  count kind s := { s with keys := s.keys.record kind }

/-- Bring the sessions of the dataplane to the wanted ones. -/
def reconcileSessions (wanted : List BfdSession) : Step Unit := sessionObjects.reconcile wanted

/-- Bring the authentication keys of the dataplane to the wanted ones. -/
def reconcileKeys (wanted : List BfdKey) : Step Unit := keyObjects.reconcile wanted

/-! ### Echo source -/

/-- Make an interface the echo source and register it. -/
def setEcho (echo : BfdEcho) : Step Unit := do
  Pass.change (.bfd (.configureEcho echo))
    (fun _ =>
      { source := "BfdOrch"
        objectType := "bfd_echo_function"
        objectId := echo.sourceInterface })
    (.setEcho echo.sourceInterface)
  modify fun r =>
    { r with
      echo := r.echo.register echo.sourceInterface 0 echo
      stats := { r.stats with echoConfigured := r.stats.echoConfigured + 1 } }

/-- Set the first wanted echo source.  If none is wanted, nothing changes. -/
def reconcileEcho : List BfdEcho → Step Unit
  | [] => pure ()
  | echo :: _ => do
    requireConnection
    modify fun r => { r with echo := ∅ }
    let tally ← Pass.sweeping (Sweep.tolerate (setEcho echo))
    finish tally

end BfdReconciler

end DataplaneSync
