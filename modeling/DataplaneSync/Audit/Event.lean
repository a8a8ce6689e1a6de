import DataplaneSync.Codec

namespace DataplaneSync

/-!
# Audit events

What a pass reports about a change it asked the dataplane for.

* `AuditEvent` — category, source and action of the change, its outcome and the object.
* `AuditEvent.succeeded`, `failed`, `skipped` — an event with its outcome.
* `AuditSubject` — what an action is about, from which its event is made.
-/

/-- What an event is about. -/
inductive AuditCategory where
  /-- An object was created. -/
  | create
  /-- An object was modified in place. -/
  | modify
  /-- An object was removed. -/
  | delete
  /-- A name was written into the dataplane. -/
  | tag
  /-- A run started or ended. -/
  | resync
  /-- A dump failed. -/
  | errorCondition
  deriving DecidableEq

/-- The name of a category. -/
def AuditCategory.name : AuditCategory → String
  | .create => "RESOURCE_CREATE"
  | .modify => "RESOURCE_MODIFY"
  | .delete => "RESOURCE_DELETE"
  | .tag => "RESOURCE_TAG"
  | .resync => "RESYNC"
  | .errorCondition => "ERROR_CONDITION"

/-- Categories, by name. -/
def AuditCategory.codec : Codec AuditCategory :=
  Codec.choice AuditCategory.name [.create, .modify, .delete, .tag, .resync, .errorCondition]

/-- How an action ended. -/
inductive AuditOutcome where
  | success
  | failure
  | inProgress
  /-- Nothing was sent to the dataplane. -/
  | skipped
  deriving DecidableEq

/-- The name of an outcome in messages. -/
def AuditOutcome.name : AuditOutcome → String
  | .success => "success"
  | .failure => "failure"
  | .inProgress => "in_progress"
  | .skipped => "skipped"

/-- Outcomes, by their names in documents, which have no separators. -/
def AuditOutcome.codec : Codec AuditOutcome :=
  Codec.choice
    (fun
      | .success => "success"
      | .failure => "failure"
      | .inProgress => "inprogress"
      | .skipped => "skipped")
    [.success, .failure, .inProgress, .skipped]

/-- What is reported about an action. -/
structure AuditEvent where
  category : AuditCategory
  /-- The reconciler that acted. -/
  source : String
  action : String
  outcome : AuditOutcome := .inProgress
  objectId : Option String := none
  objectType : Option String := none
  details : Option Json := none
  error : Option String := none
  /-- The pass that the event belongs to. -/
  correlationId : Option String := none

namespace AuditEvent

/-- The event with the outcome of an action that went well. -/
def succeeded (e : AuditEvent) : AuditEvent := { e with outcome := .success }

/-- The event of an action that failed for the given reason. -/
def failed (e : AuditEvent) (reason : String) : AuditEvent :=
  { e with outcome := .failure, error := some reason }

/-- The event of an action that was not tried. -/
def skipped (e : AuditEvent) : AuditEvent := { e with outcome := .skipped }

/-- A member that is left out where there is no value. -/
def optionalMember {α : Type} (name : String) (write : α → Json) : Option α → List (String × Json)
  | some a => [(name, write a)]
  | none => []

/-- The members of the JSON form, in order; what an event does not say is left out. -/
def members (e : AuditEvent) : List (String × Json) :=
  [("category", AuditCategory.codec.write e.category), ("source", .str e.source),
    ("action", .str e.action), ("outcome", AuditOutcome.codec.write e.outcome)] ++
  optionalMember "object_id" .str e.objectId ++
  optionalMember "object_type" .str e.objectType ++
  optionalMember "details" id e.details ++
  optionalMember "error" .str e.error ++
  optionalMember "correlation_id" .str e.correlationId

/-- The JSON form. -/
def toJson (e : AuditEvent) : Json := .obj e.members

end AuditEvent

/-! ### Subjects -/

/-- What an action is about, before it is known how it ends. -/
structure AuditSubject where
  source : String
  objectType : String
  objectId : String
  details : Option Json := none
  correlationId : Option String := none

/-- The event of an action about a subject, under way. -/
def AuditSubject.event (s : AuditSubject) (category : AuditCategory) (action : String) :
    AuditEvent where
  category := category
  source := s.source
  action := action
  objectId := some s.objectId
  objectType := some s.objectType
  details := s.details
  correlationId := s.correlationId

end DataplaneSync
