import DataplaneSync.Audit.Event
import DataplaneSync.Audit.Timestamp
import DataplaneSync.Json.Printer

namespace DataplaneSync

/-!
# Audit records

An audit record is an event with the time at which it happened.
-/

/-- An event and its time. -/
structure AuditRecord where
  time : Timestamp
  event : AuditEvent

namespace AuditRecord

/-- The JSON form: the time comes first. -/
def toJson (r : AuditRecord) : Json :=
  .obj (("timestamp", .str r.time.toText) :: r.event.members)

/-- The written record. -/
def render (r : AuditRecord) : String := Json.render r.toJson

/-- What has been read of a record. -/
structure Draft where
  time : Option Timestamp := none
  category : Option AuditCategory := none
  source : Option String := none
  action : Option String := none
  outcome : Option AuditOutcome := none
  objectId : Option String := none
  objectType : Option String := none
  details : Option Json := none
  error : Option String := none
  correlationId : Option String := none

/-- Instants, by their texts. -/
def timeCodec : Codec Timestamp where
  read d := Codec.expected ((Document.text? d).bind Timestamp.ofText?)
  write t := .str t.toText

/-- A member that a record cannot do without. -/
def needed {α : Type} (c : Codec α) : Codec (Option α) where
  read d := (c.read d).map some
  write := Json.opt c.write

/-- The members of a record but the details. -/
def draftCodec : Codec Draft :=
  Codec.record {}
    [.make "timestamp" (needed timeCodec) Draft.time (fun v r => { r with time := v }),
     .make "category" (needed AuditCategory.codec) Draft.category
      (fun v r => { r with category := v }),
     .make "source" (needed Codec.text) Draft.source (fun v r => { r with source := v }),
     .make "action" (needed Codec.text) Draft.action (fun v r => { r with action := v }),
     .make "outcome" (needed AuditOutcome.codec) Draft.outcome
      (fun v r => { r with outcome := v }),
     .make "object_id" (Codec.option Codec.text) Draft.objectId
      (fun v r => { r with objectId := v }),
     .make "object_type" (Codec.option Codec.text) Draft.objectType
      (fun v r => { r with objectType := v }),
     .make "error" (Codec.option Codec.text) Draft.error (fun v r => { r with error := v }),
     .make "correlation_id" (Codec.option Codec.text) Draft.correlationId
      (fun v r => { r with correlationId := v })]

/-- Read a record.  Details of `null` are none. -/
def ofJson? (j : Json) : Option AuditRecord := do
  let draft ← (draftCodec.read j).toOption
  let details := (j.member? "details").filter (!·.isNull)
  pure
    { time := ← draft.time
      event :=
        { category := ← draft.category
          source := ← draft.source
          action := ← draft.action
          outcome := ← draft.outcome
          objectId := draft.objectId
          objectType := draft.objectType
          details := details
          error := draft.error
          correlationId := draft.correlationId } }

end AuditRecord

end DataplaneSync
