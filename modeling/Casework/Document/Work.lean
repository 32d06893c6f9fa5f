import Casework.Document.Record
import Casework.Operation

/-! Tasks, operations and outcomes as documents. -/

namespace Casework
open Document (field fieldIfAny record Fields)

instance : Document Task where
  encode t := record [
    field "task_id" t.id,
    field "task_definition_key" t.definition,
    fieldIfAny "task_label" t.label,
    fieldIfAny "assignee_id" t.assignee,
    field "candidate_assignee_ids" t.candidates,
    field "active" t.active,
    field "complete" t.complete,
    field "priority" t.priority,
    fieldIfAny "due_date" t.due,
    field "start_time" t.start,
    fieldIfAny "end_time" t.finish]
  read? source := do
    let fields ← Fields.of? ["task_id", "task_definition_key", "task_label", "assignee_id",
      "candidate_assignee_ids", "active", "complete", "priority", "due_date", "start_time",
      "end_time"] source
    return {
      id := ← fields.required "task_id"
      definition := ← fields.required "task_definition_key"
      label := ← fields.optional "task_label"
      assignee := ← fields.optional "assignee_id"
      candidates := ← fields.withDefault "candidate_assignee_ids" ∅
      active := ← fields.required "active"
      complete := ← fields.required "complete"
      priority := ← fields.required "priority"
      due := ← fields.optional "due_date"
      start := ← fields.required "start_time"
      finish := ← fields.optional "end_time" }

instance : Document Operation where
  encode o := record [
    field "id" o.id,
    field "operation_type" o.kind,
    fieldIfAny "explanation" o.explanation,
    field "timestamp" o.time,
    field "acting_user_id" o.user]
  read? source := do
    let fields ← Fields.of?
      ["id", "operation_type", "explanation", "timestamp", "acting_user_id"] source
    return {
      id := ← fields.required "id"
      kind := ← fields.required "operation_type"
      explanation := ← fields.optional "explanation"
      time := ← fields.required "timestamp"
      user := ← fields.required "acting_user_id" }

instance : Document Outcome where
  encode o := record [
    fieldIfAny "application_status" o.applicationStatus,
    fieldIfAny "application_status_explanation" o.explanation,
    fieldIfAny "task" o.task]
  read? source := do
    let fields ← Fields.of?
      ["application_status", "application_status_explanation", "task"] source
    return {
      applicationStatus := ← fields.optional "application_status"
      explanation := ← fields.optional "application_status_explanation"
      task := ← fields.optional "task" }

end Casework
