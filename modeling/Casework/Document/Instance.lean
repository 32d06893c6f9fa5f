import Casework.Document.Form
import Casework.Document.Work
import Casework.Instance

/-! Process instances as documents. -/

namespace Casework
open Document (field fieldIfAny record Fields)

instance : Document Instance where
  encode i := record [
    field "process_instance_id" i.id,
    field "process_definition_key" i.processKey,
    field "deployment_id" i.deploymentId,
    field "process_instance_label" i.label,
    field "process_status" i.status,
    fieldIfAny "application_status" i.applicationStatus,
    fieldIfAny "application_status_explanation" i.explanation,
    fieldIfAny "previous_application_status" i.previousApplicationStatus,
    field "data" i.data,
    field "attachment_ids" i.attachments,
    field "submission_ids" i.submissions,
    field "tasks" i.tasks,
    field "operations" i.operations,
    fieldIfAny "engine_instance_id" i.engineId,
    fieldIfAny "initiator_id" i.initiator,
    field "start_time" i.start,
    fieldIfAny "end_time" i.finish,
    field "last_modified_time" i.modified,
    field "version" i.version]
  read? source := do
    let fields ← Fields.of? ["process_instance_id", "process_definition_key", "deployment_id",
      "process_instance_label", "process_status", "application_status",
      "application_status_explanation", "previous_application_status", "data",
      "attachment_ids", "submission_ids", "tasks", "operations", "engine_instance_id",
      "initiator_id", "start_time", "end_time", "last_modified_time", "version"] source
    return {
      id := ← fields.required "process_instance_id"
      processKey := ← fields.required "process_definition_key"
      deploymentId := ← fields.required "deployment_id"
      label := ← fields.required "process_instance_label"
      status := ← fields.required "process_status"
      applicationStatus := ← fields.optional "application_status"
      explanation := ← fields.optional "application_status_explanation"
      previousApplicationStatus := ← fields.optional "previous_application_status"
      data := ← fields.withDefault "data" ∅
      attachments := ← fields.withDefault "attachment_ids" ∅
      submissions := ← fields.withDefault "submission_ids" ∅
      tasks := ← fields.withDefault "tasks" ∅
      operations := ← fields.withDefault "operations" []
      engineId := ← fields.optional "engine_instance_id"
      initiator := ← fields.optional "initiator_id"
      start := ← fields.required "start_time"
      finish := ← fields.optional "end_time"
      modified := ← fields.required "last_modified_time"
      version := ← fields.withDefault "version" 0 }

end Casework
