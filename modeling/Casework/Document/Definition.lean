import Casework.Document.Record
import Casework.Definition

/-! Processes, deployments, principals, notifications and notices as documents. -/

namespace Casework
open Document (field fieldIfAny record Fields)

instance : Document Notification where
  encode n := record [
    field "name" n.name,
    field "trigger" n.trigger,
    field "recipients" n.recipients,
    field "subject_template" n.subject,
    field "body_template" n.body]
  read? source := do
    let fields ← Fields.of?
      ["name", "trigger", "recipients", "subject_template", "body_template"] source
    return {
      name := ← fields.required "name"
      trigger := ← fields.required "trigger"
      recipients := ← fields.required "recipients"
      subject := ← fields.required "subject_template"
      body := ← fields.required "body_template" }

instance : Document Notice where
  encode n := record [
    field "notification" n.notification,
    field "context" n.context,
    field "event_type" n.event,
    field "timestamp" n.time]
  read? source := do
    let fields ← Fields.of? ["notification", "context", "event_type", "timestamp"] source
    return {
      notification := ← fields.required "notification"
      context := ← fields.required "context"
      event := ← fields.required "event_type"
      time := ← fields.required "timestamp" }

instance : Document ProcessDefinition where
  encode p := record [
    field "process_definition_key" p.key,
    field "process_definition_label" p.label,
    fieldIfAny "instance_label_template" p.template,
    fieldIfAny "deployment_id" p.deploymentId]
  read? source := do
    let fields ← Fields.of? ["process_definition_key", "process_definition_label",
      "instance_label_template", "deployment_id"] source
    return {
      key := ← fields.required "process_definition_key"
      label := ← fields.required "process_definition_label"
      template := ← fields.optional "instance_label_template"
      deploymentId := ← fields.optional "deployment_id" }

instance : Document Deployment where
  encode d := record [
    field "deployment_id" d.id,
    field "process_definition_key" d.processKey,
    field "engine_process_definition_key" d.engineKey,
    fieldIfAny "initiation_status" d.initiationStatus,
    fieldIfAny "completion_status" d.completionStatus,
    fieldIfAny "cancellation_status" d.cancellationStatus,
    field "notifications" d.notifications]
  read? source := do
    let fields ← Fields.of? ["deployment_id", "process_definition_key",
      "engine_process_definition_key", "initiation_status", "completion_status",
      "cancellation_status", "notifications"] source
    return {
      id := ← fields.required "deployment_id"
      processKey := ← fields.required "process_definition_key"
      engineKey := ← fields.required "engine_process_definition_key"
      initiationStatus := ← fields.optional "initiation_status"
      completionStatus := ← fields.optional "completion_status"
      cancellationStatus := ← fields.optional "cancellation_status"
      notifications := ← fields.withDefault "notifications" [] }

instance : Document Entity where
  encode e := record [
    field "entity_id" e.id,
    fieldIfAny "display_name" e.displayName,
    field "kind" e.kind]
  read? source := do
    let fields ← Fields.of? ["entity_id", "display_name", "kind"] source
    return {
      id := ← fields.required "entity_id"
      displayName := ← fields.optional "display_name"
      kind := ← fields.required "kind" }

end Casework
