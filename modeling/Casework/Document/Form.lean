import Casework.Document.Record
import Casework.Submission

/-! Attachments and submissions as documents. -/

namespace Casework
open Document (field fieldIfAny record Fields)

/-- The kinds of content. -/
inductive ContentKind where
  | file
  | text
  deriving DecidableEq

instance : Named ContentKind where
  all := [.file, .text]
  name
    | .file => "file"
    | .text => "text"

/-- The kind of a piece of content and its other parts: an object names the kind, once, beside
    them, a list has it in front of them. All of the parts must have values. -/
def ContentKind.split? (source : Json.Source) : Option (ContentKind × Json.Source) := do
  discard source.value?
  match source.members?, source.items? with
  | some members, _ =>
    if source.repeats ["kind"] then none
    return (← Named.ofName? (← (← members.lookup "kind").text?), source)
  | none, some (kind :: items) => return (← Named.ofName? (← kind.text?), .list items)
  | none, _ => none

/-- Content is written with its kind beside its parts. -/
instance : Document Content where
  encode
    | .file location mediaType => record [
      field "kind" ContentKind.file,
      field "location" location,
      field "content_type" mediaType]
    | .text body => record [
      field "kind" ContentKind.text,
      field "body" body]
  read? source := do
    match ← ContentKind.split? source with
    | (.file, parts) =>
      let fields ← Fields.of? ["location", "content_type"] parts
      return .file (← fields.required "location") (← fields.required "content_type")
    | (.text, parts) =>
      let fields ← Fields.of? ["body"] parts
      return .text (← fields.required "body")

instance : Document Attachment where
  encode a := record [
    field "id" a.id,
    field "name" a.name,
    field "kind" a.content,
    field "user_id" a.user,
    field "created_at" a.created]
  read? source := do
    let fields ← Fields.of? ["id", "name", "kind", "user_id", "created_at"] source
    return {
      id := ← fields.required "id"
      name := ← fields.required "name"
      content := ← fields.required "kind"
      user := ← fields.required "user_id"
      created := ← fields.required "created_at" }

instance : Document Submission where
  encode s := record [
    field "id" s.id,
    field "process_definition_key" s.processKey,
    fieldIfAny "process_instance_id" s.instanceId,
    fieldIfAny "task_id" s.taskId,
    field "action" s.action,
    field "data" s.data,
    fieldIfAny "process_instance_label" s.label,
    field "attachment_ids" s.attachmentIds,
    field "submitter_id" s.submitter,
    field "submitted_at" s.time]
  read? source := do
    let fields ← Fields.of? ["id", "process_definition_key", "process_instance_id", "task_id",
      "action", "data", "process_instance_label", "attachment_ids", "submitter_id",
      "submitted_at"] source
    return {
      id := ← fields.required "id"
      processKey := ← fields.required "process_definition_key"
      instanceId := ← fields.optional "process_instance_id"
      taskId := ← fields.optional "task_id"
      action := ← fields.required "action"
      data := ← fields.required "data"
      label := ← fields.optional "process_instance_label"
      attachmentIds := ← fields.withDefault "attachment_ids" []
      submitter := ← fields.required "submitter_id"
      time := ← fields.required "submitted_at" }

end Casework
