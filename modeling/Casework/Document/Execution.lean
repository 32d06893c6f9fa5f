import Casework.Document.Record
import Casework.Execution
import Casework.Reconciliation

/-! Executions, what is looked for among them, and records of agreement as documents. -/

namespace Casework
open Document (field fieldIfAny record Fields)

instance : Document Criteria where
  encode c := record [
    field "execution_id" c.executionId,
    field "business_key" c.businessKey,
    field "process_definition_key" c.definition]
  read? source := do
    let fields ← Fields.of? ["execution_id", "business_key", "process_definition_key"] source
    return {
      executionId := ← fields.nullable "execution_id"
      businessKey := ← fields.nullable "business_key"
      definition := ← fields.nullable "process_definition_key" }

instance : Document Execution where
  encode e := record [
    field "execution_id" e.id,
    field "business_key" e.businessKey,
    field "process_definition_key" e.definition,
    field "variables" e.bindings]
  read? source := do
    let fields ← Fields.of?
      ["execution_id", "business_key", "process_definition_key", "variables"] source
    return {
      id := ← fields.required "execution_id"
      businessKey := ← fields.required "business_key"
      definition := ← fields.required "process_definition_key"
      bindings := ← fields.required "variables" }

instance : Document SyncRecord where
  encode r := record [
    field "state" r.state,
    fieldIfAny "execution_id" r.executionId,
    field "reason" r.reason,
    field "updated_at" r.updated]
  read? source := do
    let fields ← Fields.of? ["state", "execution_id", "reason", "updated_at"] source
    return {
      state := ← fields.required "state"
      executionId := ← fields.optional "execution_id"
      reason := ← fields.nullable "reason"
      updated := ← fields.required "updated_at" }

end Casework
