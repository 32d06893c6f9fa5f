import Casework.Document.Definition
import Casework.Document.Execution
import Casework.Document.Instance
import Casework.Proofs.Documents
import Casework.Settings

/-!
Records are read back from their documents, and from the texts of these, as long as their times are
in the years 0 to 9999. Each record is read back field by field (`Task.legible`, `Instance.legible`
and so on). So all kinds of document have a written form that is read as what was written, and that
is what is written again (`DocumentKind.decode?_encode`).
-/

namespace Casework

open Document

def Task.times (t : Task) : List Instant := t.start :: (t.due.toList ++ t.finish.toList)

def TaskSet.times (s : TaskSet) : List Instant := s.values.flatMap Task.times

def OperationLog.times (log : OperationLog) : List Instant := log.map Operation.time

def Instance.times (i : Instance) : List Instant :=
  i.start :: i.modified :: (i.finish.toList ++ i.tasks.times ++ i.operations.times)

def Outcome.times (o : Outcome) : List Instant := o.task.toList.flatMap Task.times

variable {form : Form}

theorem Task.legible {t : Task} (years : ∀ time ∈ t.times, time.InYears) : Legible form t := by
  simp only [times, List.forall_mem_cons, List.forall_mem_append] at years
  obtain ⟨start, due, finish⟩ := years
  have start : Legible form t.start := legible_instant start
  have due : Legible form t.due := legible_times due
  have finish : Legible form t.finish := legible_times finish
  refine legible_record rfl (fun _ => rfl) (by simp) (by decide) ?_
  simp [*]

theorem TaskSet.legible {s : TaskSet} (years : ∀ time ∈ s.times, time.InYears) :
    Legible form s := by
  refine legible_map fun t member => t.legible fun time among => years time ?_
  exact List.mem_flatMap.2 ⟨t, member, among⟩

theorem Operation.legible {o : Operation} (years : o.time.InYears) : Legible form o := by
  have kind : Legible form o.kind := legible_named (by cases o.kind <;> rfl)
  have time : Legible form o.time := legible_instant years
  refine legible_record rfl (fun _ => rfl) (by simp) (by decide) ?_
  simp [*]

theorem OperationLog.legible {log : OperationLog} (years : ∀ time ∈ log.times, time.InYears) :
    Legible form log :=
  legible_list fun o member => o.legible (years o.time (List.mem_map_of_mem member))

theorem Outcome.legible {o : Outcome} (years : ∀ time ∈ o.times, time.InYears) :
    Legible form o := by
  have task : Legible form o.task := by
    refine legible_option (fun t held => t.legible fun time among => years time ?_)
      fun _ _ => nofun
    exact List.mem_flatMap.2 ⟨t, Option.mem_toList.2 held, among⟩
  refine legible_record rfl (fun _ => rfl) (by simp) (by decide) ?_
  simp [*]

/-- All values in the data are the same in this form. -/
def FieldData.Fits (form : Form) (data : FieldData) : Prop :=
  ∀ values ∈ data.values, ∀ j ∈ values, form.Fits j

theorem FieldData.legible {data : FieldData} (fits : data.Fits form) : Legible form data :=
  legible_map fun values held =>
    legible_list fun j member => legible_json (fits values held j member)

theorem ContentKind.split?_record (kind : ContentKind) {rest : List (List (String × Json))}
    (distinct : ((field "kind" kind :: rest).flatten.map Prod.fst).Nodup) :
    let source := form.source (record (field "kind" kind :: rest))
    split? source = some (kind, source) := by
  intro source
  have found : (Fields.written form (field "kind" kind :: rest)).members.lookup "kind" =
      some (form.source (encode kind)) := by simp
  have known : Named.ofName? (Named.name kind) = some kind := by cases kind <;> rfl
  have members : source.members? =
      some (Fields.written form (field "kind" kind :: rest)).members := form.members?_source _
  have name : (form.source (encode kind)).text? = some (Named.name kind) := by
    cases form <;> rfl
  have once : source.repeats ["kind"] = false := form.repeats_source distinct _
  have value : discard source.value? = some () := by
    obtain ⟨j, held⟩ := form.exists_value? (record (field "kind" kind :: rest))
    rw [show source.value? = some j from held]
    rfl
  unfold split?
  simp [value, members, once, found, name, known]

theorem Content.legible (c : Content) : Legible form c := by
  cases c with
  | file location mediaType =>
    have distinct : (([field "kind" ContentKind.file, field "location" location,
        field "content_type" mediaType] : List (List (String × Json))).flatten.map
          Prod.fst).Nodup := by simp [field]
    have kind : ContentKind.split? (form.source (encode (Content.file location mediaType))) =
        some (.file, _) := ContentKind.split?_record _ distinct
    rw [Legible]
    simp only [read?, kind, Option.bind_eq_bind, Option.bind_some, Fields.of?_record _ distinct]
    simp
  | text body =>
    have distinct : (([field "kind" ContentKind.text, field "body" body] :
        List (List (String × Json))).flatten.map Prod.fst).Nodup := by simp [field]
    have kind : ContentKind.split? (form.source (encode (Content.text body))) =
        some (.text, _) := ContentKind.split?_record _ distinct
    rw [Legible]
    simp only [read?, kind, Option.bind_eq_bind, Option.bind_some, Fields.of?_record _ distinct]
    simp

theorem Attachment.legible {a : Attachment} (years : a.created.InYears) : Legible form a := by
  have content : Legible form a.content := a.content.legible
  have created : Legible form a.created := legible_instant years
  refine legible_record rfl (fun _ => rfl) (by simp) (by decide) ?_
  simp [*]

theorem Submission.legible {s : Submission} (years : s.time.InYears) (fits : s.data.Fits form) :
    Legible form s := by
  have data := FieldData.legible fits
  have action : Legible form s.action := legible_named (by cases s.action <;> rfl)
  have time : Legible form s.time := legible_instant years
  refine legible_record rfl (fun _ => rfl) (by simp) (by decide) ?_
  simp [*]

theorem Instance.legible {i : Instance} (years : ∀ time ∈ i.times, time.InYears)
    (fits : i.data.Fits form) : Legible form i := by
  simp only [times, List.forall_mem_cons, List.forall_mem_append] at years
  obtain ⟨start, modified, ⟨finish, tasks⟩, operations⟩ := years
  have status : Legible form i.status := legible_named (by cases i.status <;> rfl)
  have data := FieldData.legible fits
  have start : Legible form i.start := legible_instant start
  have modified : Legible form i.modified := legible_instant modified
  have finish : Legible form i.finish := legible_times finish
  have tasks : Legible form i.tasks := TaskSet.legible tasks
  have operations : Legible form i.operations := OperationLog.legible operations
  refine legible_record rfl (fun _ => rfl) (by simp) (by decide) ?_
  simp [*]

theorem ProcessDefinition.legible (p : ProcessDefinition) : Legible form p := by
  refine legible_record rfl (fun _ => rfl) (by simp) (by decide) ?_
  simp

theorem Notification.legible (n : Notification) : Legible form n := by
  have trigger : Legible form n.trigger := legible_named (by cases n.trigger <;> rfl)
  refine legible_record rfl (fun _ => rfl) (by simp) (by decide) ?_
  simp [*]

theorem Deployment.legible (d : Deployment) : Legible form d := by
  have notifications : Legible form d.notifications := legible_list fun n _ => n.legible
  refine legible_record rfl (fun _ => rfl) (by simp) (by decide) ?_
  simp [*]

theorem Entity.legible (e : Entity) : Legible form e := by
  have kind : Legible form e.kind := legible_named (by cases e.kind <;> rfl)
  refine legible_record rfl (fun _ => rfl) (by simp) (by decide) ?_
  simp [*]

theorem Notice.legible {n : Notice} (years : n.time.InYears) : Legible form n := by
  have notification : Legible form n.notification := n.notification.legible
  have event : Legible form n.event := legible_named (by cases n.event <;> rfl)
  have time : Legible form n.time := legible_instant years
  refine legible_record rfl (fun _ => rfl) (by simp) (by decide) ?_
  simp [*]

theorem Criteria.legible (c : Criteria) : Legible form c := by
  refine legible_record rfl (fun _ => rfl) (by simp) (by decide) ?_
  simp

theorem Execution.legible {e : Execution} (fits : ∀ j ∈ e.bindings.values, form.Fits j) :
    Legible form e := by
  have bindings : Legible form e.bindings := legible_map fun j held => legible_json (fits j held)
  refine legible_record rfl (fun _ => rfl) (by simp) (by decide) ?_
  simp [*]

theorem SyncRecord.legible {r : SyncRecord} (years : r.updated.InYears) : Legible form r := by
  have state : Legible form r.state := legible_named (by cases r.state <;> rfl)
  have updated : Legible form r.updated := legible_instant years
  refine legible_record rfl (fun _ => rfl) (by simp) (by decide) ?_
  simp [*]

theorem Settings.legible (s : Settings) : Legible form s := by
  have concurrency : Legible form s.concurrency :=
    legible_named (by cases s.concurrency <;> rfl)
  refine legible_record rfl (fun _ => rfl) (by simp) (by decide) ?_
  simp [*]

/-! ### All kinds of document -/

/-- The kinds of document. -/
inductive DocumentKind where
  | processInstance
  | task
  | taskSet
  | operation
  | operationLog
  | outcome
  | submission
  | attachment
  | process
  | deployment
  | entity
  | notification
  | notice
  | criteria
  | execution
  | syncRecord
  | settings
  deriving DecidableEq

namespace DocumentKind

/-- What the documents of a kind are written from. -/
def Value : DocumentKind → Type
  | processInstance => Instance
  | task => Task
  | taskSet => TaskSet
  | operation => Operation
  | operationLog => OperationLog
  | outcome => Outcome
  | submission => Submission
  | attachment => Attachment
  | process => ProcessDefinition
  | deployment => Deployment
  | entity => Entity
  | notification => Notification
  | notice => Notice
  | criteria => Criteria
  | execution => Execution
  | syncRecord => SyncRecord
  | settings => Settings

instance : (kind : DocumentKind) → Document kind.Value
  | processInstance => inferInstanceAs (Document Instance)
  | task => inferInstanceAs (Document Task)
  | taskSet => inferInstanceAs (Document TaskSet)
  | operation => inferInstanceAs (Document Operation)
  | operationLog => inferInstanceAs (Document OperationLog)
  | outcome => inferInstanceAs (Document Outcome)
  | submission => inferInstanceAs (Document Submission)
  | attachment => inferInstanceAs (Document Attachment)
  | process => inferInstanceAs (Document ProcessDefinition)
  | deployment => inferInstanceAs (Document Deployment)
  | entity => inferInstanceAs (Document Entity)
  | notification => inferInstanceAs (Document Notification)
  | notice => inferInstanceAs (Document Notice)
  | criteria => inferInstanceAs (Document Criteria)
  | execution => inferInstanceAs (Document Execution)
  | syncRecord => inferInstanceAs (Document SyncRecord)
  | settings => inferInstanceAs (Document Settings)

/-- The times in a value of a kind. -/
def times : (kind : DocumentKind) → kind.Value → List Instant
  | processInstance => Instance.times
  | task => Task.times
  | taskSet => TaskSet.times
  | operation => fun o => [o.time]
  | operationLog => OperationLog.times
  | outcome => Outcome.times
  | submission => fun s => [s.time]
  | attachment => fun a => [a.created]
  | notice => fun n => [n.time]
  | syncRecord => fun r => [r.updated]
  | process | deployment | entity | notification | criteria | execution | settings => fun _ => []

/-- All times in the value are in the years 0 to 9999. -/
def InYears (kind : DocumentKind) (x : kind.Value) : Prop := ∀ t ∈ kind.times x, t.InYears

theorem legible {kind : DocumentKind} {x : kind.Value} (years : kind.InYears x) :
    Legible .value x := by
  have plain (data : FieldData) : data.Fits .value := fun _ _ _ _ => trivial
  have one (t : Instant) (only : ∀ time ∈ [t], time.InYears) : t.InYears :=
    only t (List.mem_singleton_self t)
  cases kind with
  | processInstance => exact Instance.legible years (plain _)
  | task => exact Task.legible years
  | taskSet => exact TaskSet.legible years
  | operation => exact Operation.legible (one _ years)
  | operationLog => exact OperationLog.legible years
  | outcome => exact Outcome.legible years
  | submission => exact Submission.legible (one _ years) (plain _)
  | attachment => exact Attachment.legible (one _ years)
  | process => exact ProcessDefinition.legible x
  | deployment => exact Deployment.legible x
  | entity => exact Entity.legible x
  | notification => exact Notification.legible x
  | notice => exact Notice.legible (one _ years)
  | criteria => exact Criteria.legible x
  | execution => exact Execution.legible fun _ _ => trivial
  | syncRecord => exact SyncRecord.legible (one _ years)
  | settings => exact Settings.legible x

/-- The written form of what a document of this kind is read as. -/
def canonical? (kind : DocumentKind) (source : Json.Source) : Option Json :=
  (read? source : Option kind.Value).map encode

/-- What is written as a document is read back from it. So whatever is read from a document, be it
    in its written form or not, has a written form that is read as the same and that is written
    again as it is. -/
theorem decode?_encode (kind : DocumentKind) :
    (∀ x : kind.Value, kind.InYears x → decode? (encode x) = some x) ∧
      ∀ (source : Json.Source) (x : kind.Value), read? source = some x → kind.InYears x →
        ∃ written, kind.canonical? source = some written ∧ decode? written = some x ∧
          kind.canonical? (.value written) = some written := by
  refine ⟨fun x years => legible years, fun source x accepted years => ?_⟩
  have again : read? (.value (encode x)) = some x := (legible years).read?
  have written : kind.canonical? source = some (encode x) := by
    unfold canonical?
    rw [accepted]
    rfl
  have stable : kind.canonical? (.value (encode x)) = some (encode x) := by
    unfold canonical?
    rw [again]
    rfl
  exact ⟨encode x, written, again, stable⟩

/-- A document in a form that is not written: with a null, a member that is not known, a set that
    is out of order and repeats an element, and other spellings of times and identifiers. -/
def loose : Json := .object [
  ("process_instance_id", .text "case-1"),
  ("colour", .list [.null]),
  ("process_definition_key", .text "leave"),
  ("deployment_id", .text "leave-1"),
  ("process_instance_label", .text "Leave"),
  ("process_status", .object [("OPEN", .null)]),
  ("application_status", .null),
  ("submission_ids", .list [.text "\x7b00000000-0000-4000-8000-00000000000B\x7d",
    .text "00000000000040008000000000000002",
    .text "urn:uuid:00000000-0000-4000-8000-00000000000b"]),
  ("start_time", .text "2024-02-29t01:30:00+01:30"),
  ("last_modified_time", .text "2024-02-29 00:00:60.5Z")]

/-- What the loose document is read as. -/
def leave : Instance where
  id := "case-1"
  processKey := "leave"
  deploymentId := "leave-1"
  label := "Leave"
  submissions := SortedSet.ofList [.ofNat 0x40008000000000000002, .ofNat 0x4000800000000000000b]
  start := .ofSecond 1709164800
  modified := ⟨1709164859, 1500000000, by decide, by decide⟩

theorem decode?_encode_leave :
    decode? (encode leave) = some leave ∧ decode? loose = some leave ∧ encode leave ≠ loose ∧
      ∃ written, processInstance.canonical? (.value loose) = some written ∧
        decode? written = some leave ∧
          processInstance.canonical? (.value written) = some written := by
  have years : ∀ t ∈ leave.times, t.InYears := by
    unfold Instant.InYears
    decide +kernel
  have accepted : decode? loose = some leave := by decide +kernel
  exact ⟨(decode?_encode processInstance).1 leave years, accepted, by decide +kernel,
    (decode?_encode processInstance).2 (.value loose) leave accepted years⟩

end DocumentKind
end Casework
