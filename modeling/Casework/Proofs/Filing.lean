import Casework.Proofs.Requests

/-!
Requests that file attachments and submissions: creation and forms. What is filed
is filed before an instance is entered or changed and stays when that fails, so
these requests may fail half-way: then some of what they bring has been filed and
no instance has changed.
-/

namespace Casework

open Casework.Action

namespace Storage

/-- The storage with attachments and then a submission filed. -/
def file (s : Storage) (attachments : List Attachment) (submission : Option Submission) :
    Storage :=
  (submission.map (attachments.foldl saveAttachment s).saveSubmission).getD
    (attachments.foldl saveAttachment s)

theorem foldl_saveAttachment (s : Storage) (attachments : List Attachment) :
    attachments.foldl saveAttachment s =
      { s with attachments := (attachments.foldl saveAttachment s).attachments } := by
  induction attachments generalizing s with
  | nil => rfl
  | cons first rest ih =>
    rw [List.foldl_cons, ih (s.saveAttachment first)]
    rfl

theorem file_eq (s : Storage) (attachments : List Attachment) (submission : Option Submission) :
    s.file attachments submission =
      { s with
        attachments := (s.file attachments submission).attachments
        submissions := (s.file attachments submission).submissions } := by
  unfold file
  rw [foldl_saveAttachment]
  cases submission with
  | none => rfl
  | some submission =>
    simp only [Option.map_some, Option.getD_some, saveSubmission]
    split <;> rfl

@[simp] theorem instances_file (s : Storage) (attachments : List Attachment)
    (submission : Option Submission) : (s.file attachments submission).instances = s.instances := by
  rw [file_eq]

end Storage

namespace State

/-- The state with attachments and then a submission filed. -/
def file (s : State) (attachments : List Attachment) (submission : Option Submission) : State :=
  { s with storage := s.storage.file attachments submission }

/-- The state with one more instance. -/
def enter (s : State) (i : Instance) : State :=
  { s with storage := { s.storage with instances := s.storage.instances.insert i.id i } }

@[simp] theorem instances_file (s : State) (attachments : List Attachment)
    (submission : Option Submission) :
    (s.file attachments submission).storage.instances = s.storage.instances :=
  Storage.instances_file s.storage attachments submission

end State

/-- How filing ends: all is filed, or the first few attachments are. -/
inductive Filed (attachments : List Attachment) (submission : Option Submission) (s : State) :
    Except Error Unit × State → Prop
  | done : Filed attachments submission s (.ok (), s.file attachments submission)
  | stopped (files : List Attachment) (e : Error) (first : files <+: attachments) :
      Filed attachments submission s (.error e, s.file files none)

theorem saveAttachments_filed (ctx : Context) (attachments : List Attachment) (s : State) :
    Filed attachments none s (outcome (saveAttachments ctx attachments) s) := by
  induction attachments generalizing s with
  | nil => exact .done
  | cons first rest ih =>
    have nothing (e : Error) : Filed (first :: rest) none s (.error e, s) :=
      .stopped [] e List.nil_prefix
    unfold saveAttachments
    rw [outcome_bind, outcome_saveAttachment]
    cases ctx.outage .saveAttachment with
    | some e => exact nothing e
    | none =>
      cases ctx.outage (.saveAttachmentOf first.id) with
      | some e => exact nothing e
      | none =>
        have others := ih { s with storage := s.storage.saveAttachment first }
        simp only
        cases ended : outcome (saveAttachments ctx rest)
            { s with storage := s.storage.saveAttachment first } with
        | mk answer after =>
          rw [ended] at others
          cases others with
          | done => exact (Filed.done : Filed (first :: rest) none s _)
          | stopped files e few =>
            exact .stopped (first :: files) e ((List.prefix_cons_inj first).mpr few)

/-- Files attachments and then a submission. -/
def Action.file (ctx : Context) (attachments : List Attachment) (submission : Option Submission) :
    Action Unit := do
  saveAttachments ctx attachments
  submission.forM (saveSubmission ctx)

theorem file_filed (ctx : Context) (attachments : List Attachment)
    (submission : Option Submission) (s : State) :
    Filed attachments submission s (outcome (Action.file ctx attachments submission) s) := by
  unfold Action.file
  have satellites := saveAttachments_filed ctx attachments s
  rw [outcome_bind]
  cases ended : outcome (saveAttachments ctx attachments) s with
  | mk answer after =>
    rw [ended] at satellites
    cases satellites with
    | stopped files e first => exact .stopped files e first
    | done =>
      cases submission with
      | none => exact .done
      | some submission =>
        show Filed _ _ _ (outcome (saveSubmission ctx submission) (s.file attachments none))
        rw [outcome_saveSubmission]
        cases ctx.outage .saveSubmission with
        | some e => exact .stopped attachments e List.prefix_rfl
        | none => exact .done

theorem outcome_file_then {α : Type} (ctx : Context) (attachments : List Attachment)
    (submission : Option Submission) (rest : Action α) (s : State) :
    outcome (do
        saveAttachments ctx attachments
        submission.forM (saveSubmission ctx)
        rest) s =
      match outcome (Action.file ctx attachments submission) s with
      | (.ok _, s') => outcome rest s'
      | (.error e, s') => (.error e, s') := by
  unfold Action.file
  simp only [outcome_bind]
  cases outcome (saveAttachments ctx attachments) s with
  | mk answer after =>
    cases answer with
    | error e => rfl
    | ok =>
      simp only
      cases outcome (submission.forM (saveSubmission ctx)) after with
      | mk answer after => cases answer <;> rfl

namespace Lifecycle

/-! ### Creation -/

/-- How creation ends. -/
inductive Created (ctx : Context) (p : ProcessDefinition) (d : Deployment) (data : FieldData)
    (attachments : List Attachment) (submission : Option Submission) (initiator : Entity)
    (s : State) : Except Error Instance × State → Prop
  | refused (e : Error) : Created ctx p d data attachments submission initiator s (.error e, s)
  /-- Some of what came with the instance is filed, and the instance is not there. -/
  | orphaned {files : List Attachment} {form : Option Submission} (e : Error)
      (first : files <+: attachments) (same : form = none ∨ form = submission) :
      Created ctx p d data attachments submission initiator s (.error e, s.file files form)
  | done {i : Instance}
      (opened : i = opening ctx p d data attachments submission initiator)
      (process : s.storage.processes.get? p.key ≠ none)
      (deployment : s.storage.deployments.get? d.id ≠ none)
      (own : d.processKey = p.key)
      (fresh : s.storage.instances.contains i.id = false) :
      Created ctx p d data attachments submission initiator s
        (.ok i, ((s.file attachments submission).enter i).send
          (d.notices i .instanceCreated ctx.now))

theorem outcome_enter (ctx : Context) (d : Deployment) (i : Instance) (s : State) :
    outcome (do
        let created ← saveInstance ctx i
        notify ctx (some d) created .instanceCreated
        return created) s =
      match ctx.outage .saveInstance with
      | some e => (.error e, s)
      | none =>
        if s.storage.instances.contains i.id then (.error (.conflict i.id .taken), s)
        else (.ok i, (s.enter i).send (d.notices i .instanceCreated ctx.now)) := by
  rw [outcome_bind, outcome_saveInstance]
  cases ctx.outage .saveInstance with
  | some e => rfl
  | none =>
    unfold Storage.save
    cases s.storage.instances.contains i.id <;> simp [State.enter, noticesOf]

theorem create_created (ctx : Context) (p : ProcessDefinition) (d : Deployment) (data : FieldData)
    (attachments : List Attachment) (submission : Option Submission) (initiator : Entity)
    (s : State) :
    Created ctx p d data attachments submission initiator s
      (outcome (create ctx p d data attachments submission initiator) s) := by
  unfold create
  rw [outcome_bind, outcome_discard, outcome_getProcess]
  cases ctx.outage .findProcess with
  | some e => exact .refused e
  | none =>
    cases process : s.storage.processes.get? p.key with
    | none => exact .refused _
    | some _ =>
      simp only
      rw [outcome_bind, outcome_discard, outcome_getDeployment]
      cases ctx.outage .findDeployment with
      | some e => exact .refused e
      | none =>
        cases deployment : s.storage.deployments.get? d.id with
        | none => exact .refused _
        | some _ =>
          simp only
          by_cases own : d.processKey = p.key
          · simp only [own, ne_eq, not_true_eq_false, if_false]
            rw [outcome_file_then]
            have filing := file_filed ctx attachments submission s
            cases ended : outcome (file ctx attachments submission) s with
            | mk answer after =>
              rw [ended] at filing
              cases filing with
              | stopped files e first => exact .orphaned e first (.inl rfl)
              | done =>
                simp only
                rw [outcome_enter]
                have orphaned (e : Error) : Created ctx p d data attachments submission initiator s
                    (.error e, s.file attachments submission) :=
                  .orphaned e List.prefix_rfl (.inr rfl)
                cases ctx.outage .saveInstance with
                | some e => exact orphaned e
                | none =>
                  simp only [State.instances_file]
                  cases fresh : s.storage.instances.contains
                      (opening ctx p d data attachments submission initiator).id with
                  | true => exact orphaned _
                  | false =>
                    exact .done rfl (by simp [process]) (by simp [deployment]) own fresh
          · simp only [own, ne_eq, not_false_eq_true, if_true, outcome_bind, outcome_throw]
            exact .refused _

/-! ### Forms -/

/-- How taking in a form ends. -/
inductive Accepted (ctx : Context) (v : Validation) (action : SubmissionAction) (s : State) :
    Except Error Instance × State → Prop
  | refused (e : Error) : Accepted ctx v action s (.error e, s)
  /-- Some of the form is filed, and the instance has not changed. -/
  | orphaned {files : List Attachment} {form : Option Submission} (e : Error)
      (first : files <+: v.attachments) (same : form = none ∨ form = some v.submission) :
      Accepted ctx v action s (.error e, s.file files form)
  | done {id : InstanceId} {d : Deployment} {current updated : Instance} {changed : Bool}
      (named : v.instanceId = some id)
      (process : s.storage.processes.get? v.process.key ≠ none)
      (deployment : s.storage.deployments.get? v.deployment.id = some d)
      (found : s.storage.instances.get? id = some current)
      (applied : (formPatch ctx v action).apply ctx.now current = .ok (changed, updated)) :
      Accepted ctx v action s
        (.ok updated, ((s.file v.attachments (some v.submission)).keep id changed updated).send
          (d.notices updated .instanceUpdated ctx.now))

theorem accepted_of_file (ctx : Context) {v : Validation} (action : SubmissionAction) {s : State}
    {id : InstanceId} {d : Deployment} {current : Instance}
    (named : v.instanceId = some id)
    (process : s.storage.processes.get? v.process.key ≠ none)
    (deployment : s.storage.deployments.get? v.deployment.id = some d)
    (found : s.storage.instances.get? id = some current) :
    Accepted ctx v action s (outcome (do
      saveAttachments ctx v.attachments
      (some v.submission).forM (saveSubmission ctx)
      let updated ← changeInstance ctx id (formPatch ctx v action)
      notify ctx (some d) updated .instanceUpdated
      return updated) s) := by
  have filled : (formPatch ctx v action).isEmpty = false := by simp [formPatch, Patch.isEmpty]
  have filing := file_filed ctx v.attachments (some v.submission) s
  rw [outcome_file_then]
  cases ended : outcome (file ctx v.attachments (some v.submission)) s with
  | mk answer after =>
    rw [ended] at filing
    cases filing with
    | stopped files e first => exact .orphaned e first (.inl rfl)
    | done =>
      have orphaned (e : Error) : Accepted ctx v action s
          (.error e, s.file v.attachments (some v.submission)) :=
        .orphaned e List.prefix_rfl (.inr rfl)
      have kept : (s.file v.attachments (some v.submission)).storage.instances.get? id =
          some current := by rw [State.instances_file, found]
      simp only
      rw [outcome_change_notify ctx filled (some d) _ kept]
      cases ctx.outage .updateInstance with
      | some e => exact orphaned e
      | none =>
        cases applied : (formPatch ctx v action).apply ctx.now current with
        | error e => exact orphaned e
        | ok result => exact .done named process deployment found applied

theorem accept_accepted (ctx : Context) (v : Validation) (action : SubmissionAction) (s : State) :
    Accepted ctx v action s (outcome (accept ctx v action) s) := by
  unfold accept
  cases named : v.instanceId with
  | none => exact .refused _
  | some id =>
    simp only [outcome_bind (require _ _), outcome_require]
    rw [outcome_bind, outcome_discard, outcome_getProcess]
    cases ctx.outage .findProcess with
    | some e => exact .refused e
    | none =>
      cases process : s.storage.processes.get? v.process.key with
      | none => exact .refused _
      | some _ =>
        simp only
        rw [outcome_bind, outcome_getDeployment]
        cases ctx.outage .findDeployment with
        | some e => exact .refused e
        | none =>
          cases deployment : s.storage.deployments.get? v.deployment.id with
          | none => exact .refused _
          | some d =>
            simp only
            rw [outcome_bind, outcome_discard, outcome_getInstance]
            cases ctx.outage .findInstance with
            | some e => exact .refused e
            | none =>
              cases found : s.storage.instances.get? id with
              | none => exact .refused _
              | some current =>
                exact accepted_of_file ctx action named (by simp [process]) deployment found

end Lifecycle
end Casework
