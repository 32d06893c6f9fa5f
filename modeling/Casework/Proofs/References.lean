import Casework.Proofs.CompleteInstances

/-!
What instances refer to. A record names the attachments and submissions that were filed for it, its
process and its deployment. Nothing that is filed is ever taken away (`Storage.Retains`), and a
request files what it brings before it enters or changes an instance. So whatever fails in between,
no record names anything that is not there (`references_kept`).
-/

namespace Casework

open Casework.Action Casework.Lifecycle Casework.Reconcile

namespace Storage

/-- The storage without its instances. -/
def bare (s : Storage) : Storage := { s with instances := ∅ }

/-- Nothing that is filed is gone, and the submissions are as they were. -/
structure Retains (before after : Storage) : Prop where
  attachments : ∀ id, before.attachments.get? id ≠ none → after.attachments.get? id ≠ none
  submissions : ∀ id submission, before.submissions.get? id = some submission →
    after.submissions.get? id = some submission
  processes : ∀ key, before.processes.get? key ≠ none → after.processes.get? key ≠ none
  deployments : ∀ id, before.deployments.get? id ≠ none → after.deployments.get? id ≠ none

namespace Retains

variable {before filed after : Storage}

theorem refl (s : Storage) : s.Retains s :=
  ⟨fun _ => id, fun _ _ => id, fun _ => id, fun _ => id⟩

theorem trans (first : before.Retains filed) (second : filed.Retains after) :
    before.Retains after where
  attachments id held := second.attachments id (first.attachments id held)
  submissions id submission held := second.submissions id submission
    (first.submissions id submission held)
  processes key held := second.processes key (first.processes key held)
  deployments id held := second.deployments id (first.deployments id held)

theorem of_bare (same : after.bare = before.bare) : before.Retains after := by
  obtain ⟨instances, attachments, submissions, processes, deployments⟩ := after
  cases same
  exact ⟨fun _ => id, fun _ _ => id, fun _ => id, fun _ => id⟩

end Retains

theorem retains_saveAttachment (s : Storage) (a : Attachment) : s.Retains (s.saveAttachment a) :=
  { Retains.refl s with attachments := fun _ held => SortedMap.get?_insert_ne_none held a.id a }

/-- A submission takes no other's place. -/
theorem retains_saveSubmission (s : Storage) (submission : Submission) :
    s.Retains (s.saveSubmission submission) := by
  unfold saveSubmission
  split
  · exact .refl s
  · rename_i absent
    refine { Retains.refl s with submissions := fun id stored held => ?_ }
    have other : id ≠ submission.id := by
      rintro rfl
      simp [SortedMap.contains, held] at absent
    show (s.submissions.insert _ _).get? id = some stored
    rw [SortedMap.get?_insert, if_neg other, held]

theorem retains_saveProcess (s : Storage) (p : ProcessDefinition) : s.Retains (s.saveProcess p) :=
  { Retains.refl s with processes := fun _ held => SortedMap.get?_insert_ne_none held p.key p }

theorem retains_saveDeployment (s : Storage) (d : Deployment) : s.Retains (s.saveDeployment d) :=
  { Retains.refl s with deployments := fun _ held => SortedMap.get?_insert_ne_none held d.id d }

theorem retains_saveAttachments (s : Storage) (attachments : List Attachment) :
    s.Retains (attachments.foldl saveAttachment s) := by
  induction attachments generalizing s with
  | nil => exact .refl s
  | cons first rest ih => exact (s.retains_saveAttachment first).trans (ih _)

theorem retains_file (s : Storage) (attachments : List Attachment)
    (submission : Option Submission) : s.Retains (s.file attachments submission) := by
  cases submission with
  | none => exact s.retains_saveAttachments attachments
  | some submission =>
    exact (s.retains_saveAttachments attachments).trans (retains_saveSubmission _ submission)

theorem get?_saveAttachments {attachments : List Attachment} {a : Attachment}
    (member : a ∈ attachments) (s : Storage) :
    (attachments.foldl saveAttachment s).attachments.get? a.id ≠ none := by
  induction attachments generalizing s with
  | nil => exact absurd member List.not_mem_nil
  | cons first rest ih =>
    rcases List.mem_cons.1 member with rfl | later
    · refine ((s.saveAttachment a).retains_saveAttachments rest).attachments a.id ?_
      simp [saveAttachment]
    · exact ih later _

theorem get?_saveSubmission (s : Storage) (submission : Submission) :
    (s.saveSubmission submission).submissions.get? submission.id ≠ none := by
  unfold saveSubmission
  split
  · rename_i taken
    simpa [SortedMap.contains, Option.isSome_iff_ne_none] using taken
  · simp

theorem attachment_file {attachments : List Attachment} {a : Attachment}
    (member : a ∈ attachments) (submission : Option Submission) (s : Storage) :
    (s.file attachments submission).attachments.get? a.id ≠ none := by
  have filed := get?_saveAttachments member s
  cases submission with
  | none => exact filed
  | some submission => exact (retains_saveSubmission _ submission).attachments a.id filed

theorem submission_file (attachments : List Attachment) (submission : Submission) (s : Storage) :
    (s.file attachments (some submission)).submissions.get? submission.id ≠ none :=
  get?_saveSubmission _ submission

/-! ### References -/

/-- All that the record names is stored. -/
structure Backs (s : Storage) (i : Instance) : Prop where
  attachments : ∀ id ∈ i.attachments.toList, s.attachments.get? id ≠ none
  submissions : ∀ id ∈ i.submissions.toList, s.submissions.get? id ≠ none
  process : s.processes.get? i.processKey ≠ none
  deployment : s.deployments.get? i.deploymentId ≠ none

variable {s before after : Storage} {i updated : Instance}

theorem Retains.submission_held (retains : before.Retains after) {id : Uuid}
    (held : before.submissions.get? id ≠ none) : after.submissions.get? id ≠ none := by
  obtain ⟨submission, found⟩ := Option.ne_none_iff_exists'.1 held
  simp [retains.submissions id submission found]

theorem Backs.mono (retains : before.Retains after) (backs : before.Backs i) : after.Backs i where
  attachments id named := retains.attachments id (backs.attachments id named)
  submissions id named := retains.submission_held (backs.submissions id named)
  process := retains.processes _ backs.process
  deployment := retains.deployments _ backs.deployment

/-- A patch that adds only what is stored leaves all that the record names stored. -/
theorem Backs.patched {p : Patch} {now : Instant} {changed : Bool} (backs : s.Backs i)
    (applied : p.apply now i = .ok (changed, updated))
    (attachments : ∀ id ∈ p.addAttachments, s.attachments.get? id ≠ none)
    (submission : ∀ id, p.submission = some id → s.submissions.get? id ≠ none) :
    s.Backs updated := by
  have merged : s.Backs (p.merge i) := by
    refine ⟨fun id named => ?_, fun id named => ?_, backs.process, backs.deployment⟩
    · rw [SortedSet.mem_toList_iff] at named
      replace named : ((i.attachments.addMany p.addAttachments).dropMany
        p.removeAttachments).get? id = some () := named
      rw [SortedSet.get?_dropMany, SortedSet.get?_addMany] at named
      split at named
      · cases named
      · split at named
        · exact attachments id ‹_›
        · exact backs.attachments id ((SortedSet.mem_toList_iff _ id).2 named)
    · rw [SortedSet.mem_toList_iff] at named
      replace named : ((p.submission.map i.submissions.add).getD i.submissions).get? id =
        some () := named
      have kept (held : i.submissions.get? id = some ()) : s.submissions.get? id ≠ none :=
        backs.submissions id ((SortedSet.mem_toList_iff _ id).2 held)
      cases brought : p.submission with
      | none =>
        rw [brought] at named
        exact kept named
      | some new =>
        rw [brought, Option.map_some, Option.getD_some, SortedSet.add,
          SortedMap.get?_insert] at named
        split at named
        · rename_i same
          exact submission id (same ▸ brought)
        · exact kept named
  rw [Patch.eq_of_apply applied]
  cases changed
  · exact merged
  · exact ⟨merged.attachments, merged.submissions, merged.process, merged.deployment⟩

theorem backs_opening (ctx : Context) {p : ProcessDefinition} {d : Deployment} (data : FieldData)
    {attachments : List Attachment} {submission : Option Submission} (initiator : Entity)
    (process : s.processes.get? p.key ≠ none) (deployment : s.deployments.get? d.id ≠ none) :
    (s.file attachments submission).Backs
      (opening ctx p d data attachments submission initiator) := by
  have retains := s.retains_file attachments submission
  refine ⟨fun id named => ?_, fun id named => ?_, retains.processes _ process,
    retains.deployments _ deployment⟩
  · obtain ⟨a, member, rfl⟩ := List.mem_map.1 ((SortedSet.mem_toList_ofList _ id).1 named)
    exact attachment_file member submission s
  · have listed := (SortedSet.mem_toList_ofList _ id).1 named
    obtain ⟨form, rfl, rfl⟩ := Option.map_eq_some_iff.1 (Option.mem_toList.1 listed)
    exact submission_file attachments form s

/-- All that the stored records name is stored. -/
def Backed (s : Storage) : Prop := ∀ id i, s.instances.get? id = some i → s.Backs i

theorem Backed.file (backed : s.Backed) (attachments : List Attachment)
    (submission : Option Submission) : (s.file attachments submission).Backed := by
  intro id i held
  rw [instances_file] at held
  exact (backed id i held).mono (s.retains_file attachments submission)

theorem Backed.insert (backed : s.Backed) {j : Instance} (backs : s.Backs j)
    {at_id : InstanceId} :
    ({ s with instances := s.instances.insert at_id j } : Storage).Backed := by
  have retains : s.Retains { s with instances := s.instances.insert at_id j } := .of_bare rfl
  intro id i held
  rw [SortedMap.get?_insert] at held
  split at held
  · obtain rfl := Option.some.inj held
    exact backs.mono retains
  · exact (backed id i held).mono retains

end Storage

namespace Request

variable {ctx : Context} {s : State} {r : Request}

/-! ### What a request files -/

/-- What a request makes of all that is stored beside the instances: it files attachments and a
    submission, if it brings any, or it saves a process or a deployment. -/
inductive Files (before : Storage) : Request → Storage → Prop
  | brought {r : Request} {after : Storage} (files : List Attachment) (form : Option Submission)
      (same : after.bare = (before.file files form).bare) : Files before r after
  | process {p : ProcessDefinition} : Files before (.saveProcess p) (before.saveProcess p)
  | deployment {d : Deployment} : Files before (.saveDeployment d) (before.saveDeployment d)

namespace Files

variable {before after : Storage}

theorem nothing (same : after.bare = before.bare) : Files before r after :=
  .brought [] none same

theorem retains (files : Files before r after) : before.Retains after := by
  cases files with
  | brought files form same => exact (before.retains_file files form).trans (.of_bare same)
  | process => exact before.retains_saveProcess _
  | deployment => exact before.retains_saveDeployment _

end Files

variable {after : Except Error Instance × State}

theorem files_of_created {p : ProcessDefinition} {d : Deployment} {data : FieldData}
    {attachments : List Attachment} {submission : Option Submission} {initiator : Entity}
    (ended : Created ctx p d data attachments submission initiator s after) :
    Files s.storage r after.2.storage := by
  cases ended with
  | refused => exact .nothing rfl
  | @orphaned files form => exact .brought files form rfl
  | done => exact .brought attachments submission rfl

theorem files_of_accepted {v : Validation} {action : SubmissionAction}
    (ended : Accepted ctx v action s after) : Files s.storage r after.2.storage := by
  cases ended with
  | refused => exact .nothing rfl
  | @orphaned files form => exact .brought files form rfl
  | done => exact .brought v.attachments (some v.submission) rfl

theorem files_of_operated {kind : OperationKind} {result : Outcome} {seen : Instance}
    {principal : Entity} (ended : Operated ctx kind result seen principal s after) :
    Files s.storage r after.2.storage := by
  cases ended with
  | refused => exact .nothing rfl
  | halted => exact .nothing rfl
  | done found looked stopped =>
    rw [stopped]
    split <;> exact .nothing rfl

theorem files_of_archived {seen : Instance} {data : FieldData}
    (ended : Archived ctx seen data s after) : Files s.storage r after.2.storage := by
  cases ended <;> exact .nothing rfl

theorem files_of_detached {seen : Instance} {attachment : AttachmentId}
    (ended : Detached ctx seen attachment s after) : Files s.storage r after.2.storage := by
  cases ended <;> exact .nothing rfl

theorem files_of_tasksChanged {id : InstanceId} {tasks : List Task}
    (ended : TasksChanged ctx id tasks s after) : Files s.storage r after.2.storage := by
  cases ended <;> exact .nothing rfl

theorem files_of_taskRecorded {seen : Instance} {task : Option Task}
    {after : Except Error Bool × State} (ended : TaskRecorded ctx seen s task after) :
    Files s.storage r after.2.storage := by
  cases ended with
  | nothing => exact .nothing rfl
  | refused => exact .nothing rfl
  | done change => exact (files_of_tasksChanged change : Files _ _ _)

theorem files_of_taskApplied {id : InstanceId} {kind : OperationKind} {reported : Option Task}
    (ended : TaskApplied ctx id kind reported s after) : Files s.storage r after.2.storage := by
  cases ended with
  | refused => exact .nothing rfl
  | idle => exact .nothing rfl
  | done found change => exact files_of_tasksChanged change

theorem files_of_started {d : Deployment} {seen : Instance}
    (ended : Started ctx d seen s after) : Files s.storage r after.2.storage := by
  cases ended <;> exact .nothing rfl

theorem files_update (ctx : Context) (id : InstanceId) (patch : Patch) (s : State) :
    Files s.storage r (outcome (Action.updateInstance ctx id patch) s).2.storage := by
  rw [outcome_updateInstance_keep]
  cases ctx.outage .updateInstance with
  | some e => exact .nothing rfl
  | none =>
    cases s.storage.instances.get? id with
    | none => exact .nothing rfl
    | some stored =>
      dsimp only
      cases patch.apply ctx.now stored <;> exact .nothing rfl

/-- Whether a request fails or not, it may file something, and it takes nothing away. -/
theorem perform_files (ctx : Context) (r : Request) (s : State) :
    Files s.storage r (outcome (r.perform ctx) s).2.storage := by
  by_cases looks : r.Looks
  · rw [state_of_looks ctx looks]
    exact .nothing rfl
  cases r with
  | create p d data attachments submission initiator =>
    rw [perform, state_map]
    exact files_of_created (create_created ctx p d data attachments submission initiator s)
  | operate kind result seen principal =>
    rw [perform, state_map]
    exact files_of_operated (operate_operated ctx kind result seen principal s)
  | accept v action =>
    rw [perform, state_map]
    exact files_of_accepted (accept_accepted ctx v action s)
  | archive seen data =>
    rw [perform, state_map]
    exact files_of_archived (archive_archived ctx seen data s)
  | detach seen attachment =>
    rw [perform, state_map]
    exact files_of_detached (detach_detached ctx seen attachment s)
  | recordTask seen task =>
    rw [perform, state_map]
    exact files_of_taskRecorded (recordTask_taskRecorded ctx seen task s)
  | applyTask id kind reported =>
    rw [perform, state_map]
    exact files_of_taskApplied (applyTask_taskApplied ctx id kind reported s)
  | saveInstance i =>
    rw [perform, state_map, outcome_saveInstance]
    unfold Storage.save
    cases ctx.outage .saveInstance <;> cases s.storage.instances.contains i.id <;>
      exact .nothing rfl
  | changeInstance id patch =>
    rw [perform, state_map]
    unfold Action.changeInstance
    split
    · rw [outcome_getInstance]
      split <;> exact .nothing rfl
    · exact @keeps_bind _ _ (fun s' => Files s.storage _ s'.storage) _ _ _
        (files_update ctx id patch s) fun stored after kept => by cases stored <;> exact kept
  | updateInstance id patch =>
    rw [perform, state_map]
    exact files_update ctx id patch s
  | start d seen =>
    rw [perform, state_map]
    exact files_of_started (start_started ctx d seen s)
  | verify id =>
    rw [perform, state_map, storage_verify]
    exact .nothing rfl
  | audit query =>
    rw [perform, state_map]
    have storage := @audit_keeps (fun s' => s'.storage = s.storage) ctx
      (fun id s' kept => (storage_verify ctx id s').trans kept) query s rfl
    rw [storage]
    exact .nothing rfl
  | saveProcess => exact .process
  | saveDeployment => exact .deployment
  | saveAttachment a =>
    rw [perform, outcome_bind, outcome_saveAttachment]
    cases ctx.outage .saveAttachment with
    | some e => exact .nothing rfl
    | none =>
      cases ctx.outage (.saveAttachmentOf a.id) with
      | some e => exact .nothing rfl
      | none => exact .brought [a] none rfl
  | saveSubmission submission =>
    rw [perform, outcome_bind, outcome_saveSubmission]
    cases ctx.outage .saveSubmission with
    | some e => exact .nothing rfl
    | none => exact .brought [] (some submission) rfl
  | cancelFor seen =>
    rw [perform, state_map, outcome_cancelFor]
    split <;> exact .nothing rfl
  | startExecution d businessKey data =>
    rw [perform, state_map, outcome_startExecution]
    split <;> exact .nothing rfl
  | cancelExecution id =>
    rw [perform, state_map, outcome_cancelExecution]
    split <;> exact .nothing rfl
  | forget => exact .nothing rfl
  | _ => exact absurd trivial looks

/-! ### Nothing dangles -/

theorem backed_of_created {p : ProcessDefinition} {d : Deployment} {data : FieldData}
    {attachments : List Attachment} {submission : Option Submission} {initiator : Entity}
    (ended : Created ctx p d data attachments submission initiator s after)
    (backed : s.storage.Backed) : after.2.storage.Backed := by
  cases ended with
  | refused => exact backed
  | @orphaned files form => exact backed.file files form
  | done opened process deployment =>
    subst opened
    exact (backed.file attachments submission).insert
      (Storage.backs_opening ctx data initiator process deployment)

theorem backed_of_accepted {v : Validation} {action : SubmissionAction}
    (ended : Accepted ctx v action s after) (backed : s.storage.Backed) :
    after.2.storage.Backed := by
  cases ended with
  | refused => exact backed
  | @orphaned files form => exact backed.file files form
  | @done id d current updated changed named process deployment found applied =>
    have filed := backed.file v.attachments (some v.submission)
    have stored : (s.file v.attachments (some v.submission)).storage.instances.get? id =
        some current := by rw [State.instances_file, found]
    have backs := (filed id current stored).patched applied
      (fun a named => by
        obtain ⟨attachment, member, rfl⟩ := List.mem_map.1 named
        exact Storage.attachment_file member _ s.storage)
      (fun u named => by
        obtain rfl := Option.some.inj named
        exact Storage.submission_file v.attachments v.submission s.storage)
    cases changed with
    | false => exact filed
    | true => exact filed.insert backs

theorem adds_nothing {id : InstanceId} {current : Instance} {patch : Patch}
    (allowed : ¬r.Writes) (other : ∀ v action, r ≠ .accept v action)
    (sends : r.Sends ctx s id current patch) :
    patch.addAttachments = [] ∧ patch.submission = none := by
  cases sends with
  | @operate kind =>
    rw [guarded_eq]
    cases kind <;> exact ⟨rfl, rfl⟩
  | archive | detach => rw [guarded_eq]; exact ⟨rfl, rfl⟩
  | recordTask | applyTask | start => exact ⟨rfl, rfl⟩
  | accept => exact absurd rfl (other _ _)
  | changeInstance | updateInstance => exact absurd trivial allowed

/-- A request leaves all that the stored records name stored. -/
theorem backed_perform (ctx : Context) {r : Request} (s : State) (allowed : ¬r.Writes)
    (backed : s.storage.Backed) : (outcome (r.perform ctx) s).2.storage.Backed := by
  by_cases creates : ∃ p d data attachments submission initiator,
      r = .create p d data attachments submission initiator
  · obtain ⟨p, d, data, attachments, submission, initiator, rfl⟩ := creates
    rw [perform, state_map]
    exact backed_of_created (create_created ctx p d data attachments submission initiator s) backed
  by_cases accepts : ∃ v action, r = .accept v action
  · obtain ⟨v, action, rfl⟩ := accepts
    rw [perform, state_map]
    exact backed_of_accepted (accept_accepted ctx v action s) backed
  -- Any other request enters nothing, and what it patches it adds nothing to.
  have retains := (perform_files ctx r s).retains
  intro id j held
  cases found : s.storage.instances.get? id with
  | none =>
    cases opens_of_new found held with
    | create => exact absurd ⟨_, _, _, _, _, _, rfl⟩ creates
    | saveInstance => exact absurd trivial allowed
  | some i =>
    have backs := (backed id i found).mono retains
    obtain ⟨j', held', same | ⟨patch, sends, applied⟩⟩ := patched_of_stored ctx r found
    · obtain rfl := Option.some.inj (held.symm.trans held')
      rwa [same]
    · obtain rfl := Option.some.inj (held.symm.trans held')
      obtain ⟨unattached, unsubmitted⟩ := adds_nothing allowed
        (fun v action same => accepts ⟨v, action, same⟩) sends
      refine backs.patched applied ?_ ?_
      · simp [unattached]
      · simp [unsubmitted]

theorem backed_run (calls : List (Context × Request)) (allowed : ∀ call ∈ calls, ¬call.2.Writes)
    (backed : s.storage.Backed) : (run calls s).2.storage.Backed :=
  @run_keeps (fun r => ¬r.Writes) (fun s => s.storage.Backed) (fun ctx _ s => backed_perform ctx s)
    calls allowed s backed

/-- In every state of a run that begins with no instance and does not write records as they come,
    all that the records name is stored, and what is stored as a submission stays as it is. -/
theorem references_kept {calls : List (Context × Request)}
    (allowed : ∀ call ∈ calls, ¬call.2.Writes) {s : State} (blank : s.storage.instances = ∅) :
    (∀ n id i, (run (calls.take n) s).2.storage.instances.get? id = some i →
        (run (calls.take n) s).2.storage.Backs i) ∧
      ∀ m n, m ≤ n → ∀ id submission,
        (run (calls.take m) s).2.storage.submissions.get? id = some submission →
        (run (calls.take n) s).2.storage.submissions.get? id = some submission := by
  constructor
  · intro n
    have allowed_n : ∀ call ∈ calls.take n, ¬call.2.Writes :=
      fun call member => allowed call (List.mem_of_mem_take member)
    exact backed_run (calls.take n) allowed_n (SortedMap.forall_of_empty blank)
  · have related := @run_related_iff (fun s t => s.storage.Retains t.storage)
      (fun s => .refl s.storage) Storage.Retains.trans calls s
    have retained := related.2 fun n ctx r _ => (perform_files ctx r _).retains
    exact fun m n later => (retained m n later).submissions

def receipt : Attachment :=
  { id := "receipt", name := "receipt", content := .text "12.50", user := "alice"
    created := .ofSecond 0 }

def claimForm : Submission :=
  { id := .ofNat 1, processKey := "expense", action := .create, data := ∅, submitter := "alice"
    time := .ofSecond 0 }

def revisedForm : Submission := { claimForm with action := .save, submitter := "bob" }

/-- An instance is created with a form, then it is created again, and the other form comes with
    both that and a change of the instance. -/
def resubmitted : List (Context × Request) := [
  (Desk.context "case-1",
    .create Desk.process Desk.deployment ∅ [receipt] (some claimForm) Desk.alice),
  (Desk.context "case-1", .create Desk.process Desk.deployment ∅ [] (some revisedForm) Desk.alice),
  (Desk.context "-", .accept
    { process := Desk.process, deployment := Desk.deployment, instanceId := some "case-1"
      submission := revisedForm, data := ∅ } .save)]

theorem references_kept_resubmitted :
    (∀ call ∈ resubmitted, ¬call.2.Writes) ∧ Desk.empty.storage.instances = ∅ ∧
      (∃ i, (run resubmitted Desk.empty).2.storage.instances.get? "case-1" = some i ∧
        i.attachments.toList = ["receipt"] ∧ i.submissions.toList = [.ofNat 1] ∧
        (run resubmitted Desk.empty).2.storage.Backs i) ∧
      (run resubmitted Desk.empty).2.storage.submissions.get? (.ofNat 1) = some claimForm := by
  have allowed : ∀ call ∈ resubmitted, ¬call.2.Writes := by simp [resubmitted, Writes]
  obtain ⟨backs, kept⟩ := references_kept allowed (s := Desk.empty) rfl
  have named : ((run resubmitted Desk.empty).2.storage.instances.get? "case-1").map
      (fun i => (i.attachments.toList, i.submissions.toList)) =
        some (["receipt"], [.ofNat 1]) := by decide +kernel
  obtain ⟨i, found, parts⟩ := Option.map_eq_some_iff.1 named
  obtain ⟨attachments, submissions⟩ := Prod.mk.inj parts
  refine ⟨allowed, rfl, ⟨i, found, attachments, submissions, backs 3 "case-1" i found⟩, ?_⟩
  exact kept 1 3 (by decide) (.ofNat 1) claimForm (by decide +kernel)

end Request
end Casework
