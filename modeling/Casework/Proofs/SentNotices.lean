import Casework.Proofs.FailedStarts

/-!
The notices that requests send. A request about an instance that goes through is one event, and one
deployment is asked what it tells of the event (`Request.sender?`). What it tells goes out once, in
its order, and all else sends nothing; so the notices of a run are those of its requests, one after
the other, whatever the notification service answers (`Request.run_sends`).
-/

namespace Casework

open Casework.Action Casework.Lifecycle

/-- What a deployment tells of an event, about the instance as it is now. -/
def Deployment.tells (d : Deployment) (i : Instance) (e : Event) (now : Instant) : List Notice :=
  d.notifications.filterMap fun n => if n.trigger = e then some ⟨n, i.facts, e, now⟩ else none

theorem Deployment.mem_tells_iff (d : Deployment) {i : Instance} {e : Event} {now : Instant}
    {notice : Notice} : notice ∈ d.tells i e now ↔
      ∃ n ∈ d.notifications, n.trigger = e ∧ notice = ⟨n, i.facts, e, now⟩ := by
  unfold tells
  rw [List.mem_filterMap]
  refine exists_congr fun n => and_congr_right fun _ => ?_
  by_cases waits : n.trigger = e <;> simp [waits, eq_comm]

theorem Deployment.notices_eq_tells (d : Deployment) (i : Instance) (e : Event) (now : Instant) :
    d.notices i e now = d.tells i e now := by
  unfold notices tells
  induction d.notifications with
  | nil => rfl
  | cons n rest ih => by_cases waits : n.trigger = e <;> simp [waits, ih]

def State.deploymentOf? (s : State) (id : InstanceId) : Option Deployment :=
  (s.storage.instances.get? id).bind fun i => s.storage.deployments.get? i.deploymentId

namespace Request

/-- The event that a request is, if it goes through. -/
def event? : Request → Option Event
  | .create .. => some .instanceCreated
  | .operate kind .. => some (.ofOperation kind)
  | .accept .. => some .instanceUpdated
  | .archive .. => some .instanceArchived
  | .detach .. => some .attachmentRemoved
  | _ => none

/-- The events by the names that they are sent under. -/
theorem name_event? (r : Request) : r.event?.map Named.name =
    match r with
    | .create .. => some "instance_created"
    | .operate .assign .. => some "task_assigned"
    | .operate .claim .. => some "task_claimed"
    | .operate .complete .. => some "task_completed"
    | .operate .reject .. => some "task_rejected"
    | .operate .cancel .. => some "instance_cancelled"
    | .operate .update .. | .accept .. => some "instance_updated"
    | .operate .activation .. => some "instance_activated"
    | .operate .suspension .. => some "instance_suspended"
    | .archive .. => some "instance_archived"
    | .detach .. => some "attachment_removed"
    | _ => none := by
  cases r with
  | operate kind => cases kind <;> rfl
  | _ => rfl

/-- The deployment that tells of a request. Where it is looked up for nothing else, it is no
    failure if it cannot be looked up, and nobody tells of the request. -/
def sender? (ctx : Context) (s : State) : Request → Option Deployment
  | .create _ d .. => some d
  | .accept v _ => s.storage.deployments.get? v.deployment.id
  | .archive seen _ | .operate .cancel _ seen _ => s.deploymentOf? seen.id
  | .operate _ _ seen _ | .detach seen _ =>
    if ctx.outage .findDeployment = none then s.deploymentOf? seen.id else none
  | _ => none

/-- What is told of a request that is answered with this instance. -/
def told (ctx : Context) (s : State) (r : Request) (i : Instance) : List Notice :=
  (r.event?.bind fun e => (r.sender? ctx s).map fun d => d.tells i e ctx.now).getD []

/-- What is told are notifications of the sender that wait for the event, with the facts about the
    instance. -/
theorem mem_told_iff {ctx : Context} {s : State} {r : Request} {i : Instance} {notice : Notice} :
    notice ∈ r.told ctx s i ↔ ∃ d e, r.sender? ctx s = some d ∧ r.event? = some e ∧
      ∃ n ∈ d.notifications, n.trigger = e ∧ notice = ⟨n, i.facts, e, ctx.now⟩ := by
  unfold told
  cases r.event? with
  | none => simp
  | some e =>
    cases r.sender? ctx s with
    | none => simp
    | some d =>
      refine d.mem_tells_iff.trans ⟨fun found => ⟨d, e, rfl, rfl, found⟩, ?_⟩
      rintro ⟨_, _, sender, event, found⟩
      cases sender
      cases event
      exact found

/-- The notices that a request sends, by its answer. -/
def due (ctx : Context) (s : State) (r : Request) : Except Error Answer → List Notice
  | .ok (.changed i) => r.told ctx s i
  | _ => []

/-- The notices that a run sends. -/
def announced : List (Context × Request) → State → List Notice
  | [], _ => []
  | (ctx, r) :: rest, s =>
    let (answer, after) := (r.perform ctx).outcome s
    r.due ctx s answer ++ announced rest after

end Request

/-! ### What requests about instances send -/

/-- The end of an action that has sent just these notices about the instance that it answers
    with, and nothing if it has failed. -/
def Announces (tells : Instance → List Notice) (s : State) (after : Except Error Instance × State) :
    Prop :=
  after.2.outbox = s.outbox ++ match after.1 with
    | .ok i => tells i
    | .error _ => []

theorem announces_of_failed (tells : Instance → List Notice) (e : Error) {s after : State}
    (same : after.outbox = s.outbox) : Announces tells s (.error e, after) :=
  same.trans (List.append_nil _).symm

theorem noticesOf_eq_told {ctx : Context} {s : State} {r : Request} {known : Option Deployment}
    {i : Instance} {e : Event} (event : r.event? = some e)
    (sender : known.or
      (if ctx.outage .findDeployment = none then s.storage.deployments.get? i.deploymentId
        else none) = r.sender? ctx s) :
    noticesOf ctx s.storage known i e = r.told ctx s i := by
  unfold noticesOf Request.told
  simp only [sender, event, Deployment.notices_eq_tells]
  rfl

theorem Patch.deploymentId_of_apply {p : Patch} {now : Instant} {i updated : Instance}
    {changed : Bool} (applied : p.apply now i = .ok (changed, updated)) :
    updated.deploymentId = i.deploymentId := by
  rw [eq_of_apply applied]
  cases changed <;> rfl

namespace Lifecycle

variable {ctx : Context} {s : State} {after : Except Error Instance × State}

theorem announces_of_created {p : ProcessDefinition} {d : Deployment} {data : FieldData}
    {attachments : List Attachment} {submission : Option Submission} {initiator : Entity}
    (ended : Created ctx p d data attachments submission initiator s after) :
    Announces ((Request.create p d data attachments submission initiator).told ctx s) s after := by
  cases ended with
  | refused e => exact announces_of_failed _ e rfl
  | orphaned e => exact announces_of_failed _ e rfl
  | done =>
    show s.outbox ++ d.notices _ _ _ = _
    rw [Deployment.notices_eq_tells]
    rfl

theorem announces_of_accepted {v : Validation} {action : SubmissionAction}
    (ended : Accepted ctx v action s after) :
    Announces ((Request.accept v action).told ctx s) s after := by
  cases ended with
  | refused e => exact announces_of_failed _ e rfl
  | orphaned e => exact announces_of_failed _ e rfl
  | @done id d current updated changed named process deployment =>
    have sender : (Request.accept v action).sender? ctx s = some d := deployment
    show s.outbox ++ d.notices updated _ _ = s.outbox ++ Request.told ctx s _ updated
    rw [Deployment.notices_eq_tells, Request.told, sender]
    rfl

theorem announces_of_operated {kind : OperationKind} {result : Outcome} {seen : Instance}
    {principal : Entity} (ended : Operated ctx kind result seen principal s after) :
    Announces ((Request.operate kind result seen principal).told ctx s) s after := by
  cases ended with
  | refused e => exact announces_of_failed _ e rfl
  | halted => exact announces_of_failed _ _ rfl
  | @done current updated deployment changed before found looked stopped applied =>
    have outbox : before.outbox = s.outbox := by
      rw [stopped]
      split <;> rfl
    have deployed := Patch.deploymentId_of_apply applied
    show before.outbox ++ noticesOf ctx s.storage deployment updated _ = _
    rw [outbox]
    refine congrArg (s.outbox ++ ·) (noticesOf_eq_told rfl ?_)
    rw [deployed]
    -- Cancelling has looked the deployment up; after any other operation it is looked up now.
    cases kind with
    | cancel =>
      obtain ⟨known, stored⟩ : deployment ≠ none ∧ _ := looked
      obtain ⟨d, rfl⟩ := Option.ne_none_iff_exists'.1 known
      simp [Request.sender?, State.deploymentOf?, found, stored]
    | _ =>
      obtain rfl : deployment = none := looked
      simp [Request.sender?, State.deploymentOf?, found]

theorem announces_of_archived {seen : Instance} {data : FieldData}
    (ended : Archived ctx seen data s after) :
    Announces ((Request.archive seen data).told ctx s) s after := by
  cases ended with
  | refused e => exact announces_of_failed _ e rfl
  | done found looked applied =>
    refine congrArg (s.outbox ++ ·) (noticesOf_eq_told rfl ?_)
    simp [Request.sender?, State.deploymentOf?, found, looked]

theorem announces_of_detached {seen : Instance} {attachment : AttachmentId}
    (ended : Detached ctx seen attachment s after) :
    Announces ((Request.detach seen attachment).told ctx s) s after := by
  cases ended with
  | refused e => exact announces_of_failed _ e rfl
  | done found held applied =>
    refine congrArg (s.outbox ++ ·) (noticesOf_eq_told rfl ?_)
    rw [Patch.deploymentId_of_apply applied]
    simp [Request.sender?, State.deploymentOf?, found]

end Lifecycle

namespace Request

variable {ctx : Context} {s : State} {r : Request}

theorem outbox_update (ctx : Context) (id : InstanceId) (patch : Patch) (s : State) :
    (outcome (Action.updateInstance ctx id patch) s).2.outbox = s.outbox := by
  rw [outcome_updateInstance]
  cases ctx.outage .updateInstance with
  | some e => rfl
  | none => cases s.storage.update ctx.now id patch <;> rfl

theorem outbox_of_tasksChanged {id : InstanceId} {tasks : List Task}
    {after : Except Error Instance × State} (ended : TasksChanged ctx id tasks s after) :
    after.2.outbox = s.outbox := by
  cases ended <;> rfl

theorem outbox_verify (ctx : Context) (id : InstanceId) (s : State) :
    (outcome (Reconcile.verify ctx id) s).2.outbox = s.outbox := by
  rw [Reconcile.outcome_verify]
  split
  · rfl
  · split
    · rfl
    · rfl
    · split <;> rfl

theorem outbox_of_quiet (ctx : Context) (s : State) (quiet : r.event? = none) :
    (outcome (r.perform ctx) s).2.outbox = s.outbox := by
  by_cases looks : r.Looks
  · rw [state_of_looks ctx looks]
  cases r with
  | create | operate | accept | archive | detach => cases quiet
  | recordTask seen task =>
    rw [perform, state_map]
    have ended := recordTask_taskRecorded ctx seen task s
    generalize outcome (Lifecycle.recordTask ctx seen task) s = after at ended
    cases ended with
    | nothing | refused => rfl
    | done change => exact outbox_of_tasksChanged change
  | applyTask id kind reported =>
    rw [perform, state_map]
    have ended := applyTask_taskApplied ctx id kind reported s
    generalize outcome (Lifecycle.applyTask ctx id kind reported) s = after at ended
    cases ended with
    | refused | idle => rfl
    | done found change => exact outbox_of_tasksChanged change
  | saveInstance i =>
    rw [perform, state_map, outcome_saveInstance]
    split <;> rfl
  | changeInstance id patch =>
    rw [perform, state_map]
    unfold Action.changeInstance
    split
    · rw [outcome_getInstance]
      split <;> rfl
    · have missing (stored : Option Instance) (after : State) (kept : after.outbox = s.outbox) :
          (outcome (Action.require (.instanceNotFound id) stored) after).2.outbox = s.outbox := by
        cases stored <;> exact kept
      exact keeps_bind (outbox_update ctx id patch s) missing
  | updateInstance id patch =>
    rw [perform, state_map]
    exact outbox_update ctx id patch s
  | saveAttachment a =>
    rw [perform, outcome_bind, outcome_saveAttachment]
    cases ctx.outage .saveAttachment with
    | some e => rfl
    | none => cases ctx.outage (.saveAttachmentOf a.id) <;> rfl
  | saveSubmission submission =>
    rw [perform, outcome_bind, outcome_saveSubmission]
    cases ctx.outage .saveSubmission <;> rfl
  | start d seen =>
    rw [perform, state_map]
    exact Reconcile.outbox_start ctx d seen s
  | cancelFor seen =>
    rw [perform, state_map, outcome_cancelFor]
    split <;> rfl
  | verify id =>
    rw [perform, state_map]
    exact outbox_verify ctx id s
  | audit query =>
    rw [perform, state_map]
    have step (id : InstanceId) (t : State) (kept : t.outbox = s.outbox) :
        (outcome (Reconcile.verify ctx id) t).2.outbox = s.outbox :=
      (outbox_verify ctx id t).trans kept
    exact Reconcile.audit_keeps step query rfl
  | startExecution d key data =>
    rw [perform, state_map, outcome_startExecution]
    split <;> rfl
  | cancelExecution id =>
    rw [perform, state_map, outcome_cancelExecution]
    split <;> rfl
  | saveProcess | saveDeployment | forget => rfl
  | _ => exact absurd trivial looks

theorem due_of_quiet (quiet : r.event? = none) (answer : Except Error Answer) :
    r.due ctx s answer = [] := by
  unfold due told
  rw [quiet]
  split <;> rfl

theorem outbox_of_announces {a : Action Instance} (performs : r.perform ctx = .changed <$> a)
    (announces : Announces (r.told ctx s) s (outcome a s)) :
    (outcome (r.perform ctx) s).2.outbox =
      s.outbox ++ r.due ctx s (outcome (r.perform ctx) s).1 := by
  rw [performs, outcome_map]
  cases ended : outcome a s with
  | mk answer after =>
    rw [ended] at announces
    cases answer <;> exact announces

/-- A request sends what is due to its answer. -/
theorem outbox_perform (ctx : Context) (r : Request) (s : State) :
    (outcome (r.perform ctx) s).2.outbox =
      s.outbox ++ r.due ctx s (outcome (r.perform ctx) s).1 := by
  cases event : r.event? with
  | none => rw [outbox_of_quiet ctx s event, due_of_quiet event, List.append_nil]
  | some e =>
    cases r with
    | create p d data attachments submission initiator =>
      exact outbox_of_announces rfl (announces_of_created
        (create_created ctx p d data attachments submission initiator s))
    | operate kind result seen principal =>
      exact outbox_of_announces rfl (announces_of_operated
        (operate_operated ctx kind result seen principal s))
    | accept v action =>
      exact outbox_of_announces rfl (announces_of_accepted (accept_accepted ctx v action s))
    | archive seen data =>
      exact outbox_of_announces rfl (announces_of_archived (archive_archived ctx seen data s))
    | detach seen attachment =>
      exact outbox_of_announces rfl
        (announces_of_detached (detach_detached ctx seen attachment s))
    | _ => cases event

theorem outbox_run (calls : List (Context × Request)) (s : State) :
    (run calls s).2.outbox = s.outbox ++ announced calls s := by
  induction calls generalizing s with
  | nil => exact (List.append_nil _).symm
  | cons call rest ih =>
    obtain ⟨ctx, r⟩ := call
    show (run rest (outcome (r.perform ctx) s).2).2.outbox = _
    rw [ih, outbox_perform, List.append_assoc]
    rfl

end Request

/-! ### The answers of the service -/

/-- What is given to a request, with another notification service. -/
def Context.servedBy (ctx : Context) (service : List Notice → Notice → Bool) : Context :=
  { ctx with accepts := service }

namespace Request

theorem notify_servedBy (ctx : Context) (service : List Notice → Notice → Bool) :
    notify (ctx.servedBy service) = notify ctx := by
  funext known i e s
  exact (outcome_notify _ known i e s).trans (outcome_notify ctx known i e s).symm

theorem saveAttachments_servedBy (ctx : Context) (service : List Notice → Notice → Bool) :
    saveAttachments (ctx.servedBy service) = saveAttachments ctx := by
  funext attachments
  induction attachments with
  | nil => rfl
  | cons a rest ih =>
    unfold saveAttachments
    rw [ih]
    rfl

theorem verifyAll_servedBy (ctx : Context) (service : List Notice → Notice → Bool) :
    Reconcile.verifyAll (ctx.servedBy service) = Reconcile.verifyAll ctx := by
  funext items
  induction items with
  | nil => rfl
  | cons i rest ih =>
    unfold Reconcile.verifyAll
    rw [ih]
    rfl

/-- A request does the same whatever the notification service answers. -/
theorem perform_servedBy (ctx : Context) (service : List Notice → Notice → Bool) (r : Request) :
    r.perform (ctx.servedBy service) = r.perform ctx := by
  -- Only sending asks the service; all other actions are the same by definition.
  cases r with
  | create | accept =>
    simp only [perform, Lifecycle.create, Lifecycle.accept, notify_servedBy,
      saveAttachments_servedBy]
    rfl
  | operate | archive | detach =>
    simp only [perform, Lifecycle.operate, Lifecycle.archive, Lifecycle.detach, notify_servedBy]
    rfl
  | audit =>
    simp only [perform, Reconcile.audit, verifyAll_servedBy]
    rfl
  | _ => rfl

theorem run_servedBy (calls : List (Context × Request)) (s : State)
    (services : Nat → List Notice → Notice → Bool) :
    run (calls.mapIdx fun n call => (call.1.servedBy (services n), call.2)) s = run calls s := by
  induction calls generalizing s services with
  | nil => rfl
  | cons call rest ih =>
    have later := ih (outcome (call.2.perform call.1) s).2 fun n => services (n + 1)
    rw [List.mapIdx_cons]
    simp only [run, perform_servedBy, later]

/-- The notices of a run are what is due to its requests, one request after the other, and with
    any other answers of the notification service the run is the same. -/
theorem run_sends (calls : List (Context × Request)) (s : State)
    (services : Nat → List Notice → Notice → Bool) :
    (run calls s).2.outbox = s.outbox ++ announced calls s ∧
      run (calls.mapIdx fun n call => (call.1.servedBy (services n), call.2)) s = run calls s :=
  ⟨outbox_run calls s, run_servedBy calls s services⟩

/-- A deployment that tells of updates. -/
def telling : Deployment :=
  { Desk.deployment with notifications := [{ name := "changed", trigger := .instanceUpdated }] }

def watched : State := (run [(Desk.context "case-1",
  .create Desk.process telling ∅ [] none Desk.alice)]
    { storage := Desk.empty.storage.saveDeployment telling }).2

/-- An update is told with the facts about the instance as it is then, and a claim is not told. -/
theorem run_sends_update :
    (run [(Desk.context "-",
        .operate .update { applicationStatus := some "late" } Desk.opened Desk.alice),
      (Desk.context "-", .operate .claim {} Desk.opened Desk.alice)] watched).2.outbox =
      [{
        notification := { name := "changed", trigger := .instanceUpdated }
        context := SortedMap.ofList [("process_instance_id", "case-1"),
          ("process_instance_label", "Expense"), ("process_definition_key", "expense"),
          ("process_status", "OPEN"), ("application_status", "late"), ("initiator_id", "alice")]
        event := .instanceUpdated
        time := .ofSecond 0 }] :=
  (run_sends _ watched fun _ _ _ => true).1.trans (by decide +kernel)

/-- What is given while deployments cannot be looked up. -/
def lookupsOut : Context :=
  { Desk.context "-" with
    outage := fun call => if call = .findDeployment then some (.storage "down") else none }

/-- An update goes through, the stored deployment of the instance tells of updates, and no notice
    is sent. -/
theorem unsent_whileOut :
    ∃ i d, (run [(lookupsOut, .operate .update {} Desk.opened Desk.alice)] watched).1 =
        [.ok (.changed i)] ∧
      watched.deploymentOf? Desk.opened.id = some d ∧
      d.tells i .instanceUpdated lookupsOut.now ≠ [] ∧
      (run [(lookupsOut, .operate .update {} Desk.opened Desk.alice)] watched).2.outbox =
        watched.outbox := by
  refine ⟨_, telling, rfl, by decide +kernel, by decide +kernel, by decide +kernel⟩

end Request
end Casework
