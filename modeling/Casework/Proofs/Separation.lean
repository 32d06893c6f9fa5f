import Casework.Proofs.Regions
import Casework.Proofs.CompleteInstances

/-!
Requests about different instances. A request is confined to its instance with the record, the
execution that the instance names, the one that it may start, and the attachments and submissions
that it brings (`Request.region`). As long as no two executions get the same name (`Apart`),
requests about different instances may be carried out in either order (`Request.run_swapped`).
-/

namespace Casework

open Casework.Action

theorem stored_of_getInstance {ctx : Context} {s after : State} {id : InstanceId} {i : Instance}
    (found : outcome (getInstance ctx id) s = (.ok i, after)) :
    s.storage.instances.get? id = some i ∧ after = s := by
  rw [outcome_getInstance] at found
  split at found
  · cases found
  · cases found
  · rename_i held
    cases found
    exact ⟨held, rfl⟩

/-- The execution that the stored instance of this name names is in the region. -/
def Region.Names (R : Region) (s : State) (id : InstanceId) : Prop :=
  ∀ i x, s.storage.instances.get? id = some i → i.engineId = some x → R.executions x

namespace Reconcile

variable {R : Region} {ctx : Context} {s : State} {id : InstanceId}

theorem confined_cancelFor {i : Instance} (named : ∀ x, i.engineId = some x → R.executions x) :
    Confined R (cancelFor ctx i) s := by
  unfold cancelFor
  split
  · rename_i x name
    exact .cancelExecution (named x name)
  · exact .pure false

theorem confined_giveUp {x : ExecutionId} (here : R.instances id) (named : R.executions x)
    (cause : Error) : Confined R (giveUp ctx id x cause) s := by
  unfold giveUp
  split
  · exact .modifyRecords here (Confined.single_desync ctx.now id _)
  · refine Confined.tryCatch ?_ fun e after =>
      .modifyRecords here (Confined.single_desync ctx.now id _)
    exact (Confined.cancelExecution named).discard.bind fun _ _ _ =>
      .modifyRecords here (Confined.single_release id)

theorem name_of_started {d : Deployment} {key : String} {data : FieldData} {x : ExecutionId}
    {after : State} {cleaning : Action Unit}
    (started : outcome (tryCatch (startExecution ctx d key data) fun e => do
      cleaning
      throw e) s = (.ok x, after)) : x = s.nextExecution ctx := by
  rw [outcome_tryCatch, outcome_startExecution] at started
  cases out : ctx.outage .startExecution with
  | none =>
    simp only [out] at started
    cases started
    rfl
  | some e =>
    simp only [out, outcome_bind, outcome_throw] at started
    split at started <;> cases started

theorem confined_start {seen : Instance} (here : R.instances seen.id) {name : ExecutionId}
    (steady : ∀ n, ctx.executionName n = name) (named : R.executions name) (d : Deployment) :
    Confined R (start ctx d seen) s := by
  unfold start
  refine (Confined.getInstance here).bind fun stored _ _ =>
    (Confined.advance here _).bind fun _ _ _ => Confined.bind ?_ fun execution _ started => ?_
  · refine (Confined.startExecution steady named d seen.id stored.data).tryCatch fun e _ => ?_
    exact (Confined.modifyRecords here (Confined.single_release seen.id)).bind fun _ _ _ => .throw e
  obtain rfl : execution = name := (name_of_started started).trans (steady _)
  refine (Confined.modifyRecords here (Confined.single_noteExecution seen.id _)).bind
    fun _ _ _ => Confined.bind ?_ fun updated _ _ =>
      (Confined.advance here _).bind fun _ _ _ => .pure updated
  refine (Confined.changeInstance here _).tryCatch fun e _ => ?_
  exact (confined_giveUp here named e).bind fun _ _ _ => .throw e

theorem confined_adopt (here : R.instances id) : Confined R (adopt ctx id) s := by
  have persist (after : State) : Confined R (do
      if (← stateOf id) = .started then advance ctx id .engineIdPersisted) after := by
    refine (Confined.stateOf here).bind fun state _ _ => ?_
    split
    · exact .advance here _
    · exact .pure ()
  refine (Confined.stateOf here).bind fun state after _ => ?_
  dsimp only
  split
  · exact (Confined.advance here _).bind fun _ last _ => persist last
  · exact persist after

theorem confined_compareWith {i : Instance} {x : ExecutionId} (here : R.instances i.id)
    (named : R.executions x) : Confined R (compareWith ctx i x) s := by
  refine (Confined.findExecution named).bind fun found _ _ => ?_
  split
  · exact (Confined.modifyRecords here (Confined.single_desync ctx.now i.id _)).bind
      fun _ _ _ => .stateOf here
  · refine (Confined.stateOf here).bind fun state after _ => ?_
    dsimp only
    split
    · exact (Confined.modifyRecords here (Confined.single_drop i.id)).bind fun _ _ _ => .pure state
    · exact .pure state

theorem confined_verify (keyed : s.Keyed) (here : R.instances id) (named : R.Names s id) :
    Confined R (verify ctx id) s := by
  refine (Confined.stateOf here).bind fun before after looked => ?_
  cases looked
  split
  · exact .pure _
  refine (Confined.getInstance here).bind fun i after found => ?_
  obtain ⟨stored, rfl⟩ := stored_of_getInstance found
  split
  · exact .pure _
  · rename_i x name
    have same : i.id = id := keyed id i stored
    exact (confined_adopt here).bind fun _ _ _ =>
      confined_compareWith (same ▸ here) (named i x stored name)

end Reconcile

namespace Lifecycle

variable {R : Region} {ctx : Context} {s : State} {id : InstanceId}

theorem confined_change_notify (here : R.instances id) (patch : Patch) (known : Option Deployment)
    (e : Event) : Confined R (do
      let updated ← changeInstance ctx id patch
      notify ctx known updated e
      return updated) s :=
  (Confined.changeInstance here patch).bind fun updated _ _ =>
    (Confined.notify known updated e).bind fun _ _ _ => .pure updated

theorem confined_operate {seen : Instance} (here : R.instances seen.id)
    (named : R.Names s seen.id) (kind : OperationKind) (result : Outcome) (principal : Entity) :
    Confined R (operate ctx kind result seen principal) s := by
  refine (Confined.getInstance here).bind fun current after found => ?_
  obtain ⟨stored, rfl⟩ := stored_of_getInstance found
  have change (deployment : Option Deployment) (after : State) : Confined R (do
      if kind = .cancel ∧ ctx.cancelsExecution then
        discard <| Reconcile.cancelFor ctx current
      let patch := operationPatch ctx kind result current deployment principal
      let updated ← changeInstance ctx seen.id (guarded ctx seen patch)
      notify ctx deployment updated (.ofOperation kind)
      return updated) after := by
    dsimp only
    split
    · exact (Reconcile.confined_cancelFor (named current · stored)).discard.bind fun _ _ _ =>
        confined_change_notify here _ _ _
    · exact confined_change_notify here _ _ _
  dsimp only
  split
  · exact ((Confined.getDeployment _).map _).bind fun deployment last _ => change deployment last
  · exact (Confined.pure none).bind fun deployment last _ => change deployment last

theorem confined_accept {v : Validation} (named : v.instanceId = some id) (here : R.instances id)
    (attachments : ∀ a ∈ v.attachments, R.attachments a.id)
    (submission : R.submissions v.submission.id) (action : SubmissionAction) :
    Confined R (accept ctx v action) s := by
  unfold accept
  rw [named]
  exact (Confined.require _ _).bind fun id' _ same => by
    cases same
    exact (Confined.getProcess _).discard.bind fun _ _ _ => (Confined.getDeployment _).bind
      fun deployment _ _ => (Confined.getInstance here).discard.bind fun _ _ _ =>
        (Confined.saveAttachments attachments).bind fun _ _ _ =>
          (Confined.saveSubmission submission).bind fun _ _ _ => confined_change_notify here _ _ _

theorem confined_archive {seen : Instance} (here : R.instances seen.id) (data : FieldData) :
    Confined R (archive ctx seen data) s :=
  (Confined.getInstance here).bind fun _ _ _ => (Confined.getDeployment _).bind fun _ _ _ =>
    confined_change_notify here _ _ _

theorem confined_detach {seen : Instance} (here : R.instances seen.id)
    (attachment : AttachmentId) : Confined R (detach ctx seen attachment) s := by
  refine (Confined.getInstance here).bind fun current _ _ => ?_
  dsimp only
  split
  · exact .bind (.throw _) fun _ _ _ => confined_change_notify here _ _ _
  · exact confined_change_notify here _ _ _

theorem confined_recordTask {seen : Instance} (here : R.instances seen.id) (task : Option Task) :
    Confined R (recordTask ctx seen task) s := by
  cases task with
  | none => exact .pure false
  | some task => exact (Confined.changeInstance here _).discard.bind fun _ _ _ => .pure true

theorem confined_applyTask (here : R.instances id) (kind : OperationKind)
    (reported : Option Task) : Confined R (applyTask ctx id kind reported) s := by
  refine (Confined.getInstance here).bind fun current _ _ => ?_
  dsimp only
  split
  · exact .pure current
  · exact .changeInstance here _

end Lifecycle

/-! ### Requests -/

namespace Request

variable {ctx : Context} {s : State} {r : Request} {id : InstanceId}

/-- The one instance that the request is about. -/
def aim : Request → Option InstanceId
  | .operate _ _ seen _ | .archive seen _ | .detach seen _ | .recordTask seen _ | .start _ seen =>
    some seen.id
  | .accept v _ => v.instanceId
  | .applyTask id _ _ | .verify id => some id
  | _ => none

/-- The attachments that the request brings to its instance. -/
def attachments : Request → List AttachmentId
  | .accept v _ => v.attachments.map Attachment.id
  | _ => []

/-- The submissions that the request brings to its instance. -/
def submissions : Request → List Uuid
  | .accept v _ => [v.submission.id]
  | _ => []

/-- What a request about this instance reads and writes. -/
def region (ctx : Context) (r : Request) (id : InstanceId) (s : State) : Region where
  instances := (· = id)
  executions x := x = ctx.executionName 0 ∨
    ∃ i, s.storage.instances.get? id = some i ∧ i.engineId = some x
  attachments := (· ∈ r.attachments)
  submissions := (· ∈ r.submissions)

/-- A request about an instance is confined to its region, if the name of the execution that it
    may start does not depend on how many others there are. -/
theorem confined_perform (steady : ∀ n, ctx.executionName n = ctx.executionName 0)
    (keyed : s.Keyed) (aimed : r.aim = some id) :
    Confined (r.region ctx id s) (r.perform ctx) s := by
  have names : (r.region ctx id s).Names s id := fun i x found named => .inr ⟨i, found, named⟩
  cases r with
  | operate kind result seen principal =>
    cases aimed
    exact (Lifecycle.confined_operate rfl names kind result principal).map _
  | accept v action =>
    have saved : ∀ a ∈ v.attachments, a.id ∈ v.attachments.map Attachment.id :=
      fun a member => List.mem_map_of_mem member
    exact (Lifecycle.confined_accept aimed rfl saved (List.mem_singleton.2 rfl) action).map _
  | archive seen data =>
    cases aimed
    exact (Lifecycle.confined_archive rfl data).map _
  | detach seen attachment =>
    cases aimed
    exact (Lifecycle.confined_detach rfl attachment).map _
  | recordTask seen task =>
    cases aimed
    exact (Lifecycle.confined_recordTask rfl task).map _
  | applyTask target kind reported =>
    cases aimed
    exact (Lifecycle.confined_applyTask rfl kind reported).map _
  | start d seen =>
    cases aimed
    exact (Reconcile.confined_start rfl steady (Or.inl rfl) d).map _
  | verify target =>
    cases aimed
    exact (Reconcile.confined_verify keyed rfl names).map _
  | _ => cases aimed

/-! ### The names of executions -/

/-- Only a start names an execution in a record, and it takes the next name. -/
theorem engineId_of_sends {current : Instance} {patch : Patch} {x : ExecutionId}
    (allowed : ¬r.Writes) (sends : r.Sends ctx s id current patch)
    (named : patch.engineId = some x) :
    x = s.nextExecution ctx ∧ ∃ d seen, r = .start d seen ∧ seen.id = id := by
  cases sends with
  | operate looked =>
    rename_i kind _ _ _ _
    rw [Lifecycle.guarded_eq] at named
    cases kind <;> cases named
  | archive looked | detach held =>
    rw [Lifecycle.guarded_eq] at named
    cases named
  | accept | recordTask | applyTask => cases named
  | @start d seen => exact ⟨(Option.some.inj named).symm, d, seen, rfl, rfl⟩
  | changeInstance | updateInstance => exact absurd trivial allowed

theorem started_of_start (ctx : Context) (d : Deployment) (seen : Instance) (s : State) :
    (outcome ((start d seen).perform ctx) s).2.storage.instances = s.storage.instances ∨
      (outcome ((start d seen).perform ctx) s).2.started = s.started + 1 := by
  rw [perform, state_map]
  have ended := Reconcile.start_started ctx d seen s
  generalize outcome (Reconcile.start ctx d seen) s = result at ended ⊢
  cases ended with
  | blocked | unlaunched => exact .inl rfl
  | undone | left | done => exact .inr rfl

/-- A record that names an execution named it before, or the request is about the instance and
    has started the execution. -/
theorem named_before_or_started (ctx : Context) (allowed : ¬r.Writes) {j : Instance}
    {x : ExecutionId}
    (held : (outcome (r.perform ctx) s).2.storage.instances.get? id = some j)
    (named : j.engineId = some x) :
    (∃ i, s.storage.instances.get? id = some i ∧ i.engineId = some x) ∨
      (x = s.nextExecution ctx ∧ (outcome (r.perform ctx) s).2.started ≠ s.started ∧
        r.aim = some id) := by
  cases found : s.storage.instances.get? id with
  | none =>
    cases opens_of_new found held with
    | create => cases named
    | saveInstance => exact absurd trivial allowed
  | some i =>
    obtain ⟨k, held', change⟩ := patched_of_stored ctx r found
    obtain rfl := Option.some.inj (held.symm.trans held')
    rcases change with rfl | ⟨patch, sends, applied⟩
    · exact .inl ⟨j, rfl, named⟩
    · have after : j.engineId = i.engineId.or patch.engineId := by
        rw [Patch.eq_of_apply applied]
        rfl
      cases before : i.engineId with
      | some y =>
        rw [after, before] at named
        exact .inl ⟨i, rfl, before.trans named⟩
      | none =>
        rw [after, before, Option.none_or] at named
        obtain ⟨next, d, seen, rfl, rfl⟩ := engineId_of_sends allowed sends named
        refine .inr ⟨next, ?_, rfl⟩
        rcases started_of_start ctx d seen s with same | started
        · rw [same, found] at held
          cases held
          rw [before, named] at after
          cases after
        · omega

/-- The names of the executions that are started in a run, from the first to the last. -/
def startedNames : List (Context × Request) → State → List ExecutionId
  | [], _ => []
  | (ctx, r) :: rest, s =>
    let after := (outcome (r.perform ctx) s).2
    (if after.started = s.started then [] else [s.nextExecution ctx]) ++ startedNames rest after

end Request

/-- The stored instances name executions out of this list, each another one. -/
structure State.Apart (given : List ExecutionId) (s : State) : Prop where
  given : ∀ id i x, s.storage.instances.get? id = some i → i.engineId = some x → x ∈ given
  apart : ∀ id id' i i' x, s.storage.instances.get? id = some i →
    s.storage.instances.get? id' = some i' → i.engineId = some x → i'.engineId = some x → id = id'

theorem State.apart_of_blank {s : State} (blank : s.storage.instances = ∅) : s.Apart [] where
  given id i x found := by
    rw [blank] at found
    cases found
  apart id id' i i' x found := by
    rw [blank] at found
    cases found

namespace Request

variable {s : State}

theorem apart_perform (ctx : Context) {r : Request} (allowed : ¬r.Writes)
    {given : List ExecutionId} (apart : s.Apart given)
    (fresh : (outcome (r.perform ctx) s).2.started ≠ s.started → s.nextExecution ctx ∉ given) :
    (outcome (r.perform ctx) s).2.Apart (given ++
      if (outcome (r.perform ctx) s).2.started = s.started then [] else [s.nextExecution ctx]) where
  given id j x held named := by
    rcases named_before_or_started ctx allowed held named with
      ⟨i, found, before⟩ | ⟨rfl, started, -⟩
    · exact List.mem_append_left _ (apart.given id i x found before)
    · rw [if_neg started]
      exact List.mem_append_right _ (List.mem_singleton.2 rfl)
  apart id id' j j' x held held' named named' := by
    rcases named_before_or_started ctx allowed held named with
      ⟨i, found, before⟩ | ⟨next, started, aimed⟩
    · rcases named_before_or_started ctx allowed held' named' with
        ⟨i', found', before'⟩ | ⟨rfl, started, -⟩
      · exact apart.apart id id' i i' x found found' before before'
      · exact absurd (apart.given id i _ found before) (fresh started)
    · rcases named_before_or_started ctx allowed held' named' with
        ⟨i', found', before'⟩ | ⟨-, -, aimed'⟩
      · rw [next] at before'
        exact absurd (apart.given id' i' _ found' before') (fresh started)
      · exact Option.some.inj (aimed.symm.trans aimed')

theorem apart_run {calls : List (Context × Request)} (allowed : ∀ call ∈ calls, ¬call.2.Writes)
    {given : List ExecutionId} (apart : s.Apart given)
    (fresh : (given ++ startedNames calls s).Nodup) :
    (run calls s).2.Apart (given ++ startedNames calls s) := by
  induction calls generalizing s given with
  | nil =>
    rw [startedNames, List.append_nil]
    exact apart
  | cons call rest ih =>
    rw [startedNames] at fresh ⊢
    rw [← List.append_assoc] at fresh ⊢
    refine ih (fun later member => allowed later (List.mem_cons_of_mem call member))
      (apart_perform call.1 (allowed call List.mem_cons_self) apart fun started member => ?_) fresh
    rw [if_neg started] at fresh
    have disjoint := (List.nodup_append.1 (List.nodup_append.1 fresh).1).2.2
    exact disjoint _ member _ (List.mem_singleton.2 rfl) rfl

variable {first second : Context × Request} {a b : InstanceId}

/-- Requests about different instances have nothing in common, if neither names the execution
    that it may start like another one. -/
theorem regions_apart {given : List ExecutionId} (named : s.Apart given)
    (fresh : (given ++ [first.1.executionName 0, second.1.executionName 0]).Nodup) (apart : a ≠ b)
    (attachments : ∀ x ∈ first.2.attachments, x ∉ second.2.attachments)
    (submissions : ∀ x ∈ first.2.submissions, x ∉ second.2.submissions) :
    (first.2.region first.1 a s).Within (second.2.region second.1 b s).rest := by
  obtain ⟨-, two, disjoint⟩ := List.nodup_append.1 fresh
  refine ⟨?_, ?_, attachments, submissions⟩
  · rintro id rfl there
    exact apart there
  · rintro x (rfl | ⟨i, found, name⟩) (same | ⟨j, found', name'⟩)
    · simp [same] at two
    · exact disjoint _ (named.given b j _ found' name') _ (by simp) rfl
    · exact disjoint _ (named.given a i _ found name) _ (by simp [same]) rfl
    · exact apart (named.apart a b i j x found found' name name')

/-- After a run from a state without instances, in which no two executions get the same name, two
    requests about different instances leave each other's instance and record as they are, and
    they may be carried out in either order: both get the same answers, and the same instances,
    records, executions, attachments and submissions are left. -/
theorem run_swapped {calls : List (Context × Request)} {s₀ : State}
    (blank : s₀.storage.instances = ∅) (allowed : ∀ call ∈ calls, ¬call.2.Writes)
    (fresh : (startedNames calls s₀ ++
      [first.1.executionName 0, second.1.executionName 0]).Nodup)
    (steady : ∀ n, first.1.executionName n = first.1.executionName 0)
    (steady' : ∀ n, second.1.executionName n = second.1.executionName 0)
    (aimed : first.2.aim = some a) (aimed' : second.2.aim = some b) (apart : a ≠ b)
    (attachments : ∀ x ∈ first.2.attachments, x ∉ second.2.attachments)
    (submissions : ∀ x ∈ first.2.submissions, x ∉ second.2.submissions) :
    let s := (run calls s₀).2
    let afterFirst := (outcome (first.2.perform first.1) s).2
    let afterSecond := (outcome (second.2.perform second.1) s).2
    let forth := run [first, second] s
    let back := run [second, first] s
    (afterFirst.storage.instances.get? b = s.storage.instances.get? b ∧
        afterFirst.records.get? b = s.records.get? b) ∧
      (afterSecond.storage.instances.get? a = s.storage.instances.get? a ∧
        afterSecond.records.get? a = s.records.get? a) ∧
      back.1 = forth.1.reverse ∧
      forth.2.storage.instances = back.2.storage.instances ∧
      forth.2.records = back.2.records ∧
      forth.2.engine = back.2.engine ∧
      forth.2.storage.attachments = back.2.storage.attachments ∧
      forth.2.storage.submissions = back.2.storage.submissions := by
  have keyed := keyed_run calls (State.keyed_of_blank blank)
  have named := apart_run allowed (State.apart_of_blank blank) (List.nodup_append.1 fresh).1
  generalize (run calls s₀).2 = s at keyed named
  dsimp only
  have confined := confined_perform steady keyed aimed
  have confined' := confined_perform steady' keyed aimed'
  have beside := regions_apart named fresh apart attachments submissions
  obtain ⟨answer, answer', everywhere⟩ := confined.commute confined' beside
  have left := confined.spares (Region.within_rest_symm beside)
  have right := confined'.spares beside
  have all := everywhere ⟨fun _ => True, fun _ => True, fun _ => True, fun _ => True⟩
  refine ⟨⟨(left.instances b rfl).symm, (left.records b rfl).symm⟩,
    ⟨(right.instances a rfl).symm, (right.records a rfl).symm⟩, ?_, ?_, ?_, ?_, ?_, ?_⟩
  · show [(outcome (second.2.perform second.1) s).1, (outcome (first.2.perform first.1)
        (outcome (second.2.perform second.1) s).2).1] =
      [(outcome (second.2.perform second.1) (outcome (first.2.perform first.1) s).2).1,
        (outcome (first.2.perform first.1) s).1]
    rw [answer, answer']
  · exact SortedMap.ext_get? fun id => all.instances id trivial
  · exact SortedMap.ext_get? fun id => all.records id trivial
  · exact SortedMap.ext_get? fun x => all.engine x trivial
  · exact SortedMap.ext_get? fun x => all.attachments x trivial
  · exact SortedMap.ext_get? fun x => all.submissions x trivial

/-- What a request is given whose execution gets this name. -/
def supplied (name : ExecutionId) : Context :=
  { Desk.context "-" with cancelsExecution := true, executionName := fun _ => name }

def twoCases : List (Context × Request) := [
  Desk.creation,
  (Desk.context "case-2", Desk.creation.2),
  (supplied "exec-1", .start Desk.deployment Desk.opened)]

def cancellation : Context × Request :=
  (supplied "exec-2", .operate .cancel {} Desk.opened Desk.alice)

def secondStart : Context × Request :=
  (supplied "exec-3", .start Desk.deployment { Desk.opened with id := "case-2" })

theorem run_swapped_cancelled :
    Desk.empty.storage.instances = ∅ ∧ (∀ call ∈ twoCases, ¬call.2.Writes) ∧
      startedNames twoCases Desk.empty = ["exec-1"] ∧
      (run [cancellation, secondStart] (run twoCases Desk.empty).2).2.storage.instances =
        (run [secondStart, cancellation] (run twoCases Desk.empty).2).2.storage.instances ∧
      (run [cancellation, secondStart] (run twoCases Desk.empty).2).2.engine =
        (run [secondStart, cancellation] (run twoCases Desk.empty).2).2.engine ∧
      (run [cancellation, secondStart] (run twoCases Desk.empty).2).2.engine.entries.map Prod.fst =
        ["exec-3"] := by
  have allowed : ∀ call ∈ twoCases, ¬call.2.Writes := by
    simp [twoCases, Desk.creation, Writes]
  have names : startedNames twoCases Desk.empty = ["exec-1"] := by decide +kernel
  obtain ⟨-, -, -, instances, -, engine, -, -⟩ := @run_swapped cancellation secondStart "case-1"
    "case-2" twoCases Desk.empty rfl allowed (by rw [names]; decide) (fun _ => rfl) (fun _ => rfl)
    rfl rfl (by decide) (by simp [cancellation, attachments]) (by simp [cancellation, submissions])
  exact ⟨rfl, allowed, names, instances, engine, by decide +kernel⟩

end Request
end Casework
