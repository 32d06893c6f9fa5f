import Casework.Proofs.CompleteInstances

/-!
What an operation does to its instance, part by part, and what it leaves alone (`OperationEffect`).
Of the tasks at most one changes: the one that a claim, a completion or a rejection reports. Its
entry starts from the instance's own copy, and of the report only the assignee gets into it, unless
the instance does not have the task (`OperationKind.entry`).
-/

namespace Casework

open Casework.Action Casework.Lifecycle

namespace OperationKind

/-- The task whose entry an operation on an instance changes. -/
def worksOn? (kind : OperationKind) (result : Outcome) : Option Task :=
  match kind with
  | .claim | .complete | .reject => result.task
  | .assign | .cancel | .update | .activation | .suspension => none

/-- The entry that an operation leaves of a task which an instance may have. A claim puts it into
    the hands of whom the report says, also of nobody. -/
def entry (kind : OperationKind) (known : Option Task) (reported : Task) (now : Instant) : Task :=
  let own := known.getD reported
  if kind = .claim then { own with assignee := reported.assignee, active := true }
  else
    { own with
      assignee := reported.assignee.or own.assignee
      active := false
      complete := true
      finish := some now }

theorem change?_of_worksOn {kind : OperationKind} {result : Outcome} {reported : Task}
    (works : kind.worksOn? result = some reported) (known : Option Task) (now : Instant) :
    kind.change? known reported now = some (kind.entry known reported now) := by
  cases kind with
  | claim => rfl
  | complete | reject =>
    cases known with
    | some own => rfl
    | none => simp [change?, entry, Task.completedAt]
  | assign | cancel | update | activation | suspension => cases works

theorem id_entry {kind : OperationKind} {tasks : TaskSet} (keyed : tasks.Keyed) (reported : Task)
    (now : Instant) : (kind.entry (tasks.get? reported.id) reported now).id = reported.id := by
  have own : ((tasks.get? reported.id).getD reported).id = reported.id := by
    cases here : tasks.get? reported.id with
    | none => rfl
    | some task => exact keyed.id_eq here
  unfold entry
  split <;> exact own

end OperationKind

namespace Lifecycle

theorem taskPatch_of_worksOn {kind : OperationKind} {result : Outcome} {reported : Task}
    (works : kind.worksOn? result = some reported) (now : Instant) (current : Instance) :
    taskPatch now kind result current =
      [kind.entry (current.tasks.get? reported.id) reported now] := by
  have change := OperationKind.change?_of_worksOn works (current.tasks.get? reported.id) now
  cases kind with
  | claim | complete | reject =>
    have given : result.task = some reported := works
    simp [taskPatch, OperationKind.delta, given, change]
  | assign | cancel | update | activation | suspension => cases works

theorem taskPatch_of_idle {kind : OperationKind} {result : Outcome}
    (idle : kind.worksOn? result = none) (now : Instant) (current : Instance) :
    taskPatch now kind result current = [] := by
  cases kind with
  | claim | complete | reject =>
    have none_given : result.task = none := idle
    simp [taskPatch, OperationKind.delta, none_given]
  | assign | update => rfl
  | cancel | activation | suspension => exact taskPatch_of_isInstanceLevel rfl now result current

end Lifecycle

/-! ### All parts of the record -/

/-- The application status to which an operation moves an instance where its result names none, if
    the deployment gives this one to cancelled instances. -/
def OperationKind.fallback? (kind : OperationKind) (cancellation : Option String)
    (old : Instance) : Option String :=
  match kind with
  | .activation => old.previousApplicationStatus
  | .cancel => cancellation
  | .assign | .claim | .complete | .reject | .update | .suspension => none

/-- What an operation makes of a record, if its deployment gives this application status to
    cancelled instances. -/
structure OperationEffect (ctx : Context) (kind : OperationKind) (result : Outcome)
    (principal : Entity) (cancellation : Option String) (old new : Instance) : Prop where
  status : new.status = kind.status?.getD old.status
  applicationStatus : new.applicationStatus =
    (result.applicationStatus.or (kind.fallback? cancellation old)).or old.applicationStatus
  explanation : new.explanation = result.explanation.or old.explanation
  previousApplicationStatus : new.previousApplicationStatus =
    if kind = .suspension then old.applicationStatus.or old.previousApplicationStatus
    else old.previousApplicationStatus
  finish : new.finish = if kind = .cancel then old.finish.or (some ctx.now) else old.finish
  operations : new.operations =
    if ∃ entry ∈ old.operations, entry.id = ctx.newOperation then old.operations
    else old.operations ++
      [⟨ctx.newOperation, kind, result.explanation, ctx.now, principal.id⟩]
  entry : ∀ task, kind.worksOn? result = some task →
    new.tasks.get? task.id = some (kind.entry (old.tasks.get? task.id) task ctx.now)
  tasks : ∀ id, (∀ task, kind.worksOn? result = some task → task.id ≠ id) →
    new.tasks.get? id = old.tasks.get? id
  /-- The parts that are not named are as they were. -/
  rest : new =
    { old with
      status := new.status
      applicationStatus := new.applicationStatus
      explanation := new.explanation
      previousApplicationStatus := new.previousApplicationStatus
      finish := new.finish
      operations := new.operations
      tasks := new.tasks
      version := new.version
      modified := new.modified }

namespace OperationEffect

variable {ctx : Context} {kind : OperationKind} {result : Outcome} {principal : Entity}
  {cancellation : Option String} {old new : Instance}

theorem stamp (effect : OperationEffect ctx kind result principal cancellation old new)
    (now : Instant) :
    OperationEffect ctx kind result principal cancellation old (Patch.stamp now new) where
  status := effect.status
  applicationStatus := effect.applicationStatus
  explanation := effect.explanation
  previousApplicationStatus := effect.previousApplicationStatus
  finish := effect.finish
  operations := effect.operations
  entry := effect.entry
  tasks := effect.tasks
  rest := by
    have rest := effect.rest
    generalize new = i at rest ⊢
    rw [rest]
    rfl

theorem of_merge {deployment : Option Deployment} (keyed : old.tasks.Keyed)
    (looked : kind = .cancel → deployment.bind Deployment.cancellationStatus = cancellation) :
    OperationEffect ctx kind result principal cancellation old
      ((operationPatch ctx kind result old deployment principal).merge old) where
  status := by cases kind <;> rfl
  applicationStatus := by
    cases kind with
    | cancel => rw [← looked rfl]; rfl
    | _ => simp [Patch.merge, operationPatch, statusPatch, OperationKind.fallback?]
  explanation := by cases kind <;> rfl
  previousApplicationStatus := by cases kind <;> rfl
  finish := by
    cases kind with
    | cancel => cases ended : old.finish <;> simp [Patch.merge, operationPatch, statusPatch, ended]
    | _ => rfl
  operations := by
    have logged : ((operationPatch ctx kind result old deployment principal).merge old).operations =
        OperationLog.append old.operations
          ⟨ctx.newOperation, kind, result.explanation, ctx.now, principal.id⟩ := by
      cases kind <;> rfl
    rw [logged, OperationLog.append]
    simp only [OperationLog.contains_iff]
  entry task works := by
    show (old.tasks.upsertMany (taskPatch ctx.now kind result old)).get? task.id = _
    rw [taskPatch_of_worksOn works, TaskSet.get?_upsertMany]
    simp [TaskSet.lastOf, OperationKind.id_entry keyed]
  tasks id others := by
    show (old.tasks.upsertMany (taskPatch ctx.now kind result old)).get? id = _
    rw [TaskSet.get?_upsertMany]
    cases works : kind.worksOn? result with
    | none => rw [taskPatch_of_idle works]; rfl
    | some task =>
      have apart := others task works
      rw [taskPatch_of_worksOn works]
      simp [TaskSet.lastOf, OperationKind.id_entry keyed, apart]
  rest := by
    -- The execution is the only part that is merged by cases on the old record.
    have bound : old.engineId.or none = old.engineId := Option.or_none
    cases kind <;> simp only [Patch.merge, operationPatch, statusPatch, bound] <;> rfl

end OperationEffect

namespace Lifecycle

variable {ctx : Context} {kind : OperationKind} {result : Outcome} {seen : Instance}
  {principal : Entity} {s : State}

/-- A record that a patch does not change is the record with the patch merged in, if the patch
    brings no field data. -/
theorem merge_eq_of_agrees {p : Patch} {i : Instance} (bare : p.data = none)
    (agrees : (p.merge i).agrees i = true) : p.merge i = i := by
  have data : (p.merge i).data = i.data := by
    show (p.data.map i.data.merge).getD i.data = i.data
    rw [bare]
    rfl
  have same := ((p.merge i).agrees_iff i).1 agrees
  generalize p.merge i = merged at data same ⊢
  obtain ⟨rest, -⟩ := same
  cases merged
  cases i
  simp_all

/-- The patch of an operation leaves a record with the effect of the operation, which is the old
    record or has the next version. -/
theorem effect_of_apply {current updated : Instance} {deployment : Option Deployment}
    {cancellation : Option String} {changed : Bool} (keyed : current.tasks.Keyed)
    (looked : kind = .cancel → deployment.bind Deployment.cancellationStatus = cancellation)
    (applied :
      (guarded ctx seen (operationPatch ctx kind result current deployment principal)).apply
        ctx.now current = .ok (changed, updated)) :
    OperationEffect ctx kind result principal cancellation current updated ∧
      (changed = false → updated = current) ∧
      (changed = true → updated.version = current.version + 1 ∧ updated.modified = ctx.now) := by
  have effect : OperationEffect ctx kind result principal cancellation current
      ((operationPatch ctx kind result current deployment principal).merge current) :=
    .of_merge keyed looked
  have ends := Patch.eq_of_apply applied
  rw [merge_guarded] at ends
  cases changed with
  | true => exact ⟨ends ▸ effect.stamp ctx.now, nofun, fun _ => by rw [ends]; exact ⟨rfl, rfl⟩⟩
  | false =>
    have agrees := Patch.agrees_of_apply applied
    rw [ends] at agrees ⊢
    have bare : (operationPatch ctx kind result current deployment principal).data = none := by
      cases kind <;> rfl
    exact ⟨effect, fun _ => merge_eq_of_agrees bare agrees, nofun⟩

/-- An operation that succeeds gives back what it stores: the old record with the effect of the
    operation, which either is no change at all or makes the next version. It touches no other
    record. -/
theorem operate_effect {old new : Instance} (found : s.storage.instances.get? seen.id = some old)
    (keyed : old.tasks.Keyed)
    (succeeded : (outcome (operate ctx kind result seen principal) s).1 = .ok new) :
    OperationEffect ctx kind result principal
        ((s.storage.deployments.get? old.deploymentId).bind Deployment.cancellationStatus)
        old new ∧
      (new = old ∨ new.version = old.version + 1 ∧ new.modified = ctx.now) ∧
      (outcome (operate ctx kind result seen principal) s).2.storage.instances.get? seen.id =
        some new ∧
      ∀ other, other ≠ seen.id →
        (outcome (operate ctx kind result seen principal) s).2.storage.instances.get? other =
          s.storage.instances.get? other := by
  have ended := operate_operated ctx kind result seen principal s
  generalize outcome (operate ctx kind result seen principal) s = after at ended succeeded ⊢
  cases ended with
  | refused | halted => cases succeeded
  | @done current updated deployment changed before here looked stopped applied =>
    obtain rfl := Option.some.inj (here.symm.trans found)
    obtain rfl := Except.ok.inj succeeded
    have status (cancels : kind = .cancel) : deployment.bind Deployment.cancellationStatus =
        (s.storage.deployments.get? current.deploymentId).bind Deployment.cancellationStatus := by
      have known : deployment ≠ none ∧ _ := (if_pos cancels).mp looked
      rw [known.2]
    obtain ⟨effect, unchanged, stamped⟩ := effect_of_apply keyed status applied
    have storage := State.storage_of_stopped stopped
    have others (other : InstanceId) (apart : other ≠ seen.id) :
        (before.keep seen.id changed updated).storage.instances.get? other =
          s.storage.instances.get? other := by
      rw [Request.get?_keep_of_ne apart, storage]
    cases changed with
    | false =>
      have same := unchanged rfl
      refine ⟨effect, .inl same, ?_, others⟩
      show before.storage.instances.get? seen.id = some updated
      rw [storage, same, found]
    | true => exact ⟨effect, .inr (stamped rfl), SortedMap.get?_insert_self _ _ _, others⟩

/-- A review is completed by a report in which it is another task, in nobody's hands. The log has
    an entry of another operation already. -/
theorem operate_effect_completed :
    let review : Task :=
      { id := "review-1", definition := "review", assignee := some "alice", priority := 5,
        start := .ofSecond 0 }
    let reported : Task := { id := "review-1", definition := "audit", start := .ofSecond 9 }
    let claim : Operation :=
      { id := .ofNat 1, kind := .claim, time := .ofSecond 1, user := "alice" }
    let old : Instance :=
      { Desk.opened with tasks := TaskSet.ofTasks [review], operations := [claim] }
    let s := Desk.empty.enter old
    let ctx := Desk.context "-"
    s.storage.instances.get? old.id = some old ∧ old.tasks.Keyed ∧
      ∃ new, (outcome (operate ctx .complete { task := some reported } old Desk.alice) s).1 =
          .ok new ∧
        new.status = old.status ∧
        new.operations = [claim, ⟨ctx.newOperation, .complete, none, ctx.now, "alice"⟩] ∧
        new.tasks.get? "review-1" =
          some { review with active := false, complete := true, finish := some ctx.now } := by
  intro review reported claim old s ctx
  have found : s.storage.instances.get? old.id = some old := SortedMap.get?_insert_self _ _ _
  have keyed : old.tasks.Keyed := TaskSet.keyed_empty.upsertMany [review]
  obtain ⟨new, succeeded⟩ : ∃ new,
      (outcome (operate ctx .complete { task := some reported } old Desk.alice) s).1 =
        .ok new := by
    have ok : (outcome (operate ctx .complete { task := some reported } old Desk.alice) s).1.isOk =
        true := by decide +kernel
    generalize (outcome (operate ctx .complete _ old Desk.alice) s).1 = answer at ok
    cases answer with
    | ok new => exact ⟨new, rfl⟩
    | error e => cases ok
  have effect := (operate_effect found keyed succeeded).1
  have own : old.tasks.get? reported.id = some review := SortedMap.get?_insert_self _ _ _
  have entry := effect.entry reported rfl
  rw [own] at entry
  exact ⟨found, keyed, new, succeeded, effect.status,
    effect.operations.trans (if_neg (by decide +kernel)), entry⟩

end Lifecycle
end Casework
