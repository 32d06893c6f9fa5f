import Casework.Proofs.StoredChanges

/-!
Actions that keep to a part of the state. An action is confined to a region of instances,
executions, attachments and submissions if it reads and writes nothing else (`Confined`), except
that it reads processes and deployments. What is done one after another is confined if each part is
(`Confined.bind`), and actions that are confined to regions with nothing in common may be done in
either order (`Confined.commute`).
-/

namespace Casework

open Casework.Action Casework.Reconcile

/-- A part of the state. -/
structure Region where
  /-- The instances, with their records. -/
  instances : InstanceId → Prop
  executions : ExecutionId → Prop
  attachments : AttachmentId → Prop
  submissions : Uuid → Prop

namespace Region

structure Within (R Q : Region) : Prop where
  instances : ∀ id, R.instances id → Q.instances id
  executions : ∀ x, R.executions x → Q.executions x
  attachments : ∀ a, R.attachments a → Q.attachments a
  submissions : ∀ u, R.submissions u → Q.submissions u

def rest (R : Region) : Region :=
  ⟨fun id => ¬R.instances id, fun x => ¬R.executions x, fun a => ¬R.attachments a,
    fun u => ¬R.submissions u⟩

def beyond (R Q : Region) : Region :=
  ⟨fun id => ¬R.instances id ∧ ¬Q.instances id, fun x => ¬R.executions x ∧ ¬Q.executions x,
    fun a => ¬R.attachments a ∧ ¬Q.attachments a, fun u => ¬R.submissions u ∧ ¬Q.submissions u⟩

theorem beyond_within_left (R Q : Region) : (R.beyond Q).Within R.rest :=
  ⟨fun _ => And.left, fun _ => And.left, fun _ => And.left, fun _ => And.left⟩

theorem beyond_within_right (R Q : Region) : (R.beyond Q).Within Q.rest :=
  ⟨fun _ => And.right, fun _ => And.right, fun _ => And.right, fun _ => And.right⟩

theorem within_rest_symm {R Q : Region} (apart : R.Within Q.rest) : Q.Within R.rest :=
  ⟨fun id there here => apart.instances id here there,
    fun x there here => apart.executions x here there,
    fun a there here => apart.attachments a here there,
    fun u there here => apart.submissions u here there⟩

/-- The states hold the same in the region, and the same processes and deployments. -/
structure Agree (R : Region) (s t : State) : Prop where
  instances : ∀ id, R.instances id → s.storage.instances.get? id = t.storage.instances.get? id
  records : ∀ id, R.instances id → s.records.get? id = t.records.get? id
  engine : ∀ x, R.executions x → s.engine.get? x = t.engine.get? x
  attachments : ∀ a, R.attachments a →
    s.storage.attachments.get? a = t.storage.attachments.get? a
  submissions : ∀ u, R.submissions u →
    s.storage.submissions.get? u = t.storage.submissions.get? u
  processes : s.storage.processes = t.storage.processes
  deployments : s.storage.deployments = t.storage.deployments

namespace Agree

variable {R Q : Region} {s t u : State}

theorem refl (R : Region) (s : State) : R.Agree s s :=
  ⟨fun _ _ => rfl, fun _ _ => rfl, fun _ _ => rfl, fun _ _ => rfl, fun _ _ => rfl, rfl, rfl⟩

theorem symm (agree : R.Agree s t) : R.Agree t s :=
  ⟨fun id here => (agree.instances id here).symm, fun id here => (agree.records id here).symm,
    fun x here => (agree.engine x here).symm, fun a here => (agree.attachments a here).symm,
    fun u here => (agree.submissions u here).symm, agree.processes.symm, agree.deployments.symm⟩

theorem trans (first : R.Agree s t) (second : R.Agree t u) : R.Agree s u :=
  ⟨fun id here => (first.instances id here).trans (second.instances id here),
    fun id here => (first.records id here).trans (second.records id here),
    fun x here => (first.engine x here).trans (second.engine x here),
    fun a here => (first.attachments a here).trans (second.attachments a here),
    fun u here => (first.submissions u here).trans (second.submissions u here),
    first.processes.trans second.processes, first.deployments.trans second.deployments⟩

theorem mono (within : R.Within Q) (agree : Q.Agree s t) : R.Agree s t :=
  ⟨fun id here => agree.instances id (within.instances id here),
    fun id here => agree.records id (within.instances id here),
    fun x here => agree.engine x (within.executions x here),
    fun a here => agree.attachments a (within.attachments a here),
    fun u here => agree.submissions u (within.submissions u here),
    agree.processes, agree.deployments⟩

/-- What holds of one of two parts and of what is in neither holds. -/
theorem of_parts {p q c : Prop} (left : p → c) (right : q → c) (beyond : ¬p ∧ ¬q → c) : c := by
  by_cases here : p
  · exact left here
  · by_cases there : q
    · exact right there
    · exact beyond ⟨here, there⟩

/-- States that agree in two regions and in what is in neither agree in every region. -/
theorem everywhere (left : R.Agree s t) (right : Q.Agree s t) (beyond : (R.beyond Q).Agree s t)
    (P : Region) : P.Agree s t where
  instances id _ := of_parts (left.instances id) (right.instances id) (beyond.instances id)
  records id _ := of_parts (left.records id) (right.records id) (beyond.records id)
  engine x _ := of_parts (left.engine x) (right.engine x) (beyond.engine x)
  attachments a _ := of_parts (left.attachments a) (right.attachments a) (beyond.attachments a)
  submissions u _ := of_parts (left.submissions u) (right.submissions u) (beyond.submissions u)
  processes := left.processes
  deployments := left.deployments

end Agree

/-- Two ends of an action, of which the second one began in this state: the answers are the same,
    and so is the region, and the rest is as it was before. -/
structure Alike {α : Type} (R : Region) (before : State) (first second : Except Error α × State) :
    Prop where
  answer : second.1 = first.1
  inside : R.Agree first.2 second.2
  outside : R.rest.Agree before second.2

end Region

open Region

/-! ### Confined actions -/

/-- In this state the action reads and writes nothing outside the region: wherever the region
    looks the same it ends alike. -/
def Confined {α : Type} (R : Region) (a : Action α) (s : State) : Prop :=
  ∀ t, R.Agree s t → R.Alike t (outcome a s) (outcome a t)

namespace Confined

variable {α β : Type} {R Q : Region} {s : State}

/-- An action that only looks at what is in the region. -/
theorem of_looks {a : Action α}
    (looks : ∀ t, R.Agree s t → outcome a t = ((outcome a s).1, t)) : Confined R a s := by
  intro t agree
  have here := looks s (.refl R s)
  refine ⟨by rw [looks t agree], ?_, ?_⟩
  · rw [looks t agree, here]
    exact agree
  · rw [looks t agree]
    exact .refl _ t

/-- An action that does not look at the state. -/
theorem of_answer {a : Action α} {answer : Except Error α}
    (blind : ∀ t, outcome a t = (answer, t)) : Confined R a s :=
  of_looks fun t _ => by rw [blind t, blind s]

theorem pure (x : α) : Confined R (pure x : Action α) s := of_answer fun _ => rfl

theorem throw (e : Error) : Confined R (throw e : Action α) s := of_answer fun _ => rfl

/-- An action that changes what is in the region according to what is in it. -/
theorem of_modify {f : State → State} (inside : ∀ t, R.Agree s t → R.Agree (f s) (f t))
    (outside : ∀ t, R.rest.Agree t (f t)) : Confined R (modify f : Action Unit) s :=
  fun t agree => ⟨rfl, inside t agree, outside t⟩

theorem bind {a : Action α} {f : α → Action β} (first : Confined R a s)
    (next : ∀ x after, outcome a s = (.ok x, after) → Confined R (f x) after) :
    Confined R (a >>= f) s := by
  intro t agree
  have alike := first t agree
  rw [outcome_bind, outcome_bind]
  cases here : outcome a s with
  | mk answer after =>
    cases there : outcome a t with
    | mk answer' after' =>
      rw [here, there] at alike
      obtain ⟨rfl, inside, outside⟩ := alike
      cases answer' with
      | error e => exact ⟨rfl, inside, outside⟩
      | ok x =>
        have last := next x after here after' inside
        exact ⟨last.answer, last.inside, outside.trans last.outside⟩

theorem tryCatch {a : Action α} {handler : Error → Action α} (first : Confined R a s)
    (otherwise : ∀ e after, Confined R (handler e) after) :
    Confined R (tryCatch a handler) s := by
  intro t agree
  have alike := first t agree
  rw [outcome_tryCatch, outcome_tryCatch]
  cases here : outcome a s with
  | mk answer after =>
    cases there : outcome a t with
    | mk answer' after' =>
      rw [here, there] at alike
      obtain ⟨rfl, inside, outside⟩ := alike
      cases answer' with
      | ok x => exact ⟨rfl, inside, outside⟩
      | error e =>
        have last := otherwise e after after' inside
        exact ⟨last.answer, last.inside, outside.trans last.outside⟩

theorem map (f : α → β) {a : Action α} (first : Confined R a s) : Confined R (f <$> a) s := by
  rw [map_eq_pure_bind]
  exact first.bind fun x _ _ => .pure (f x)

theorem discard {a : Action α} (first : Confined R a s) :
    Confined R (Functor.discard a) s := first.map _

theorem spares {a : Action α} (confined : Confined R a s) (apart : Q.Within R.rest) :
    Q.Agree s (outcome a s).2 :=
  (confined s (.refl R s)).outside.mono apart

/-- Actions that are confined to regions with nothing in common do not see each other, and leave
    the same in either order. -/
theorem commute {a : Action α} {b : Action β} (first : Confined R a s) (second : Confined Q b s)
    (apart : R.Within Q.rest) :
    (outcome b (outcome a s).2).1 = (outcome b s).1 ∧
      (outcome a (outcome b s).2).1 = (outcome a s).1 ∧
      ∀ P : Region, P.Agree (outcome b (outcome a s).2).2 (outcome a (outcome b s).2).2 := by
  have later := second _ (first.spares (within_rest_symm apart))
  have later' := first _ (second.spares apart)
  refine ⟨later.answer, later'.answer, Agree.everywhere (R := R) (Q := Q) ?_ ?_ ?_⟩
  · exact (later.outside.mono apart).symm.trans later'.inside
  · exact later.inside.symm.trans (later'.outside.mono (within_rest_symm apart))
  · have forth : (R.beyond Q).Agree s (outcome b (outcome a s).2).2 :=
      (first.spares (beyond_within_left R Q)).trans
        (later.outside.mono (beyond_within_right R Q))
    have back : (R.beyond Q).Agree s (outcome a (outcome b s).2).2 :=
      (second.spares (beyond_within_right R Q)).trans
        (later'.outside.mono (beyond_within_left R Q))
    exact forth.symm.trans back

end Confined

/-! ### Calls of services -/

namespace Confined

variable {R : Region} {ctx : Context} {s : State}

theorem attempt (ctx : Context) (call : Call) : Confined R (attempt ctx call) s := by
  unfold Action.attempt
  cases ctx.outage call with
  | none => exact .pure ()
  | some e => exact .throw e

theorem require {α : Type} (missing : Error) (a : Option α) : Confined R (require missing a) s := by
  cases a with
  | none => exact .throw missing
  | some x => exact .pure x

theorem getInstance {id : InstanceId} (here : R.instances id) :
    Confined R (getInstance ctx id) s :=
  of_looks fun t agree => by
    rw [outcome_getInstance, outcome_getInstance, agree.instances id here]
    split <;> rfl

theorem getProcess (key : String) : Confined R (getProcess ctx key) s :=
  of_looks fun t agree => by
    rw [outcome_getProcess, outcome_getProcess, agree.processes]
    split <;> rfl

theorem getDeployment (id : String) : Confined R (getDeployment ctx id) s :=
  of_looks fun t agree => by
    rw [outcome_getDeployment, outcome_getDeployment, agree.deployments]
    split <;> rfl

theorem stateOf {id : InstanceId} (here : R.instances id) : Confined R (stateOf id) s :=
  of_looks fun t agree => by
    rw [outcome_stateOf, outcome_stateOf, SyncRecords.stateOf, SyncRecords.stateOf,
      agree.records id here]

theorem findExecution {x : ExecutionId} (here : R.executions x) :
    Confined R (findExecution ctx (.byExecution x)) s :=
  of_looks fun t agree => by
    have found (engine : Engine) : engine.find (.byExecution x) =
        .ok ((engine.get? x).filter (Criteria.byExecution x).accepts) := rfl
    rw [outcome_findExecution, outcome_findExecution, found, found, agree.engine x here]
    split <;> rfl

theorem notify (known : Option Deployment) (i : Instance) (e : Event) :
    Confined R (notify ctx known i e) s := by
  intro t agree
  rw [outcome_notify, outcome_notify]
  refine ⟨rfl, ?_, ?_⟩
  · exact ⟨agree.instances, agree.records, agree.engine, agree.attachments, agree.submissions,
      agree.processes, agree.deployments⟩
  · exact ⟨fun _ _ => rfl, fun _ _ => rfl, fun _ _ => rfl, fun _ _ => rfl, fun _ _ => rfl, rfl, rfl⟩

theorem agree_keep {t : State} (agree : R.Agree s t) (id : InstanceId) (changed : Bool)
    (i : Instance) : R.Agree (s.keep id changed i) (t.keep id changed i) := by
  refine { agree with instances := fun other here => ?_ }
  cases changed with
  | false => exact agree.instances other here
  | true =>
    show (s.storage.instances.insert id i).get? other = (t.storage.instances.insert id i).get? other
    rw [SortedMap.get?_insert, SortedMap.get?_insert, agree.instances other here]

theorem agree_rest_keep {id : InstanceId} (here : R.instances id) (changed : Bool) (i : Instance)
    (t : State) : R.rest.Agree t (t.keep id changed i) := by
  refine { Agree.refl R.rest t with instances := fun other there => ?_ }
  have apart : other ≠ id := by
    rintro rfl
    exact there here
  exact (Request.get?_keep_of_ne apart changed i).symm

theorem updateInstance {id : InstanceId} (here : R.instances id) (patch : Patch) :
    Confined R (updateInstance ctx id patch) s := by
  intro t agree
  rw [outcome_updateInstance_keep, outcome_updateInstance_keep, agree.instances id here]
  cases ctx.outage .updateInstance with
  | some e => exact ⟨rfl, agree, .refl _ t⟩
  | none =>
    cases t.storage.instances.get? id with
    | none => exact ⟨rfl, agree, .refl _ t⟩
    | some stored =>
      dsimp only
      cases patch.apply ctx.now stored with
      | error e => exact ⟨rfl, agree, .refl _ t⟩
      | ok result =>
        exact ⟨rfl, agree_keep agree id result.1 result.2,
          agree_rest_keep here result.1 result.2 t⟩

theorem changeInstance {id : InstanceId} (here : R.instances id) (patch : Patch) :
    Confined R (changeInstance ctx id patch) s := by
  unfold Action.changeInstance
  split
  · exact getInstance here
  · exact (updateInstance here patch).bind fun found _ _ => require _ found

theorem saveAttachment {a : Attachment} (here : R.attachments a.id) :
    Confined R (saveAttachment ctx a) s := by
  refine (attempt ctx _).bind fun _ _ _ => (attempt ctx _).bind fun _ after _ => ?_
  refine of_modify (f := fun s => { s with storage := s.storage.saveAttachment a })
    (fun t agree => { agree with attachments := fun other there => ?_ })
    fun t => { Agree.refl R.rest t with attachments := fun other there => ?_ }
  · show (after.storage.attachments.insert a.id a).get? other =
      (t.storage.attachments.insert a.id a).get? other
    rw [SortedMap.get?_insert, SortedMap.get?_insert, agree.attachments other there]
  · have apart : other ≠ a.id := by
      rintro rfl
      exact there here
    exact ((SortedMap.get?_insert _ _ _ _).trans (if_neg apart)).symm

theorem saveAttachments {attachments : List Attachment}
    (here : ∀ a ∈ attachments, R.attachments a.id) :
    Confined R (saveAttachments ctx attachments) s := by
  induction attachments generalizing s with
  | nil => exact .pure ()
  | cons a later ih =>
    exact (saveAttachment (here a List.mem_cons_self)).bind fun _ _ _ =>
      ih fun other member => here other (List.mem_cons_of_mem a member)

theorem saveSubmission {submission : Submission} (here : R.submissions submission.id) :
    Confined R (saveSubmission ctx submission) s := by
  intro t agree
  rw [outcome_saveSubmission, outcome_saveSubmission, Storage.saveSubmission,
    Storage.saveSubmission, SortedMap.contains, SortedMap.contains,
    agree.submissions submission.id here]
  cases ctx.outage .saveSubmission with
  | some e => exact ⟨rfl, agree, .refl _ t⟩
  | none =>
    by_cases held : (t.storage.submissions.get? submission.id).isSome = true
    · rw [if_pos held, if_pos held]
      exact ⟨rfl, agree, .refl _ t⟩
    · rw [if_neg held, if_neg held]
      refine ⟨rfl, { agree with submissions := fun u there => ?_ },
        { Agree.refl R.rest t with submissions := fun u there => ?_ }⟩
      · show (s.storage.submissions.insert submission.id submission).get? u =
          (t.storage.submissions.insert submission.id submission).get? u
        rw [SortedMap.get?_insert, SortedMap.get?_insert, agree.submissions u there]
      · have apart : u ≠ submission.id := by
          rintro rfl
          exact there here
        exact ((SortedMap.get?_insert _ _ _ _).trans (if_neg apart)).symm

theorem startExecution {name : ExecutionId} (steady : ∀ n, ctx.executionName n = name)
    (here : R.executions name) (d : Deployment) (key : String) (data : FieldData) :
    Confined R (startExecution ctx d key data) s := by
  intro t agree
  rw [outcome_startExecution, outcome_startExecution, steady, steady]
  cases ctx.outage .startExecution with
  | some e => exact ⟨rfl, agree, .refl _ t⟩
  | none =>
    refine ⟨rfl, { agree with engine := fun x there => ?_ },
      { Agree.refl R.rest t with engine := fun x there => ?_ }⟩
    · show (s.engine.start name d key data).get? x = (t.engine.start name d key data).get? x
      unfold Engine.start
      rw [SortedMap.get?_insert, SortedMap.get?_insert, agree.engine x there]
    · have apart : x ≠ name := by
        rintro rfl
        exact there here
      exact ((SortedMap.get?_insert _ _ _ _).trans (if_neg apart)).symm

theorem cancelExecution {x : ExecutionId} (here : R.executions x) :
    Confined R (cancelExecution ctx x) s := by
  intro t agree
  rw [outcome_cancelExecution, outcome_cancelExecution, SortedMap.contains, SortedMap.contains,
    agree.engine x here]
  cases ctx.outage .cancelExecution with
  | some e => exact ⟨rfl, agree, .refl _ t⟩
  | none =>
    refine ⟨rfl, { agree with engine := fun y there => ?_ },
      { Agree.refl R.rest t with engine := fun y there => ?_ }⟩
    · show (s.engine.erase x).get? y = (t.engine.erase x).get? y
      rw [SortedMap.get?_erase, SortedMap.get?_erase, agree.engine y there]
    · have apart : y ≠ x := by
        rintro rfl
        exact there here
      exact ((SortedMap.get?_erase _ _ _).trans (if_neg apart)).symm

/-- The change of the records reads and writes the record of this instance alone. -/
def Single (id : InstanceId) (f : SyncRecords → SyncRecords) : Prop :=
  ∃ place : Option SyncRecord → Option SyncRecord, ∀ (records : SyncRecords) other,
    (f records).get? other = if other = id then place (records.get? id) else records.get? other

/-- The state that a record, or none, tells. -/
def stateIn (held : Option SyncRecord) : SyncState := (held.map SyncRecord.state).getD .notStarted

theorem stateOf_eq_stateIn (records : SyncRecords) (id : InstanceId) :
    records.stateOf id = stateIn (records.get? id) := rfl

theorem get?_eq_ite (records : SyncRecords) (id other : InstanceId) :
    records.get? other = if other = id then records.get? id else records.get? other := by
  split
  · rename_i here
    rw [here]
  · rfl

theorem single_noteExecution (id : InstanceId) (x : ExecutionId) :
    Single id fun records => records.noteExecution id x := by
  refine ⟨Option.map fun record => { record with executionId := some x }, fun records other => ?_⟩
  simp only [SyncRecords.noteExecution]
  cases held : records.get? id with
  | none =>
    have same := get?_eq_ite records id other
    rw [held] at same
    exact same
  | some record => exact SortedMap.get?_insert _ _ _ _

theorem single_release (id : InstanceId) : Single id fun records => records.release id := by
  refine ⟨fun held => if stateIn held = .started then none else held, fun records other => ?_⟩
  simp only
  rw [SyncRecords.release, stateOf_eq_stateIn]
  split
  · exact SortedMap.get?_erase _ _ _
  · exact get?_eq_ite records id other

theorem single_drop (id : InstanceId) : Single id fun records => records.drop id := by
  refine ⟨fun held => if (stateIn held).isFinal then held else none, fun records other => ?_⟩
  simp only
  rw [SyncRecords.drop, stateOf_eq_stateIn]
  split
  · exact get?_eq_ite records id other
  · exact SortedMap.get?_erase _ _ _

theorem single_desync (now : Instant) (id : InstanceId) (why : Divergence) :
    Single id fun records => records.desync now id why := by
  refine ⟨fun held =>
    let record := held.getD { state := .started, updated := now }
    if record.state.isFinal then held
    else some { record with state := .desynced, reason := some why.message, updated := now },
    fun records other => ?_⟩
  simp only [SyncRecords.desync]
  split
  · exact get?_eq_ite records id other
  · exact SortedMap.get?_insert _ _ _ _

theorem modifyRecords {id : InstanceId} (here : R.instances id) {f : SyncRecords → SyncRecords}
    (single : Single id f) : Confined R (modifyRecords f) s := by
  obtain ⟨place, get?_f⟩ := single
  refine of_modify (f := fun s => { s with records := f s.records })
    (fun t agree => { agree with records := fun other there => ?_ })
    fun t => { Agree.refl R.rest t with records := fun other there => ?_ }
  · show (f s.records).get? other = (f t.records).get? other
    rw [get?_f, get?_f, agree.records id here, agree.records other there]
  · have apart : other ≠ id := by
      rintro rfl
      exact there here
    exact ((get?_f t.records other).trans (if_neg apart)).symm

theorem advance {id : InstanceId} (here : R.instances id) (e : SyncEvent) :
    Confined R (advance ctx id e) s := by
  intro t agree
  rw [outcome_advance, outcome_advance]
  unfold SyncRecords.advance
  rw [agree.records id here]
  generalize Option.getD _ _ = record
  dsimp only
  cases SyncState.next record.state e with
  | error cause => exact ⟨rfl, agree, .refl _ t⟩
  | ok state =>
    refine ⟨rfl, { agree with records := fun other there => ?_ },
      { Agree.refl R.rest t with records := fun other there => ?_ }⟩
    · show (s.records.insert id _).get? other = (t.records.insert id _).get? other
      rw [SortedMap.get?_insert, SortedMap.get?_insert, agree.records other there]
    · have apart : other ≠ id := by
        rintro rfl
        exact there here
      exact ((SortedMap.get?_insert _ _ _ _).trans (if_neg apart)).symm

end Confined
end Casework
