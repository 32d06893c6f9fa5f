import Casework.Request

/-!
What actions answer and what state they leave. An action is taken apart at its
binds (`outcome_bind`), and each call of a service has one equation: it fails as
its outage says, or it looks the state up, or it changes one part of the state.
-/

namespace Casework
namespace Action

variable {α β : Type}

@[simp] theorem outcome_pure (a : α) (s : State) : outcome (pure a) s = (.ok a, s) := rfl

@[simp] theorem outcome_throw (e : Error) (s : State) :
    outcome (throw e : Action α) s = (.error e, s) := rfl

@[simp] theorem outcome_get (s : State) : outcome get s = (.ok s, s) := rfl

@[simp] theorem outcome_modify (f : State → State) (s : State) :
    outcome (modify f) s = (.ok (), f s) := rfl

@[simp] theorem outcome_bind (a : Action α) (f : α → Action β) (s : State) :
    outcome (a >>= f) s =
      match outcome a s with
      | (.ok x, s') => outcome (f x) s'
      | (.error e, s') => (.error e, s') := by
  unfold outcome ExceptT.run
  simp only [bind, ExceptT.bind, ExceptT.mk, StateT.bind, ExceptT.bindCont]
  cases a s with
  | mk result s' => cases result <;> rfl

@[simp] theorem outcome_tryCatch (a : Action α) (f : Error → Action α) (s : State) :
    outcome (tryCatch a f) s =
      match outcome a s with
      | (.ok x, s') => (.ok x, s')
      | (.error e, s') => outcome (f e) s' := by
  unfold outcome ExceptT.run
  simp only [tryCatch, tryCatchThe, MonadExceptOf.tryCatch, ExceptT.tryCatch, ExceptT.mk, bind,
    StateT.bind]
  cases a s with
  | mk result s' => cases result <;> rfl

@[simp] theorem outcome_map (f : α → β) (a : Action α) (s : State) :
    outcome (f <$> a) s =
      match outcome a s with
      | (.ok x, s') => (.ok (f x), s')
      | (.error e, s') => (.error e, s') := by
  unfold outcome ExceptT.run
  simp only [Functor.map, ExceptT.map, ExceptT.mk, bind, StateT.bind]
  cases a s with
  | mk result s' => cases result <;> rfl

theorem state_map (f : α → β) (a : Action α) (s : State) :
    (outcome (f <$> a) s).2 = (outcome a s).2 := by
  rw [outcome_map]
  cases outcome a s with
  | mk answer after => cases answer <;> rfl

theorem isOk_map (f : α → β) (a : Action α) (s : State) :
    (outcome (f <$> a) s).1.isOk = (outcome a s).1.isOk := by
  rw [outcome_map]
  cases outcome a s with
  | mk answer after => cases answer <;> rfl

/-- An action whose result is worked on answers if it has a result. -/
theorem ok_of_map {f : α → β} {a : Action α} {s : State} {y : β}
    (answered : (outcome (f <$> a) s).1 = .ok y) : ∃ x, (outcome a s).1 = .ok x ∧ y = f x := by
  rw [outcome_map] at answered
  cases ended : outcome a s with
  | mk answer after =>
    rw [ended] at answered
    cases answer with
    | error e => cases answered
    | ok x => exact ⟨x, rfl, (Except.ok.inj answered).symm⟩

/-- What the first action of two leaves and the second one keeps. -/
theorem keeps_bind {Kept : State → Prop} {a : Action α} {f : α → Action β} {s : State}
    (first : Kept (outcome a s).2) (rest : ∀ x s', Kept s' → Kept (outcome (f x) s').2) :
    Kept (outcome (a >>= f) s).2 := by
  rw [outcome_bind]
  cases ended : outcome a s with
  | mk answer after =>
    rw [ended] at first
    cases answer with
    | error e => exact first
    | ok x => exact rest x after first

@[simp] theorem outcome_discard (a : Action α) (s : State) :
    outcome (discard a) s =
      match outcome a s with
      | (.ok _, s') => (.ok (), s')
      | (.error e, s') => (.error e, s') :=
  outcome_map _ a s

/-- An action that answers hands its answer on. -/
theorem outcome_bind_of_ok {a : Action α} {f : α → Action β} {s s' : State} {x : α}
    (ended : outcome a s = (.ok x, s')) : outcome (a >>= f) s = outcome (f x) s' := by
  rw [outcome_bind, ended]

theorem outcome_discard_of_ok {a : Action α} {s s' : State} {x : α}
    (ended : outcome a s = (.ok x, s')) : outcome (discard a) s = (.ok (), s') := by
  rw [outcome_discard, ended]

@[simp] theorem outcome_attempt (ctx : Context) (call : Call) (s : State) :
    outcome (attempt ctx call) s =
      match ctx.outage call with
      | some e => (.error e, s)
      | none => (.ok (), s) := by
  unfold attempt
  cases ctx.outage call <;> rfl

@[simp] theorem outcome_ofExcept (r : Except Error α) (s : State) :
    outcome (ofExcept r) s = (r, s) := by
  cases r <;> rfl

@[simp] theorem outcome_require (missing : Error) (a : Option α) (s : State) :
    outcome (require missing a) s =
      match a with
      | some x => (.ok x, s)
      | none => (.error missing, s) := by
  cases a <;> rfl

@[simp] theorem outcome_setStorage (storage : Storage) (s : State) :
    outcome (setStorage storage) s = (.ok (), { s with storage }) := rfl

@[simp] theorem outcome_modifyRecords (f : SyncRecords → SyncRecords) (s : State) :
    outcome (modifyRecords f) s = (.ok (), { s with records := f s.records }) := rfl

theorem outcome_sendNotice (ctx : Context) (notice : Notice) (s : State) :
    outcome (sendNotice ctx notice) s =
      (.ok (ctx.accepts s.outbox notice), { s with outbox := s.outbox ++ [notice] }) := rfl

/-- Whatever the service answers, all notices are sent, in their order. -/
@[simp] theorem outcome_sendNotices (ctx : Context) (notices : List Notice) (s : State) :
    outcome (sendNotices ctx notices) s =
      (.ok (), { s with outbox := s.outbox ++ notices }) := by
  induction notices generalizing s with
  | nil => simp [sendNotices]
  | cons notice rest ih =>
    unfold sendNotices
    rw [outcome_bind, outcome_discard, outcome_sendNotice]
    simp [ih]

/-! ### Look-ups -/

theorem outcome_findInstance (ctx : Context) (id : InstanceId) (s : State) :
    outcome (findInstance ctx id) s =
      match ctx.outage .findInstance with
      | some e => (.error e, s)
      | none => (.ok (s.storage.instances.get? id), s) := by
  unfold findInstance
  rw [outcome_bind, outcome_attempt]
  cases ctx.outage .findInstance <;> rfl

theorem outcome_getInstance (ctx : Context) (id : InstanceId) (s : State) :
    outcome (getInstance ctx id) s =
      match ctx.outage .findInstance, s.storage.instances.get? id with
      | some e, _ => (.error e, s)
      | none, none => (.error (.instanceNotFound id), s)
      | none, some i => (.ok i, s) := by
  unfold getInstance
  rw [outcome_bind, outcome_findInstance]
  cases ctx.outage .findInstance with
  | some e => rfl
  | none => cases s.storage.instances.get? id <;> rfl

theorem outcome_findProcess (ctx : Context) (key : String) (s : State) :
    outcome (findProcess ctx key) s =
      match ctx.outage .findProcess with
      | some e => (.error e, s)
      | none => (.ok (s.storage.processes.get? key), s) := by
  unfold findProcess
  rw [outcome_bind, outcome_attempt]
  cases ctx.outage .findProcess <;> rfl

theorem outcome_getProcess (ctx : Context) (key : String) (s : State) :
    outcome (getProcess ctx key) s =
      match ctx.outage .findProcess, s.storage.processes.get? key with
      | some e, _ => (.error e, s)
      | none, none => (.error (.processNotFound key), s)
      | none, some p => (.ok p, s) := by
  unfold getProcess
  rw [outcome_bind, outcome_findProcess]
  cases ctx.outage .findProcess with
  | some e => rfl
  | none => cases s.storage.processes.get? key <;> rfl

theorem outcome_findDeployment (ctx : Context) (id : String) (s : State) :
    outcome (findDeployment ctx id) s =
      match ctx.outage .findDeployment with
      | some e => (.error e, s)
      | none => (.ok (s.storage.deployments.get? id), s) := by
  unfold findDeployment
  rw [outcome_bind, outcome_attempt]
  cases ctx.outage .findDeployment <;> rfl

theorem outcome_getDeployment (ctx : Context) (id : String) (s : State) :
    outcome (getDeployment ctx id) s =
      match ctx.outage .findDeployment, s.storage.deployments.get? id with
      | some e, _ => (.error e, s)
      | none, none => (.error (.deploymentNotFound id), s)
      | none, some d => (.ok d, s) := by
  unfold getDeployment
  rw [outcome_bind, outcome_findDeployment]
  cases ctx.outage .findDeployment with
  | some e => rfl
  | none => cases s.storage.deployments.get? id <;> rfl

theorem outcome_findAll (ctx : Context) (query : Query) (s : State) :
    outcome (findAll ctx query) s =
      match ctx.outage .findPage with
      | some e => (.error e, s)
      | none => (.ok (s.storage.scan query ctx.pageSize), s) := by
  unfold findAll
  rw [outcome_bind, outcome_attempt]
  cases ctx.outage .findPage <;> rfl

theorem outcome_findPage (ctx : Context) (query : Query) (request : PageRequest) (s : State) :
    outcome (findPage ctx query request) s =
      match ctx.outage .findPage with
      | some e => (.error e, s)
      | none => (s.storage.findPage ctx.arithmetic query request, s) := by
  unfold findPage
  rw [outcome_bind, outcome_attempt]
  cases ctx.outage .findPage with
  | some e => rfl
  | none =>
    show outcome (get >>= fun s => ofExcept (s.storage.findPage ctx.arithmetic query request)) s = _
    rw [outcome_bind, outcome_get]
    exact outcome_ofExcept _ s

theorem outcome_findExecution (ctx : Context) (c : Criteria) (s : State) :
    outcome (findExecution ctx c) s =
      match ctx.outage .findExecution with
      | some e => (.error e, s)
      | none => (s.engine.find c, s) := by
  unfold findExecution
  rw [outcome_bind, outcome_attempt]
  cases ctx.outage .findExecution with
  | some e => rfl
  | none =>
    show outcome (get >>= fun s => ofExcept (s.engine.find c)) s = _
    rw [outcome_bind, outcome_get]
    exact outcome_ofExcept _ s

/-! ### Changes of the storage -/

theorem outcome_saveInstance (ctx : Context) (i : Instance) (s : State) :
    outcome (saveInstance ctx i) s =
      match ctx.outage .saveInstance, s.storage.save i with
      | some e, _ => (.error e, s)
      | none, .error e => (.error e, s)
      | none, .ok storage => (.ok i, { s with storage }) := by
  unfold saveInstance
  rw [outcome_bind, outcome_attempt]
  cases ctx.outage .saveInstance with
  | some e => rfl
  | none => cases saved : s.storage.save i <;> simp [saved]

theorem outcome_updateInstance (ctx : Context) (id : InstanceId) (patch : Patch) (s : State) :
    outcome (updateInstance ctx id patch) s =
      match ctx.outage .updateInstance, s.storage.update ctx.now id patch with
      | some e, _ => (.error e, s)
      | none, .error e => (.error e, s)
      | none, .ok (storage, merged) => (.ok merged, { s with storage }) := by
  unfold updateInstance
  rw [outcome_bind, outcome_attempt]
  cases ctx.outage .updateInstance with
  | some e => rfl
  | none => cases updated : s.storage.update ctx.now id patch <;> simp [updated]

theorem outcome_saveAttachment (ctx : Context) (a : Attachment) (s : State) :
    outcome (saveAttachment ctx a) s =
      match ctx.outage .saveAttachment, ctx.outage (.saveAttachmentOf a.id) with
      | some e, _ => (.error e, s)
      | none, some e => (.error e, s)
      | none, none => (.ok (), { s with storage := s.storage.saveAttachment a }) := by
  unfold saveAttachment
  rw [outcome_bind, outcome_attempt]
  cases ctx.outage .saveAttachment with
  | some e => rfl
  | none => cases out : ctx.outage (.saveAttachmentOf a.id) <;> simp [out]

theorem outcome_saveSubmission (ctx : Context) (submission : Submission) (s : State) :
    outcome (saveSubmission ctx submission) s =
      match ctx.outage .saveSubmission with
      | some e => (.error e, s)
      | none => (.ok (), { s with storage := s.storage.saveSubmission submission }) := by
  unfold saveSubmission
  rw [outcome_bind, outcome_attempt]
  cases ctx.outage .saveSubmission <;> rfl

theorem outcome_startExecution (ctx : Context) (d : Deployment) (key : String) (data : FieldData)
    (s : State) :
    outcome (startExecution ctx d key data) s =
      match ctx.outage .startExecution with
      | some e => (.error e, s)
      | none =>
        (.ok (ctx.executionName s.started),
          { s with
            engine := s.engine.start (ctx.executionName s.started) d key data
            started := s.started + 1 }) := by
  unfold startExecution
  rw [outcome_bind, outcome_attempt]
  cases ctx.outage .startExecution <;> rfl

theorem outcome_cancelExecution (ctx : Context) (id : ExecutionId) (s : State) :
    outcome (cancelExecution ctx id) s =
      match ctx.outage .cancelExecution with
      | some e => (.error e, s)
      | none => (.ok (s.engine.contains id), { s with engine := s.engine.erase id }) := by
  unfold cancelExecution
  rw [outcome_bind, outcome_attempt]
  cases ctx.outage .cancelExecution <;> rfl

theorem outcome_advance (ctx : Context) (id : InstanceId) (e : SyncEvent) (s : State) :
    outcome (advance ctx id e) s =
      match s.records.advance ctx.now id e with
      | .error e => (.error e, s)
      | .ok records => (.ok (), { s with records }) := by
  unfold advance
  cases advanced : s.records.advance ctx.now id e <;> simp [advanced]

end Action
end Casework
