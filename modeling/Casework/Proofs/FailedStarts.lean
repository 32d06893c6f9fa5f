import Casework.Proofs.RecordsAtRest
import Casework.Proofs.Separation

/-!
Starts that fail. Where every service answers and only the storage may refuse the last step, a start
that began at rest ends in one of three ways (`Resolved`): the record is synced and an execution
runs with the stored data as its variables (`Binds`), or it is desynced because the instance names
another execution, or nothing has happened that a later start could tell (`start_resolved`).
-/

namespace Casework

open Casework.Action Casework.Reconcile

/-- The states differ in nothing but the number of executions that have been started. -/
def State.Same (s t : State) : Prop := t = { s with started := t.started }

/-- The region of all instances, executions, attachments and submissions. -/
def Region.whole : Region := ⟨fun _ => True, fun _ => True, fun _ => True, fun _ => True⟩

namespace State

variable {s t : State}

theorem Same.agree (same : s.Same t) : Region.whole.Agree s t := by
  rw [same]
  exact ⟨fun _ _ => rfl, fun _ _ => rfl, fun _ _ => rfl, fun _ _ => rfl, fun _ _ => rfl, rfl, rfl⟩

theorem same_of_agree (agree : Region.whole.Agree s t) (outbox : t.outbox = s.outbox) :
    s.Same t := by
  have instances := SortedMap.ext_get? fun id => agree.instances id trivial
  have attachments := SortedMap.ext_get? fun a => agree.attachments a trivial
  have submissions := SortedMap.ext_get? fun u => agree.submissions u trivial
  have engine := SortedMap.ext_get? fun x => agree.engine x trivial
  have records := SortedMap.ext_get? fun id => agree.records id trivial
  have processes := agree.processes
  have deployments := agree.deployments
  obtain ⟨⟨_, _, _, _, _⟩, _, _, _, _⟩ := s
  obtain ⟨⟨_, _, _, _, _⟩, _, _, _, _⟩ := t
  cases instances
  cases attachments
  cases submissions
  cases processes
  cases deployments
  cases engine
  cases records
  cases outbox
  rfl

end State

namespace Reconcile

variable {ctx : Context} {d : Deployment} {seen : Instance} {s : State}

theorem outbox_start (ctx : Context) (d : Deployment) (seen : Instance) (s : State) :
    (outcome (start ctx d seen) s).2.outbox = s.outbox := by
  have ended := start_started ctx d seen s
  generalize outcome (start ctx d seen) s = after at ended
  cases ended <;> rfl

/-- Every start that is given the same name for its execution has the same end in both states. -/
def StartsAlike (s t : State) : Prop :=
  ∀ (again : Context) (name : ExecutionId), (∀ n, again.executionName n = name) →
    ∀ (d : Deployment) (seen : Instance),
      (outcome (start again d seen) t).1 = (outcome (start again d seen) s).1 ∧
        (outcome (start again d seen) s).2.Same (outcome (start again d seen) t).2

theorem startsAlike_of_same {t : State} (same : s.Same t) : StartsAlike s t := by
  intro again name steady d seen
  have confined : Confined Region.whole (start again d seen) s :=
    confined_start trivial steady trivial d
  have alike := confined t same.agree
  refine ⟨alike.answer, State.same_of_agree alike.inside ?_⟩
  rw [outbox_start, outbox_start, same]

/-! ### The three ends of a start -/

/-- There is a variable for every field and for nothing else: the value of a field that has one, and
    the list of the values of any other. -/
structure Binds (data : FieldData) (bindings : SortedMap String Json) : Prop where
  same : ∀ name, bindings.get? name = none ↔ data.get? name = none
  one : ∀ name value, data.get? name = some [value] → bindings.get? name = some value
  list : ∀ name values, data.get? name = some values → values.length ≠ 1 →
    bindings.get? name = some (.list values)

theorem binds_map_variableOf (data : FieldData) : Binds data (data.map Engine.variableOf) := by
  refine ⟨fun name => ?_, fun name value held => ?_, fun name values held other => ?_⟩
  · rw [SortedMap.get?_map, Option.map_eq_none_iff]
  · rw [SortedMap.get?_map, held]
    rfl
  · rw [SortedMap.get?_map, held]
    match values, other with
    | [], _ => rfl
    | [_], other => exact absurd rfl other
    | _ :: _ :: _, _ => rfl

/-- How a start ends where all services answer, but for the storage that may not change an
    instance. -/
inductive Resolved (ctx : Context) (d : Deployment) (seen : Instance) (s : State) :
    Except Error Instance × State → Prop
  /-- The record is synced with an execution that the instance names, in the answer and as it is
      stored, and which runs for it with the data that was stored. -/
  | synced {stored updated i : Instance} {record : SyncRecord} {x : ExecutionId}
      {bindings : SortedMap String Json} {s' : State}
      (found : s.storage.instances.get? seen.id = some stored)
      (recorded : s'.records.get? seen.id = some record)
      (state : record.state = .synced)
      (noted : record.executionId = updated.engineId)
      (named : updated.engineId = some x)
      (held : s'.storage.instances.get? seen.id = some i ∧ i.engineId = some x)
      (runs : s'.engine.get? x = some ⟨x, updated.id, d.engineKey, bindings⟩)
      (bound : Binds stored.data bindings) :
      Resolved ctx d seen s (.ok updated, s')
  /-- The record is desynced and names the new execution, and the instance is as it was. -/
  | desynced {id : InstanceId} {cause : Conflict} {record : SyncRecord} {s' : State}
      (kept : s'.storage = s.storage)
      (recorded : s'.records.get? seen.id = some record)
      (state : record.state = .desynced)
      (noted : record.executionId = some (s.nextExecution ctx)) :
      Resolved ctx d seen s (.error (.conflict id cause), s')
  /-- All is as it was, and a later start does not tell the difference. -/
  | undone {e : Error} {s' : State} (passing : e.isConflict = false) (same : s.Same s')
      (alike : StartsAlike s s') : Resolved ctx d seen s (.error e, s')

/-- Every service answers, except that the storage may not change an instance. -/
structure UpdatesMayFail (ctx : Context) : Prop where
  others : ∀ call, call ≠ .updateInstance → ctx.outage call = none
  storage : ∀ e, ctx.outage .updateInstance = some e → ∃ text, e = .storage text

/-- The instance is stored and not known to be started, and its record can take the name of the
    execution that is started next. -/
structure Takes (ctx : Context) (seen : Instance) (s : State) (stored : Instance) : Prop where
  found : s.storage.instances.get? seen.id = some stored
  idle : s.records.stateOf seen.id = .notStarted
  written : ctx.outage .updateInstance = none
  own : ∀ x, stored.engineId = some x → x = s.nextExecution ctx

theorem passing_of_blocked (reachable : ctx.outage .findInstance = none)
    (why : s.storage.instances.get? seen.id = none ∨ s.records.stateOf seen.id ≠ .notStarted)
    {e : Error} {s' : State} (failed : outcome (start ctx d seen) s = (.error e, s')) :
    e.isConflict = false := by
  unfold start at failed
  simp only at failed
  rw [outcome_bind, outcome_getInstance, reachable] at failed
  cases found : s.storage.instances.get? seen.id with
  | none =>
    rw [found] at failed
    cases failed
    rfl
  | some stored =>
    have claimed := why.resolve_left (by simp [found])
    rw [found] at failed
    simp only at failed
    rw [outcome_bind, outcome_advance, SyncRecords.advance_of_claimed claimed] at failed
    cases failed
    rfl

theorem naming_applies {x : ExecutionId} {stored : Instance} (now : Instant)
    (own : ∀ y, stored.engineId = some y → y = x) :
    ∃ changed updated, (naming x).apply now stored = .ok (changed, updated) := by
  have same : (naming x).otherExecution? stored = none := by
    unfold Patch.otherExecution?
    cases named : stored.engineId with
    | none => rfl
    | some y => simp [own y named]
  have closed : (naming x).openTask? stored = none :=
    ((naming x).openTask?_eq_none_iff stored).2 fun _ _ => List.not_mem_nil.elim
  have accepted := ((naming x).refusal?_eq_none_iff stored).2 ⟨rfl, same, closed⟩
  unfold Patch.apply
  simp only [accepted]
  split <;> exact ⟨_, _, rfl⟩

/-- A start that is taken back before the end is as if it had not been made. -/
theorem same_of_undone (rest : s.AtRest) (idle : s.records.stateOf seen.id = .notStarted)
    (fresh : s.engine.get? (s.nextExecution ctx) = none) (d : Deployment) (data : FieldData) :
    s.Same
      { s.launch ctx d seen.id data with
        engine := (s.launch ctx d seen.id data).engine.erase (s.nextExecution ctx)
        records := s.records.erase seen.id } := by
  have engine : (s.launch ctx d seen.id data).engine.erase (s.nextExecution ctx) = s.engine := by
    show (s.engine.insert _ _).erase _ = s.engine
    rw [SortedMap.erase_insert_self, SortedMap.erase_of_absent fresh]
  have records : s.records.erase seen.id = s.records :=
    SortedMap.erase_of_absent (rest.absent_of_idle idle)
  rw [engine, records]
  rfl

variable (keyed : s.Keyed) (rest : s.AtRest) (service : UpdatesMayFail ctx)
  (fresh : s.engine.get? (s.nextExecution ctx) = none)

include keyed rest service fresh in
theorem resolved_of_started {after : Except Error Instance × State}
    (ended : Started ctx d seen s after) (result : outcome (start ctx d seen) s = after) :
    Resolved ctx d seen s after := by
  have reachable := service.others .findInstance (by decide)
  cases ended with
  | blocked e why =>
    have passing := passing_of_blocked reachable (why.resolve_left (by simp [reachable])) result
    exact .undone passing rfl (startsAlike_of_same rfl)
  | unlaunched idle out =>
    rw [service.others .startExecution (by decide)] at out
    cases out
  | @undone stored e launches untaken passing =>
    have same := same_of_undone rest launches.idle fresh d stored.data
    exact .undone passing same (startsAlike_of_same same)
  | @left stored e why launches untaken lasting =>
    have cancels := service.others .cancelExecution (by decide)
    have conflicts := lasting.resolve_right fun out => out cancels
    unfold Untaken at untaken
    cases out : ctx.outage .updateInstance with
    | some cause =>
      obtain ⟨text, rfl⟩ := service.storage cause out
      simp only [out] at untaken
      rw [untaken] at conflicts
      cases conflicts
    | none =>
      simp only [out] at untaken
      obtain ⟨cause, -, rfl⟩ := Patch.conflict_of_apply untaken
      exact .desynced rfl (SortedMap.get?_insert_self _ _ _) rfl rfl
  | @done stored updated changed launches applied =>
    have named : updated.engineId = some (s.nextExecution ctx) :=
      Request.named_of_apply applied
    have id : updated.id = seen.id :=
      (Patch.id_of_apply applied).trans (keyed seen.id stored launches.found)
    obtain ⟨i, held⟩ :=
      Request.named_keep (s := s.launch ctx d seen.id stored.data) launches.found applied
    refine .synced launches.found (SortedMap.get?_insert_self _ _ _) rfl named.symm named held ?_
      (binds_map_variableOf stored.data)
    show (s.launch ctx d seen.id stored.data).engine.get? _ = _
    rw [Request.get?_launch, if_pos rfl, id]

include service in
/-- A start is done exactly if the instance is there and not started, and its record takes the name
    of the execution. -/
theorem isOk_start_iff :
    (outcome (start ctx d seen) s).1.isOk = true ↔ ∃ stored, Takes ctx seen s stored := by
  have ended := start_started ctx d seen s
  generalize outcome (start ctx d seen) s = after at ended
  constructor
  · intro ok
    cases ended with
    | @done stored updated changed launches applied written =>
      refine ⟨stored, launches.found, launches.idle, written, fun x named => ?_⟩
      exact Request.name_of_apply applied named
    | _ => cases ok
  · rintro ⟨stored, takes⟩
    cases ended with
    | blocked e why =>
      rcases why with out | absent | claimed
      · exact absurd (service.others .findInstance (by decide)) out
      · simp [takes.found] at absent
      · exact absurd takes.idle claimed
    | unlaunched idle out =>
      rw [service.others .startExecution (by decide)] at out
      cases out
    | undone launches untaken | left launches untaken =>
      obtain rfl := Option.some.inj (takes.found.symm.trans launches.found)
      obtain ⟨changed, updated, applied⟩ := naming_applies ctx.now takes.own
      simp only [Untaken, takes.written, applied] at untaken
      cases untaken
    | done => rfl

end Reconcile

namespace Request

variable {s : State}

/-- The state is reached by requests from one without records, in which every instance is stored
    under its own name. -/
def Reached (s : State) : Prop :=
  ∃ calls s₀, s₀.Keyed ∧ s₀.records = ∅ ∧ s = (run calls s₀).2

/-- Between requests every record is at rest, also after the records have been forgotten. -/
theorem Reached.atRest (reached : Reached s) : s.Keyed ∧ s.AtRest := by
  obtain ⟨calls, s₀, keyed, unknown, rfl⟩ := reached
  have step (ctx : Context) (r : Request) (s : State) (_ : True) (kept : s.Keyed ∧ s.AtRest) :
      (outcome (r.perform ctx) s).2.Keyed ∧ (outcome (r.perform ctx) s).2.AtRest := by
    refine ⟨keyed_perform ctx r s kept.1, ?_⟩
    by_cases forgets : r = .forget
    · subst forgets
      exact SortedMap.forall_of_empty rfl
    · exact (settles_perform ctx forgets kept.1 kept.2).atRest
  exact run_keeps step calls (fun _ _ => trivial) ⟨keyed, SortedMap.forall_of_empty unknown⟩

/-- A start in a state that was reached, under a new name and with no service out but the storage,
    which may not change an instance, ends in one of three ways: it leaves the record synced with
    the execution that runs, or the record desynced and the instance as it was, or all as it was.
    It is done exactly if the instance is there, not started, and its record takes the name. -/
theorem start_resolved {ctx : Context} (reached : Reached s) (service : UpdatesMayFail ctx)
    (fresh : s.engine.get? (s.nextExecution ctx) = none) (d : Deployment) (seen : Instance) :
    Resolved ctx d seen s (outcome (Reconcile.start ctx d seen) s) ∧
      ((outcome (Reconcile.start ctx d seen) s).1.isOk = true ↔
        ∃ stored, Takes ctx seen s stored) := by
  obtain ⟨keyed, rest⟩ := reached.atRest
  have ended := start_started ctx d seen s
  exact ⟨resolved_of_started keyed rest service fresh ended rfl, isOk_start_iff service⟩

/-- What is submitted: a field with one value, one with two and one with none. -/
def submitted : FieldData :=
  .ofList [("amount", [.int 3]), ("tags", [.text "a", .text "b"]), ("note", [])]

def filled : State :=
  (run [(Desk.context "case-1",
    .create Desk.process Desk.deployment submitted [] none Desk.alice)] Desk.empty).2

/-- The instance already names an execution that is started elsewhere. -/
def elsewhere : State :=
  (run [Desk.creation, (Desk.context "-", .changeInstance "case-1" { engineId := some "y" })]
    Desk.empty).2

/-- The storage takes no changes. -/
def whileFull : Context :=
  { Desk.context "-" with
    outage := fun call => if call = .updateInstance then some (.storage "disk full") else none }

/-- The instance is started, seen as it was created without data. -/
def starting (ctx : Context) (s : State) : Except Error Instance × State :=
  outcome (Reconcile.start ctx Desk.deployment Desk.opened) s

/-- A start that succeeds, one that comes too late and one whose end cannot be written. -/
theorem start_resolved_ends :
    let usual := Desk.context "-"
    (Reached filled ∧ UpdatesMayFail usual ∧
      filled.engine.get? (filled.nextExecution usual) = none ∧
      ∃ updated s' x bindings, starting usual filled = (.ok updated, s') ∧
        s'.records.stateOf "case-1" = .synced ∧ updated.engineId = some x ∧
        s'.engine.get? x = some ⟨x, updated.id, "expense_v3", bindings⟩ ∧
        bindings.get? "amount" = some (.int 3) ∧
        bindings.get? "tags" = some (.list [.text "a", .text "b"]) ∧
        bindings.get? "note" = some (.list [])) ∧
    (Reached elsewhere ∧ elsewhere.engine.get? (elsewhere.nextExecution usual) = none ∧
      ∃ s' record,
        starting usual elsewhere = (.error (.conflict "case-1" (.otherExecution "y" "x")), s') ∧
        s'.storage = elsewhere.storage ∧ s'.records.get? "case-1" = some record ∧
        record.state = .desynced ∧ record.executionId = some "x") ∧
    (UpdatesMayFail whileFull ∧ filled.engine.get? (filled.nextExecution whileFull) = none ∧
      ∃ s', starting whileFull filled = (.error (.storage "disk full"), s') ∧
        filled.Same s' ∧ StartsAlike filled s') := by
  intro usual
  have reached : Reached filled := ⟨_, Desk.empty, State.keyed_of_blank rfl, rfl, rfl⟩
  have reached' : Reached elsewhere := ⟨_, Desk.empty, State.keyed_of_blank rfl, rfl, rfl⟩
  have serves : UpdatesMayFail usual := ⟨fun _ _ => rfl, nofun⟩
  have fails : UpdatesMayFail whileFull := by
    refine ⟨fun call other => if_neg other, fun e out => ⟨"disk full", ?_⟩⟩
    exact (Option.some.inj out).symm
  have fresh : filled.engine.get? (filled.nextExecution usual) = none := by decide +kernel
  have fresh' : elsewhere.engine.get? (elsewhere.nextExecution usual) = none := by
    decide +kernel
  have fresh'' : filled.engine.get? (filled.nextExecution whileFull) = none := by decide +kernel
  refine ⟨⟨reached, serves, fresh, ?_⟩, ⟨reached', fresh', ?_⟩, fails, fresh'', ?_⟩
  · have resolved := (start_resolved reached serves fresh Desk.deployment Desk.opened).1
    have ok : (starting usual filled).1.isOk = true := by decide +kernel
    have data : (filled.storage.instances.get? Desk.opened.id).map Instance.data =
        some submitted := by decide +kernel
    change Resolved _ _ _ _ (starting usual filled) at resolved
    generalize starting usual filled = after at resolved ok
    cases resolved with
    | @synced stored updated i record x bindings s' found recorded state noted named held runs
        bound =>
      rw [found] at data
      rw [show stored.data = submitted from Option.some.inj data] at bound
      have synced : s'.records.stateOf "case-1" = .synced := by
        simp [SyncRecords.stateOf, show s'.records.get? "case-1" = _ from recorded, state]
      exact ⟨updated, s', x, bindings, rfl, synced, named, runs,
        bound.one "amount" (.int 3) (by decide +kernel),
        bound.list "tags" _ (by decide +kernel) (by decide),
        bound.list "note" _ (by decide +kernel) (by decide)⟩
    | desynced | undone => cases ok
  · have resolved := (start_resolved reached' serves fresh' Desk.deployment Desk.opened).1
    have refused : (starting usual elsewhere).1 =
        .error (.conflict "case-1" (.otherExecution "y" "x")) := by rfl
    change Resolved _ _ _ _ (starting usual elsewhere) at resolved
    generalize starting usual elsewhere = after at resolved refused
    cases resolved with
    | synced => cases refused
    | desynced kept recorded state noted =>
      cases refused
      exact ⟨_, _, rfl, kept, recorded, state, noted⟩
    | undone passing =>
      cases refused
      cases passing
  · have resolved := (start_resolved reached fails fresh'' Desk.deployment Desk.opened).1
    have failed : (starting whileFull filled).1 = .error (.storage "disk full") := by rfl
    change Resolved _ _ _ _ (starting whileFull filled) at resolved
    generalize starting whileFull filled = after at resolved failed
    cases resolved with
    | synced | desynced => cases failed
    | undone passing same alike =>
      cases failed
      exact ⟨_, rfl, same, alike⟩

end Request
end Casework
