import Casework.Proofs.FailedStarts
import Casework.Proofs.FullScans
import Casework.Proofs.StaleRequests

/-!
Audits. What is found of an instance and what becomes of its record depend on that record, the
instance and the engine alone (`finding`, `verified`), and an instance that was verified is left as
it is when it is verified again (`verified_verified`). So an audit answers with the finding of every
instance of the scan and changes nothing but records, and another one right after it gives the same
answer and changes nothing at all (`audit_exact`).
-/

namespace Casework

open Casework.Action Casework.Reconcile

namespace SyncRecords

theorem isFinal_stateOf (records : SyncRecords) (id : InstanceId) :
    (records.stateOf id).isFinal = (records.get? id).any fun record => record.state.isFinal := by
  unfold stateOf
  cases records.get? id <;> rfl

theorem stateOf_desync_self (records : SyncRecords) (now : Instant) (id : InstanceId)
    (why : Divergence) : (records.desync now id why).stateOf id = .desynced := by
  unfold desync
  simp only
  split
  · rename_i final
    cases found : records.get? id with
    | none =>
      rw [found] at final
      cases final
    | some record =>
      rw [found] at final
      cases state : record.state with
      | desynced => simp [stateOf, found, state]
      | _ =>
        rw [Option.getD_some, state] at final
        cases final
  · exact (stateOf_insert _ _ _ _).trans (if_pos rfl)

end SyncRecords

namespace Reconcile

/-- The services that an audit calls answer. -/
structure Answering (ctx : Context) : Prop where
  pages : ctx.outage .findPage = none
  instances : ctx.outage .findInstance = none
  executions : ctx.outage .findExecution = none

/-- What verifying an instance with this record finds. -/
def finding (engine : Engine) (i : Instance) (record : Option SyncRecord) : SyncState :=
  if (record.any fun record => record.state.isFinal) then .desynced
  else
    match i.engineId with
    | none => .notStarted
    | some x =>
      match divergence? i x ((engine.get? x).filter (Criteria.byExecution x).accepts) with
      | some _ => .desynced
      | none => .synced

/-- The record of an instance after it was verified. -/
def verified (ctx : Context) (engine : Engine) (i : Instance) (record : Option SyncRecord) :
    Option SyncRecord :=
  if (record.any fun record => record.state.isFinal) then record
  else
    match i.engineId with
    | none => record
    | some x => reviewed ctx engine i x record

variable {ctx again : Context} {engine : Engine} {i : Instance} {record : Option SyncRecord}

/-- What a review leaves where the engine answers: a desynced record, none, or the record as it
    was. -/
theorem reviewed_cases (executions : ctx.outage .findExecution = none) (engine : Engine)
    (i : Instance) (x : ExecutionId) (record : Option SyncRecord) :
    (∃ why left, divergence? i x ((engine.get? x).filter (Criteria.byExecution x).accepts) =
        some why ∧ reviewed ctx engine i x record = some left ∧ left.state = .desynced) ∨
      divergence? i x ((engine.get? x).filter (Criteria.byExecution x).accepts) = none ∧
        (i.status.isFinal = true ∧ reviewed ctx engine i x record = none ∨
          i.status.isFinal = false ∧ reviewed ctx engine i x record =
            some (record.getD { state := .synced, updated := ctx.now })) := by
  unfold reviewed
  rw [executions]
  cases divergence? i x ((engine.get? x).filter (Criteria.byExecution x).accepts) with
  | some why => exact .inl ⟨why, _, rfl, rfl, rfl⟩
  | none =>
    cases i.status.isFinal with
    | true => exact .inr ⟨rfl, .inl ⟨rfl, rfl⟩⟩
    | false => exact .inr ⟨rfl, .inr ⟨rfl, rfl⟩⟩

/-- An instance that was verified is left as it is when it is verified again, at any later time. -/
theorem verified_verified (executions : ctx.outage .findExecution = none)
    (executions' : again.outage .findExecution = none) :
    verified again engine i (verified ctx engine i record) = verified ctx engine i record := by
  unfold verified
  split
  · rfl
  · rename_i passing
    cases named : i.engineId with
    | none => exact if_neg passing
    | some x =>
      simp only
      rcases reviewed_cases executions engine i x record with
        ⟨why, left, -, reviewed, desynced⟩ | ⟨agrees, ⟨ended, reviewed⟩ | ⟨going, reviewed⟩⟩
      · rw [reviewed, if_pos (by simp [desynced, SyncState.isFinal])]
      · rw [reviewed, if_neg (by simp)]
        simp [Reconcile.reviewed, executions', agrees, ended]
      · rw [reviewed, if_neg (by cases record <;> simp_all [SyncState.isFinal])]
        simp [Reconcile.reviewed, executions', agrees, going]

/-- Verifying an instance does not change what is found of it. -/
theorem finding_verified (executions : ctx.outage .findExecution = none) :
    finding engine i (verified ctx engine i record) = finding engine i record := by
  unfold verified
  split
  · rfl
  · rename_i passing
    cases named : i.engineId with
    | none => rfl
    | some x =>
      unfold finding
      simp only [named]
      rw [if_neg passing]
      rcases reviewed_cases executions engine i x record with
        ⟨why, left, differs, reviewed, desynced⟩ | ⟨agrees, ⟨ended, reviewed⟩ | ⟨going, reviewed⟩⟩
      · rw [reviewed, differs, if_pos (by simp [desynced, SyncState.isFinal])]
      · rw [reviewed, agrees, if_neg (by simp)]
      · rw [reviewed, agrees, if_neg (by cases record <;> simp_all [SyncState.isFinal])]

variable {s : State}

theorem storage_withRecords (s : State) (records : SyncRecords) :
    (s.withRecords records).storage = s.storage := rfl

theorem withRecords_verify (ctx : Context) (id : InstanceId) (s : State) :
    (outcome (verify ctx id) s).2 = s.withRecords (outcome (verify ctx id) s).2.records := by
  rw [outcome_verify]
  split
  · rfl
  · split
    · rfl
    · rfl
    · split <;> rfl

theorem absent_of_unnamed (rest : s.AtRest) {id : InstanceId}
    (found : s.storage.instances.get? id = some i) (unnamed : i.engineId = none)
    (passing : ¬(s.records.stateOf id).isFinal = true) : s.records.get? id = none := by
  cases held : s.records.get? id with
  | none => rfl
  | some record =>
    cases rest id record held with
    | synced state unexplained found' named =>
      obtain rfl := Option.some.inj (found.symm.trans found')
      rw [unnamed] at named
      cases named
    | desynced state =>
      refine absurd ?_ passing
      rw [SyncRecords.isFinal_stateOf, held]
      simp [state, SyncState.isFinal]

theorem answer_verify (answering : Answering ctx) (keyed : s.Keyed) (rest : s.AtRest)
    {id : InstanceId} (found : s.storage.instances.get? id = some i) :
    (outcome (verify ctx id) s).1 = .ok (finding s.engine i (s.records.get? id)) := by
  have final := s.records.isFinal_stateOf id
  rw [outcome_verify]
  unfold finding
  split
  · rename_i desynced
    rw [← final, if_pos desynced]
    cases state : s.records.stateOf id with
    | desynced => rfl
    | _ =>
      rw [state] at desynced
      cases desynced
  · rename_i passing
    rw [← final, if_neg passing, answering.instances, found]
    cases named : i.engineId with
    | none =>
      have absent := absent_of_unnamed rest found named passing
      simp [named, SyncRecords.stateOf, absent]
    | some x =>
      have own : i.id = id := keyed id i found
      have adoption := get?_adopted ctx
        (fun _ held => synced_of_passing rest passing held) id
      have synced : (adopted ctx s.records id).stateOf i.id = .synced := by
        rw [own, SyncRecords.stateOf, adoption, if_pos rfl]
        cases held : s.records.get? id with
        | none => rfl
        | some before => exact synced_of_passing rest passing held
      simp only [named]
      unfold compared
      rw [answering.executions]
      cases divergence? i x ((s.engine.get? x).filter (Criteria.byExecution x).accepts) with
      | some why => exact congrArg Except.ok (SyncRecords.stateOf_desync_self _ _ _ _)
      | none => exact congrArg Except.ok synced

/-- Verifying an instance leaves its record verified and the others as they are. -/
theorem get?_verify (answering : Answering ctx) (keyed : s.Keyed) (rest : s.AtRest)
    {id : InstanceId} (found : s.storage.instances.get? id = some i) (other : InstanceId) :
    (outcome (verify ctx id) s).2.records.get? other =
      if other = id then verified ctx s.engine i (s.records.get? id)
      else s.records.get? other := by
  have final := s.records.isFinal_stateOf id
  unfold verified
  by_cases desynced : (s.records.stateOf id).isFinal = true
  · rw [outcome_verify, if_pos desynced, ← final, if_pos desynced]
    split
    · rename_i here
      rw [here]
    · rfl
  · rw [← final, if_neg desynced]
    cases named : i.engineId with
    | none =>
      rw [outcome_verify, if_neg desynced, answering.instances, found]
      simp only [named]
      split
      · rename_i here
        rw [here]
      · rfl
    | some x => exact records_verify keyed rest desynced answering.instances found named other

/-! ### One instance after another -/

/-- What is found of some instances, one after another. -/
def findings (s : State) (items : List Instance) : List (InstanceId × SyncState) :=
  items.map fun i => (i.id, finding s.engine i (s.records.get? i.id))

/-- The instances are stored as they are listed. -/
def Listed (s : State) (items : List Instance) : Prop :=
  ∀ i ∈ items, s.storage.instances.get? i.id = some i

/-- The records of some instances have been verified, and nothing else has changed. -/
structure Looked (ctx : Context) (items : List Instance) (s s' : State) : Prop where
  others : s' = s.withRecords s'.records
  verified : ∀ i ∈ items,
    s'.records.get? i.id = Reconcile.verified ctx s.engine i (s.records.get? i.id)
  kept : ∀ id, (∀ i ∈ items, i.id ≠ id) → s'.records.get? id = s.records.get? id

namespace Looked

variable {items later : List Instance} {s' t : State}

theorem storage_eq (looked : Looked ctx items s s') : s'.storage = s.storage := by
  rw [looked.others, storage_withRecords]

theorem engine_eq (looked : Looked ctx items s s') : s'.engine = s.engine := by
  rw [looked.others]
  rfl

theorem listed (looked : Looked ctx items s s') (listed : Listed s later) : Listed s' later := by
  unfold Listed
  rw [looked.storage_eq]
  exact listed

theorem keyed (looked : Looked ctx items s s') (keyed : s.Keyed) : s'.Keyed := by
  unfold State.Keyed
  rw [looked.storage_eq]
  exact keyed

theorem kept_or_verified (looked : Looked ctx items s s') (listed : Listed s items)
    (found : s.storage.instances.get? i.id = some i) :
    s'.records.get? i.id = s.records.get? i.id ∨
      s'.records.get? i.id = Reconcile.verified ctx s.engine i (s.records.get? i.id) := by
  by_cases among : ∃ j ∈ items, j.id = i.id
  · obtain ⟨j, member, named⟩ := among
    have same := listed j member
    rw [named, found] at same
    obtain rfl := Option.some.inj same
    exact .inr (looked.verified i member)
  · exact .inl (looked.kept i.id fun j member named => among ⟨j, member, named⟩)

theorem findings_eq (answering : Answering ctx) (looked : Looked ctx items s s')
    (listed : Listed s items) (listed' : Listed s later) :
    findings s' later = findings s later := by
  refine List.map_congr_left fun i member => ?_
  rw [looked.engine_eq]
  rcases looked.kept_or_verified listed (listed' i member) with kept | verified
  · rw [kept]
  · rw [verified, finding_verified answering.executions]

theorem append (answering : Answering ctx) (first : Looked ctx items s s')
    (next : Looked ctx later s' t) (listed : Listed s items) (listed' : Listed s later) :
    Looked ctx (items ++ later) s t := by
  have behind (j : Instance) (member : j ∈ later) :
      t.records.get? j.id = Reconcile.verified ctx s.engine j (s.records.get? j.id) := by
    rw [next.verified j member, first.engine_eq]
    rcases first.kept_or_verified listed (listed' j member) with kept | verified
    · rw [kept]
    · rw [verified, verified_verified answering.executions answering.executions]
  refine ⟨?_, fun j member => ?_, fun id apart => ?_⟩
  · refine next.others.trans ?_
    rw [first.others]
    rfl
  · rcases List.mem_append.1 member with before | after
    · have found : s'.storage.instances.get? j.id = some j := first.listed listed j before
      rcases next.kept_or_verified (first.listed listed') found with kept | verified
      · rw [kept, first.verified j before]
      · rw [verified, first.engine_eq, first.verified j before,
          verified_verified answering.executions answering.executions]
    · exact behind j after
  · rw [next.kept id fun j member => apart j (List.mem_append_right items member),
      first.kept id fun j member => apart j (List.mem_append_left later member)]

theorem again_eq (answering : Answering ctx) (answering' : Answering again)
    (first : Looked ctx items s s') (second : Looked again items s' t) : t = s' := by
  have records : t.records = s'.records := by
    refine SortedMap.ext_get? fun id => ?_
    by_cases among : ∃ i ∈ items, i.id = id
    · obtain ⟨i, member, rfl⟩ := among
      rw [second.verified i member, first.engine_eq, first.verified i member,
        verified_verified answering.executions answering'.executions]
    · exact second.kept id fun i member own => among ⟨i, member, own⟩
  rw [second.others, records]
  rfl

end Looked

theorem verify_looked (answering : Answering ctx) (keyed : s.Keyed) (rest : s.AtRest)
    (found : s.storage.instances.get? i.id = some i) :
    ∃ s', outcome (verify ctx i.id) s = (.ok (finding s.engine i (s.records.get? i.id)), s') ∧
      Looked ctx [i] s s' := by
  have answer := answer_verify answering keyed rest found
  have records := get?_verify answering keyed rest found
  refine ⟨_, Prod.ext answer rfl, withRecords_verify ctx i.id s, fun j member => ?_, ?_⟩
  · obtain rfl := List.mem_singleton.1 member
    rw [records, if_pos rfl]
  · intro id apart
    rw [records, if_neg (apart i List.mem_cons_self).symm]

theorem verifyAll_looked (answering : Answering ctx) {items : List Instance} (keyed : s.Keyed)
    (rest : s.AtRest) (listed : Listed s items) :
    ∃ s', outcome (verifyAll ctx items) s = (.ok (findings s items), s') ∧
      Looked ctx items s s' := by
  induction items generalizing s with
  | nil => exact ⟨s, rfl, rfl, fun i member => absurd member List.not_mem_nil, fun _ _ => rfl⟩
  | cons i items ih =>
    have found := listed i List.mem_cons_self
    have here : Listed s [i] := fun j member => by rwa [List.mem_singleton.1 member]
    have behind : Listed s items := fun j member => listed j (List.mem_cons_of_mem i member)
    have audited := verify_audited ctx i.id keyed rest
    obtain ⟨s', verified, first⟩ := verify_looked answering keyed rest found
    rw [verified] at audited
    obtain ⟨t, verifiedAll, next⟩ :=
      ih (first.keyed keyed) (audited.settles rest).atRest (first.listed behind)
    refine ⟨t, ?_, first.append answering next here behind⟩
    unfold verifyAll
    rw [outcome_bind, verified]
    simp only
    rw [outcome_bind, verifiedAll, first.findings_eq answering here behind]
    rfl

/-! ### Audits -/

theorem listed_scan (keyed : s.Keyed) (query : Query) (pageSize : UInt64) :
    Listed s (s.storage.scan query pageSize) := by
  intro i member
  have matching : i ∈ s.storage.matching query := Page.mem_of_collect _ member
  exact (((Storage.answers_matching keyed query).members i).1 matching).2

/-- An audit looks at the instances of a scan. -/
theorem audit_looked (answering : Answering ctx) (keyed : s.Keyed) (rest : s.AtRest)
    (query : Query) :
    ∃ s', outcome (audit ctx query) s =
        (.ok (findings s (s.storage.scan query ctx.pageSize)), s') ∧
      Looked ctx (s.storage.scan query ctx.pageSize) s s' := by
  unfold audit
  rw [outcome_bind, outcome_findAll, answering.pages]
  exact verifyAll_looked answering keyed rest (listed_scan keyed query ctx.pageSize)

theorem going_of_synced (executions : ctx.outage .findExecution = none) {x : ExecutionId}
    (named : i.engineId = some x) {left : SyncRecord}
    (held : verified ctx engine i record = some left) (synced : left.state = .synced) :
    i.status.isFinal = false := by
  unfold verified at held
  split at held
  · rename_i final
    rw [held] at final
    simp [synced, SyncState.isFinal] at final
  · simp only [named] at held
    rcases reviewed_cases executions engine i x record with
      ⟨why, left', -, reviewed, desynced⟩ | ⟨-, ⟨-, reviewed⟩ | ⟨going, -⟩⟩
    · obtain rfl := Option.some.inj (reviewed.symm.trans held)
      rw [synced] at desynced
      cases desynced
    · rw [reviewed] at held
      cases held
    · exact going

theorem verified_ne_none (executions : ctx.outage .findExecution = none) {x : ExecutionId}
    (named : i.engineId = some x) (going : i.status.isFinal = false) :
    verified ctx engine i record ≠ none := by
  unfold verified
  split
  · rename_i final
    rintro rfl
    cases final
  · simp only [named]
    rcases reviewed_cases executions engine i x record with
      ⟨why, left, -, reviewed, -⟩ | ⟨-, ⟨ended, -⟩ | ⟨-, reviewed⟩⟩
    · simp [reviewed]
    · rw [going] at ended
      cases ended
    · simp [reviewed]

/-- After all instances have been looked at, the synced records are those of the instances that
    name an execution, have not ended and are not desynced. -/
theorem synced_iff_of_looked (answering : Answering ctx) (keyed : s.Keyed)
    {items : List Instance} {s' : State} (looked : Looked ctx items s s') (rest' : s'.AtRest)
    (all : ∀ id i, s.storage.instances.get? id = some i → i ∈ items) (id : InstanceId) :
    s'.records.stateOf id = .synced ↔
      ∃ i, s'.storage.instances.get? id = some i ∧ i.status.isFinal = false ∧
        i.engineId ≠ none ∧ s'.records.stateOf id ≠ .desynced := by
  have storage := looked.storage_eq
  have left {i : Instance} (held : s.storage.instances.get? id = some i) :
      s'.records.get? id = verified ctx s.engine i (s.records.get? id) := by
    have own : i.id = id := keyed id i held
    have verified := looked.verified i (all id i held)
    rwa [own] at verified
  constructor
  · intro synced
    cases held : s'.records.get? id with
    | none => simp [SyncRecords.stateOf, held] at synced
    | some record =>
      have state : record.state = .synced := by simpa [SyncRecords.stateOf, held] using synced
      cases rest' id record held with
      | @synced i x state' unexplained stored named =>
        rw [storage] at stored
        have verified := (left stored).symm.trans held
        refine ⟨i, by rwa [storage], ?_, by simp [named], by simp [synced]⟩
        exact going_of_synced answering.executions named verified state
      | desynced desynced =>
        rw [state] at desynced
        cases desynced
  · rintro ⟨i, stored, going, named, passing⟩
    rw [storage] at stored
    obtain ⟨x, named⟩ := Option.ne_none_iff_exists'.1 named
    have present : s'.records.get? id ≠ none := by
      rw [left stored]
      exact verified_ne_none answering.executions named going
    obtain ⟨record, held⟩ := Option.ne_none_iff_exists'.1 present
    have state : s'.records.stateOf id = record.state := by simp [SyncRecords.stateOf, held]
    rw [state] at passing ⊢
    cases rest' id record held with
    | synced synced => exact synced
    | desynced desynced => exact absurd desynced passing

end Reconcile

namespace Request

variable {s : State}

/-- An audit of a state that was reached, where the storage and the engine answer, changes nothing
    but records and finds a state of every instance of the scan. Another one right after it finds
    the same and changes nothing. Of fewer than 2^63 instances, and memory holds no more, the scan
    has every one that matches, once and in order; and after an audit of all instances the records
    are those of desynced instances and one synced record for every instance that names an
    execution, has not ended and is not desynced. -/
theorem audit_exact (reached : Reached s) {ctx : Context} (answering : Answering ctx)
    (query : Query) :
    ∃ items s',
      outcome ((audit query).perform ctx) s = (.ok (.states (findings s items)), s') ∧
      s' = s.withRecords s'.records ∧
      (∀ again : Context, Answering again → again.pageSize = ctx.pageSize →
        outcome ((audit query).perform again) s' = (.ok (.states (findings s items)), s')) ∧
      (s.storage.instances.size < 2 ^ 63 →
        query.Answers s.storage items ∧
          (query = {} →
            (∀ id record, s'.records.get? id = some record →
              record.state = .desynced ∨ record.state = .synced) ∧
            ∀ id, s'.records.stateOf id = .synced ↔
              ∃ i, s'.storage.instances.get? id = some i ∧
                (i.status = .running ∨ i.status = .suspended) ∧ i.engineId ≠ none ∧
                s'.records.stateOf id ≠ .desynced)) := by
  obtain ⟨keyed, rest⟩ := reached.atRest
  have rest' := ((audit_audited ctx query keyed rest).settles rest).atRest
  obtain ⟨s', audited, looked⟩ := audit_looked answering keyed rest query
  rw [audited] at rest'
  have listed := listed_scan keyed query ctx.pageSize
  refine ⟨s.storage.scan query ctx.pageSize, s', ?_, looked.others, ?_, fun few => ?_⟩
  · rw [perform, outcome_map, audited]
  · intro again answering' same
    obtain ⟨t, reaudited, relooked⟩ := audit_looked answering' (looked.keyed keyed) rest' query
    rw [looked.storage_eq, same] at reaudited relooked
    obtain rfl := looked.again_eq answering answering' relooked
    rw [perform, outcome_map, reaudited, looked.findings_eq answering listed listed]
  · have answers : query.Answers s.storage (s.storage.scan query ctx.pageSize) := by
      rw [(walked_scan ctx .checked query few).2]
      exact Storage.answers_matching keyed query
    refine ⟨answers, fun whole => ⟨fun id record held => ?_, fun id => ?_⟩⟩
    · cases rest' id record held with
      | synced synced => exact .inr synced
      | desynced desynced => exact .inl desynced
    · have all (id : InstanceId) (i : Instance) (stored : s.storage.instances.get? id = some i) :
          i ∈ s.storage.scan query ctx.pageSize := by
        refine (answers.members i).2 ⟨by rw [whole]; rfl, ?_⟩
        rwa [keyed id i stored]
      have going (status : Status) :
          status.isFinal = false ↔ status = .running ∨ status = .suspended := by
        cases status <;> simp [Status.isFinal]
      rw [synced_iff_of_looked answering keyed looked rest' all id]
      simp only [going]

theorem found_of_answers (reached : Reached s) {items : List Instance}
    (answers : ({} : Query).Answers s.storage items) {id : InstanceId} {state : SyncState}
    (finds : (s.storage.instances.get? id).map
      (fun i => finding s.engine i (s.records.get? id)) = some state) :
    (id, state) ∈ findings s items := by
  obtain ⟨i, stored, rfl⟩ := Option.map_eq_some_iff.1 finds
  obtain rfl : i.id = id := reached.atRest.1 id i stored
  exact List.mem_map.2 ⟨i, (answers.members i).2 ⟨rfl, stored⟩, rfl⟩

def opens (id : InstanceId) : List (Context × Request) := [
  (Desk.context id, .create Desk.process Desk.deployment ∅ [] none Desk.alice),
  (Desk.context "-", .start Desk.deployment { Desk.opened with id := id })]

/-- The execution of one instance is cancelled behind its back, another instance is archived while
    its execution runs, a third one goes on, and a fourth one is not started. -/
def unaudited : State :=
  (run
    (opens "case-1" ++ [(Desk.context "-", .cancelExecution "x")] ++
      opens "case-2" ++ [(Desk.context "-", .archive { Desk.opened with id := "case-2" } ∅)] ++
      opens "case-3" ++ (opens "case-4").take 1)
    Desk.empty).2

theorem audit_exact_unaudited :
    Reached unaudited ∧ Answering (Desk.context "-") ∧
      unaudited.storage.instances.size < 2 ^ 63 ∧
      ∃ items s',
        outcome ((audit {}).perform (Desk.context "-")) unaudited =
          (.ok (.states (findings unaudited items)), s') ∧
        (∀ found ∈ [("case-1", .desynced), ("case-2", .synced), ("case-3", .synced),
          ("case-4", .notStarted)], found ∈ findings unaudited items) ∧
        outcome ((audit {}).perform (Desk.context "-")) s' =
          (.ok (.states (findings unaudited items)), s') ∧
        unaudited.records.stateOf "case-2" = .synced ∧ s'.records.stateOf "case-2" ≠ .synced := by
  have reached : Reached unaudited := ⟨_, Desk.empty, State.keyed_of_blank rfl, rfl, rfl⟩
  have answering : Answering (Desk.context "-") := ⟨rfl, rfl, rfl⟩
  have few : unaudited.storage.instances.size < 2 ^ 63 := by decide +kernel
  obtain ⟨items, s', audited, others, repeated, complete⟩ := audit_exact reached answering {}
  obtain ⟨answers, left⟩ := complete few
  refine ⟨reached, answering, few, items, s', audited, ?_, repeated _ answering rfl, ?_, ?_⟩
  · intro pair member
    simp only [List.mem_cons, List.not_mem_nil, or_false] at member
    rcases member with rfl | rfl | rfl | rfl <;>
      exact found_of_answers reached answers (by decide +kernel)
  · decide +kernel
  · intro synced
    obtain ⟨i, stored, going, -⟩ := ((left rfl).2 "case-2").1 synced
    have archived : (unaudited.storage.instances.get? "case-2").map Instance.status =
        some .complete := by decide +kernel
    rw [others, storage_withRecords] at stored
    rw [stored] at archived
    have complete : i.status = .complete := Option.some.inj archived
    rw [complete] at going
    simp at going

end Request
end Casework
