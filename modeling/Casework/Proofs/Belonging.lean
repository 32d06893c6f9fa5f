import Casework.Proofs.References

/-!
Instances and the processes of their deployments. Creation sees that the process and the deployment
are stored, but compares what the caller hands in: a deployment that the caller believes to be one
of another process goes through (`Misplaces`). No request changes the process or the deployment of
an instance, so in a run every instance belongs to the process of its deployment exactly if none was
misplaced (`placed_iff`).
-/

namespace Casework

open Casework.Action Casework.Lifecycle

namespace Storage

/-- The process of the record is stored, and so is its deployment, as one of the process. -/
structure Places (s : Storage) (i : Instance) : Prop where
  process : s.processes.get? i.processKey ≠ none
  deployment : ∃ d, s.deployments.get? i.deploymentId = some d ∧ d.processKey = i.processKey

theorem Places.congr {before after : Storage} {i j : Instance}
    (processes : after.processes = before.processes)
    (deployments : after.deployments = before.deployments) (process : j.processKey = i.processKey)
    (deployment : j.deploymentId = i.deploymentId) (places : before.Places i) :
    after.Places j := by
  constructor
  · rw [processes, process]
    exact places.process
  · rw [deployments, process, deployment]
    exact places.deployment

end Storage

namespace Request

variable {ctx : Context} {s : State} {r : Request}

def Creates : Request → Prop
  | .create .. => True
  | _ => False

def Defines : Request → Prop
  | .saveProcess _ | .saveDeployment _ => True
  | _ => False

/-- An instance is created under a deployment that is stored as one of another process. -/
inductive Misplaces (ctx : Context) (s : State) : Request → Prop
  | create {p : ProcessDefinition} {d stored : Deployment} {data : FieldData}
      {attachments : List Attachment} {submission : Option Submission} {initiator : Entity}
      (made : (outcome ((create p d data attachments submission initiator).perform ctx)
        s).1.isOk = true)
      (found : s.storage.deployments.get? d.id = some stored)
      (foreign : stored.processKey ≠ p.key) :
      Misplaces ctx s (.create p d data attachments submission initiator)

def Placed (s : State) : Prop := Every s.storage.Places s

theorem definitions_perform (ctx : Context) (s : State) (other : ¬r.Defines) :
    (outcome (r.perform ctx) s).2.storage.processes = s.storage.processes ∧
      (outcome (r.perform ctx) s).2.storage.deployments = s.storage.deployments := by
  have files := perform_files ctx r s
  generalize (outcome (r.perform ctx) s).2.storage = after at files
  cases files with
  | brought files form same =>
    rw [Storage.file_eq] at same
    obtain ⟨instances, attachments, submissions, processes, deployments⟩ := after
    cases same
    exact ⟨rfl, rfl⟩
  | process | deployment => exact absurd trivial other

/-- No request changes the process or the deployment of an instance that is stored. -/
theorem placed_of_stored (ctx : Context) (r : Request) {id : InstanceId} {i : Instance}
    (found : s.storage.instances.get? id = some i) :
    ∃ j, (outcome (r.perform ctx) s).2.storage.instances.get? id = some j ∧
      j.processKey = i.processKey ∧ j.deploymentId = i.deploymentId := by
  obtain ⟨j, held, same | ⟨patch, -, applied⟩⟩ := patched_of_stored ctx r found
  · exact ⟨j, held, by rw [same], by rw [same]⟩
  · refine ⟨j, held, ?_⟩
    rw [Patch.eq_of_apply applied]
    exact ⟨rfl, rfl⟩

/-- A creation that goes through has found its process and its deployment stored, and enters an
    instance that names them. -/
theorem opening_of_made {p : ProcessDefinition} {d : Deployment} {data : FieldData}
    {attachments : List Attachment} {submission : Option Submission} {initiator : Entity}
    {i : Instance} {s' : State}
    (made : outcome (Lifecycle.create ctx p d data attachments submission initiator) s =
      (.ok i, s')) :
    s.storage.processes.get? p.key ≠ none ∧ s.storage.deployments.get? d.id ≠ none ∧
      i.processKey = p.key ∧ i.deploymentId = d.id ∧
      s'.storage.instances = s.storage.instances.insert i.id i := by
  have ended := create_created ctx p d data attachments submission initiator s
  rw [made] at ended
  cases ended with
  | done opened process deployment =>
    subst opened
    refine ⟨process, deployment, rfl, rfl, ?_⟩
    show (s.file attachments submission).storage.instances.insert _ _ = _
    rw [State.instances_file]

theorem instances_of_unmade {p : ProcessDefinition} {d : Deployment} {data : FieldData}
    {attachments : List Attachment} {submission : Option Submission} {initiator : Entity}
    {e : Error} {s' : State}
    (failed : outcome (Lifecycle.create ctx p d data attachments submission initiator) s =
      (.error e, s')) : s'.storage.instances = s.storage.instances := by
  have ended := create_created ctx p d data attachments submission initiator s
  rw [failed] at ended
  cases ended with
  | refused => rfl
  | @orphaned files form => exact State.instances_file s files form

theorem not_placed_of_misplaces (misplaces : Misplaces ctx s r) :
    ¬Placed (outcome (r.perform ctx) s).2 := by
  cases misplaces with
  | @create p d stored data attachments submission initiator made found foreign =>
    have same := (definitions_perform ctx s
      (r := .create p d data attachments submission initiator) id).2
    rw [perform, isOk_map] at made
    rw [perform, state_map] at same ⊢
    cases ended : outcome (Lifecycle.create ctx p d data attachments submission initiator) s with
    | mk answer s' =>
      rw [ended] at made same
      cases answer with
      | error e => cases made
      | ok i =>
        obtain ⟨-, -, process, deployment, instances⟩ := opening_of_made ended
        intro placed
        have held : s'.storage.instances.get? i.id = some i := by
          rw [instances, SortedMap.get?_insert_self]
        obtain ⟨d', found', own⟩ := (placed i.id i held).deployment
        dsimp only at found' same
        rw [same, deployment, found] at found'
        obtain rfl := Option.some.inj found'
        exact foreign (own.trans process)

/-- Unless a creation misplaces its instance, the instance has its place. -/
theorem places_of_new (allowed : ¬r.Writes) (right : ¬Misplaces ctx s r) {id : InstanceId}
    {j : Instance} (absent : s.storage.instances.get? id = none)
    (held : (outcome (r.perform ctx) s).2.storage.instances.get? id = some j) :
    s.storage.Places j := by
  cases opens_of_new absent held with
  | saveInstance => exact absurd trivial allowed
  | @create p d data attachments submission initiator =>
    rw [perform, state_map] at held
    cases ended : outcome (Lifecycle.create ctx p d data attachments submission initiator) s with
    | mk answer s' =>
      rw [ended] at held
      dsimp only at held
      cases answer with
      | error e =>
        rw [instances_of_unmade ended, absent] at held
        cases held
      | ok i =>
        obtain ⟨process, deployment, processKey, deploymentId, instances⟩ := opening_of_made ended
        rw [instances, SortedMap.get?_insert, absent] at held
        split at held
        · obtain rfl := Option.some.inj held
          obtain ⟨stored, found⟩ := Option.ne_none_iff_exists'.1 deployment
          refine ⟨by rwa [processKey], stored, by rwa [deploymentId], ?_⟩
          rw [processKey]
          refine Classical.byContradiction fun foreign => right (.create ?_ found foreign)
          rw [perform, isOk_map, ended]
          rfl
        · cases held

/-- Every stored record keeps its place exactly if no new one is misplaced. What saves a process or
    a deployment comes before there is any record. -/
theorem placed_perform_iff (allowed : ¬r.Writes) (first : r.Defines → s.storage.instances = ∅)
    (placed : Placed s) : Placed (outcome (r.perform ctx) s).2 ↔ ¬Misplaces ctx s r := by
  refine ⟨fun kept misplaces => not_placed_of_misplaces misplaces kept, fun right => ?_⟩
  by_cases defines : r.Defines
  · have blank : (outcome (r.perform ctx) s).2.storage.instances = ∅ := by
      cases r with
      | saveProcess | saveDeployment => exact first trivial
      | _ => exact defines.elim
    exact SortedMap.forall_of_empty blank
  · obtain ⟨processes, deployments⟩ := definitions_perform ctx s defines
    intro id j held
    cases found : s.storage.instances.get? id with
    | none => exact (places_of_new allowed right found held).congr processes deployments rfl rfl
    | some i =>
      obtain ⟨j', held', process, deployment⟩ := placed_of_stored ctx r found
      obtain rfl := Option.some.inj (held.symm.trans held')
      exact (placed id i found).congr processes deployments process deployment

/-! ### Runs -/

theorem blank_perform (ctx : Context) (s : State) (allowed : ¬r.Writes ∧ ¬r.Creates)
    (blank : s.storage.instances = ∅) :
    (outcome (r.perform ctx) s).2.storage.instances = ∅ := by
  have nothing (id : InstanceId) : s.storage.instances.get? id = none := by rw [blank]; rfl
  refine SortedMap.ext_get? fun id => ?_
  cases held : (outcome (r.perform ctx) s).2.storage.instances.get? id with
  | none => rfl
  | some j =>
    cases opens_of_new (nothing id) held with
    | create => exact absurd trivial allowed.2
    | saveInstance => exact absurd trivial allowed.1

/-- Where processes and deployments are saved first, there is no instance yet when one is saved. -/
theorem blank_before {calls : List (Context × Request)} (allowed : ∀ call ∈ calls, ¬call.2.Writes)
    (first : calls.Pairwise fun before after => before.2.Creates → ¬after.2.Defines) {s : State}
    (blank : s.storage.instances = ∅) {n : Nat} (at_n : calls[n]? = some (ctx, r))
    (defines : r.Defines) : (run (calls.take n) s).2.storage.instances = ∅ := by
  have uncreated : ∀ call ∈ calls.take n, ¬call.2.Writes ∧ ¬call.2.Creates := by
    intro call member
    refine ⟨allowed call (List.mem_of_mem_take member), fun creates => ?_⟩
    obtain ⟨m, small, rfl⟩ := List.mem_take_iff_getElem.1 member
    obtain ⟨bound, same⟩ := List.getElem?_eq_some_iff.1 at_n
    have before := List.pairwise_iff_getElem.1 first m n (by omega) bound (by omega) creates
    rw [same] at before
    exact before defines
  exact @run_keeps (fun r => ¬r.Writes ∧ ¬r.Creates) (fun s => s.storage.instances = ∅)
    (fun ctx _ s => blank_perform ctx s) (calls.take n) uncreated s blank

/-- In a run in which processes and deployments are saved before anything is created, and no record
    is written as it comes, every instance has a process and a deployment that are stored; and in
    every state the deployment is one of the process, exactly if no instance is created under a
    deployment that is stored as one of another process. -/
theorem placed_iff {calls : List (Context × Request)} (allowed : ∀ call ∈ calls, ¬call.2.Writes)
    (first : calls.Pairwise fun before after => before.2.Creates → ¬after.2.Defines) {s : State}
    (blank : s.storage.instances = ∅) :
    (∀ n id i, (run (calls.take n) s).2.storage.instances.get? id = some i →
        (run (calls.take n) s).2.storage.processes.get? i.processKey ≠ none ∧
          (run (calls.take n) s).2.storage.deployments.get? i.deploymentId ≠ none) ∧
      ((∀ n id i, (run (calls.take n) s).2.storage.instances.get? id = some i →
          (run (calls.take n) s).2.storage.Places i) ↔
        ∀ n ctx r, calls[n]? = some (ctx, r) → ¬Misplaces ctx (run (calls.take n) s).2 r) := by
  constructor
  · intro n id i found
    have allowed_n : ∀ call ∈ calls.take n, ¬call.2.Writes :=
      fun call member => allowed call (List.mem_of_mem_take member)
    have backs := backed_run (calls.take n) allowed_n (SortedMap.forall_of_empty blank)
      id i found
    exact ⟨backs.process, backs.deployment⟩
  · have placed : Placed s := SortedMap.forall_of_empty blank
    refine run_always_iff placed fun n ctx r at_n placed => ?_
    exact placed_perform_iff (allowed _ (List.mem_of_getElem? at_n))
      (blank_before allowed first blank at_n) placed

def definedFirst : List (Context × Request) := [
  (Desk.context "-", .saveProcess Desk.process),
  (Desk.context "-", .saveDeployment Desk.deployment),
  Desk.creation,
  (Desk.context "-", .archive Desk.opened ∅)]

theorem placed_iff_definedFirst :
    (∀ call ∈ definedFirst, ¬call.2.Writes) ∧
      (definedFirst.Pairwise fun before after => before.2.Creates → ¬after.2.Defines) ∧
      ({} : State).storage.instances = ∅ ∧
      ∃ i, (run definedFirst {}).2.storage.instances.get? "case-1" = some i ∧
        i.status = .complete ∧ (run definedFirst {}).2.storage.Places i := by
  have allowed : ∀ call ∈ definedFirst, ¬call.2.Writes := by
    simp [definedFirst, Desk.creation, Writes]
  have first : definedFirst.Pairwise fun before after => before.2.Creates → ¬after.2.Defines := by
    simp [definedFirst, Desk.creation, Creates, Defines]
  have right : ∀ n ctx r, definedFirst[n]? = some (ctx, r) →
      ¬Misplaces ctx (run (definedFirst.take n) {}).2 r := by
    rintro n ctx r at_n ⟨made, found, foreign⟩
    obtain _ | _ | _ | _ | n := n
    · cases at_n
    · cases at_n
    · have stored : (run (definedFirst.take 2) {}).2.storage.deployments.get? "dep-1" =
          some Desk.deployment := by decide +kernel
      cases at_n
      obtain rfl := Option.some.inj (stored.symm.trans found)
      exact foreign rfl
    · cases at_n
    · cases at_n
  have places := (placed_iff allowed first (s := {}) rfl).2.2 right
  have complete : ((run definedFirst {}).2.storage.instances.get? "case-1").map
      Instance.status = some .complete := by decide +kernel
  obtain ⟨i, found, status⟩ := Option.map_eq_some_iff.1 complete
  exact ⟨allowed, first, rfl, i, found, status, places 4 "case-1" i found⟩

def travel : ProcessDefinition := { key := "travel", label := "Travel" }

/-- The deployment of the other process, as one of this process. -/
def believed : Deployment := { Desk.deployment with processKey := "travel" }

/-- A second process is saved, and an instance of it is created under the deployment of the first
    one. -/
def misbelieved : List (Context × Request) := [
  (Desk.context "-", .saveProcess travel),
  (Desk.context "case-1", .create travel believed ∅ [] none Desk.alice)]

theorem misplaced_believed :
    (∀ call ∈ misbelieved, ¬call.2.Writes) ∧
      (misbelieved.Pairwise fun before after => before.2.Creates → ¬after.2.Defines) ∧
      Desk.empty.storage.instances = ∅ ∧
      ∃ i d, (run misbelieved Desk.empty).2.storage.instances.get? "case-1" = some i ∧
        (run misbelieved Desk.empty).2.storage.deployments.get? i.deploymentId = some d ∧
        i.processKey = "travel" ∧ d.processKey = "expense" ∧
        ¬(run misbelieved Desk.empty).2.storage.Places i := by
  have allowed : ∀ call ∈ misbelieved, ¬call.2.Writes := by simp [misbelieved, Writes]
  have first : misbelieved.Pairwise fun before after => before.2.Creates → ¬after.2.Defines := by
    simp [misbelieved, Creates, Defines]
  have created : ((run misbelieved Desk.empty).2.storage.instances.get? "case-1").map
      (fun i => (i.processKey, i.deploymentId)) = some ("travel", "dep-1") := by decide +kernel
  have stored : (run misbelieved Desk.empty).2.storage.deployments.get? "dep-1" =
      some Desk.deployment := by decide +kernel
  obtain ⟨i, found, parts⟩ := Option.map_eq_some_iff.1 created
  obtain ⟨process, deployment⟩ := Prod.mk.inj parts
  refine ⟨allowed, first, rfl, i, Desk.deployment, found, by rw [deployment, stored], process, rfl,
    fun places => ?_⟩
  obtain ⟨d, held, own⟩ := places.deployment
  rw [deployment, stored] at held
  obtain rfl := Option.some.inj held
  rw [process] at own
  exact absurd own (by decide)

end Request
end Casework
