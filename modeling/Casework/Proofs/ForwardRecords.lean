import Casework.Proofs.CompleteInstances
import Casework.Proofs.Independence

/-!
Records that move forward. No patch gives a record another name, process, deployment, initiator or
start, and none takes away what it says about its execution, its application status, its end, or
that it has a field, a task or a submission (`Instance.Forward`). As long as requests make their own
patches, an end time is set once, and an attachment goes only when it is taken off by a request that
succeeds (`detached_of_lost`).
-/

namespace Casework

open Casework.Action Casework.Lifecycle Casework.Reconcile

/-- The second record is the first one later on: it is of the same process, and nothing that is
    kept for good is missing. -/
structure Instance.Forward (i j : Instance) : Prop where
  id : j.id = i.id
  processKey : j.processKey = i.processKey
  deploymentId : j.deploymentId = i.deploymentId
  initiator : j.initiator = i.initiator
  start : j.start = i.start
  engineId : ∀ x, i.engineId = some x → j.engineId = some x
  applicationStatus : i.applicationStatus ≠ none → j.applicationStatus ≠ none
  explanation : i.explanation ≠ none → j.explanation ≠ none
  previousApplicationStatus :
    i.previousApplicationStatus ≠ none → j.previousApplicationStatus ≠ none
  finish : i.finish ≠ none → j.finish ≠ none
  data : ∀ field, i.data.get? field ≠ none → j.data.get? field ≠ none
  tasks : ∀ task, i.tasks.get? task ≠ none → j.tasks.get? task ≠ none
  submissions : ∀ submission,
    i.submissions.get? submission ≠ none → j.submissions.get? submission ≠ none

namespace Instance.Forward

theorem refl (i : Instance) : i.Forward i where
  id := rfl
  processKey := rfl
  deploymentId := rfl
  initiator := rfl
  start := rfl
  engineId _ named := named
  applicationStatus present := present
  explanation present := present
  previousApplicationStatus present := present
  finish present := present
  data _ present := present
  tasks _ present := present
  submissions _ present := present

theorem trans {i j k : Instance} (first : i.Forward j) (next : j.Forward k) : i.Forward k where
  id := next.id.trans first.id
  processKey := next.processKey.trans first.processKey
  deploymentId := next.deploymentId.trans first.deploymentId
  initiator := next.initiator.trans first.initiator
  start := next.start.trans first.start
  engineId x named := next.engineId x (first.engineId x named)
  applicationStatus := next.applicationStatus ∘ first.applicationStatus
  explanation := next.explanation ∘ first.explanation
  previousApplicationStatus := next.previousApplicationStatus ∘ first.previousApplicationStatus
  finish := next.finish ∘ first.finish
  data field := next.data field ∘ first.data field
  tasks task := next.tasks task ∘ first.tasks task
  submissions submission := next.submissions submission ∘ first.submissions submission

end Instance.Forward

namespace Patch

theorem or_ne_none {α : Type} {old : Option α} (present : old ≠ none) (new : Option α) :
    new.or old ≠ none :=
  fun absent => present (Option.or_eq_none_iff.1 absent).2

theorem data_merge (p : Patch) (i : Instance) {field : String}
    (present : i.data.get? field ≠ none) : (p.merge i).data.get? field ≠ none := by
  show ((p.data.map i.data.merge).getD i.data).get? field ≠ none
  cases p.data with
  | none => exact present
  | some fields =>
    show (i.data.merge fields).get? field ≠ none
    rw [FieldData.get?_merge]
    exact or_ne_none present _

theorem tasks_merge (p : Patch) (i : Instance) {task : TaskId}
    (present : i.tasks.get? task ≠ none) : (p.merge i).tasks.get? task ≠ none := by
  show (i.tasks.upsertMany p.tasks).get? task ≠ none
  rw [TaskSet.get?_upsertMany]
  exact or_ne_none present _

theorem submissions_merge (p : Patch) (i : Instance) {submission : Uuid}
    (present : i.submissions.get? submission ≠ none) :
    (p.merge i).submissions.get? submission ≠ none := by
  show ((p.submission.map i.submissions.add).getD i.submissions).get? submission ≠ none
  cases p.submission with
  | none => exact present
  | some added => exact SortedMap.get?_insert_ne_none present added ()

theorem forward_merge (p : Patch) (i : Instance) : i.Forward (p.merge i) where
  id := rfl
  processKey := rfl
  deploymentId := rfl
  initiator := rfl
  start := rfl
  engineId x named := by
    show i.engineId.or p.engineId = some x
    rw [named, Option.some_or]
  applicationStatus present := or_ne_none present p.applicationStatus
  explanation present := or_ne_none present p.explanation
  previousApplicationStatus present := or_ne_none present p.previousApplicationStatus
  finish present := or_ne_none present p.finish
  data _ := data_merge p i
  tasks _ := tasks_merge p i
  submissions _ := submissions_merge p i

theorem forward_apply {p : Patch} {now : Instant} {i j : Instance} {changed : Bool}
    (applied : p.apply now i = .ok (changed, j)) : i.Forward j := by
  have merged := forward_merge p i
  rw [eq_of_apply applied]
  cases changed with
  | false => exact merged
  | true => exact { merged with }

theorem forward_applyAll (patches : List (Instant × Patch)) (i : Instance) :
    i.Forward (applyAll patches i).2 := by
  induction patches generalizing i with
  | nil => exact .refl i
  | cons first rest ih =>
    obtain ⟨now, p⟩ := first
    cases applied : p.apply now i with
    | error e =>
      simp only [applyAll, applied]
      exact ih i
    | ok result =>
      simp only [applyAll, applied]
      exact (forward_apply applied).trans (ih result.2)

theorem applyAll_append (first later : List (Instant × Patch)) (i : Instance) :
    (applyAll (first ++ later) i).2 = (applyAll later (applyAll first i).2).2 := by
  induction first generalizing i with
  | nil => rfl
  | cons head rest ih =>
    obtain ⟨now, p⟩ := head
    cases applied : p.apply now i with
    | error e =>
      simp only [List.cons_append, applyAll, applied]
      exact ih i
    | ok result =>
      simp only [List.cons_append, applyAll, applied]
      exact ih result.2

/-- What a patch takes off a record, it names. -/
theorem mem_removeAttachments_of_lost {p : Patch} {i : Instance} {a : AttachmentId}
    (held : i.attachments.contains a = true) (lost : (p.merge i).attachments.contains a = false) :
    a ∈ p.removeAttachments := by
  refine Classical.byContradiction fun spared => ?_
  have there : ((i.attachments.addMany p.addAttachments).dropMany p.removeAttachments).get? a =
      none := by
    simpa [SortedMap.contains, merge] using lost
  rw [SortedSet.get?_dropMany, if_neg spared, SortedSet.get?_addMany] at there
  split at there
  · cases there
  · rw [SortedMap.contains, there] at held
    cases held

end Patch

/-! ### Stored records -/

/-- Each record of the first state is stored in the second as well, in this relation to what it
    was. -/
def State.Carries (Rel : Instance → Instance → Prop) (s t : State) : Prop :=
  ∀ id i, s.storage.instances.get? id = some i →
    ∃ j, t.storage.instances.get? id = some j ∧ Rel i j

namespace Request

variable {ctx : Context} {s : State} {r : Request}

/-- Records are carried over by a request if they are by the patches that it sends. -/
theorem carries_perform {Rel : Instance → Instance → Prop} (refl : ∀ i, Rel i i)
    (patched : ∀ {id i patch j}, r.Sends ctx s id i patch →
      patch.apply ctx.now i = .ok (true, j) → Rel i j) :
    s.Carries Rel (outcome (r.perform ctx) s).2 := by
  intro id i found
  obtain ⟨j, held, rfl | ⟨patch, sends, applied⟩⟩ := patched_of_stored ctx r found
  · exact ⟨j, held, refl j⟩
  · exact ⟨j, held, patched sends applied⟩

/-- A preorder by which every request carries records over, a run does. -/
theorem carries_run {Rel : Instance → Instance → Prop} (refl : ∀ i, Rel i i)
    (trans : ∀ {i j k}, Rel i j → Rel j k → Rel i k) {calls : List (Context × Request)}
    (step : ∀ call ∈ calls, ∀ s : State, s.Carries Rel (outcome (call.2.perform call.1) s).2)
    {m n : Nat} (later : m ≤ n) :
    (run (calls.take m) s).2.Carries Rel (run (calls.take n) s).2 := by
  have steps (n : Nat) (ctx : Context) (r : Request) (at_n : calls[n]? = some (ctx, r)) :
      (run (calls.take n) s).2.Carries Rel
        (outcome (r.perform ctx) (run (calls.take n) s).2).2 :=
    step _ (List.mem_of_getElem? at_n) _
  refine (run_related_iff (fun s id i found => ⟨i, found, refl i⟩) ?_).2 steps m n later
  intro s t u first next id i found
  obtain ⟨j, held, related⟩ := first id i found
  obtain ⟨k, held', related'⟩ := next id j held
  exact ⟨k, held', trans related related'⟩

theorem forward_run (calls : List (Context × Request)) {m n : Nat} (later : m ≤ n) :
    (run (calls.take m) s).2.Carries Instance.Forward (run (calls.take n) s).2 :=
  carries_run .refl .trans
    (fun _ _ _ => carries_perform .refl fun _ applied => Patch.forward_apply applied) later

/-- Only cancelling and archiving send an end time, and a record that has one is sent its own. -/
theorem finish_of_sends (allowed : ¬r.Writes) {id : InstanceId} {current : Instance}
    {patch : Patch} (sends : r.Sends ctx s id current patch) {time : Instant}
    (ended : current.finish = some time) : patch.finish = none ∨ patch.finish = some time := by
  cases sends with
  | @operate kind =>
    rw [guarded_eq]
    cases kind with
    | cancel => exact .inr (by simp [operationPatch, statusPatch, ended])
    | _ => exact .inl rfl
  | archive =>
    rw [guarded_eq]
    exact .inr (by simp [archivePatch, ended])
  | detach =>
    rw [guarded_eq]
    exact .inl rfl
  | accept | recordTask | applyTask | start => exact .inl rfl
  | changeInstance | updateInstance => exact absurd trivial allowed

theorem finish_perform (allowed : ¬r.Writes) :
    s.Carries (fun i j => ∀ time, i.finish = some time → j.finish = some time)
      (outcome (r.perform ctx) s).2 := by
  refine carries_perform (fun _ _ ended => ended) fun {id i patch j} sends applied time ended => ?_
  rw [Patch.eq_of_apply applied]
  show patch.finish.or i.finish = some time
  rcases finish_of_sends allowed sends ended with unset | same
  · rw [unset, ended, Option.none_or]
  · rw [same, Option.some_or]

theorem finish_run {calls : List (Context × Request)} (allowed : ∀ call ∈ calls, ¬call.2.Writes)
    {m n : Nat} (later : m ≤ n) :
    (run (calls.take m) s).2.Carries (fun i j => ∀ time, i.finish = some time →
      j.finish = some time) (run (calls.take n) s).2 :=
  carries_run (fun _ _ ended => ended) (fun first next time ended => next time (first time ended))
    (fun call member _ => finish_perform (allowed call member)) later

/-! ### Attachments -/

/-- Only taking an attachment off sends the removal of one. -/
theorem detach_of_sends (allowed : ¬r.Writes) {id : InstanceId} {current : Instance}
    {patch : Patch} (sends : r.Sends ctx s id current patch) {a : AttachmentId}
    (removed : a ∈ patch.removeAttachments) : ∃ seen, r = .detach seen a ∧ seen.id = id := by
  cases sends with
  | @detach seen =>
    rw [guarded_eq] at removed
    obtain rfl := List.mem_singleton.1 removed
    exact ⟨seen, rfl, rfl⟩
  | @operate kind =>
    rw [guarded_eq] at removed
    cases kind <;> exact absurd removed List.not_mem_nil
  | archive =>
    rw [guarded_eq] at removed
    exact absurd removed List.not_mem_nil
  | accept | recordTask | applyTask | start => exact absurd removed List.not_mem_nil
  | changeInstance | updateInstance => exact absurd trivial allowed

theorem detach_answers (ctx : Context) (seen : Instance) (a : AttachmentId) (s : State) :
    (∃ answer, (outcome ((Request.detach seen a).perform ctx) s).1 = .ok answer) ∨
      (outcome ((Request.detach seen a).perform ctx) s).2 = s := by
  rw [perform, outcome_map]
  have ended := detach_detached ctx seen a s
  generalize outcome (Lifecycle.detach ctx seen a) s = after at ended ⊢
  cases ended with
  | refused e => exact .inr rfl
  | done => exact .inl ⟨_, rfl⟩

/-- An attachment that an instance has lost was taken off it by the request. -/
theorem detached_of_lost (allowed : ¬r.Writes) {id : InstanceId} {i j : Instance}
    {a : AttachmentId} (found : s.storage.instances.get? id = some i)
    (held : i.attachments.contains a = true)
    (after : (outcome (r.perform ctx) s).2.storage.instances.get? id = some j)
    (lost : j.attachments.contains a = false) :
    ∃ seen answer, r = .detach seen a ∧ seen.id = id ∧
      (outcome (r.perform ctx) s).1 = .ok answer := by
  obtain ⟨k, after', rfl | ⟨patch, sends, applied⟩⟩ := patched_of_stored ctx r found
  · obtain rfl := Option.some.inj (after.symm.trans after')
    rw [held] at lost
    cases lost
  · obtain rfl := Option.some.inj (after.symm.trans after')
    have merged : (patch.merge i).attachments.contains a = false := by
      rw [Patch.eq_of_apply applied] at lost
      exact lost
    obtain ⟨seen, rfl, own⟩ :=
      detach_of_sends allowed sends (Patch.mem_removeAttachments_of_lost held merged)
    rcases detach_answers ctx seen a s with ⟨answer, answered⟩ | same
    · exact ⟨seen, answer, rfl, own, answered⟩
    · rw [same, found] at after
      obtain rfl := Option.some.inj after
      rw [held] at lost
      cases lost

/-- An attachment that an instance has lost in a run was taken off it in between, by a request that
    succeeded. -/
theorem detached_run {calls : List (Context × Request)}
    (allowed : ∀ call ∈ calls, ¬call.2.Writes) {m n : Nat} (later : m ≤ n) {id : InstanceId}
    {i j : Instance} {a : AttachmentId}
    (before : (run (calls.take m) s).2.storage.instances.get? id = some i)
    (held : i.attachments.contains a = true)
    (after : (run (calls.take n) s).2.storage.instances.get? id = some j)
    (lost : j.attachments.contains a = false) :
    ∃ k ctx seen answer, m ≤ k ∧ k < n ∧ calls[k]? = some (ctx, .detach seen a) ∧ seen.id = id ∧
      (run calls s).1[k]? = some (.ok answer) := by
  induction later generalizing j with
  | refl =>
    obtain rfl := Option.some.inj (before.symm.trans after)
    rw [held] at lost
    cases lost
  | @step n later ih =>
    obtain ⟨between, there, -⟩ := forward_run calls later id i before
    cases kept : between.attachments.contains a with
    | false =>
      obtain ⟨k, ctx, seen, answer, from_m, before_n, detached⟩ := ih there kept
      exact ⟨k, ctx, seen, answer, from_m, Nat.lt_succ_of_lt before_n, detached⟩
    | true =>
      cases at_n : calls[n]? with
      | none =>
        rw [Nat.succ_eq_add_one, take_succ_of_end at_n, there] at after
        obtain rfl := Option.some.inj after
        rw [kept] at lost
        cases lost
      | some call =>
        obtain ⟨ctx, r⟩ := call
        rw [Nat.succ_eq_add_one, state_run_take_succ at_n] at after
        obtain ⟨seen, answer, rfl, own, answered⟩ :=
          detached_of_lost (allowed _ (List.mem_of_getElem? at_n)) there kept after lost
        refine ⟨n, ctx, seen, answer, later, Nat.lt_succ_self n, at_n, own, ?_⟩
        rw [answer_run, at_n]
        exact congrArg some answered

/-- Records only move forward, by patches of any kind and by requests of any kind. As long as no
    request writes a record or a patch as it comes, an end time is kept once it is set, and an
    attachment goes only by a request that takes it off and succeeds. -/
theorem records_move_forward :
    (∀ (first later : List (Instant × Patch)) (i : Instance),
      (Patch.applyAll first i).2.Forward (Patch.applyAll (first ++ later) i).2) ∧
    ∀ (calls : List (Context × Request)) (s : State) (m n : Nat) (id : InstanceId) (i : Instance),
      m ≤ n → (run (calls.take m) s).2.storage.instances.get? id = some i →
      ∃ j, (run (calls.take n) s).2.storage.instances.get? id = some j ∧ i.Forward j ∧
        ((∀ call ∈ calls, ¬call.2.Writes) →
          (∀ time, i.finish = some time → j.finish = some time) ∧
          ∀ a, i.attachments.contains a = true → j.attachments.contains a = false →
            ∃ k ctx seen answer, m ≤ k ∧ k < n ∧ calls[k]? = some (ctx, .detach seen a) ∧
              seen.id = id ∧ (run calls s).1[k]? = some (.ok answer)) := by
  refine ⟨fun first later i => ?_, fun calls s m n id i later before => ?_⟩
  · rw [Patch.applyAll_append]
    exact Patch.forward_applyAll later _
  · obtain ⟨j, after, forward⟩ := forward_run calls later id i before
    refine ⟨j, after, forward, fun allowed => ⟨fun time ended => ?_, fun a held lost => ?_⟩⟩
    · obtain ⟨j', after', finish⟩ := finish_run allowed later id i before
      obtain rfl := Option.some.inj (after.symm.trans after')
      exact finish time ended
    · exact detached_run allowed later before held after lost

def atSecond (n : Int) : Context := { Desk.context "case-1" with now := .ofSecond n }

def invoice : Attachment :=
  { id := "invoice", name := "invoice", content := .text "12.50", user := "alice"
    created := .ofSecond 0 }

/-- An instance is created with an attachment and cancelled. Then it is activated, archived and
    cancelled again, and the attachment is taken off. -/
def cancelledTwice : List (Context × Request) := [
  (atSecond 0, .create Desk.process Desk.deployment ∅ [invoice] none Desk.alice),
  (atSecond 1, .operate .cancel {} Desk.opened Desk.alice),
  (atSecond 2, .operate .activation {} Desk.opened Desk.alice),
  (atSecond 3, .archive Desk.opened ∅),
  (atSecond 4, .operate .cancel {} Desk.opened Desk.alice),
  (atSecond 5, .detach Desk.opened "invoice")]

theorem records_move_forward_cancelledTwice :
    (∀ call ∈ cancelledTwice, ¬call.2.Writes) ∧
      ∃ i j, (run (cancelledTwice.take 2) Desk.empty).2.storage.instances.get? "case-1" = some i ∧
        (run (cancelledTwice.take 6) Desk.empty).2.storage.instances.get? "case-1" = some j ∧
        i.Forward j ∧ i.finish = some (.ofSecond 1) ∧ j.finish = some (.ofSecond 1) ∧
        i.attachments.contains "invoice" = true ∧ j.attachments.contains "invoice" = false ∧
        ∃ k ctx seen answer, 2 ≤ k ∧ k < 6 ∧
          cancelledTwice[k]? = some (ctx, .detach seen "invoice") ∧ seen.id = "case-1" ∧
          (run cancelledTwice Desk.empty).1[k]? = some (.ok answer) := by
  have allowed : ∀ call ∈ cancelledTwice, ¬call.2.Writes := by simp [cancelledTwice, Writes]
  have first : ((run (cancelledTwice.take 2) Desk.empty).2.storage.instances.get? "case-1").map
      (fun i => (i.finish, i.attachments.contains "invoice")) =
        some (some (.ofSecond 1), true) := by decide +kernel
  have last : ((run (cancelledTwice.take 6) Desk.empty).2.storage.instances.get? "case-1").map
      (fun i => i.attachments.contains "invoice") = some false := by decide +kernel
  obtain ⟨i, before, parts⟩ := Option.map_eq_some_iff.1 first
  obtain ⟨ended, held⟩ := Prod.mk.inj parts
  obtain ⟨j, after, forward, kept⟩ :=
    records_move_forward.2 cancelledTwice Desk.empty 2 6 "case-1" i (by decide) before
  have lost : j.attachments.contains "invoice" = false := by
    rw [after] at last
    exact Option.some.inj last
  obtain ⟨finish, detached⟩ := kept allowed
  exact ⟨allowed, i, j, before, after, forward, ended, finish _ ended, held, lost,
    detached "invoice" held lost⟩

end Request
end Casework
