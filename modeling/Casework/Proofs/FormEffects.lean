import Casework.Proofs.References
import Casework.Proofs.Slots

/-!
What a form does, part by part, and what it leaves alone. The instance gets the attachments, the
submission and, unless the form only attaches, the fields that come with the form (`FormEffect`).
All that comes with it is filed first (`FormFiled`), so a form that fails changes no instance but
may leave something filed, and nothing if a look-up failed (`accept_effect`).
-/

namespace Casework

open Casework.Action Casework.Lifecycle

namespace Storage

theorem get?_foldl_of_absent {attachments : List Attachment} {id : AttachmentId}
    (absent : ∀ a ∈ attachments, a.id ≠ id) (s : Storage) :
    (attachments.foldl saveAttachment s).attachments.get? id = s.attachments.get? id := by
  induction attachments generalizing s with
  | nil => rfl
  | cons first rest ih =>
    rw [List.foldl_cons, ih fun a member => absent a (List.mem_cons_of_mem first member)]
    have other : id ≠ first.id := (absent first List.mem_cons_self).symm
    exact (SortedMap.get?_insert _ _ _ _).trans (if_neg other)

theorem attachments_file (s : Storage) (attachments : List Attachment)
    (submission : Option Submission) :
    (s.file attachments submission).attachments =
      (attachments.foldl saveAttachment s).attachments := by
  cases submission with
  | none => rfl
  | some submission =>
    show (saveSubmission _ submission).attachments = _
    unfold saveSubmission
    split <;> rfl

theorem submissions_file (s : Storage) (attachments : List Attachment) (submission : Submission) :
    (s.file attachments (some submission)).submissions =
      if s.submissions.contains submission.id then s.submissions
      else s.submissions.insert submission.id submission := by
  show (saveSubmission _ submission).submissions = _
  rw [foldl_saveAttachment, saveSubmission]
  split <;> rfl

end Storage

/-- All that comes with the form is filed, and nothing else. -/
structure FormFiled (v : Validation) (before after : Storage) : Prop where
  /-- Of the attachments of one name the last is stored. -/
  attachment : ∀ first a rest, v.attachments = first ++ a :: rest →
    (∀ other ∈ rest, other.id ≠ a.id) → after.attachments.get? a.id = some a
  attachments : ∀ id, (∀ a ∈ v.attachments, a.id ≠ id) →
    after.attachments.get? id = before.attachments.get? id
  /-- A submission that is stored stays. -/
  submission : after.submissions.get? v.submission.id =
    (before.submissions.get? v.submission.id).or (some v.submission)
  submissions : ∀ id, id ≠ v.submission.id →
    after.submissions.get? id = before.submissions.get? id
  processes : after.processes = before.processes
  deployments : after.deployments = before.deployments

theorem formFiled_file (v : Validation) (s : Storage) :
    FormFiled v s (s.file v.attachments (some v.submission)) where
  attachment first a rest split last := by
    rw [Storage.attachments_file, split, List.foldl_append, List.foldl_cons,
      Storage.get?_foldl_of_absent last]
    exact SortedMap.get?_insert_self _ _ _
  attachments id absent := by
    rw [Storage.attachments_file, Storage.get?_foldl_of_absent absent]
  submission := by
    rw [Storage.submissions_file]
    unfold SortedMap.contains
    cases stored : s.submissions.get? v.submission.id with
    | none => simp
    | some submission => simp [stored]
  submissions id other := by
    rw [Storage.submissions_file]
    split
    · rfl
    · rw [SortedMap.get?_insert, if_neg other]
  processes := by rw [Storage.file_eq]
  deployments := by rw [Storage.file_eq]

/-! ### The record -/

/-- What a form makes of a record, field values taken as equal when they agree. -/
structure FormEffect (v : Validation) (action : SubmissionAction) (old new : Instance) : Prop where
  attachments : ∀ id, id ∈ new.attachments.toList ↔
    id ∈ old.attachments.toList ∨ id ∈ v.attachments.map Attachment.id
  submissions : ∀ id, id ∈ new.submissions.toList ↔
    id ∈ old.submissions.toList ∨ id = v.submission.id
  data : ∀ name, FieldData.heldAgree (new.data.get? name)
    (if action = .attach then old.data.get? name
      else (v.data.get? name).or (old.data.get? name)) = true
  /-- The parts that are not named are as they were. -/
  rest : new =
    { old with
      attachments := new.attachments
      submissions := new.submissions
      data := new.data
      version := new.version
      modified := new.modified }

namespace FormEffect

variable {v : Validation} {action : SubmissionAction} {old new kept : Instance}

theorem stamp (effect : FormEffect v action old new) (now : Instant) :
    FormEffect v action old (Patch.stamp now new) where
  attachments := effect.attachments
  submissions := effect.submissions
  data := effect.data
  rest := by
    have rest := effect.rest
    generalize new = i at rest ⊢
    rw [rest]
    rfl

theorem of_agrees (effect : FormEffect v action old new) (agrees : new.agrees kept = true) :
    FormEffect v action old kept := by
  obtain ⟨same, held⟩ := (new.agrees_iff kept).1 agrees
  have whole : kept = { new with data := kept.data } :=
    calc kept = { { kept with data := ∅ } with data := kept.data } := rfl
      _ = { { new with data := ∅ } with data := kept.data } := by rw [same]
  have attachments : kept.attachments = new.attachments := by rw [whole]
  have submissions : kept.submissions = new.submissions := by rw [whole]
  constructor
  · rw [attachments]
    exact effect.attachments
  · rw [submissions]
    exact effect.submissions
  · intro name
    have made := (FieldData.heldAgree_iff _ _).1 (effect.data name)
    have same := (FieldData.heldAgree_iff _ _).1 (held name)
    exact (FieldData.heldAgree_iff _ _).2 (same.symm.trans made)
  · have rest := effect.rest
    generalize kept.data = data at whole
    subst whole
    rw [rest]

/-- The record with the patch of a form merged in. -/
theorem of_merge (ctx : Context) (v : Validation) (action : SubmissionAction) (old : Instance) :
    FormEffect v action old ((formPatch ctx v action).merge old) where
  attachments id := by
    have slot : ((formPatch ctx v action).merge old).attachments.get? id =
        if id ∈ v.attachments.map Attachment.id then some () else old.attachments.get? id :=
      (formPatch ctx v action).contentAt_merge old (.attachment id)
    rw [SortedSet.mem_toList_iff, SortedSet.mem_toList_iff, slot]
    by_cases brought : id ∈ v.attachments.map Attachment.id <;> simp [brought]
  submissions id := by
    have slot : ((formPatch ctx v action).merge old).submissions.get? id =
        if some v.submission.id = some id then some () else old.submissions.get? id :=
      (formPatch ctx v action).contentAt_merge old (.submission id)
    rw [SortedSet.mem_toList_iff, SortedSet.mem_toList_iff, slot]
    by_cases brought : id = v.submission.id
    · simp [brought]
    · simp [brought, Ne.symm brought]
  data name := by
    have slot : ((formPatch ctx v action).merge old).data.get? name =
        ((if action = .attach then none else some v.data).bind fun data => data.get? name).or
          (old.data.get? name) :=
      (formPatch ctx v action).contentAt_merge old (.field name)
    rw [slot]
    split <;> exact FieldData.heldAgree_refl _
  rest := by
    have bound : old.engineId.or none = old.engineId := Option.or_none
    simp only [Patch.merge, formPatch, bound]
    rfl

/-- A patched record, and what is stored in its place: the old record if the two agree. -/
theorem of_apply {ctx : Context} {id : InstanceId} {s : State} {changed : Bool}
    (found : s.storage.instances.get? id = some old)
    (applied : (formPatch ctx v action).apply ctx.now old = .ok (changed, new)) :
    FormEffect v action old new ∧
      ∃ kept, (s.keep id changed new).storage.instances.get? id = some kept ∧
        FormEffect v action old kept ∧ new.agrees kept = true ∧
        (kept = old ∨ kept = new ∧ new.version = old.version + 1 ∧ new.modified = ctx.now) := by
  have merged := of_merge ctx v action old
  have ends := Patch.eq_of_apply applied
  cases changed with
  | true =>
    have effect : FormEffect v action old new := ends ▸ merged.stamp ctx.now
    refine ⟨effect, new, SortedMap.get?_insert_self _ _ _, effect, new.agrees_refl, .inr ⟨rfl, ?_⟩⟩
    rw [ends]
    exact ⟨rfl, rfl⟩
  | false =>
    have effect : FormEffect v action old new := ends ▸ merged
    have agrees := Patch.agrees_of_apply applied
    exact ⟨effect, old, found, effect.of_agrees agrees, agrees, .inl rfl⟩

end FormEffect

/-! ### Forms that are turned away -/

/-- The look-ups that come before anything is filed find the instance, its process and its
    deployment. -/
structure Validation.Admitted (v : Validation) (ctx : Context) (s : Storage) : Prop where
  found : ∃ id, v.instanceId = some id ∧ s.instances.get? id ≠ none
  process : s.processes.get? v.process.key ≠ none
  deployment : s.deployments.get? v.deployment.id ≠ none
  answered : ctx.outage .findProcess = none ∧ ctx.outage .findDeployment = none ∧
    ctx.outage .findInstance = none

namespace Lifecycle

variable {ctx : Context} {v : Validation} {action : SubmissionAction} {s : State}

/-- A form that is not admitted fails and changes nothing. -/
theorem accept_of_not_admitted (turned : ¬v.Admitted ctx s.storage) :
    ∃ e, outcome (accept ctx v action) s = (.error e, s) := by
  unfold accept
  cases named : v.instanceId with
  | none => exact ⟨_, rfl⟩
  | some id =>
    simp only [outcome_bind (require _ _), outcome_require]
    rw [outcome_bind, outcome_discard, outcome_getProcess]
    cases process_out : ctx.outage .findProcess with
    | some e => exact ⟨e, rfl⟩
    | none =>
      cases process : s.storage.processes.get? v.process.key with
      | none => exact ⟨_, rfl⟩
      | some _ =>
        simp only
        rw [outcome_bind, outcome_getDeployment]
        cases deployment_out : ctx.outage .findDeployment with
        | some e => exact ⟨e, rfl⟩
        | none =>
          cases deployment : s.storage.deployments.get? v.deployment.id with
          | none => exact ⟨_, rfl⟩
          | some d =>
            simp only
            rw [outcome_bind, outcome_discard, outcome_getInstance]
            cases instance_out : ctx.outage .findInstance with
            | some e => exact ⟨e, rfl⟩
            | none =>
              cases found : s.storage.instances.get? id with
              | none => exact ⟨_, rfl⟩
              | some current =>
                exact absurd ⟨⟨id, named, by simp [found]⟩, by simp [process], by simp [deployment],
                  process_out, deployment_out, instance_out⟩ turned

/-- A form that succeeds has its effect on the instance that it names and on no other, and all
    that comes with it is filed. A form that fails changes no instance: some of what comes with
    it may have been filed, but nothing if it is not admitted. -/
theorem accept_effect (ctx : Context) (v : Validation) (action : SubmissionAction) (s : State) :
    match outcome (accept ctx v action) s with
    | (.ok new, after) =>
      ∃ id old kept, v.instanceId = some id ∧ s.storage.instances.get? id = some old ∧
        after.storage.instances.get? id = some kept ∧
        FormEffect v action old new ∧ FormEffect v action old kept ∧ new.agrees kept = true ∧
        (kept = old ∨ kept = new ∧ new.version = old.version + 1 ∧ new.modified = ctx.now) ∧
        (∀ other, other ≠ id →
          after.storage.instances.get? other = s.storage.instances.get? other) ∧
        FormFiled v s.storage after.storage ∧
        after = { s with storage := after.storage, outbox := after.outbox }
    | (.error _, after) =>
      after.storage.instances = s.storage.instances ∧
        (∃ files form, files <+: v.attachments ∧ (form = none ∨ form = some v.submission) ∧
          after = s.file files form) ∧
        (¬v.Admitted ctx s.storage → after = s) := by
  have accepted := accept_accepted ctx v action s
  have turned := @accept_of_not_admitted ctx v action s
  generalize outcome (accept ctx v action) s = result at accepted turned ⊢
  have unchanged {e : Error} {after : State} (same : result = (.error e, after))
      (barred : ¬v.Admitted ctx s.storage) : after = s := by
    obtain ⟨_, ended⟩ := turned barred
    exact (Prod.mk.inj (same.symm.trans ended)).2
  cases accepted with
  | refused e =>
    exact ⟨rfl, ⟨[], none, List.nil_prefix, .inl rfl, rfl⟩, fun _ => rfl⟩
  | @orphaned files form e first same =>
    exact ⟨State.instances_file s files form, ⟨files, form, first, same, rfl⟩, unchanged rfl⟩
  | @done id d old new changed named process deployment found applied =>
    have stored : (s.file v.attachments (some v.submission)).storage.instances.get? id =
        some old := by rw [State.instances_file, found]
    obtain ⟨effect, kept, held, effect', agrees, stamped⟩ := FormEffect.of_apply stored applied
    refine ⟨id, old, kept, named, found, held, effect, effect', agrees, stamped, ?_, ?_, rfl⟩
    · intro other apart
      exact (Request.get?_keep_of_ne apart changed new).trans (by rw [State.instances_file])
    · have filed := formFiled_file v s.storage
      exact ⟨filed.attachment, filed.attachments, filed.submission, filed.submissions,
        filed.processes, filed.deployments⟩

def corrected : Attachment := { Request.receipt with content := .text "13.50" }

/-- A form brings the receipt twice and changes the amount. -/
def correction : Validation where
  process := Desk.process
  deployment := Desk.deployment
  instanceId := some "case-1"
  submission := Request.claimForm
  data := SortedMap.ofList [("amount", [.text "13.50"])]
  attachments := [Request.receipt, corrected]

/-- The instance has an amount and a place. -/
def claimedInOslo : State :=
  Desk.empty.enter { Desk.opened with
    data := SortedMap.ofList [("amount", [.text "12.50"]), ("place", [.text "Oslo"])] }

/-- The receipt that comes last is stored, the amount is overwritten, and the place stays. -/
theorem accept_effect_corrected :
    ∃ new after, outcome (accept (Desk.context "-") correction .save) claimedInOslo =
        (.ok new, after) ∧
      after.storage.attachments.get? "receipt" = some corrected ∧
      "receipt" ∈ new.attachments.toList ∧
      FieldData.heldAgree (new.data.get? "amount") (some [.text "13.50"]) = true ∧
      FieldData.heldAgree (new.data.get? "place") (some [.text "Oslo"]) = true := by
  have ok : (outcome (accept (Desk.context "-") correction .save) claimedInOslo).1.isOk = true := by
    decide +kernel
  have ends := accept_effect (Desk.context "-") correction .save claimedInOslo
  generalize outcome (accept (Desk.context "-") correction .save) claimedInOslo = result
    at ok ends ⊢
  obtain ⟨_ | new, after⟩ := result
  · cases ok
  · obtain ⟨id, old, kept, named, found, -, effect, -, -, -, -, filed, -⟩ := ends
    obtain rfl : "case-1" = id := Option.some.inj named
    obtain rfl := Option.some.inj ((SortedMap.get?_insert_self _ _ _).symm.trans found)
    refine ⟨new, after, rfl, filed.attachment [Request.receipt] corrected [] rfl nofun,
      (effect.attachments "receipt").2 (.inr (by decide)), ?_, ?_⟩
    · exact effect.data "amount"
    · exact effect.data "place"

end Lifecycle
end Casework
