import Casework.Proofs.StoredChanges

/-!
Records that the caller has seen. Of the record that a request is made with only the name counts,
and the version where versions are checked (`SeenAlike`): requests that are made with two such
records are one action (`perform_congr`), and runs of such requests have the same answers and leave
the same state (`run_congr`).
-/

namespace Casework

open Casework.Action Casework.Lifecycle Casework.Reconcile

namespace Lifecycle

variable {ctx : Context} {a b : Instance}

/-- The records have the same name and, where versions are checked, the same version. -/
structure SeenAlike (ctx : Context) (a b : Instance) : Prop where
  id : a.id = b.id
  version : ctx.concurrency = .versionChecked → a.version = b.version

theorem guarded_congr (alike : SeenAlike ctx a b) : guarded ctx a = guarded ctx b := by
  funext patch
  unfold guarded
  cases mode : ctx.concurrency with
  | lastWriteWins => rfl
  | versionChecked => rw [alike.version mode]

theorem operate_congr (alike : SeenAlike ctx a b) (kind : OperationKind) (result : Outcome)
    (principal : Entity) :
    operate ctx kind result a principal = operate ctx kind result b principal := by
  unfold operate
  rw [alike.id, guarded_congr alike]

theorem archive_congr (alike : SeenAlike ctx a b) (data : FieldData) :
    archive ctx a data = archive ctx b data := by
  unfold archive
  rw [alike.id, guarded_congr alike]

theorem detach_congr (alike : SeenAlike ctx a b) (attachment : AttachmentId) :
    detach ctx a attachment = detach ctx b attachment := by
  unfold detach
  rw [alike.id, guarded_congr alike]

theorem recordTask_congr (ctx : Context) (same : a.id = b.id) (task : Option Task) :
    recordTask ctx a task = recordTask ctx b task := by
  unfold recordTask
  rw [same]

/-- A start works on the stored record and does not check versions. -/
theorem start_congr (ctx : Context) (same : a.id = b.id) (d : Deployment) :
    start ctx d a = start ctx d b := by
  unfold start
  rw [same]

end Lifecycle

namespace Request

/-- The same request, made with records that are seen alike. -/
inductive Alike (ctx : Context) : Request → Request → Prop
  | same (r : Request) : Alike ctx r r
  | operate {a b : Instance} (alike : SeenAlike ctx a b) (kind : OperationKind) (result : Outcome)
      (principal : Entity) :
      Alike ctx (.operate kind result a principal) (.operate kind result b principal)
  | archive {a b : Instance} (alike : SeenAlike ctx a b) (data : FieldData) :
      Alike ctx (.archive a data) (.archive b data)
  | detach {a b : Instance} (alike : SeenAlike ctx a b) (attachment : AttachmentId) :
      Alike ctx (.detach a attachment) (.detach b attachment)
  | recordTask {a b : Instance} (same : a.id = b.id) (task : Option Task) :
      Alike ctx (.recordTask a task) (.recordTask b task)
  | start {a b : Instance} (same : a.id = b.id) (d : Deployment) :
      Alike ctx (.start d a) (.start d b)

theorem perform_congr {ctx : Context} {r r' : Request} (alike : Alike ctx r r') :
    r.perform ctx = r'.perform ctx := by
  cases alike with
  | same => rfl
  | operate alike => rw [perform, perform, operate_congr alike]
  | archive alike => rw [perform, perform, archive_congr alike]
  | detach alike => rw [perform, perform, detach_congr alike]
  | recordTask same => rw [perform, perform, recordTask_congr ctx same]
  | start same => rw [perform, perform, start_congr ctx same]

/-! ### Runs -/

/-- Two runs, each request of one with its context and its counterpart in the other. -/
abbrev Twins : Type := List (Context × Request × Request)

namespace Twins

def first (twins : Twins) : List (Context × Request) := twins.map fun t => (t.1, t.2.1)

def second (twins : Twins) : List (Context × Request) := twins.map fun t => (t.1, t.2.2)

end Twins

/-- Runs of requests that are alike have the same answers and leave the same state. -/
theorem run_congr {twins : Twins} (alike : ∀ t ∈ twins, Alike t.1 t.2.1 t.2.2) (s : State) :
    run twins.first s = run twins.second s := by
  induction twins generalizing s with
  | nil => rfl
  | cons t rest ih =>
    have same := perform_congr (alike t List.mem_cons_self)
    have later := ih fun other member => alike other (List.mem_cons_of_mem t member)
    show run ((t.1, t.2.1) :: Twins.first rest) s = run ((t.1, t.2.2) :: Twins.second rest) s
    simp only [run, same, later]

/-- Operations, archiving, taking attachments off, recording tasks and starts do the same with any
    record of the name and, where versions are checked, of the version; and so do whole runs of
    them among other requests. -/
theorem seen_contents_unused :
    (∀ (ctx : Context) (a b : Instance), SeenAlike ctx a b → ∀ s,
      (∀ kind result principal, outcome (Lifecycle.operate ctx kind result a principal) s =
        outcome (Lifecycle.operate ctx kind result b principal) s) ∧
      (∀ data, outcome (Lifecycle.archive ctx a data) s =
        outcome (Lifecycle.archive ctx b data) s) ∧
      (∀ attachment, outcome (Lifecycle.detach ctx a attachment) s =
        outcome (Lifecycle.detach ctx b attachment) s) ∧
      (∀ task, outcome (Lifecycle.recordTask ctx a task) s =
        outcome (Lifecycle.recordTask ctx b task) s) ∧
      ∀ d, outcome (Reconcile.start ctx d a) s = outcome (Reconcile.start ctx d b) s) ∧
    ∀ twins : Twins, (∀ t ∈ twins, Alike t.1 t.2.1 t.2.2) → ∀ s,
      run twins.first s = run twins.second s := by
  refine ⟨fun ctx a b alike s => ⟨?_, ?_, ?_, ?_, ?_⟩, fun twins => run_congr⟩
  · intro kind result principal
    rw [operate_congr alike]
  · intro data
    rw [archive_congr alike]
  · intro attachment
    rw [detach_congr alike]
  · intro task
    rw [recordTask_congr ctx alike.id]
  · intro d
    rw [start_congr ctx alike.id]

/-- Where versions are checked. -/
def versionsChecked : Context := { Desk.context "-" with concurrency := .versionChecked }

/-- A record with the name and the version of the new instance, and nothing else of it. -/
def madeUp : Instance :=
  { Desk.opened with
    processKey := "travel", deploymentId := "none", status := .cancelled
    finish := some (.ofSecond 1), engineId := some "other" }

/-- The instance is suspended, started and archived, with its record and with the other one. -/
def mistaken : Twins := [
  (Desk.context "case-1", Desk.creation.2, Desk.creation.2),
  (versionsChecked, .operate .suspension {} Desk.opened Desk.alice,
    .operate .suspension {} madeUp Desk.alice),
  (Desk.context "-", .start Desk.deployment Desk.opened, .start Desk.deployment madeUp),
  (Desk.context "-", .archive Desk.opened ∅, .archive madeUp ∅)]

theorem seen_contents_unused_mistaken :
    madeUp ≠ Desk.opened ∧ SeenAlike versionsChecked Desk.opened madeUp ∧
      (∀ t ∈ mistaken, Alike t.1 t.2.1 t.2.2) ∧
      (run mistaken.second Desk.empty).1.map Except.isOk = [true, true, true, true] ∧
      ((run mistaken.second Desk.empty).2.storage.instances.get? "case-1").map
        (fun i => (i.processKey, i.status, i.engineId, i.finish)) =
          some ("expense", .complete, some "x", some (.ofSecond 0)) ∧
      outcome (Lifecycle.archive versionsChecked Desk.opened ∅) (run [Desk.creation] Desk.empty).2 =
        outcome (Lifecycle.archive versionsChecked madeUp ∅) (run [Desk.creation] Desk.empty).2 ∧
      run mistaken.first Desk.empty = run mistaken.second Desk.empty := by
  have seen (ctx : Context) : SeenAlike ctx Desk.opened madeUp := ⟨rfl, fun _ => rfl⟩
  have alike : ∀ t ∈ mistaken, Alike t.1 t.2.1 t.2.2 := by
    intro t member
    simp only [mistaken, List.mem_cons, List.not_mem_nil, or_false] at member
    rcases member with rfl | rfl | rfl | rfl
    · exact .same _
    · exact .operate (seen _) _ _ _
    · exact .start (seen (Desk.context "-")).id _
    · exact .archive (seen _) _
  obtain ⟨one, runs⟩ := seen_contents_unused
  refine ⟨by decide +kernel, seen versionsChecked, alike, by decide +kernel, by decide +kernel, ?_,
    runs mistaken alike Desk.empty⟩
  exact (one versionsChecked Desk.opened madeUp (seen versionsChecked) _).2.1 ∅

end Request
end Casework
