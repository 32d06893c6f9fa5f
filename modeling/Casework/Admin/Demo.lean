import Casework.Bus
import Casework.Request
import Casework.Settings

/-!
A demonstration: one instance is led through its life, from its creation to its
archiving, on a storage and an engine of its own.
-/

namespace Casework.Demo

/-- The process that is demonstrated. -/
def process : ProcessDefinition where
  key := "expense"
  label := "Expense Report"
  template := some "Expense \x7b\x7bamount\x7d\x7d"
  deploymentId := some "expense-1"

/-- The deployment of the process. -/
def deployment : Deployment where
  id := "expense-1"
  processKey := "expense"
  engineKey := "expense_review"
  initiationStatus := some "pending-review"
  completionStatus := some "paid"
  notifications := [{
    name := "review-done"
    trigger := .taskCompleted
    recipients := ["finance@example.com"]
    subject := "\x7b\x7bprocess_instance_label\x7d\x7d reviewed" }]

/-- The user who starts the instance. -/
def initiator : Entity := { id := "alice", displayName := some "Alice" }

/-- The task that the engine reports. -/
def review (reviewer : String) (now : Instant) : Task where
  id := "review-1"
  definition := "review"
  label := some "Review expense"
  candidates := SortedSet.ofList [reviewer]
  start := now

/-- The state in which the demonstration begins. -/
def setUp : State :=
  { storage := (({} : Storage).saveProcess process).saveDeployment deployment }

/-- What is given to a request under these settings. -/
def configure (settings : Settings) (ctx : Context) : Context :=
  { ctx with
    concurrency := settings.concurrency
    pageSize := settings.pageSize
    cancelsExecution := true }

/-- Leads the instance through its life, each step with what it is given, and tells how the
    instance and its execution agree in the end. -/
def lead (given : Nat → Context) (amount reviewer : String) : Action (Instance × SyncState) := do
  let data : FieldData := SortedMap.ofList [("amount", [.text amount])]
  let created ← Lifecycle.create (given 0) process deployment data [] none initiator
  let started ← Reconcile.start (given 1) deployment created
  let task := review reviewer (given 2).now
  discard <| Lifecycle.recordTask (given 2) started (some task)
  let current ← Action.getInstance (given 2) started.id
  let principal := Entity.user reviewer
  let assigned := task.assignedTo (some reviewer)
  let claimed ← Lifecycle.operate (given 3) .claim
    { applicationStatus := some "in-review", task := some assigned } current principal
  let reviewed ← Lifecycle.operate (given 4) .complete
    { applicationStatus := some "approved"
      explanation := some "receipts match"
      task := some assigned }
    claimed principal
  let archived ← Lifecycle.archive (given 5) reviewed data
  let state ← Reconcile.verify (given 6) archived.id
  return (archived, state)

/-- The instance as the demonstration leaves it. -/
def run (settings : Settings) (given : Nat → Context) (amount reviewer : String) :
    Except Error (Instance × SyncState) :=
  ((lead (fun n => configure settings (given n)) amount reviewer).outcome setUp).1

end Casework.Demo
