import Casework.Task
import Casework.Named
import Casework.Uuid

/-!
Operations on process instances and the log that every instance keeps of them.
The log only grows at its end, and an operation enters it at most once.
-/

namespace Casework

/-- The kinds of operation. -/
inductive OperationKind where
  | assign
  | claim
  | complete
  | reject
  | cancel
  | update
  | activation
  | suspension
  deriving DecidableEq, Inhabited

namespace OperationKind

instance : Named OperationKind where
  all := [assign, claim, complete, reject, cancel, update, activation, suspension]
  name
    | assign => "ASSIGN"
    | claim => "CLAIM"
    | complete => "COMPLETE"
    | reject => "REJECT"
    | cancel => "CANCEL"
    | update => "UPDATE"
    | activation => "ACTIVATION"
    | suspension => "SUSPENSION"

/-- The operation is about the whole instance and not about one of its tasks. -/
def isInstanceLevel : OperationKind → Bool
  | cancel | activation | suspension => true
  | assign | claim | complete | reject | update => false

end OperationKind

/-- One entry of an operation log. -/
structure Operation where
  id : Uuid
  kind : OperationKind
  explanation : Option String := none
  time : Instant
  /-- The acting user. -/
  user : String
  deriving DecidableEq, Inhabited

/-- Operations, from the first to the latest. -/
abbrev OperationLog := List Operation

namespace OperationLog

/-- Some entry has this identifier. -/
def contains (log : OperationLog) (id : Uuid) : Bool := log.any fun entry => entry.id == id

/-- The log with one more entry, unless it has that entry's identifier already. -/
def append (log : OperationLog) (entry : Operation) : OperationLog :=
  if contains log entry.id then log else log ++ [entry]

theorem contains_iff {log : OperationLog} {id : Uuid} :
    contains log id = true ↔ ∃ entry ∈ log, entry.id = id := by
  simp [contains]

theorem contains_append_self (log : OperationLog) (entry : Operation) :
    contains (append log entry) entry.id = true := by
  unfold append
  split
  · assumption
  · simp [contains]

theorem append_append_self (log : OperationLog) (entry : Operation) :
    append (append log entry) entry = append log entry :=
  if_pos (contains_append_self log entry)

end OperationLog

/-- What the rules of a process decided about an operation. -/
structure Outcome where
  /-- The application status to move to. -/
  applicationStatus : Option String := none
  explanation : Option String := none
  /-- The task of the operation as the engine reports it. -/
  task : Option Task := none
  deriving DecidableEq, Inhabited

end Casework
