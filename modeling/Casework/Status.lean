import Casework.Named

/-!
The structural status of a process instance. An instance starts out running and
may be suspended and made to run again. Cancelling and archiving end it.
-/

namespace Casework

/-- Where a process instance stands. -/
inductive Status where
  | running
  | complete
  | cancelled
  | suspended
  deriving DecidableEq, Inhabited

namespace Status

instance : Named Status where
  all := [running, complete, cancelled, suspended]
  name
    | running => "OPEN"
    | complete => "COMPLETE"
    | cancelled => "CANCELLED"
    | suspended => "SUSPENDED"

/-- An instance with this status has ended. -/
def isFinal : Status → Bool
  | complete | cancelled => true
  | running | suspended => false

end Status
end Casework
