import Casework.Error
import Casework.Submission

/-!
The execution engine, as far as process instances have to do with it: it starts,
finds and cancels executions. The business key of an execution is the name of the
instance that it was started for.
-/

namespace Casework

/-- What the engine knows about an execution. -/
structure Execution where
  id : ExecutionId
  /-- The instance that the execution was started for. -/
  businessKey : String
  /-- The definition that is run. -/
  definition : String
  /-- The values that the execution was started with. -/
  bindings : SortedMap String Json
  deriving DecidableEq, Inhabited

/-- What to look for among executions. -/
structure Criteria where
  executionId : Option ExecutionId := none
  businessKey : Option String := none
  definition : Option String := none
  deriving DecidableEq, Inhabited

namespace Criteria

/-- The executions of this name. -/
def byExecution (id : ExecutionId) : Criteria := { executionId := some id }

/-- The executions that were started for this instance. -/
def byBusinessKey (key : String) : Criteria := { businessKey := some key }

/-- Nothing to look for is named. -/
def isEmpty (c : Criteria) : Bool :=
  c.executionId.isNone && c.businessKey.isNone && c.definition.isNone

/-- The execution has what is looked for. -/
def accepts (c : Criteria) (e : Execution) : Bool :=
  c.executionId.all (e.id == ·) && c.businessKey.all (e.businessKey == ·) &&
    c.definition.all (e.definition == ·)

end Criteria

/-- The executions that are running. -/
abbrev Engine := SortedMap ExecutionId Execution

namespace Engine

/-- The variable that holds a field: its value, or the list of its values if there is not
    exactly one. -/
def variableOf : List Json → Json
  | [value] => value
  | values => .list values

/-- The engine with one more execution, of this name. -/
def start (engine : Engine) (id : ExecutionId) (d : Deployment) (businessKey : String)
    (data : FieldData) : Engine :=
  engine.insert id ⟨id, businessKey, d.engineKey, data.map variableOf⟩

/-- The first running execution that has what is looked for. -/
def find (engine : Engine) (c : Criteria) : Except Error (Option Execution) :=
  if c.isEmpty then .error (.invalidInput .noCriteria)
  else
    match c.executionId with
    | some id => .ok ((engine.get? id).filter c.accepts)
    | none => .ok (engine.values.find? c.accepts)

end Engine
end Casework
