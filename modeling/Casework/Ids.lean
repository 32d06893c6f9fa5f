/-!
Process instances, tasks, attachments and executions are known by texts. Texts
are ordered by code point.
-/

namespace Casework

/-- The name of a process instance. -/
abbrev InstanceId := String

/-- The name of a task, given by the execution engine. -/
abbrev TaskId := String

/-- The name of an attachment. -/
abbrev AttachmentId := String

/-- The name of an execution, given by the execution engine. -/
abbrev ExecutionId := String

end Casework
