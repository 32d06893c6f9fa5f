import Casework.Patch
import Casework.Query

/-!
The storage: process instances with their attachments, submissions, processes and
deployments, each under its own name.

An instance is saved under a new name only and changed by patches only. A
submission never changes once it is stored. The others are replaced when they are
saved again.
-/

namespace Casework

/-- All that is stored. -/
structure Storage where
  instances : SortedMap InstanceId Instance := ∅
  attachments : SortedMap AttachmentId Attachment := ∅
  submissions : SortedMap Uuid Submission := ∅
  processes : SortedMap String ProcessDefinition := ∅
  deployments : SortedMap String Deployment := ∅
  deriving DecidableEq, Inhabited

namespace Storage

/-! ### Instances -/

/-- The storage with a new instance. -/
def save (s : Storage) (i : Instance) : Except Error Storage :=
  if s.instances.contains i.id then .error (.conflict i.id .taken)
  else .ok { s with instances := s.instances.insert i.id i }

/-- The storage with a patch applied to the instance of this name, and the instance with the
    patch merged in; no instance if there is none of the name. -/
def update (s : Storage) (now : Instant) (id : InstanceId) (patch : Patch) :
    Except Error (Storage × Option Instance) :=
  match s.instances.get? id with
  | none => .ok (s, none)
  | some stored =>
    match patch.apply now stored with
    | .error e => .error e
    | .ok (false, merged) => .ok (s, some merged)
    | .ok (true, merged) => .ok ({ s with instances := s.instances.insert id merged }, some merged)

/-- Instances that started earlier come first; of those that started together, the one whose
    name comes first. -/
def inOrder (a b : Instance) : Bool :=
  ((compare a.start b.start).then (compare a.id b.id)).isLE

/-- The instances that match, in their order. -/
def matching (s : Storage) (query : Query) : List Instance :=
  (s.instances.values.filter query.accepts).mergeSort inOrder

/-- One page of the instances that match. -/
def findPage (s : Storage) (arithmetic : Arithmetic) (query : Query) (request : PageRequest) :
    Except Error (Page Instance) :=
  if request.size = 0 then .error (.invalidInput .emptyPage)
  else Page.ofList arithmetic (s.matching query) request

/-- The number of places on a page when none is given. -/
def defaultPageSize : UInt64 := 200

/-- The instances that match, fetched page by page. -/
def scan (s : Storage) (query : Query) (pageSize : UInt64) : List Instance :=
  let size := if pageSize = 0 then defaultPageSize else pageSize
  Page.collect (s.matching query) ⟨0, size⟩

/-! ### The others -/

def saveAttachment (s : Storage) (a : Attachment) : Storage :=
  { s with attachments := s.attachments.insert a.id a }

/-- The storage with this submission, unless there is one of its name. -/
def saveSubmission (s : Storage) (submission : Submission) : Storage :=
  if s.submissions.contains submission.id then s
  else { s with submissions := s.submissions.insert submission.id submission }

def saveProcess (s : Storage) (p : ProcessDefinition) : Storage :=
  { s with processes := s.processes.insert p.key p }

def saveDeployment (s : Storage) (d : Deployment) : Storage :=
  { s with deployments := s.deployments.insert d.id d }

end Storage
end Casework
