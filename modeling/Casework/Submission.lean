import Casework.Json
import Casework.Definition
import Casework.Text.Blank

/-!
What users hand in: field data, attachments, submissions, and forms that have
passed validation.
-/

namespace Casework

/-- The values of each field of a form, in the order in which they were given. -/
abbrev FieldData := SortedMap String (List Json)

namespace FieldData

/-- The data with the values of these fields replaced. -/
def merge (data fields : FieldData) : FieldData := data.insertMany fields.entries

theorem get?_merge (data fields : FieldData) (name : String) :
    (data.merge fields).get? name = (fields.get? name).or (data.get? name) :=
  SortedMap.get?_insertMany data fields.sorted name

/-- Fields of the same names in the same places, with agreeing values. -/
def entriesAgree : List (String × List Json) → List (String × List Json) → Bool
  | [], [] => true
  | (k, x) :: xs, (l, y) :: ys => k == l && Json.itemsAgree x y && entriesAgree xs ys
  | _, _ => false

/-- The same fields with agreeing values. -/
def agrees (a b : FieldData) : Bool := entriesAgree a.entries b.entries

end FieldData

/-- What a submission was made for. -/
inductive SubmissionAction where
  | create
  | complete
  | reject
  | save
  | attach
  | validate
  deriving DecidableEq, Inhabited

instance : Named SubmissionAction where
  all := [.create, .complete, .reject, .save, .attach, .validate]
  name
    | .create => "CREATE"
    | .complete => "COMPLETE"
    | .reject => "REJECT"
    | .save => "SAVE"
    | .attach => "ATTACH"
    | .validate => "VALIDATE"

/-- What is attached. -/
inductive Content where
  /-- A file that is kept elsewhere. -/
  | file (location mediaType : String)
  /-- A text. -/
  | text (body : String)
  deriving DecidableEq, Inhabited

/-- Content that a user has added to an instance. -/
structure Attachment where
  id : AttachmentId
  name : String
  content : Content
  user : String
  created : Instant
  deriving DecidableEq, Inhabited

/-- A form as it was handed in. -/
structure Submission where
  id : Uuid
  processKey : String
  instanceId : Option InstanceId := none
  taskId : Option TaskId := none
  action : SubmissionAction
  data : FieldData
  /-- The label that the submitter wants for the instance. -/
  label : Option String := none
  attachmentIds : List AttachmentId := []
  submitter : String
  time : Instant
  deriving DecidableEq, Inhabited

/-- The label that the submitter wants, if it is not blank. -/
def Submission.labelOverride (s : Submission) : Option String :=
  (s.label.map Text.trim).filter fun label => label ≠ ""

/-- A form that has passed validation, with all that it is about. -/
structure Validation where
  process : ProcessDefinition
  deployment : Deployment
  instanceId : Option InstanceId := none
  task : Option Task := none
  submission : Submission
  data : FieldData
  attachments : List Attachment := []
  /-- The version of the instance that the user saw. -/
  version : Option UInt64 := none
  deriving DecidableEq, Inhabited

end Casework
