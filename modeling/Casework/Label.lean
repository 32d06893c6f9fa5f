import Casework.Json.Printer
import Casework.Submission

/-!
The labels of instances. A submitter may choose one; else it is made from the
template of the process, if that is not blank, or is the label of the process.

A template is cut into pieces: literals, the names of fields between double
braces, and at the end perhaps braces that are never closed, which stand for
themselves. `written_pieces` says that the pieces are the template. Values are
put in without being searched for braces.
-/

namespace Casework

/-- One piece of a template. -/
inductive Piece where
  | literal (text : List Char)
  /-- The name of a field, as it stands between its braces. -/
  | field (name : List Char)
  /-- What follows braces that are not closed. -/
  | unclosed (text : List Char)
  deriving DecidableEq

namespace Template

/-- The characters before the first `c` that another `c` follows, and those after the two. -/
def cutAt? (c : Char) : List Char → Option (List Char × List Char)
  | [] => none
  | a :: rest =>
    if a = c ∧ rest.head? = some c then some ([], rest.drop 1)
    else (cutAt? c rest).map fun (before, behind) => (a :: before, behind)

theorem eq_of_cutAt? {c : Char} {cs before behind : List Char}
    (cut : cutAt? c cs = some (before, behind)) : cs = before ++ c :: c :: behind := by
  induction cs generalizing before with
  | nil => simp [cutAt?] at cut
  | cons a rest ih =>
    unfold cutAt? at cut
    split at cut
    · rename_i mark
      obtain ⟨rfl, second⟩ := mark
      cases rest with
      | nil => simp at second
      | cons b rest =>
        simp at second cut
        simp [second, ← cut.1, ← cut.2]
    · obtain ⟨⟨before', behind'⟩, inner, pair⟩ := Option.map_eq_some_iff.1 cut
      obtain ⟨rfl, rfl⟩ := Prod.mk.inj pair
      simp [ih inner]

/-- The pieces of a template: a name begins at the first double brace and ends at the first one
    that closes it. -/
def pieces (cs : List Char) : List Piece :=
  match _opened : cutAt? '\x7b' cs with
  | none => [.literal cs]
  | some (before, behind) =>
    match _closed : cutAt? '\x7d' behind with
    | none => [.literal before, .unclosed behind]
    | some (name, rest) => .literal before :: .field name :: pieces rest
termination_by cs.length
decreasing_by
  have outer := congrArg List.length (eq_of_cutAt? _opened)
  have inner := congrArg List.length (eq_of_cutAt? _closed)
  simp at outer inner
  omega

/-- A piece as it stands in a template. -/
def written : Piece → List Char
  | .literal text => text
  | .field name => '\x7b' :: '\x7b' :: name ++ ['\x7d', '\x7d']
  | .unclosed text => '\x7b' :: '\x7b' :: text

theorem written_pieces (cs : List Char) : (pieces cs).flatMap written = cs := by
  fun_induction pieces cs with
  | case1 => simp [written]
  | case2 cs before behind opened => simp [written, eq_of_cutAt? opened]
  | case3 cs before behind opened name rest closed ih =>
    simp [written, ih, eq_of_cutAt? opened, eq_of_cutAt? closed]

/-- A value within a label. -/
def shownValue : Json → String
  | .text s => s
  | .null => ""
  | value => value.compact

/-- What takes the place of a piece. The values of a field are separated by commas. -/
def shown (data : FieldData) : Piece → String
  | .literal text => String.ofList text
  | .field name =>
    let values := (data.get? (Text.trim (String.ofList name))).getD []
    ", ".intercalate (values.map shownValue)
  | .unclosed text => String.ofList ('\x7b' :: '\x7b' :: text)

/-- The template filled in, without blanks around it. -/
def fill (template : String) (data : FieldData) : String :=
  Text.trim (String.join ((pieces template.toList).map (shown data)))

end Template

/-- The label of an instance of a process with these data, made by this submission. -/
def ProcessDefinition.instanceLabel (p : ProcessDefinition) (data : FieldData)
    (submission : Option Submission) : String :=
  match submission.bind Submission.labelOverride with
  | some label => label
  | none =>
    match p.template with
    | some template => if Text.trim template = "" then p.label else Template.fill template data
    | none => p.label

end Casework
