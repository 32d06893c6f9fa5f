import Casework.Arithmetic
import Casework.Instance

/-!
Queries for instances, and pages of their answers.

Page numbers and sizes are words of 64 bits. The place where a page begins is their
product, and whether there is a word for it is not checked beforehand: what happens
otherwise depends on the arithmetic that the program was built with.
-/

namespace Casework

/-- What to look for; a part that is absent is met by every instance. -/
structure Query where
  process : Option String := none
  status : Option Status := none
  applicationStatus : Option String := none
  /-- A user with an open task of the instance. -/
  assignee : Option String := none
  engineId : Option ExecutionId := none
  deriving DecidableEq, Inhabited

/-- The instance has what the query looks for. -/
def Query.accepts (q : Query) (i : Instance) : Bool :=
  q.process.all (i.processKey == ·) &&
    q.status.all (i.status == ·) &&
    q.applicationStatus.all (fun status => i.applicationStatus == some status) &&
    q.assignee.all (fun user => i.tasks.active.any fun task => task.assignee == some user) &&
    q.engineId.all (fun id => i.engineId == some id)

/-- Which page of the answers is wanted, counted from zero. -/
structure PageRequest where
  page : UInt64
  size : UInt64
  deriving DecidableEq, Inhabited

/-- One page of answers. -/
structure Page (α : Type) where
  items : List α
  page : UInt64
  size : UInt64
  /-- The number of answers on all pages. -/
  total : Nat

namespace Page
variable {α : Type}

/-- There are answers behind this page. -/
def hasNext (arithmetic : Arithmetic) (p : Page α) : Except Error Bool := do
  let next ← arithmetic.add p.page 1
  let place ← arithmetic.mul next p.size
  return place.toNat < p.total

/-- The request for the page behind this one. -/
def next? (arithmetic : Arithmetic) (p : Page α) : Except Error (Option PageRequest) := do
  if ← p.hasNext arithmetic then return some ⟨← arithmetic.add p.page 1, p.size⟩
  else return none

/-- One page of a list. -/
def ofList (arithmetic : Arithmetic) (items : List α) (request : PageRequest) :
    Except Error (Page α) := do
  let place ← arithmetic.mul request.page request.size
  return {
    items := (items.drop place.toNat).take request.size.toNat
    page := request.page
    size := request.size
    total := items.length }

/-! ### From page to page -/

theorem eq_of_ofList {arithmetic : Arithmetic} {items : List α} {request : PageRequest}
    {page : Page α} (found : ofList arithmetic items request = .ok page) :
    ∃ place : UInt64, arithmetic.mul request.page request.size = .ok place ∧
      page = ⟨(items.drop place.toNat).take request.size.toNat, request.page, request.size,
        items.length⟩ := by
  unfold ofList at found
  cases product : arithmetic.mul request.page request.size with
  | error e =>
    rw [product] at found
    cases found
  | ok place =>
    rw [product] at found
    cases found
    exact ⟨place, rfl, rfl⟩

theorem lt_of_next? {page : Page α} {next : PageRequest}
    (more : page.next? .checked = .ok (some next)) : page.page < next.page := by
  unfold next? at more
  cases sum : Arithmetic.checked.add page.page 1 with
  | error e =>
    simp only [hasNext, sum] at more
    cases more
  | ok n =>
    have later := Arithmetic.toNat_of_add sum
    have same : next.page = n := by
      cases left : page.hasNext .checked with
      | error e =>
        rw [left] at more
        cases more
      | ok b =>
        rw [left, sum] at more
        cases b with
        | false => cases more
        | true =>
          cases more
          rfl
    rw [UInt64.lt_iff_toNat_lt, same, later]
    exact Nat.lt_succ_self _

/-- The items of this page and of all that are reached from it, page by page. Where there is no
    word for a number they end, which no list of fewer than 2^63 items comes to. -/
def collect (items : List α) (request : PageRequest) : List α :=
  match _found : ofList .checked items request with
  | .error _ => []
  | .ok page =>
    match _more : page.next? .checked with
    | .ok (some next) => page.items ++ collect items next
    | .ok none | .error _ => page.items
termination_by UInt64.size - request.page.toNat
decreasing_by
  have below := next.page.toNat_lt_size
  have above := UInt64.lt_iff_toNat_lt.1 (lt_of_next? _more)
  obtain ⟨place, -, rfl⟩ := eq_of_ofList _found
  simp only at above
  omega

end Page
end Casework
