import Casework.Ids
import Casework.Instant
import Casework.SortedMap

/-!
Human tasks and the task set of an instance.

A task is open while it is active and not complete. A task set keeps the tasks
that are no longer open. Upserting files a task under its own name, so that a set
built by upserts alone is `Keyed`.
-/

namespace Casework

/-- One item of human work. -/
structure Task where
  id : TaskId
  /-- The task of the process definition that this is an item of. -/
  definition : String
  label : Option String := none
  assignee : Option String := none
  /-- The users who may claim the task. -/
  candidates : SortedSet String := ∅
  active : Bool := true
  complete : Bool := false
  priority : Int32 := 0
  due : Option Instant := none
  start : Instant
  finish : Option Instant := none
  deriving DecidableEq, Inhabited

namespace Task

/-- Work on the task is still to be done. -/
def isOpen (t : Task) : Bool := t.active && !t.complete

/-- The task in the hands of this user, or of nobody. -/
def assignedTo (t : Task) (assignee : Option String) : Task := { t with assignee }

/-- The task as completed at this time. -/
def completedAt (t : Task) (time : Instant) : Task :=
  { t with active := false, complete := true, finish := some time }

/-- The task as no longer active, completed or not. -/
def deactivated (t : Task) : Task := { t with active := false }

@[simp] theorem isOpen_completedAt (t : Task) (time : Instant) :
    (t.completedAt time).isOpen = false := rfl

@[simp] theorem isOpen_deactivated (t : Task) : t.deactivated.isOpen = false := rfl

end Task

/-- The tasks of an instance. -/
abbrev TaskSet := SortedMap TaskId Task

namespace TaskSet

/-- The set with this task under its own name, in place of any other of that name. -/
def upsert (s : TaskSet) (task : Task) : TaskSet := s.insert task.id task

/-- The set after one upsert per task, from the first to the last. -/
def upsertMany (s : TaskSet) (tasks : List Task) : TaskSet := tasks.foldl upsert s

/-- The set of these tasks; of those with one name, the last. -/
def ofTasks (tasks : List Task) : TaskSet := upsertMany ∅ tasks

/-- The open tasks. -/
def active (s : TaskSet) : List Task := s.values.filter Task.isOpen

/-- Some task is open. -/
def hasOpen (s : TaskSet) : Bool := !s.active.isEmpty

/-- Every task stands under its own name. -/
def Keyed (s : TaskSet) : Prop := ∀ entry ∈ s.entries, entry.2.id = entry.1

theorem get?_upsert (s : TaskSet) (task : Task) (id : TaskId) :
    (s.upsert task).get? id = if id = task.id then some task else s.get? id :=
  SortedMap.get?_insert s task.id id task

/-- The last of the tasks with this name. -/
def lastOf (tasks : List Task) (id : TaskId) : Option Task :=
  tasks.reverse.find? fun task => task.id = id

theorem get?_upsertMany (s : TaskSet) (tasks : List Task) (id : TaskId) :
    (s.upsertMany tasks).get? id = (lastOf tasks id).or (s.get? id) := by
  induction tasks generalizing s with
  | nil => rfl
  | cons first rest ih =>
    show ((s.upsert first).upsertMany rest).get? id = _
    rw [ih, get?_upsert]
    by_cases here : first.id = id
    · simp [lastOf, List.find?_append, here]
    · simp [lastOf, List.find?_append, here, Ne.symm here]

theorem keyed_empty : Keyed ∅ := fun _ member => absurd member List.not_mem_nil

theorem Keyed.upsert {s : TaskSet} (keyed : Keyed s) (task : Task) : Keyed (s.upsert task) := by
  intro entry member
  rcases mem_insertEntry member with rfl | before
  · rfl
  · exact keyed entry before

theorem Keyed.upsertMany {s : TaskSet} (keyed : Keyed s) (tasks : List Task) :
    Keyed (s.upsertMany tasks) := by
  induction tasks generalizing s with
  | nil => exact keyed
  | cons first rest ih => exact ih (keyed.upsert first)

theorem Keyed.id_eq {s : TaskSet} (keyed : Keyed s) {id : TaskId} {task : Task}
    (held : s.get? id = some task) : task.id = id :=
  keyed (id, task) ((s.get?_eq_some_iff id task).1 held)

theorem lastOf_eq_none_iff (tasks : List Task) (id : TaskId) :
    lastOf tasks id = none ↔ ∀ task ∈ tasks, task.id ≠ id := by
  simp [lastOf]

theorem mem_of_lastOf {tasks : List Task} {id : TaskId} {task : Task}
    (last : lastOf tasks id = some task) : task ∈ tasks :=
  List.mem_reverse.1 (List.mem_of_find?_eq_some last)

theorem mem_active_iff (s : TaskSet) (task : Task) :
    task ∈ s.active ↔ (∃ id, s.get? id = some task) ∧ task.isOpen = true := by
  unfold active
  rw [List.mem_filter, SortedMap.mem_values_iff]

/-- After closed tasks are upserted no task is open exactly if they take the places of all that
    were. -/
theorem Keyed.active_upsertMany {s : TaskSet} (keyed : Keyed s) {tasks : List Task}
    (closed : ∀ task ∈ tasks, task.isOpen = false) :
    (s.upsertMany tasks).active = [] ↔
      ∀ task ∈ s.active, ∃ changed ∈ tasks, changed.id = task.id := by
  constructor
  · intro nothing task isActive
    obtain ⟨⟨id, held⟩, isOpen⟩ := (s.mem_active_iff task).1 isActive
    refine Classical.byContradiction fun unchanged => ?_
    have absent : lastOf tasks id = none := by
      refine (lastOf_eq_none_iff tasks id).2 fun changed member same => unchanged ?_
      exact ⟨changed, member, same.trans (keyed.id_eq held).symm⟩
    have kept : (s.upsertMany tasks).get? id = some task := by
      rw [get?_upsertMany, absent]
      exact held
    have active := ((s.upsertMany tasks).mem_active_iff task).2 ⟨⟨id, kept⟩, isOpen⟩
    rw [nothing] at active
    exact List.not_mem_nil active
  · intro changes
    refine List.eq_nil_iff_forall_not_mem.2 fun task active => ?_
    obtain ⟨⟨id, held⟩, isOpen⟩ := ((s.upsertMany tasks).mem_active_iff task).1 active
    rw [get?_upsertMany] at held
    cases last : lastOf tasks id with
    | some changed =>
      rw [last] at held
      obtain rfl := Option.some.inj held
      rw [closed changed (mem_of_lastOf last)] at isOpen
      cases isOpen
    | none =>
      rw [last] at held
      have before := (s.mem_active_iff task).2 ⟨⟨id, held⟩, isOpen⟩
      obtain ⟨changed, member, same⟩ := changes task before
      exact (lastOf_eq_none_iff tasks id).1 last changed member (same.trans (keyed.id_eq held))

end TaskSet
end Casework
