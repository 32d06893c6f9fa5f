import Mathlib.Data.List.Dedup
import Casework.Task

/-!
Task sets as sorted maps. However many tasks are upserted, and in whatever order, the set lists
them in the order of their names, holds each under its own name, keeps of one name the last and
counts each name once; its open tasks are those that are open, in the same order (`Gathers`).
That determines the set (`Gathers.unique`), and upserts come to it (`upserts_gather`).
-/

namespace Casework

namespace SortedMap

variable {κ ν : Type} [Ord κ]

theorem increasing_keys (m : SortedMap κ ν) :
    m.keys.Pairwise fun a b => compare a b = .lt :=
  List.pairwise_map.2 m.sorted

variable [Std.TransOrd κ] [Std.LawfulEqOrd κ]

omit [Std.TransOrd κ] in
theorem nodup_keys (m : SortedMap κ ν) : m.keys.Nodup := by
  refine m.increasing_keys.imp fun {a b} before => ?_
  rintro rfl
  simp at before

omit [Std.TransOrd κ] in
theorem mem_keys_iff (m : SortedMap κ ν) (key : κ) : key ∈ m.keys ↔ m.get? key ≠ none := by
  rw [Option.ne_none_iff_exists', keys, List.mem_map]
  constructor
  · rintro ⟨entry, member, rfl⟩
    exact ⟨entry.2, (m.get?_eq_some_iff entry.1 entry.2).2 member⟩
  · rintro ⟨value, found⟩
    exact ⟨(key, value), (m.get?_eq_some_iff key value).1 found, rfl⟩

end SortedMap

namespace TaskSet

theorem Keyed.names_eq {s : TaskSet} (keyed : s.Keyed) : s.values.map Task.id = s.keys := by
  rw [SortedMap.values, SortedMap.keys, List.map_map]
  exact List.map_congr_left keyed

def Last (tasks : List Task) (task : Task) : Prop :=
  ∃ before behind, tasks = before ++ task :: behind ∧ ∀ other ∈ behind, other.id ≠ task.id

theorem lastOf_eq_some_iff (tasks : List Task) (id : TaskId) (task : Task) :
    lastOf tasks id = some task ↔ Last tasks task ∧ task.id = id := by
  unfold lastOf Last
  rw [List.find?_eq_some_iff_append, decide_eq_true_eq]
  constructor
  · rintro ⟨rfl, behind, before, split, others⟩
    refine ⟨⟨before.reverse, behind.reverse, ?_, fun other member => ?_⟩, rfl⟩
    · simpa using congrArg List.reverse split
    · simpa using others other (List.mem_reverse.1 member)
  · rintro ⟨⟨before, behind, rfl, others⟩, rfl⟩
    refine ⟨rfl, behind.reverse, before.reverse, by simp, fun other member => ?_⟩
    simpa using others other (List.mem_reverse.1 member)

/-! ### What is gathered -/

/-- The set is what the first one becomes by these tasks, from the first to the last. -/
structure Gathers (initial : TaskSet) (tasks : List Task) (s : TaskSet) : Prop where
  /-- The tasks are listed in the order of their names, and no name comes twice. -/
  ordered : (s.values.map Task.id).Pairwise (· < ·)
  own : ∀ id task, s.get? id = some task → task.id = id
  /-- Under a name is the last task of the list that has it, or else what was there. -/
  found : ∀ id task, s.get? id = some task ↔
    (Last tasks task ∧ task.id = id) ∨
      (initial.get? id = some task ∧ ∀ other ∈ tasks, other.id ≠ id)
  /-- There are as many entries as there are different names. -/
  size : s.size = (initial.keys ++ tasks.map Task.id).dedup.length
  /-- The open tasks, in the order of the set. -/
  active : s.active.Sublist s.values ∧
    ∀ task, task ∈ s.active ↔ task ∈ s.values ∧ task.isOpen = true
  hasOpen : s.hasOpen = true ↔ s.active ≠ []

namespace Gathers

variable {initial s t : TaskSet} {tasks : List Task}

/-- There is only one such set. -/
theorem unique (first : Gathers initial tasks s) (second : Gathers initial tasks t) : s = t :=
  SortedMap.ext_get? fun id => Option.ext fun task =>
    (first.found id task).trans (second.found id task).symm

end Gathers

theorem get?_upsertMany_eq_some_iff (s : TaskSet) (tasks : List Task) (id : TaskId) (task : Task) :
    (s.upsertMany tasks).get? id = some task ↔
      (Last tasks task ∧ task.id = id) ∨
        (s.get? id = some task ∧ ∀ other ∈ tasks, other.id ≠ id) := by
  rw [get?_upsertMany, Option.or_eq_some_iff, lastOf_eq_some_iff, lastOf_eq_none_iff,
    and_comm (a := ∀ other ∈ tasks, other.id ≠ id)]

/-- The names of the set are those that it had and those of the tasks. -/
theorem mem_keys_upsertMany (s : TaskSet) (tasks : List Task) (id : TaskId) :
    id ∈ (s.upsertMany tasks).keys ↔ id ∈ s.keys ++ tasks.map Task.id := by
  have upserted : lastOf tasks id ≠ none ↔ id ∈ tasks.map Task.id := by
    rw [ne_eq, lastOf_eq_none_iff]
    simp
  rw [SortedMap.mem_keys_iff, get?_upsertMany, List.mem_append, ← upserted, SortedMap.mem_keys_iff]
  cases lastOf tasks id <;> simp

theorem size_upsertMany (s : TaskSet) (tasks : List Task) :
    (s.upsertMany tasks).size = (s.keys ++ tasks.map Task.id).dedup.length := by
  have names : (s.upsertMany tasks).keys.Perm (s.keys ++ tasks.map Task.id).dedup := by
    refine (List.perm_ext_iff_of_nodup (SortedMap.nodup_keys _) (List.nodup_dedup _)).2 fun id => ?_
    rw [mem_keys_upsertMany, List.mem_dedup]
  calc (s.upsertMany tasks).size = (s.upsertMany tasks).keys.length := (List.length_map _).symm
    _ = (s.keys ++ tasks.map Task.id).dedup.length := names.length_eq

theorem hasOpen_iff (s : TaskSet) : s.hasOpen = true ↔ s.active ≠ [] := by
  unfold hasOpen
  cases s.active <;> simp

/-- Tasks that are upserted into a set that has its own under their names are gathered in it. -/
theorem Keyed.gathers_upsertMany {initial : TaskSet} (keyed : initial.Keyed) (tasks : List Task) :
    Gathers initial tasks (initial.upsertMany tasks) where
  ordered := by
    rw [(keyed.upsertMany tasks).names_eq]
    exact (SortedMap.increasing_keys _).imp compareOfLessAndEq_eq_lt.1
  own id task held := (keyed.upsertMany tasks).id_eq held
  found := get?_upsertMany_eq_some_iff initial tasks
  size := size_upsertMany initial tasks
  active := ⟨List.filter_sublist, fun task => List.mem_filter⟩
  hasOpen := hasOpen_iff _

/-- Tasks that are collected, or upserted one after another into a set that has its own under
    their names, are gathered: in order, each name once, the last of each name. -/
theorem upserts_gather (tasks : List Task) :
    Gathers ∅ tasks (ofTasks tasks) ∧
      ∀ initial : TaskSet, initial.Keyed → Gathers initial tasks (initial.upsertMany tasks) :=
  ⟨keyed_empty.gathers_upsertMany tasks, fun _ keyed => keyed.gathers_upsertMany tasks⟩

def plain (id : TaskId) (complete : Bool) : Task :=
  { id, definition := "review", complete, start := .ofSecond 0 }

/-- A set of two tasks gets one of them again, completed, and another one in between. -/
theorem upserts_gather_completed :
    let initial := ofTasks [plain "b" false, plain "c" false]
    let tasks := [plain "c" false, plain "a" false, plain "c" true]
    initial.Keyed ∧ Gathers initial tasks (initial.upsertMany tasks) ∧
      (initial.upsertMany tasks).values = [plain "a" false, plain "b" false, plain "c" true] ∧
      (initial.upsertMany tasks).active = [plain "a" false, plain "b" false] := by
  intro initial tasks
  have keyed : initial.Keyed := keyed_empty.upsertMany _
  exact ⟨keyed, (upserts_gather tasks).2 initial keyed, by decide +kernel, by decide +kernel⟩

end TaskSet
end Casework
