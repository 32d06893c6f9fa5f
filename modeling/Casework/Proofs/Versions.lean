import Casework.Proofs.StoredChanges

/-!
Versions count changes. A request that changes a stored record gives it the next version, and a
request that keeps the version keeps the record (`versionOf_perform`). So the version of an instance
that was created in a run is the number of its changes (`versionOf_run`), and as long as that fits
in a word, the version tells the record (`kept_or_later`).
-/

namespace Casework

open Casework.Action Casework.Lifecycle

theorem Patch.version_of_apply {p : Patch} {now : Instant} {i updated : Instance}
    (applied : p.apply now i = .ok (true, updated)) : updated.version = i.version + 1 := by
  rw [eq_of_apply applied]
  rfl

namespace State

/-- The version in which the instance of this name is stored; zero if it is not stored. -/
def versionOf (s : State) (id : InstanceId) : UInt64 :=
  ((s.storage.instances.get? id).map Instance.version).getD 0

/-- The stored instance of this name is another record afterwards. -/
def alters (before after : State) (id : InstanceId) : Bool :=
  (before.storage.instances.get? id).any fun i => after.storage.instances.get? id != some i

theorem versionOf_of_found {s : State} {id : InstanceId} {i : Instance}
    (found : s.storage.instances.get? id = some i) : s.versionOf id = i.version := by
  rw [versionOf, found]
  rfl

end State

namespace Request

open State

variable {ctx : Context} {s : State}

/-- The request enters an instance as it is given. -/
def Enters : Request → Prop
  | .saveInstance _ => True
  | _ => False

/-- How many requests of a run change the stored instance of this name. -/
def changeCount (id : InstanceId) : List (Context × Request) → State → Nat
  | [], _ => 0
  | (ctx, r) :: rest, s =>
    let after := (outcome (r.perform ctx) s).2
    (if s.alters after id then 1 else 0) + changeCount id rest after

/-- A request that changes a stored record gives it the next version. -/
theorem versionOf_perform (ctx : Context) {r : Request} (created : ¬r.Enters) (s : State)
    (id : InstanceId) :
    (outcome (r.perform ctx) s).2.versionOf id =
      s.versionOf id + if s.alters (outcome (r.perform ctx) s).2 id then 1 else 0 := by
  cases found : s.storage.instances.get? id with
  | none =>
    have unaltered : s.alters (outcome (r.perform ctx) s).2 id = false := by
      simp [alters, found]
    have nothing : s.versionOf id = 0 := by rw [versionOf, found]; rfl
    rw [unaltered, nothing]
    cases held : (outcome (r.perform ctx) s).2.storage.instances.get? id with
    | none => rw [versionOf, held]; rfl
    | some j =>
      rw [versionOf_of_found held]
      cases opens_of_new found held with
      | create => rfl
      | saveInstance => exact absurd trivial created
  | some i =>
    obtain ⟨j, held, rfl | ⟨patch, -, applied⟩⟩ := patched_of_stored ctx r found
    · have unaltered : s.alters (outcome (r.perform ctx) s).2 id = false := by
        simp [alters, found, held]
      rw [unaltered, versionOf_of_found found, versionOf_of_found held]
      exact (UInt64.add_zero _).symm
    · have next := Patch.version_of_apply applied
      have altered : s.alters (outcome (r.perform ctx) s).2 id = true := by
        have other : j ≠ i := by
          rintro rfl
          simp at next
        simp [alters, found, held, other]
      rw [altered, versionOf_of_found found, versionOf_of_found held, next]
      rfl

/-! ### Runs -/

theorem versionOf_run {calls : List (Context × Request)}
    (created : ∀ call ∈ calls, ¬call.2.Enters) (s : State) (id : InstanceId) :
    (run calls s).2.versionOf id = s.versionOf id + UInt64.ofNat (changeCount id calls s) := by
  induction calls generalizing s with
  | nil => exact (UInt64.add_zero _).symm
  | cons call rest ih =>
    have first := versionOf_perform call.1 (created call List.mem_cons_self) s id
    have later := ih (fun call member => created call (List.mem_cons_of_mem _ member))
      (outcome (call.2.perform call.1) s).2
    show (run rest (outcome (call.2.perform call.1) s).2).2.versionOf id = _
    rw [later, first, UInt64.add_assoc]
    show _ = s.versionOf id + UInt64.ofNat (_ + _)
    rw [UInt64.ofNat_add]
    split <;> rfl

theorem changeCount_append (id : InstanceId) (first rest : List (Context × Request)) (s : State) :
    changeCount id (first ++ rest) s =
      changeCount id first s + changeCount id rest (run first s).2 := by
  induction first generalizing s with
  | nil => exact (Nat.zero_add _).symm
  | cons call first ih =>
    show _ + changeCount id (first ++ rest) _ = _ + _ + _
    rw [ih, Nat.add_assoc]
    rfl

theorem changeCount_le (id : InstanceId) (calls : List (Context × Request)) (s : State) :
    changeCount id calls s ≤ calls.length := by
  induction calls generalizing s with
  | nil => exact Nat.le_refl 0
  | cons call rest ih =>
    have others := ih (outcome (call.2.perform call.1) s).2
    show (if _ then 1 else 0) + changeCount id rest _ ≤ rest.length + 1
    split <;> omega

/-- A run that does not change an instance keeps its record. -/
theorem get?_of_unchanged {id : InstanceId} {calls : List (Context × Request)}
    (unchanged : changeCount id calls s = 0) {i : Instance}
    (found : s.storage.instances.get? id = some i) :
    (run calls s).2.storage.instances.get? id = some i := by
  induction calls generalizing s with
  | nil => exact found
  | cons call rest ih =>
    obtain ⟨first, later⟩ := Nat.add_eq_zero_iff.1 unchanged
    have kept : (outcome (call.2.perform call.1) s).2.storage.instances.get? id = some i := by
      generalize (outcome (call.2.perform call.1) s).2 = after at first ⊢
      simpa [alters, found] using first
    exact ih later kept

theorem stored_run (calls : List (Context × Request)) {id : InstanceId} {i : Instance}
    (found : s.storage.instances.get? id = some i) :
    ∃ j, (run calls s).2.storage.instances.get? id = some j := by
  induction calls generalizing s i with
  | nil => exact ⟨i, found⟩
  | cons call rest ih =>
    obtain ⟨j, held, -⟩ := patched_of_stored call.1 call.2 found
    exact ih held

/-- From a state of a run to a later one the version of an instance does not decrease, and if it is
    the same, the record is the same. -/
theorem kept_or_later {calls : List (Context × Request)}
    (created : ∀ call ∈ calls, ¬call.2.Enters) (empty : s.storage.instances = ∅)
    {id : InstanceId} (few : changeCount id calls s < UInt64.size) {m n : Nat} (later : m ≤ n)
    {i : Instance} (found : (run (calls.take m) s).2.storage.instances.get? id = some i) :
    ∃ j, (run (calls.take n) s).2.storage.instances.get? id = some j ∧ i.version ≤ j.version ∧
      (i.version = j.version → j = i) := by
  have split : calls.take n = calls.take m ++ (calls.take n).drop m := by
    have prefixed : (calls.take n).take m = calls.take m := by
      rw [List.take_take, Nat.min_eq_left later]
    rw [← prefixed, List.take_append_drop]
  have nothing : s.versionOf id = 0 := by rw [versionOf, empty]; rfl
  have counted (k : Nat) : (run (calls.take k) s).2.versionOf id =
      UInt64.ofNat (changeCount id (calls.take k) s) := by
    rw [versionOf_run (fun call member => created call (List.mem_of_mem_take member)), nothing,
      UInt64.zero_add]
  have fits : changeCount id (calls.take n) s < UInt64.size := by
    have whole := changeCount_append id (calls.take n) (calls.drop n) s
    rw [List.take_append_drop] at whole
    omega
  have sum := changeCount_append id (calls.take m) ((calls.take n).drop m) s
  rw [← split] at sum
  have state : (run (calls.take n) s).2 =
      (run ((calls.take n).drop m) (run (calls.take m) s).2).2 := by
    rw [← state_run_append, ← split]
  obtain ⟨j, held⟩ := stored_run ((calls.take n).drop m) found
  rw [← state] at held
  have before := (versionOf_of_found found).symm.trans (counted m)
  have after := (versionOf_of_found held).symm.trans (counted n)
  refine ⟨j, held, ?_, fun same => ?_⟩
  · rw [before, after, UInt64.le_iff_toNat_le, UInt64.toNat_ofNat_of_lt' fits,
      UInt64.toNat_ofNat_of_lt' (by show _ < UInt64.size; omega)]
    omega
  · rw [before, after] at same
    have equal := congrArg UInt64.toNat same
    rw [UInt64.toNat_ofNat_of_lt' fits, UInt64.toNat_ofNat_of_lt' (by show _ < UInt64.size; omega)]
      at equal
    have unchanged : changeCount id ((calls.take n).drop m) (run (calls.take m) s).2 = 0 := by
      omega
    have kept := get?_of_unchanged unchanged found
    rw [← state, held] at kept
    exact Option.some.inj kept

end Request
end Casework
