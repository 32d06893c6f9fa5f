import Casework.Proofs.RecordDocuments

/-!
An instance is read back from the text that it is printed as (`Instance.read?_pretty`). Its document
holds no doubles beside its data, and it is nested four deep around them (`Instance.plain`), so
that the reader takes the text for the document.
-/

namespace Casework

open Document
open Json (Plain PlainItems PlainMembers)

namespace Json

theorem plainItems_iff {depth : Nat} {items : List Json} :
    PlainItems depth items ↔ ∀ j ∈ items, Plain depth j := by
  induction items with
  | nil => simp [PlainItems]
  | cons item rest ih => simp [PlainItems, ih]

theorem plainMembers_iff {depth : Nat} {members : List (String × Json)} :
    PlainMembers depth members ↔ ∀ m ∈ members, Plain depth m.2 := by
  induction members with
  | nil => simp [PlainMembers]
  | cons member rest ih => simp [PlainMembers, ih]

end Json

namespace Document

variable (depth : Nat)

@[simp] theorem plain_string (s : String) : Plain depth (encode s) := trivial

@[simp] theorem plain_bool (b : Bool) : Plain depth (encode b) := trivial

@[simp] theorem plain_instant (t : Instant) : Plain depth (encode t) := trivial

@[simp] theorem plain_uuid (u : Uuid) : Plain depth (encode u) := trivial

@[simp] theorem plain_named {α : Type} [Named α] (a : α) : Plain depth (encode a) := trivial

@[simp] theorem plain_uint64 (n : UInt64) : Plain depth (encode n) :=
  ⟨Int.le_trans (by decide) (Int.natCast_nonneg n.toNat), Int.ofNat_lt.2 n.toNat_lt_size⟩

@[simp] theorem plain_int32 (n : Int32) : Plain depth (encode n) :=
  ⟨Int.le_trans (by decide) n.minValue_le_toInt, Int.lt_of_le_of_lt n.toInt_le (by decide)⟩

variable {depth} {α : Type} [Document α]

theorem plain_list {items : List α} (each : ∀ a ∈ items, Plain depth (encode a)) :
    Plain (depth + 1) (encode items) := by
  refine ⟨Nat.succ_pos depth, Json.plainItems_iff.2 ?_⟩
  simpa using each

theorem plain_set [Ord α] [Std.TransOrd α] {s : SortedSet α}
    (each : ∀ a ∈ s.toList, Plain depth (encode a)) : Plain (depth + 1) (encode s) := by
  refine ⟨Nat.succ_pos depth, Json.plainItems_iff.2 ?_⟩
  simpa using each

theorem plain_map {m : SortedMap String α} (each : ∀ a ∈ m.values, Plain depth (encode a)) :
    Plain (depth + 1) (encode m) := by
  refine ⟨Nat.succ_pos depth, Json.plainMembers_iff.2 fun entry member => ?_⟩
  obtain ⟨held, within, rfl⟩ := List.mem_map.1 member
  exact each held.2 (List.mem_map_of_mem within)

theorem plain_record {fields : List (List (String × Json))}
    (each : ∀ members ∈ fields, PlainMembers depth members) :
    Plain (depth + 1) (record fields) := by
  refine ⟨Nat.succ_pos depth, Json.plainMembers_iff.2 fun m member => ?_⟩
  obtain ⟨members, held, within⟩ := List.mem_flatten.1 member
  exact Json.plainMembers_iff.1 (each members held) m within

@[simp] theorem plain_field (name : String) (value : α) :
    PlainMembers depth (field name value) ↔ Plain depth (encode value) :=
  and_iff_left trivial

@[simp] theorem plain_fieldIfAny (name : String) (value : Option α) :
    PlainMembers depth (fieldIfAny name value) ↔ ∀ a ∈ value, Plain depth (encode a) := by
  cases value <;> simp [fieldIfAny, PlainMembers]

end Document

theorem Task.plain (depth : Nat) (t : Task) : Plain (depth + 2) (encode t) := by
  have candidates : Plain (depth + 1) (encode t.candidates) :=
    plain_set fun name _ => plain_string depth name
  refine plain_record ?_
  simp [candidates]

theorem Operation.plain (depth : Nat) (o : Operation) : Plain (depth + 1) (encode o) := by
  refine plain_record ?_
  simp

/-- An instance is not nested deeper than its data are, and otherwise four deep. -/
theorem Instance.plain {depth : Nat} {i : Instance}
    (data : ∀ values ∈ i.data.values, ∀ j ∈ values, Plain (depth + 1) j) :
    Plain (depth + 4) (encode i) := by
  have data : Plain (depth + 3) (encode i.data) :=
    plain_map fun values held => plain_list fun j member => data values held j member
  have attachments : Plain (depth + 3) (encode i.attachments) :=
    plain_set fun id _ => plain_string _ id
  have submissions : Plain (depth + 3) (encode i.submissions) :=
    plain_set fun id _ => plain_uuid _ id
  have tasks : Plain (depth + 3) (encode i.tasks) := plain_map fun t _ => t.plain depth
  have operations : Plain (depth + 3) (encode i.operations) :=
    plain_list fun o _ => o.plain (depth + 1)
  refine plain_record ?_
  simp [data, attachments, submissions, tasks, operations]

/-- An instance is read back from the text that it is printed as, if its data can be read back. -/
theorem Instance.read?_pretty {i : Instance} (years : ∀ time ∈ i.times, time.InYears)
    (plain : ∀ values ∈ i.data.values, ∀ j ∈ values, Plain (Json.maxDepth - 3) j)
    (ordered : i.data.Fits .text) :
    (Json.Source.read? ((encode i).pretty 0 ++ "\n")).bind read? = some i := by
  have legible : Legible .text i := Instance.legible years ordered
  rw [Json.read?_pretty (Instance.plain plain), Option.bind_some]
  exact legible

end Casework
