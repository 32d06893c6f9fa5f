import Casework.Document.Record
import Casework.Proofs.JsonTexts
import Mathlib.Data.List.Nodup

/-!
Values are read back from the documents that they are written as, and from the texts of these
(`Legible`): the values of the basic types always, points in time in the years 0 to 9999, and lists,
sets and maps if their items are. In a record a field is found under its name, as long as no other
field has that name (`lookup_field`, `lookup_fieldIfAny`).
-/

namespace Casework

namespace Document

/-- What a document is read from: the value itself, or a text of it. -/
inductive Form where
  | value
  | text

namespace Form

def source : Form → Json → Json.Source
  | value => .value
  | text => .written

/-- The value is the same in this form. The members of an object are put in order in a text. -/
def Fits : Form → Json → Prop
  | value, _ => True
  | text, j => j.Ordered

variable (form : Form)

@[simp] theorem source_text (s : String) : form.source (.text s) = .value (.text s) := by
  cases form <;> rfl

@[simp] theorem source_int (n : Int) : form.source (.int n) = .value (.int n) := by
  cases form <;> rfl

theorem source_eq_null {j : Json} (null : form.source j = .value .null) : j = .null := by
  cases form with
  | value => exact Json.Source.value.inj null
  | text =>
    cases j with
    | list | object => cases null
    | _ => exact Json.Source.value.inj null

theorem items?_source (items : List Json) :
    (form.source (.list items)).items? = some (items.map form.source) := by
  cases form with
  | value => rfl
  | text => exact congrArg some (Json.writtenItems_eq_map items)

theorem members?_source (members : List (String × Json)) :
    (form.source (.object members)).members? =
      some (members.map fun (name, j) => (name, form.source j)) := by
  cases form with
  | value => rfl
  | text => exact congrArg some (Json.writtenMembers_eq_map members)

theorem exists_value? (j : Json) : ∃ value, (form.source j).value? = some value := by
  cases form with
  | value => exact ⟨j, Json.Source.value?_value j⟩
  | text => exact Json.exists_value? j

/-- No name is repeated among members of different names. -/
theorem repeats_source {members : List (String × Json)} (distinct : (members.map Prod.fst).Nodup)
    (names : List String) : (form.source (.object members)).repeats names = false := by
  cases form with
  | value => rfl
  | text =>
    refine List.any_eq_false.2 fun name _ => ?_
    have once : (members.map Prod.fst).count name ≤ 1 := List.nodup_iff_count_le_one.1 distinct name
    rw [List.count_eq_countP, List.countP_map] at once
    rw [Json.writtenMembers_eq_map, List.countP_map]
    simpa [Function.comp_def, beq_eq_decide] using once

end Form

/-- The value is read back from its document. -/
def Legible (form : Form) {α : Type} [Document α] (a : α) : Prop :=
  read? (form.source (encode a)) = some a

@[simp] theorem Legible.read? {form : Form} {α : Type} [Document α] {a : α}
    (legible : Legible form a) : read? (form.source (encode a)) = some a := legible

section
variable {form : Form}

theorem legible_json {j : Json} (fits : form.Fits j) : Legible form j := by
  cases form with
  | value => exact Json.Source.value?_value j
  | text => exact Json.value?_written j fits

@[simp] theorem legible_string (s : String) : Legible form s := by cases form <;> rfl

@[simp] theorem legible_bool (b : Bool) : Legible form b := by cases form <;> rfl

theorem read?_uint64 (n : Int) : (read? (.value (.int n)) : Option UInt64) =
    if 0 ≤ n ∧ n < UInt64.size then some (UInt64.ofNat n.toNat) else none := rfl

@[simp] theorem legible_uint64 (n : UInt64) : Legible form n := by
  have range : 0 ≤ (n.toNat : Int) ∧ (n.toNat : Int) < UInt64.size :=
    ⟨Int.natCast_nonneg _, Int.ofNat_lt.2 n.toNat_lt_size⟩
  -- One step at a time: compared as wholes, the two sides unfold the size of a word.
  rw [Legible, show encode n = .int n.toNat from rfl, form.source_int, read?_uint64, if_pos range,
    Int.toNat_natCast, UInt64.ofNat_toNat]

@[simp] theorem legible_int32 (n : Int32) : Legible form n := by
  have range : Int32.minValue.toInt ≤ n.toInt ∧ n.toInt ≤ Int32.maxValue.toInt :=
    ⟨n.minValue_le_toInt, n.toInt_le⟩
  simp only [Legible, encode, form.source_int, read?, range, and_self, if_true, Int32.ofInt_toInt]

theorem legible_instant {t : Instant} (years : t.InYears) : Legible form t := by
  simp only [Legible, encode, form.source_text, read?, Json.Source.text?, Option.bind_some,
    t.read?_render years]

@[simp] theorem legible_uuid (u : Uuid) : Legible form u := by
  simp only [Legible, encode, form.source_text, read?, Json.Source.text?, Option.bind_some,
    u.read?_render]

theorem legible_named {α : Type} [Named α] {a : α} (known : Named.ofName? (Named.name a) = some a) :
    Legible form a := by
  cases form <;> exact known

/-! ### Values made of others -/

variable {α : Type} [Document α]

theorem mapM_read? {items : List α} (each : ∀ a ∈ items, Legible form a) :
    ((items.map encode).map form.source).mapM read? = some items := by
  rw [List.map_map]
  exact mapM_map_of_back each

@[simp] theorem legible_list {items : List α} (each : ∀ a ∈ items, Legible form a) :
    Legible form items := by
  simp only [Legible, encode, read?, form.items?_source, Option.bind_some, mapM_read? each]

@[simp] theorem legible_map {m : SortedMap String α} (each : ∀ a ∈ m.values, Legible form a) :
    Legible form m := by
  have members : (form.source (encode m)).members? =
      some (m.entries.map fun entry => (entry.1, form.source (encode entry.2))) := by
    simp [encode, form.members?_source, SortedMap.map, Function.comp_def]
  have entries : (m.entries.map fun entry => (entry.1, form.source (encode entry.2))).mapM
      (fun part => (read? part.2).map fun a => (part.1, a)) = some m.entries := by
    refine mapM_map_of_back fun entry member => ?_
    have value : read? (form.source (encode entry.2)) = some entry.2 :=
      each entry.2 (List.mem_map_of_mem member)
    simp [value]
  change ((form.source (encode m)).members?.bind fun parts =>
    (parts.mapM fun part => (read? part.2).map fun a => (part.1, a)).bind fun entries =>
      some (SortedMap.ofList entries)) = some m
  rw [members, Option.bind_some, entries, Option.bind_some, SortedMap.ofList_entries]

@[simp] theorem legible_set [Ord α] [Std.TransOrd α] [Std.LawfulEqOrd α] [DecidableEq α]
    {s : SortedSet α} (each : ∀ a ∈ s.toList, Legible form a) : Legible form s := by
  simp only [Legible, encode, read?, form.items?_source, mapM_read? each, Option.bind_eq_bind,
    Option.bind_some, SortedSet.ofList_toList]
  rfl

/-- A value that may be absent is read back if it is not written like an absent one. -/
theorem legible_option {o : Option α} (held : ∀ a ∈ o, Legible form a)
    (shown : ∀ a ∈ o, encode a ≠ .null) : Legible form o := by
  cases o with
  | none => cases form <;> rfl
  | some a =>
    have value : read? (form.source (encode a)) = some a := held a rfl
    simp only [Legible, encode, read?]
    split
    · rename_i null
      exact absurd (form.source_eq_null null) (shown a rfl)
    · rw [value]
      rfl

-- The library's lemma for this form holds by computation, which would unfold a reader here.
@[simp high] theorem Legible.read?_elim {a default : α} (legible : Legible form a) :
    (some (form.source (encode a))).elim (some default) Document.read? = some a := legible

@[simp] theorem Legible.read?_ifAny {o : Option α} (legible : Legible form o) :
    o.elim (some none) (Document.read? ∘ fun a => form.source (encode a)) = some o := by
  cases o with
  | none => rfl
  | some a => exact legible

@[simp] theorem legible_texts (o : Option String) : Legible form o :=
  legible_option (fun s _ => legible_string s) fun _ _ => nofun

theorem legible_times {o : Option Instant} (years : ∀ t ∈ o.toList, t.InYears) :
    Legible form o :=
  legible_option (fun t held => legible_instant (years t (Option.mem_toList.2 held)))
    fun _ _ => nofun

end

/-! ### Records -/

namespace Fields

variable {form : Form} {α : Type} [Document α]

/-- The fields stand under these names, place by place, though some may be missing. -/
def Under : List (List (String × Json)) → List String → Prop
  | [], [] => True
  | members :: fields, name :: names =>
    (members.map Prod.fst).Sublist [name] ∧ Under fields names
  | _, _ => False

@[simp] theorem under_nil : Under [] [] := trivial

@[simp] theorem under_field (name : String) (value : α) (fields : List (List (String × Json)))
    (names : List String) : Under (field name value :: fields) (name :: names) ↔
      Under fields names := by
  simp [Under, field]

@[simp] theorem under_fieldIfAny (name : String) (value : Option α)
    (fields : List (List (String × Json))) (names : List String) :
    Under (fieldIfAny name value :: fields) (name :: names) ↔ Under fields names := by
  cases value <;> simp [Under, fieldIfAny, field]

theorem Under.names_sublist : {fields : List (List (String × Json))} → {names : List String} →
    Under fields names → (fields.flatten.map Prod.fst).Sublist names
  | [], [], _ => List.Sublist.refl []
  | members :: fields, name :: names, under => by
    rw [List.flatten_cons, List.map_append]
    exact under.1.append under.2.names_sublist

/-- The fields of a record, as they are found in its document. -/
def written (form : Form) (fields : List (List (String × Json))) : Fields :=
  ⟨fields.flatten.map fun (name, j) => (name, form.source j), false⟩

theorem of?_record {β : Type} (names : List String) {fields : List (List (String × Json))}
    (distinct : (fields.flatten.map Prod.fst).Nodup) (rest : Fields → Option β) :
    (of? names (form.source (record fields))).bind rest = rest (written form fields) := by
  have found : of? names (form.source (record fields)) = some (written form fields) := by
    unfold of? record
    rw [form.members?_source, form.repeats_source distinct]
    rfl
  rw [found, Option.bind_some]

@[simp] theorem lookup_nil (name : String) : (written form []).members.lookup name = none := rfl

@[simp] theorem lookup_field (name other : String) (value : α)
    (rest : List (List (String × Json))) :
    (written form (field other value :: rest)).members.lookup name =
      if name = other then some (form.source (encode value))
      else (written form rest).members.lookup name := by
  by_cases same : name = other
  · simp [written, field, same]
  · simp [written, field, same, List.lookup_cons, beq_false_of_ne same]

@[simp] theorem lookup_fieldIfAny (name other : String) (value : Option α)
    (rest : List (List (String × Json))) :
    (written form (fieldIfAny other value :: rest)).members.lookup name =
      if name = other then
        (value.map fun a => form.source (encode a)).or ((written form rest).members.lookup name)
      else (written form rest).members.lookup name := by
  cases value with
  | none => by_cases same : name = other <;> simp [written, fieldIfAny, same]
  | some a =>
    rw [show fieldIfAny other (some a) = field other a from rfl, lookup_field]
    rfl

@[simp] theorem required_written (fields : List (List (String × Json))) (name : String) :
    (written form fields).required (α := α) name =
      ((written form fields).members.lookup name).bind read? := rfl

@[simp] theorem withDefault_written (fields : List (List (String × Json))) (name : String)
    (default : α) : (written form fields).withDefault name default =
      ((written form fields).members.lookup name).elim (some default) read? := by
  unfold withDefault
  cases (written form fields).members.lookup name <;> rfl

@[simp] theorem optional_written (fields : List (List (String × Json))) (name : String) :
    (written form fields).optional (α := α) name =
      ((written form fields).members.lookup name).elim (some none) read? :=
  withDefault_written fields name none

@[simp] theorem nullable_written (fields : List (List (String × Json))) (name : String) :
    (written form fields).nullable (α := α) name = (written form fields).optional name := rfl

end Fields

/-- A record is read back if its fields are read back among those that are written. -/
theorem legible_record {form : Form} {α : Type} [Document α] {a : α} {names : List String}
    {fields : List (List (String × Json))} {build : Fields → Option α}
    (writes : encode a = record fields)
    (reads : ∀ source, read? source = (Fields.of? names source).bind build)
    (under : Fields.Under fields names) (distinct : names.Nodup)
    (back : build (Fields.written form fields) = some a) : Legible form a := by
  rw [Legible, writes, reads, Fields.of?_record names (under.names_sublist.nodup distinct), back]

end Document
end Casework
