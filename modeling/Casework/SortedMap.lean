/-!
Finite maps that list their entries in strictly increasing key order, and finite
sets as maps to `Unit`. The order is part of the type, so a map is determined by
its lookups (`ext_get?`); each operation has one lemma that says what a lookup
finds after it (`get?_insert`, `get?_erase`, `get?_map`).
-/

namespace Casework

variable {κ ν μ : Type} [Ord κ]

/-! ### Entries in key order -/

/-- Every key is below every later one. -/
def Increasing (entries : List (κ × ν)) : Prop :=
  entries.Pairwise fun a b => compare a.1 b.1 = .lt

/-- The entries with `key` bound to `value`, at its place in the order. -/
def insertEntry (key : κ) (value : ν) : List (κ × ν) → List (κ × ν)
  | [] => [(key, value)]
  | entry :: rest =>
    match compare key entry.1 with
    | .lt => (key, value) :: entry :: rest
    | .eq => (key, value) :: rest
    | .gt => entry :: insertEntry key value rest

/-- The value of the first entry with this key. -/
def findEntry (key : κ) : List (κ × ν) → Option ν
  | [] => none
  | entry :: rest => if compare key entry.1 = .eq then some entry.2 else findEntry key rest

/-- The entries without those of this key. -/
def eraseEntry (key : κ) (entries : List (κ × ν)) : List (κ × ν) :=
  entries.filter fun entry => compare key entry.1 != .eq

theorem findEntry_map (f : ν → μ) (key : κ) (entries : List (κ × ν)) :
    findEntry key (entries.map fun entry => (entry.1, f entry.2)) =
      (findEntry key entries).map f := by
  induction entries with
  | nil => rfl
  | cons entry rest ih =>
    by_cases same : compare key entry.1 = .eq <;> simp [findEntry, same, ih]

theorem mem_insertEntry {key : κ} {value : ν} {entries : List (κ × ν)} {e : κ × ν}
    (h : e ∈ insertEntry key value entries) : e = (key, value) ∨ e ∈ entries := by
  induction entries with
  | nil => simpa [insertEntry] using h
  | cons entry rest ih =>
    unfold insertEntry at h
    split at h
    · simpa using h
    · rcases List.mem_cons.1 h with rfl | inRest
      · exact .inl rfl
      · exact .inr (List.mem_cons_of_mem _ inRest)
    · rcases List.mem_cons.1 h with rfl | inRest
      · exact .inr List.mem_cons_self
      · exact (ih inRest).imp id (List.mem_cons_of_mem _)

section
variable [Std.TransOrd κ]

theorem increasing_insertEntry (key : κ) (value : ν) {entries : List (κ × ν)}
    (sorted : Increasing entries) : Increasing (insertEntry key value entries) := by
  induction entries with
  | nil => exact List.pairwise_singleton _ _
  | cons entry rest ih =>
    obtain ⟨below, tail⟩ := List.pairwise_cons.1 sorted
    unfold insertEntry
    split
    · rename_i less
      refine List.pairwise_cons.2 ⟨?_, sorted⟩
      intro other member
      rcases List.mem_cons.1 member with rfl | inRest
      · exact less
      · exact Std.TransCmp.lt_trans less (below other inRest)
    · rename_i same
      refine List.pairwise_cons.2 ⟨?_, tail⟩
      intro other member
      exact Std.TransCmp.lt_of_eq_of_lt same (below other member)
    · rename_i greater
      refine List.pairwise_cons.2 ⟨?_, ih tail⟩
      intro other member
      rcases mem_insertEntry member with rfl | inRest
      · exact Std.OrientedCmp.lt_of_gt greater
      · exact below other inRest

omit [Std.TransOrd κ] in
theorem increasing_eraseEntry (key : κ) {entries : List (κ × ν)} (sorted : Increasing entries) :
    Increasing (eraseEntry key entries) :=
  List.Pairwise.filter _ sorted

end

section
variable [Std.TransOrd κ] [Std.LawfulEqOrd κ]

omit [Std.TransOrd κ] [Std.LawfulEqOrd κ] in
theorem findEntry_eq_none_of_lt {key : κ} {entries : List (κ × ν)}
    (below : ∀ entry ∈ entries, compare key entry.1 = .lt) : findEntry key entries = none := by
  induction entries with
  | nil => rfl
  | cons entry rest ih =>
    have less := below entry List.mem_cons_self
    simp [findEntry, less, ih fun other member => below other (List.mem_cons_of_mem _ member)]

omit [Std.TransOrd κ] in
theorem findEntry_insertEntry [DecidableEq κ] (key other : κ) (value : ν) (entries : List (κ × ν)) :
    findEntry other (insertEntry key value entries) =
      if other = key then some value else findEntry other entries := by
  induction entries with
  | nil => by_cases same : other = key <;> simp [insertEntry, findEntry, same]
  | cons entry rest ih =>
    unfold insertEntry
    split
    · by_cases same : other = key <;> simp [findEntry, same]
    · rename_i equal
      have equal : key = entry.1 := by simpa using equal
      by_cases same : other = key
      · simp [findEntry, same]
      · have apart : other ≠ entry.1 := fun e => same (e.trans equal.symm)
        simp [findEntry, same, apart]
    · rename_i greater
      by_cases first : other = entry.1
      · have apart : other ≠ key := by
          rintro rfl
          simp [first] at greater
        rw [if_neg apart]
        simp [findEntry, first]
      · simp [findEntry, first, ih]

omit [Std.TransOrd κ] in
theorem findEntry_eraseEntry [DecidableEq κ] (key other : κ) (entries : List (κ × ν)) :
    findEntry other (eraseEntry key entries) =
      if other = key then none else findEntry other entries := by
  induction entries with
  | nil => simp [eraseEntry, findEntry]
  | cons entry rest ih =>
    unfold eraseEntry at ih ⊢
    by_cases erased : key = entry.1
    · by_cases same : other = key
      · simpa [← erased, same] using ih
      · simp [ih, findEntry, same, ← erased]
    · have kept : (compare key entry.1 != .eq) = true := by simpa using erased
      by_cases found : other = entry.1
      · have apart : other ≠ key := fun e => erased (e.symm.trans found)
        rw [if_neg apart]
        simp [kept, findEntry, found]
      · simp [kept, findEntry, found, ih]

omit [Std.TransOrd κ] in
theorem findEntry_eq_some_of_mem {entries : List (κ × ν)} (sorted : Increasing entries)
    {e : κ × ν} (member : e ∈ entries) : findEntry e.1 entries = some e.2 := by
  induction entries with
  | nil => exact absurd member List.not_mem_nil
  | cons entry rest ih =>
    obtain ⟨below, tail⟩ := List.pairwise_cons.1 sorted
    rcases List.mem_cons.1 member with rfl | inRest
    · simp [findEntry]
    · have apart : e.1 ≠ entry.1 := by
        intro equal
        have less := below e inRest
        rw [equal] at less
        simp at less
      simp [findEntry, apart, ih tail inRest]

omit [Std.TransOrd κ] in
theorem mem_of_findEntry {key : κ} {value : ν} {entries : List (κ × ν)}
    (found : findEntry key entries = some value) : (key, value) ∈ entries := by
  induction entries with
  | nil => simp [findEntry] at found
  | cons entry rest ih =>
    unfold findEntry at found
    split at found
    · rename_i equal
      have equal : key = entry.1 := by simpa using equal
      cases found
      subst equal
      exact List.mem_cons_self
    · exact List.mem_cons_of_mem _ (ih found)

/-- Two lists in key order are equal when every lookup agrees. -/
theorem Increasing.ext {left right : List (κ × ν)} (hl : Increasing left) (hr : Increasing right)
    (same : ∀ key, findEntry key left = findEntry key right) : left = right := by
  induction left generalizing right with
  | nil =>
    cases right with
    | nil => rfl
    | cons entry rest => simpa [findEntry] using same entry.1
  | cons first left ih =>
    cases right with
    | nil => simpa [findEntry] using same first.1
    | cons second right =>
      obtain ⟨belowL, tailL⟩ := List.pairwise_cons.1 hl
      obtain ⟨belowR, tailR⟩ := List.pairwise_cons.1 hr
      have firstKey : first.1 = second.1 := by
        have inRight := mem_of_findEntry ((same first.1).symm.trans
          (findEntry_eq_some_of_mem hl List.mem_cons_self))
        have inLeft := mem_of_findEntry ((same second.1).trans
          (findEntry_eq_some_of_mem hr List.mem_cons_self))
        rcases List.mem_cons.1 inRight with e | inRight
        · exact congrArg Prod.fst e
        · rcases List.mem_cons.1 inLeft with e | inLeft
          · exact (congrArg Prod.fst e).symm
          · have less := belowR _ inRight
            have more := belowL _ inLeft
            have loop := Std.TransCmp.lt_trans less more
            simp at loop
      have firstValue : first.2 = second.2 := by
        have := same first.1
        simpa [findEntry, firstKey] using this
      have tails : left = right := by
        refine ih tailL tailR fun key => ?_
        by_cases e : key = first.1
        · rw [e, findEntry_eq_none_of_lt belowL, firstKey, findEntry_eq_none_of_lt belowR]
        · have e' : key ≠ second.1 := fun x => e (x.trans firstKey.symm)
          have := same key
          simpa [findEntry, e, e'] using this
      rw [tails, Prod.ext firstKey firstValue]

end

/-! ### The maps -/

/-- A finite map whose entries stand in strictly increasing key order. -/
structure SortedMap (κ ν : Type) [Ord κ] where
  entries : List (κ × ν)
  sorted : Increasing entries

namespace SortedMap

@[ext] theorem ext {m n : SortedMap κ ν} (h : m.entries = n.entries) : m = n := by
  cases m; cases n; cases h; rfl

instance [DecidableEq κ] [DecidableEq ν] : DecidableEq (SortedMap κ ν) := fun m n =>
  if h : m.entries = n.entries then isTrue (ext h) else isFalse fun e => h (e ▸ rfl)

/-- The map without entries. -/
def empty : SortedMap κ ν := ⟨[], List.Pairwise.nil⟩

instance : EmptyCollection (SortedMap κ ν) := ⟨empty⟩
instance : Inhabited (SortedMap κ ν) := ⟨empty⟩

def get? (m : SortedMap κ ν) (key : κ) : Option ν := findEntry key m.entries

def contains (m : SortedMap κ ν) (key : κ) : Bool := (m.get? key).isSome

def keys (m : SortedMap κ ν) : List κ := m.entries.map (·.1)

def values (m : SortedMap κ ν) : List ν := m.entries.map (·.2)

def size (m : SortedMap κ ν) : Nat := m.entries.length

def isEmpty (m : SortedMap κ ν) : Bool := m.entries.isEmpty

/-- The map without this key. -/
def erase (m : SortedMap κ ν) (key : κ) : SortedMap κ ν :=
  ⟨eraseEntry key m.entries, increasing_eraseEntry key m.sorted⟩

/-- The map with every value replaced by its image. -/
def map (f : ν → μ) (m : SortedMap κ ν) : SortedMap κ μ :=
  ⟨m.entries.map fun entry => (entry.1, f entry.2), by
    unfold Increasing
    exact List.pairwise_map.2 m.sorted⟩

section
variable [Std.TransOrd κ]

/-- The map with `key` bound to `value`, whatever it was bound to before. -/
def insert (m : SortedMap κ ν) (key : κ) (value : ν) : SortedMap κ ν :=
  ⟨insertEntry key value m.entries, increasing_insertEntry key value m.sorted⟩

/-- The map that binds each key to the last value listed for it, on top of `m`. -/
def insertMany (m : SortedMap κ ν) (entries : List (κ × ν)) : SortedMap κ ν :=
  entries.foldl (fun m entry => m.insert entry.1 entry.2) m

/-- The map that binds each key to the last value listed for it. -/
def ofList (entries : List (κ × ν)) : SortedMap κ ν := insertMany ∅ entries

end

@[simp] theorem get?_empty (key : κ) : (∅ : SortedMap κ ν).get? key = none := rfl

/-- What is held by a map that holds nothing has every property. -/
theorem forall_of_empty {P : κ → ν → Prop} {m : SortedMap κ ν} (blank : m = ∅) :
    ∀ key value, m.get? key = some value → P key value := by
  intro key value found
  rw [blank] at found
  cases found

section
variable [Std.TransOrd κ] [Std.LawfulEqOrd κ]

theorem ext_get? {m n : SortedMap κ ν} (h : ∀ key, m.get? key = n.get? key) : m = n :=
  ext (m.sorted.ext n.sorted h)

theorem get?_insert [DecidableEq κ] (m : SortedMap κ ν) (key other : κ) (value : ν) :
    (m.insert key value).get? other = if other = key then some value else m.get? other :=
  findEntry_insertEntry key other value m.entries

@[simp] theorem get?_insert_self (m : SortedMap κ ν) (key : κ) (value : ν) :
    (m.insert key value).get? key = some value := by
  classical simp [get?_insert]

omit [Std.TransOrd κ] in
theorem get?_erase [DecidableEq κ] (m : SortedMap κ ν) (key other : κ) :
    (m.erase key).get? other = if other = key then none else m.get? other :=
  findEntry_eraseEntry key other m.entries

theorem insert_insert_self (m : SortedMap κ ν) (key : κ) (value other : ν) :
    (m.insert key value).insert key other = m.insert key other := by
  classical
  refine ext_get? fun at_key => ?_
  simp only [get?_insert]
  split <;> rfl

theorem erase_insert_self (m : SortedMap κ ν) (key : κ) (value : ν) :
    (m.insert key value).erase key = m.erase key := by
  classical
  refine ext_get? fun at_key => ?_
  simp only [get?_erase, get?_insert]
  split <;> rfl

theorem erase_of_absent {m : SortedMap κ ν} {key : κ} (absent : m.get? key = none) :
    m.erase key = m := by
  classical
  refine ext_get? fun at_key => ?_
  rw [get?_erase]
  split
  · rename_i here
    rw [here, absent]
  · rfl

/-- Whatever is put under a key, no key loses its value. -/
theorem get?_insert_ne_none {m : SortedMap κ ν} {other : κ} (held : m.get? other ≠ none) (key : κ)
    (value : ν) : (m.insert key value).get? other ≠ none := by
  classical
  rw [get?_insert]
  split
  · simp
  · exact held

omit [Std.TransOrd κ] [Std.LawfulEqOrd κ] in
theorem get?_map (f : ν → μ) (m : SortedMap κ ν) (key : κ) :
    (m.map f).get? key = (m.get? key).map f :=
  findEntry_map f key m.entries

omit [Std.TransOrd κ] in
theorem get?_eq_some_iff (m : SortedMap κ ν) (key : κ) (value : ν) :
    m.get? key = some value ↔ (key, value) ∈ m.entries :=
  ⟨mem_of_findEntry, fun member => findEntry_eq_some_of_mem m.sorted member⟩

omit [Std.TransOrd κ] in
theorem mem_values_iff (m : SortedMap κ ν) (value : ν) :
    value ∈ m.values ↔ ∃ key, m.get? key = some value := by
  constructor
  · intro member
    obtain ⟨⟨key, held⟩, entry, rfl⟩ := List.mem_map.1 member
    exact ⟨key, (m.get?_eq_some_iff key held).2 entry⟩
  · rintro ⟨key, found⟩
    exact List.mem_map_of_mem ((m.get?_eq_some_iff key value).1 found)

theorem get?_insertMany [DecidableEq κ] (m : SortedMap κ ν) {entries : List (κ × ν)}
    (sorted : Increasing entries) (key : κ) :
    (m.insertMany entries).get? key = (findEntry key entries).or (m.get? key) := by
  induction entries generalizing m with
  | nil => rfl
  | cons entry rest ih =>
    obtain ⟨below, tail⟩ := List.pairwise_cons.1 sorted
    show ((m.insert entry.1 entry.2).insertMany rest).get? key = _
    rw [ih _ tail, get?_insert]
    by_cases here : key = entry.1
    · subst here
      simp [findEntry, findEntry_eq_none_of_lt below]
    · simp [findEntry, here]

/-- A map is made again of its entries. -/
theorem ofList_entries (m : SortedMap κ ν) : ofList m.entries = m := by
  classical
  refine ext_get? fun key => ?_
  rw [ofList, get?_insertMany _ m.sorted, get?_empty, Option.or_none]
  rfl

end
end SortedMap

/-! ### Sets -/

/-- A finite set listed in strictly increasing order. -/
abbrev SortedSet (κ : Type) [Ord κ] := SortedMap κ Unit

namespace SortedSet

/-- The set with one more element, or the same set if it has it. -/
def add [Std.TransOrd κ] (s : SortedSet κ) (element : κ) : SortedSet κ := s.insert element ()

/-- The set with all these elements too. -/
def addMany [Std.TransOrd κ] (s : SortedSet κ) (elements : List κ) : SortedSet κ :=
  elements.foldl add s

/-- The set of the listed elements. -/
def ofList [Std.TransOrd κ] (elements : List κ) : SortedSet κ := addMany ∅ elements

/-- The set without these elements. -/
def dropMany (s : SortedSet κ) (elements : List κ) : SortedSet κ :=
  elements.foldl SortedMap.erase s

/-- The elements in increasing order. -/
def toList (s : SortedSet κ) : List κ := s.keys

section
variable [Std.TransOrd κ] [Std.LawfulEqOrd κ] [DecidableEq κ]

theorem get?_addMany (s : SortedSet κ) (elements : List κ) (element : κ) :
    (s.addMany elements).get? element =
      if element ∈ elements then some () else s.get? element := by
  induction elements generalizing s with
  | nil => simp [addMany]
  | cons first rest ih =>
    show ((s.add first).addMany rest).get? element = _
    rw [ih, add, SortedMap.get?_insert]
    by_cases here : element = first
    · simp [here]
    · by_cases later : element ∈ rest <;> simp [here, later]

omit [Std.TransOrd κ] in
theorem get?_dropMany (s : SortedSet κ) (elements : List κ) (element : κ) :
    (s.dropMany elements).get? element =
      if element ∈ elements then none else s.get? element := by
  induction elements generalizing s with
  | nil => simp [dropMany]
  | cons first rest ih =>
    show (dropMany (s.erase first) rest).get? element = _
    rw [ih, SortedMap.get?_erase]
    by_cases here : element = first
    · simp [here]
    · by_cases later : element ∈ rest <;> simp [here, later]

omit [Std.TransOrd κ] [DecidableEq κ] in
theorem mem_toList_iff (s : SortedSet κ) (element : κ) :
    element ∈ s.toList ↔ s.get? element = some () := by
  rw [SortedMap.get?_eq_some_iff, toList, SortedMap.keys, List.mem_map]
  constructor
  · rintro ⟨entry, member, rfl⟩
    exact member
  · exact fun member => ⟨(element, ()), member, rfl⟩

/-- The elements of the set of a list are those that are listed. -/
theorem mem_toList_ofList (elements : List κ) (element : κ) :
    element ∈ (ofList elements).toList ↔ element ∈ elements := by
  rw [mem_toList_iff, ofList, get?_addMany]
  simp

/-- A set is made again of its elements. -/
theorem ofList_toList (s : SortedSet κ) : ofList s.toList = s := by
  refine SortedMap.ext_get? fun element => ?_
  rw [ofList, get?_addMany, SortedMap.get?_empty]
  split
  · rename_i member
    exact ((s.mem_toList_iff element).1 member).symm
  · rename_i absent
    rw [mem_toList_iff] at absent
    cases found : s.get? element with
    | none => rfl
    | some held => exact absurd found absent

end

end SortedSet
end Casework
