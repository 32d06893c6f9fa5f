import Mathlib.Algebra.Group.Nat.Defs
import Casework.Proofs.StoredChanges

/-!
Scans of the instances. What a scan should come to is said apart from pages (`Query.Answers`): every
instance that matches once, earlier ones first. As long as the number of instances is below half of
what a word holds, every page ends at a word, so the pages join without gaps and the last one is
reached (`Page.walked_ofList`). So a scan answers with that list, whatever the size of the pages,
and in whatever order the instances were saved (`Request.findAll_exact`).
-/

namespace Casework

open Casework.Action

namespace Instance

/-- The instance comes before the other one: it started earlier, or together with it and its name
    comes first. -/
def Precedes (a b : Instance) : Prop :=
  compare a.start b.start = .lt ∨ a.start = b.start ∧ compare a.id b.id = .lt

abbrev inTime : Instance → Instance → Ordering :=
  compareLex (compareOn Instance.start) (compareOn Instance.id)

theorem inOrder_eq (a b : Instance) : Storage.inOrder a b = (inTime a b).isLE := rfl

theorem precedes_iff (a b : Instance) : a.Precedes b ↔ inTime a b = .lt := by
  show _ ↔ (compare a.start b.start).then (compare a.id b.id) = .lt
  rw [Ordering.then_eq_lt, Std.LawfulEqOrd.compare_eq_iff_eq]
  rfl

theorem Precedes.asymm {a b : Instance} (first : a.Precedes b) : ¬b.Precedes a := by
  rw [precedes_iff] at first ⊢
  exact Std.OrientedCmp.not_lt_of_lt first

theorem not_precedes_self (i : Instance) : ¬i.Precedes i :=
  fun before => before.asymm before

theorem precedes_of_inOrder {a b : Instance} (apart : a.id ≠ b.id)
    (ordered : Storage.inOrder a b = true) : a.Precedes b := by
  rw [inOrder_eq, Ordering.isLE_iff_eq_lt_or_eq_eq] at ordered
  rcases ordered with before | same
  · exact (precedes_iff a b).2 before
  · have names := (Ordering.then_eq_eq.1 same).2
    exact absurd (Std.LawfulEqOrd.eq_of_compare names) apart

theorem inOrder_trans (a b c : Instance) (first : Storage.inOrder a b = true)
    (second : Storage.inOrder b c = true) : Storage.inOrder a c = true := by
  rw [inOrder_eq] at first second ⊢
  exact Std.TransCmp.isLE_trans first second

theorem inOrder_total (a b : Instance) : (Storage.inOrder a b || Storage.inOrder b a) = true := by
  have swapped : inTime b a = (inTime a b).swap := Std.OrientedCmp.eq_swap
  rw [inOrder_eq, inOrder_eq, swapped]
  cases inTime a b <;> rfl

end Instance

/-- The list has every stored instance that matches, once, and earlier ones first. -/
structure Query.Answers (query : Query) (s : Storage) (items : List Instance) : Prop where
  members : ∀ i, i ∈ items ↔ query.accepts i = true ∧ s.instances.get? i.id = some i
  sorted : items.Pairwise Instance.Precedes

namespace Query.Answers

variable {query : Query} {s t : Storage} {items others : List Instance}

theorem nodup (answers : query.Answers s items) : items.Nodup := by
  refine answers.sorted.imp fun {a b} before => ?_
  rintro rfl
  exact a.not_precedes_self before

/-- The answer depends on nothing but the stored instances. -/
theorem unique (answers : query.Answers s items) (answers' : query.Answers t others)
    (same : t.instances = s.instances) : others = items := by
  have perm : others.Perm items := by
    refine (List.perm_ext_iff_of_nodup answers'.nodup answers.nodup).2 fun i => ?_
    rw [answers'.members, answers.members, same]
  refine perm.eq_of_pairwise (fun a b _ _ first second => ?_) answers'.sorted answers.sorted
  exact absurd second first.asymm

end Query.Answers

namespace Storage

variable {s : Storage}

theorem values_apart (keyed : ∀ id i, s.instances.get? id = some i → i.id = id) :
    s.instances.values.Pairwise fun a b => a.id ≠ b.id := by
  have own {entry : InstanceId × Instance} (member : entry ∈ s.instances.entries) :
      entry.2.id = entry.1 :=
    keyed _ _ ((s.instances.get?_eq_some_iff entry.1 entry.2).2 member)
  refine List.pairwise_map.2 (s.instances.sorted.imp_of_mem fun {a b} here there before same => ?_)
  rw [own here, own there] at same
  simp [same] at before

/-- Whichever order the instances are gone through in, those that match are sorted to the
    answer. -/
theorem answers_of_perm (keyed : ∀ id i, s.instances.get? id = some i → i.id = id) (query : Query)
    {docs : List Instance} (perm : docs.Perm s.instances.values) :
    query.Answers s ((docs.filter query.accepts).mergeSort inOrder) := by
  have stored (i : Instance) : i ∈ docs ↔ s.instances.get? i.id = some i := by
    rw [perm.mem_iff, SortedMap.mem_values_iff]
    constructor
    · rintro ⟨id, found⟩
      rwa [keyed id i found]
    · exact fun found => ⟨i.id, found⟩
  have apart : ((docs.filter query.accepts).mergeSort inOrder).Pairwise fun a b => a.id ≠ b.id := by
    have docs_apart := perm.symm.pairwise (values_apart keyed) Ne.symm
    exact (List.mergeSort_perm _ _).symm.pairwise (docs_apart.filter _) Ne.symm
  have ordered := List.pairwise_mergeSort Instance.inOrder_trans Instance.inOrder_total
    (docs.filter query.accepts)
  constructor
  · intro i
    rw [List.mem_mergeSort, List.mem_filter, stored, and_comm]
  · exact (apart.and ordered).imp fun both => Instance.precedes_of_inOrder both.1 both.2

theorem answers_matching (keyed : ∀ id i, s.instances.get? id = some i → i.id = id)
    (query : Query) : query.Answers s (s.matching query) :=
  answers_of_perm keyed query (.refl _)

theorem length_matching (s : Storage) (query : Query) :
    (s.matching query).length ≤ s.instances.size := by
  unfold matching
  have listed : s.instances.values.length = s.instances.size := List.length_map _
  rw [List.length_mergeSort, ← listed]
  exact List.length_filter_le _ _

end Storage

/-! ### Pages -/

namespace Page

variable {α : Type}

/-- The number of items before the page that is asked for. -/
def before (request : PageRequest) : Nat := request.page.toNat * request.size.toNat

/-- The number of items up to the end of the page that is asked for, if it is full. -/
def upTo (request : PageRequest) : Nat := (request.page.toNat + 1) * request.size.toNat

/-- The items that are fetched from a page on, page by page up to the last one. -/
inductive Walked (arithmetic : Arithmetic) (find : PageRequest → Except Error (Page α)) :
    PageRequest → List α → Prop
  | last {request : PageRequest} {page : Page α} (found : find request = .ok page)
      (final : page.next? arithmetic = .ok none) : Walked arithmetic find request page.items
  | onward {request next : PageRequest} {page : Page α} {later : List α}
      (found : find request = .ok page) (more : page.next? arithmetic = .ok (some next))
      (rest : Walked arithmetic find next later) :
      Walked arithmetic find request (page.items ++ later)

/-- The page begins among the items, or is the first one. -/
def Starts (request : PageRequest) (total : Nat) : Prop :=
  request.page = 0 ∨ before request < total

variable {items : List α} {request : PageRequest}

theorem toNat_pos {size : UInt64} (positive : size ≠ 0) : 0 < size.toNat :=
  Nat.pos_of_ne_zero fun none => positive (UInt64.toNat_inj.1 none)

theorem upTo_eq (request : PageRequest) : upTo request = before request + request.size.toNat :=
  Nat.succ_mul _ _

theorem fits_before (fits : upTo request < 2 ^ 64) : before request < 2 ^ 64 := by
  rw [upTo_eq] at fits
  omega

theorem toNat_next (positive : request.size ≠ 0) (fits : upTo request < 2 ^ 64) :
    request.page.toNat + 1 < 2 ^ 64 ∧ (request.page + 1).toNat = request.page.toNat + 1 := by
  have page_le : request.page.toNat + 1 ≤ upTo request :=
    Nat.le_mul_of_pos_right _ (toNat_pos positive)
  have small := Nat.lt_of_le_of_lt page_le fits
  rw [UInt64.toNat_add, UInt64.toNat_one]
  exact ⟨small, Nat.mod_eq_of_lt small⟩

/-- A page that begins at a word is the right part of the list, however words are computed with. -/
theorem ofList_of_fits (arithmetic : Arithmetic) (items : List α) (fits : before request < 2 ^ 64) :
    ofList arithmetic items request =
      .ok ⟨(items.drop (before request)).take request.size.toNat, request.page, request.size,
        items.length⟩ := by
  have place : (request.page * request.size).toNat = before request := by
    rw [UInt64.toNat_mul]
    exact Nat.mod_eq_of_lt fits
  unfold ofList
  rw [Arithmetic.mul_of_fits fits]
  show Except.ok (Page.mk ((items.drop (request.page * request.size).toNat).take _) _ _ _) = _
  rw [place]

/-- A page that ends at a word has a next page exactly if items are left for it. -/
theorem hasNext_of_fits (arithmetic : Arithmetic) (page : Page α)
    (here : page.page = request.page ∧ page.size = request.size) (positive : request.size ≠ 0)
    (fits : upTo request < 2 ^ 64) :
    page.hasNext arithmetic = .ok (decide (upTo request < page.total)) ∧
      page.next? arithmetic = .ok (if upTo request < page.total then
        some ⟨request.page + 1, request.size⟩ else none) := by
  obtain ⟨small, next⟩ := toNat_next positive fits
  have sum : arithmetic.add request.page 1 = .ok (request.page + 1) := by
    refine Arithmetic.add_of_fits ?_ arithmetic
    rwa [UInt64.toNat_one]
  have fits' : (request.page + 1).toNat * request.size.toNat < 2 ^ 64 := by
    rw [next]
    exact fits
  have place : ((request.page + 1) * request.size).toNat = upTo request := by
    rw [UInt64.toNat_mul, Nat.mod_eq_of_lt fits', next]
    rfl
  have shown : page.hasNext arithmetic = .ok (decide (upTo request < page.total)) := by
    unfold hasNext
    rw [here.1, here.2, sum]
    show (do
      let place ← arithmetic.mul (request.page + 1) request.size
      return decide (place.toNat < page.total)) = _
    rw [Arithmetic.mul_of_fits fits', ← place]
    rfl
  refine ⟨shown, ?_⟩
  unfold next?
  rw [shown, here.1, here.2, sum]
  by_cases left : upTo request < page.total
  · rw [if_pos left, decide_eq_true left]
    rfl
  · rw [if_neg left, decide_eq_false left]
    rfl

/-- A page that begins among fewer than 2^63 items ends at a word. A page of half a word or more is
    the first one. -/
theorem fits_of_starts (few : items.length < 2 ^ 63) (starts : Starts request items.length) :
    upTo request < 2 ^ 64 := by
  have size := request.size.toNat_lt
  rw [upTo_eq]
  by_cases first : request.page.toNat = 0
  · simp only [before, first, Nat.zero_mul, Nat.zero_add]
    exact size
  · have among : before request < items.length :=
      starts.resolve_left fun zero => first (by simp [zero])
    have size_le : request.size.toNat ≤ before request :=
      Nat.le_mul_of_pos_left _ (Nat.pos_of_ne_zero first)
    omega

theorem collect_of_found {page : Page α} (found : ofList .checked items request = .ok page) :
    collect items request =
      match page.next? .checked with
      | .ok (some next) => page.items ++ collect items next
      | .ok none | .error _ => page.items := by
  rw [collect]
  split
  · rename_i unfound
    rw [found] at unfound
    cases unfound
  · rename_i found'
    obtain rfl := Except.ok.inj (found.symm.trans found')
    split <;> simp_all

/-- From a page that begins among the items on, the pages have all the items behind its beginning,
    and there is a last one. -/
theorem walked_ofList (arithmetic : Arithmetic) (request : PageRequest)
    (few : items.length < 2 ^ 63) (positive : request.size ≠ 0)
    (starts : Starts request items.length) (find : PageRequest → Except Error (Page α))
    (finds : ∀ page, find ⟨page, request.size⟩ = ofList arithmetic items ⟨page, request.size⟩) :
    Walked arithmetic find request (items.drop (before request)) ∧
      collect items request = items.drop (before request) := by
  have fits := fits_of_starts few starts
  have onPage (arithmetic : Arithmetic) := ofList_of_fits arithmetic items (fits_before fits)
  have next (arithmetic : Arithmetic) := (hasNext_of_fits arithmetic
    ⟨(items.drop (before request)).take request.size.toNat, request.page, request.size,
      items.length⟩ ⟨rfl, rfl⟩ positive fits).2
  have found := (finds request.page).trans (onPage arithmetic)
  by_cases more : upTo request < items.length
  · rw [if_pos more] at next
    have begins : before ⟨request.page + 1, request.size⟩ = upTo request := by
      unfold before upTo
      rw [(toNat_next positive fits).2]
    obtain ⟨walked, collected⟩ := walked_ofList arithmetic ⟨request.page + 1, request.size⟩ few
      positive (.inr (begins ▸ more)) find finds
    have joined : (items.drop (before request)).take request.size.toNat ++
        items.drop (before ⟨request.page + 1, request.size⟩) = items.drop (before request) := by
      rw [begins, upTo_eq, ← List.drop_drop, List.take_append_drop]
    constructor
    · rw [← joined]
      exact .onward found (next arithmetic) walked
    · rw [collect_of_found (onPage .checked), next]
      simp only [collected]
      exact joined
  · rw [if_neg more] at next
    have all : (items.drop (before request)).take request.size.toNat =
        items.drop (before request) := by
      rw [List.take_of_length_le]
      rw [List.length_drop]
      rw [upTo_eq] at more
      omega
    constructor
    · have last := Walked.last found (next arithmetic)
      rwa [all] at last
    · rw [collect_of_found (onPage .checked), next]
      exact all
termination_by items.length - before request
decreasing_by
  have some_size := toNat_pos positive
  rw [begins, upTo_eq] at *
  omega

end Page

/-! ### Scans -/

namespace Request

variable {s : State}

theorem instances_run_saves {ctx : Context} (takes : ctx.outage .saveInstance = none)
    {saved : List Instance} (apart : saved.Pairwise fun a b => a.id ≠ b.id) {t : State}
    (fresh : ∀ i ∈ saved, t.storage.instances.get? i.id = none) (id : InstanceId) (i : Instance) :
    (run (saved.map fun i => (ctx, .saveInstance i)) t).2.storage.instances.get? id =
        some i ↔
      (i ∈ saved ∧ i.id = id) ∨ t.storage.instances.get? id = some i := by
  induction saved generalizing t with
  | nil => simp [run]
  | cons first rest ih =>
    obtain ⟨others, apart⟩ := List.pairwise_cons.1 apart
    have absent := fresh first List.mem_cons_self
    have entered : (outcome ((saveInstance first).perform ctx) t).2 = t.enter first := by
      rw [perform, state_map, outcome_saveInstance, takes]
      simp [Storage.save, SortedMap.contains, absent, State.enter]
    have get? (id : InstanceId) : (t.enter first).storage.instances.get? id =
        if id = first.id then some first else t.storage.instances.get? id :=
      SortedMap.get?_insert _ _ _ _
    have fresh' : ∀ i ∈ rest, (t.enter first).storage.instances.get? i.id = none := by
      intro i member
      rw [get?, if_neg (others i member).symm]
      exact fresh i (List.mem_cons_of_mem first member)
    show (run _ (outcome ((saveInstance first).perform ctx) t).2).2.storage.instances.get?
      id = some i ↔ _
    rw [entered, ih apart fresh', get?]
    by_cases here : id = first.id
    · have other : ¬(i ∈ rest ∧ i.id = id) := fun later =>
        others i later.1 (later.2.trans here).symm
      have unstored : t.storage.instances.get? id = none := by rw [here, absent]
      rw [if_pos here, unstored, List.mem_cons]
      constructor
      · rintro (later | same)
        · exact absurd later other
        · obtain rfl := Option.some.inj same
          exact .inl ⟨.inl rfl, here.symm⟩
      · rintro (⟨rfl | later, own⟩ | stored)
        · exact .inr rfl
        · exact absurd ⟨later, own⟩ other
        · cases stored
    · have other : i = first → i.id ≠ id := by
        rintro rfl
        exact Ne.symm here
      rw [if_neg here, List.mem_cons]
      constructor
      · exact .imp_left fun later => ⟨.inr later.1, later.2⟩
      · refine .imp_left ?_
        rintro ⟨same | later, own⟩
        · exact absurd own (other same)
        · exact ⟨later, own⟩

/-- Instances that are saved one by one are stored as they were before, whatever the order. -/
theorem instances_resaved (keyed : s.Keyed) {saved : List Instance}
    (perm : saved.Perm s.storage.instances.values) {ctx : Context}
    (takes : ctx.outage .saveInstance = none) {t : State} (blank : t.storage.instances = ∅) :
    (run (saved.map fun i => (ctx, .saveInstance i)) t).2.storage.instances =
      s.storage.instances := by
  have nothing (id : InstanceId) : t.storage.instances.get? id = none := by rw [blank]; rfl
  have apart := perm.symm.pairwise (Storage.values_apart keyed) Ne.symm
  refine SortedMap.ext_get? fun id => Option.ext fun i => ?_
  rw [instances_run_saves takes apart fun i _ => nothing i.id, nothing, perm.mem_iff,
    SortedMap.mem_values_iff]
  constructor
  · rintro (⟨⟨id', found⟩, rfl⟩ | stored)
    · rwa [keyed id' i found]
    · cases stored
  · exact fun found => .inl ⟨⟨id, found⟩, keyed id i found⟩

/-- The first page of a scan. -/
def firstPage (ctx : Context) : PageRequest :=
  ⟨0, if ctx.pageSize = 0 then Storage.defaultPageSize else ctx.pageSize⟩

/-- A scan of fewer than 2^63 instances has a last page and joins all pages to the matches, however
    words are computed with. -/
theorem walked_scan (ctx : Context) (arithmetic : Arithmetic) (query : Query)
    (few : s.storage.instances.size < 2 ^ 63) :
    Page.Walked arithmetic (s.storage.findPage arithmetic query) (firstPage ctx)
        (s.storage.matching query) ∧
      s.storage.scan query ctx.pageSize = s.storage.matching query := by
  have fewer : (s.storage.matching query).length < 2 ^ 63 :=
    Nat.lt_of_le_of_lt (Storage.length_matching s.storage query) few
  have positive : (firstPage ctx).size ≠ 0 := by
    show ite (ctx.pageSize = 0) Storage.defaultPageSize ctx.pageSize ≠ 0
    split
    · decide
    · assumption
  have whole := Page.walked_ofList arithmetic (firstPage ctx) fewer positive (.inl rfl)
    (s.storage.findPage arithmetic query) fun page => if_neg positive
  have begins : Page.before (firstPage ctx) = 0 := Nat.zero_mul _
  rw [begins, List.drop_zero] at whole
  exact whole

/-- Where pages are found, a scan of fewer than 2^63 instances comes to its last page, however words
    are computed with, and answers with every stored instance that matches, once, earlier ones
    first. It is the same answer in
    whatever order the storage goes its instances through, and the same, whatever number of
    instances is fetched at a time, after they have been saved in any other order. -/
theorem findAll_exact (keyed : s.Keyed) (few : s.storage.instances.size < 2 ^ 63) {ctx : Context}
    (answers : ctx.outage .findPage = none) (query : Query) :
    ∃ items, outcome ((findAll query).perform ctx) s = (.ok (.instances items), s) ∧
      (∀ arithmetic,
        Page.Walked arithmetic (s.storage.findPage arithmetic query) (firstPage ctx) items) ∧
      query.Answers s.storage items ∧
      (∀ docs : List Instance, docs.Perm s.storage.instances.values →
        (docs.filter query.accepts).mergeSort Storage.inOrder = items) ∧
      ∀ (other : Context) (saved : List Instance) (t : State),
        saved.Perm s.storage.instances.values → t.storage.instances = ∅ →
        other.outage .saveInstance = none → other.outage .findPage = none →
        (outcome ((findAll query).perform other)
          (run (saved.map fun i => (other, .saveInstance i)) t).2).1 = .ok (.instances items) := by
  have matches_answer := Storage.answers_matching keyed query
  have scanned := (walked_scan ctx ctx.arithmetic query few).2
  refine ⟨s.storage.matching query, ?_, fun arithmetic => (walked_scan ctx arithmetic query few).1,
    matches_answer, ?_, ?_⟩
  · rw [perform, outcome_map, outcome_findAll, answers, scanned]
  · intro docs perm
    exact matches_answer.unique (Storage.answers_of_perm keyed query perm) rfl
  · intro other saved t perm blank takes answers'
    have stored := instances_resaved keyed perm takes blank
    generalize (run (saved.map fun i => (other, .saveInstance i)) t).2 = s' at stored
    have keyed' : s'.Keyed := fun id i found => keyed id i (by rwa [← stored])
    have few' : s'.storage.instances.size < 2 ^ 63 := by rwa [stored]
    have same := matches_answer.unique (Storage.answers_matching keyed' query) stored
    rw [perform, outcome_map, outcome_findAll, answers', (walked_scan other .checked query few').2,
      same]

def begun (id : InstanceId) (second : Int) : Instance :=
  { Desk.opened.startedAt (.ofSecond second) with id := id }

/-- An instance is saved and then two that began together, the one with the greater name first. -/
def threeSaved : State :=
  (run [
    (Desk.context "-", .saveInstance (begun "case-3" 2)),
    (Desk.context "-", .saveInstance (begun "case-2" 5)),
    (Desk.context "-", .saveInstance (begun "case-1" 5))] Desk.empty).2

def twoAtATime : Context := { Desk.context "-" with pageSize := 2 }

theorem findAll_exact_paged :
    threeSaved.Keyed ∧ threeSaved.storage.instances.size < 2 ^ 63 ∧
      twoAtATime.outage .findPage = none ∧
      ∃ items, outcome ((findAll {}).perform twoAtATime) threeSaved =
          (.ok (.instances items), threeSaved) ∧
        (∀ arithmetic,
          Page.Walked arithmetic (threeSaved.storage.findPage arithmetic {}) ⟨0, 2⟩ items) ∧
        items = [begun "case-3" 2, begun "case-1" 5, begun "case-2" 5] := by
  have keyed : threeSaved.Keyed := keyed_run _ (State.keyed_of_blank rfl)
  have few : threeSaved.storage.instances.size < 2 ^ 63 := by decide +kernel
  have found : twoAtATime.outage .findPage = none := rfl
  obtain ⟨items, answer, walked, -, sorted, -⟩ := findAll_exact keyed few found {}
  refine ⟨keyed, few, found, items, answer, walked, ?_⟩
  have values : threeSaved.storage.instances.values =
      [begun "case-1" 5, begun "case-2" 5] ++ [begun "case-3" 2] := by decide +kernel
  -- The matches are sorted from the list that is in order already.
  have perm : ([begun "case-3" 2] ++ [begun "case-1" 5, begun "case-2" 5]).Perm
      threeSaved.storage.instances.values := by
    rw [values]
    exact List.perm_append_comm
  have ordered : [begun "case-3" 2, begun "case-1" 5, begun "case-2" 5].Pairwise
      (fun a b => Storage.inOrder a b = true) := by decide +kernel
  rw [← sorted _ perm]
  exact List.mergeSort_of_pairwise ordered

end Request
end Casework
