import Casework.Proofs.FullScans

/-!
Single pages, for every page number and size. As long as the place where a page ends is a word, the
page is the right part of the answer and tells the truth about the next page. Beyond, checked
arithmetic gives the request up (`Page.Overflows`). Wrapping arithmetic takes a place for its word,
which does no harm unless the place is behind the answer and its word is not (`Page.Wraps`). So each
build has its own condition under which a page is exact (`Storage.findPage_exact_iff`).
-/

namespace Casework

namespace Page

variable {α : Type} {items : List α} {request : PageRequest}

/-- The place is behind so many items, and its word is not. -/
def Wraps (total place : Nat) : Prop := place % 2 ^ 64 < total ∧ total ≤ place

/-- The page is the part of the items that is asked for; it has a next page exactly if items are
    left, which is the page with the next number. -/
structure Exact (arithmetic : Arithmetic) (answer : List α) (request : PageRequest)
    (page : Page α) : Prop where
  items : page.items = (answer.drop (before request)).take request.size.toNat
  hasNext : page.hasNext arithmetic = .ok (decide (upTo request < answer.length))
  next : upTo request < answer.length → ∃ next, page.next? arithmetic = .ok (some next) ∧
    next.page.toNat = request.page.toNat + 1 ∧ next.size = request.size
  last : answer.length ≤ upTo request → page.next? arithmetic = .ok none

/-- The request is given up where the page begins, or the page is found and the question for the
    next one is given up. -/
inductive Overflows (answer : List α) (request : PageRequest) : Except Error (Page α) → Prop
  | beginning : Overflows answer request (.error (.overflow .product))
  | ending {page : Page α} {result : Overflow}
      (items : page.items = (answer.drop (before request)).take request.size.toNat)
      (hasNext : page.hasNext .checked = .error (.overflow result))
      (next : page.next? .checked = .error (.overflow result)) :
      Overflows answer request (.ok page)

/-- The page that is found where the place at which it begins is cut down to a word. -/
def cut (items : List α) (request : PageRequest) : Page α :=
  ⟨(items.drop (before request % 2 ^ 64)).take request.size.toNat, request.page, request.size,
    items.length⟩

theorem cut_of_fits (items : List α) (fits : before request < 2 ^ 64) :
    cut items request =
      ⟨(items.drop (before request)).take request.size.toNat, request.page, request.size,
        items.length⟩ := by
  rw [cut, Nat.mod_eq_of_lt fits]

theorem exact_of_fits (arithmetic : Arithmetic) (items : List α) (positive : request.size ≠ 0)
    (fits : upTo request < 2 ^ 64) :
    ofList arithmetic items request = .ok (cut items request) ∧
      (cut items request).Exact arithmetic items request := by
  have begins := fits_before fits
  obtain ⟨hasNext, next⟩ := hasNext_of_fits arithmetic (cut items request)
    ⟨rfl, rfl⟩ positive fits
  have number := (toNat_next positive fits).2
  rw [cut_of_fits items begins] at hasNext next ⊢
  refine ⟨ofList_of_fits arithmetic items begins, rfl, hasNext, fun left => ?_, fun none => ?_⟩
  · exact ⟨⟨request.page + 1, request.size⟩, next.trans (by rw [if_pos left]), number, rfl⟩
  · exact next.trans (by rw [if_neg (Nat.not_lt.2 none)])

/-! ### Checked arithmetic -/

theorem ofList_of_exceeds (items : List α) (exceeds : 2 ^ 64 ≤ before request) :
    ofList .checked items request = .error (.overflow .product) := by
  unfold ofList
  rw [Arithmetic.mul_of_exceeds exceeds]
  rfl

theorem hasNext_of_greatest {page : Page α} (exceeds : 2 ^ 64 ≤ page.page.toNat + 1) :
    page.hasNext .checked = .error (.overflow .sum) := by
  unfold hasNext
  rw [Arithmetic.add_of_exceeds exceeds]
  rfl

theorem hasNext_of_exceeds (page : Page α)
    (exceeds : 2 ^ 64 ≤ (page.page.toNat + 1) * page.size.toNat) :
    ∃ result, page.hasNext .checked = .error (.overflow result) ∧
      page.next? .checked = .error (.overflow result) := by
  have stops (result : Overflow) (stop : page.hasNext .checked = .error (.overflow result)) :
      page.next? .checked = .error (.overflow result) := by
    unfold next?
    rw [stop]
    rfl
  by_cases greatest : 2 ^ 64 ≤ page.page.toNat + 1
  · exact ⟨.sum, hasNext_of_greatest greatest, stops .sum (hasNext_of_greatest greatest)⟩
  · have small : page.page.toNat + (1 : UInt64).toNat < 2 ^ 64 := Nat.lt_of_not_le greatest
    have number : (page.page + 1).toNat = page.page.toNat + 1 := by
      rw [UInt64.toNat_add]
      exact Nat.mod_eq_of_lt small
    have stop : page.hasNext .checked = .error (.overflow .product) := by
      unfold hasNext
      rw [Arithmetic.add_of_fits small]
      show (do
        let place ← Arithmetic.checked.mul (page.page + 1) page.size
        return decide (place.toNat < page.total)) = _
      rw [Arithmetic.mul_of_exceeds (by rwa [number])]
      rfl
    exact ⟨.product, stop, stops .product stop⟩

theorem overflows_of_exceeds (items : List α) (exceeds : 2 ^ 64 ≤ upTo request) :
    Overflows items request (ofList .checked items request) := by
  by_cases fits : before request < 2 ^ 64
  · rw [ofList_of_fits .checked items fits]
    obtain ⟨result, hasNext, next⟩ := hasNext_of_exceeds
      ⟨(items.drop (before request)).take request.size.toNat, request.page, request.size,
        items.length⟩ exceeds
    exact .ending rfl hasNext next
  · rw [ofList_of_exceeds items (Nat.le_of_not_lt fits)]
    exact .beginning

theorem Overflows.not_exact {found : Except Error (Page α)}
    (overflows : Overflows items request found) {page : Page α} (same : found = .ok page) :
    ¬page.Exact .checked items request := by
  intro exact_page
  cases overflows with
  | beginning => cases same
  | ending _ hasNext _ =>
    cases same
    rw [exact_page.hasNext] at hasNext
    cases hasNext

/-! ### Wrapping arithmetic -/

/-- Among fewer than 2^64 items, a place that is not its word is behind them. -/
theorem word_cases {total : Nat} (few : total < 2 ^ 64) (place : Nat) :
    place % 2 ^ 64 = place ∨ total ≤ place := by
  by_cases small : place < 2 ^ 64
  · exact .inl (Nat.mod_eq_of_lt small)
  · exact .inr (by omega)

/-- A place and its word are both among the items or both behind them, unless the place wraps. -/
theorem word_lt_iff {total : Nat} (few : total < 2 ^ 64) (place : Nat) :
    (place % 2 ^ 64 < total ↔ place < total) ↔ ¬Wraps total place := by
  unfold Wraps
  rcases word_cases few place with same | behind
  · rw [same]
    omega
  · omega

/-- The same items are left from a place and from its word on, unless the place wraps. -/
theorem take_drop_word_iff (few : items.length < 2 ^ 64) (place : Nat) {size : Nat}
    (positive : 0 < size) :
    (items.drop (place % 2 ^ 64)).take size = (items.drop place).take size ↔
      ¬Wraps items.length place := by
  rcases word_cases few place with same | behind
  · have apart : ¬Wraps items.length place := fun wraps => by
      have among := wraps.1
      rw [same] at among
      exact absurd among (Nat.not_lt_of_le wraps.2)
    rw [same]
    exact iff_of_true rfl apart
  · -- Nothing is left from the place on, so its word must be behind the items as well.
    have nothing : items.drop place = [] := List.drop_eq_nil_of_le behind
    have some_size : size ≠ 0 := by omega
    simp [nothing, Wraps, behind, some_size]

theorem ofList_wrapping (items : List α) (request : PageRequest) :
    ofList .wrapping items request = .ok (cut items request) := by
  have place : (request.page * request.size).toNat = before request % 2 ^ 64 :=
    UInt64.toNat_mul _ _
  unfold ofList cut
  rw [Arithmetic.mul_wrapping, ← place]
  rfl

theorem hasNext_wrapping (items : List α) (request : PageRequest) :
    (cut items request).hasNext .wrapping =
      .ok (decide (upTo request % 2 ^ 64 < items.length)) := by
  have place : ((request.page + 1) * request.size).toNat = upTo request % 2 ^ 64 := by
    rw [UInt64.toNat_mul, UInt64.toNat_add, UInt64.toNat_one, Nat.mod_mul_mod]
    rfl
  unfold hasNext
  rw [Arithmetic.add_wrapping, ← place]
  show (do
    let place ← Arithmetic.wrapping.mul (request.page + 1) request.size
    return decide (place.toNat < items.length)) = _
  rw [Arithmetic.mul_wrapping]
  rfl

theorem next?_wrapping (items : List α) (request : PageRequest) :
    (cut items request).next? .wrapping =
      .ok (if upTo request % 2 ^ 64 < items.length then some ⟨request.page + 1, request.size⟩
        else none) := by
  unfold next?
  rw [hasNext_wrapping, Arithmetic.add_wrapping]
  by_cases left : upTo request % 2 ^ 64 < items.length
  · rw [if_pos left, decide_eq_true left]
    rfl
  · rw [if_neg left, decide_eq_false left]
    rfl

theorem exact_wrapping_iff (few : items.length < 2 ^ 64) (positive : request.size ≠ 0) :
    (cut items request).Exact .wrapping items request ↔
      ¬Wraps items.length (before request) ∧ ¬Wraps items.length (upTo request) := by
  constructor
  · intro exact_page
    have shown := (hasNext_wrapping items request).symm.trans exact_page.hasNext
    exact ⟨(take_drop_word_iff few _ (toNat_pos positive)).1 exact_page.items,
      (word_lt_iff few _).1 (decide_eq_decide.1 (Except.ok.inj shown))⟩
  · rintro ⟨begins, ends⟩
    have same := (word_lt_iff few _).2 ends
    have next := next?_wrapping items request
    refine ⟨(take_drop_word_iff few _ (toNat_pos positive)).2 begins, ?_, fun left => ?_,
      fun none => ?_⟩
    · rw [hasNext_wrapping, decide_eq_decide.2 same]
    · -- The end of the page is among the items, so it is a word.
      have number := (toNat_next positive (Nat.lt_trans left few)).2
      exact ⟨⟨request.page + 1, request.size⟩, next.trans (by rw [if_pos (same.2 left)]), number,
        rfl⟩
    · exact next.trans (by rw [if_neg fun left => Nat.not_lt.2 none (same.1 left)])

end Page

/-! ### Pages of the storage -/

namespace Storage

variable {s : Storage}

/-- With checked arithmetic, a page is found that is exactly the part of the answer that is asked
    for, with the right next page, if and only if the place where it ends is a word; otherwise
    the request or the question for the next page is given up. With wrapping arithmetic a page is
    found always, and it is exact if and only if neither the place where it begins nor the one
    where it ends lies behind the answer and has a word that does not. -/
theorem findPage_exact_iff (keyed : ∀ id i, s.instances.get? id = some i → i.id = id)
    (few : s.instances.size < 2 ^ 64) (query : Query) {request : PageRequest}
    (positive : request.size ≠ 0) :
    ∃ items, query.Answers s items ∧
      ((∃ page, s.findPage .checked query request = .ok page ∧ page.total = items.length ∧
          page.Exact .checked items request) ↔ Page.upTo request < 2 ^ 64) ∧
      (2 ^ 64 ≤ Page.upTo request →
        Page.Overflows items request (s.findPage .checked query request)) ∧
      ∃ page, s.findPage .wrapping query request = .ok page ∧ page.total = items.length ∧
        (page.Exact .wrapping items request ↔
          ¬Page.Wraps items.length (Page.before request) ∧
            ¬Page.Wraps items.length (Page.upTo request)) := by
  have fewer : (s.matching query).length < 2 ^ 64 :=
    Nat.lt_of_le_of_lt (length_matching s query) few
  have page_of (arithmetic : Arithmetic) : s.findPage arithmetic query request =
      Page.ofList arithmetic (s.matching query) request := if_neg positive
  refine ⟨s.matching query, answers_matching keyed query, ⟨?_, fun fits => ?_⟩,
    fun exceeds => ?_, ?_⟩
  · rintro ⟨page, found, -, exact_page⟩
    rw [page_of] at found
    exact Nat.lt_of_not_le fun exceeds =>
      (Page.overflows_of_exceeds _ exceeds).not_exact found exact_page
  · obtain ⟨found, exact_page⟩ :=
      Page.exact_of_fits .checked (s.matching query) positive fits
    exact ⟨_, (page_of .checked).trans found, rfl, exact_page⟩
  · rw [page_of]
    exact Page.overflows_of_exceeds _ exceeds
  · exact ⟨_, (page_of .wrapping).trans (Page.ofList_wrapping _ _), rfl,
      Page.exact_wrapping_iff fewer positive⟩

theorem findPage_exact_lastPage :
    let s := Request.threeSaved.storage
    let request : PageRequest := ⟨1, 2⟩
    (∀ id i, s.instances.get? id = some i → i.id = id) ∧ s.instances.size < 2 ^ 64 ∧
      request.size ≠ 0 ∧
      ∃ items page, s.findPage .checked {} request = .ok page ∧ page.total = 3 ∧
        page.Exact .checked items request ∧ page.items.length = 1 ∧
        page.next? .checked = .ok none := by
  intro s request
  have keyed : ∀ id i, s.instances.get? id = some i → i.id = id :=
    Request.keyed_run _ (State.keyed_of_blank rfl)
  have few : s.instances.size < 2 ^ 64 := by decide +kernel
  have positive : request.size ≠ 0 := by decide
  obtain ⟨items, answers, exact_iff, -, -⟩ := findPage_exact_iff keyed few {} positive
  obtain ⟨page, found, total, page_exact⟩ := exact_iff.2 (by decide)
  have three : items.length = 3 := by
    have same : s.matching {} = items := answers.unique (answers_matching keyed {}) rfl
    rw [← same, matching, List.length_mergeSort]
    decide +kernel
  refine ⟨keyed, few, positive, items, page, found, total.trans three, page_exact, ?_, ?_⟩
  · rw [page_exact.items, List.length_take, List.length_drop, three]
    rfl
  · refine page_exact.last ?_
    rw [three]
    decide

/-- One instance is stored. Two on a page, the page of number 2^63 cannot be asked for, or it holds
    that instance. One on a page, it cannot be told what follows the page of the greatest number,
    or the first page follows it. -/
theorem findPage_behind_end :
    let s := (Desk.empty.enter Desk.opened).storage
    let far : PageRequest := ⟨0x8000000000000000, 2⟩
    let farthest : PageRequest := ⟨0xffffffffffffffff, 1⟩
    s.matching {} = [Desk.opened] ∧
      s.findPage .checked {} far = .error (.overflow .product) ∧
      (∃ page, s.findPage .wrapping {} far = .ok page ∧ page.items = [Desk.opened] ∧
        ¬page.Exact .wrapping (s.matching {}) far) ∧
      (∃ page, s.findPage .checked {} farthest = .ok page ∧
        page.hasNext .checked = .error (.overflow .sum)) ∧
      ∃ page, s.findPage .wrapping {} farthest = .ok page ∧ page.hasNext .wrapping = .ok true ∧
        page.next? .wrapping = .ok (some ⟨0, 1⟩) ∧
        ¬page.Exact .wrapping (s.matching {}) farthest := by
  intro s far farthest
  have one : s.matching {} = [Desk.opened] := List.mergeSort_singleton _
  have few : (s.matching {}).length < 2 ^ 64 := by rw [one]; decide
  have stopped : s.findPage .checked {} far = .error (.overflow .product) :=
    (if_neg (by decide)).trans (Page.ofList_of_exceeds _ (by decide))
  have found : s.findPage .checked {} farthest = _ :=
    (if_neg (by decide)).trans (Page.ofList_of_fits .checked _ (by decide))
  have wrapped (request : PageRequest) (positive : request.size ≠ 0) :
      s.findPage .wrapping {} request = .ok (Page.cut [Desk.opened] request) := by
    rw [← one]
    exact (if_neg positive).trans (Page.ofList_wrapping _ _)
  have onPage : (Page.cut [Desk.opened] far).items = [Desk.opened] := by decide +kernel
  refine ⟨one, stopped, ⟨_, wrapped far (by decide), onPage, fun exact_page => ?_⟩,
    ⟨_, found, Page.hasNext_of_greatest (by decide)⟩,
    ⟨_, wrapped farthest (by decide),
      (Page.hasNext_wrapping _ _).trans (congrArg Except.ok (by decide +kernel)),
      (Page.next?_wrapping _ _).trans (congrArg Except.ok (by decide +kernel)),
      fun exact_page => ?_⟩⟩
  · rw [← one, Page.exact_wrapping_iff few (by decide), one] at exact_page
    exact exact_page.1 ⟨by decide, by decide⟩
  · rw [← one, Page.exact_wrapping_iff few (by decide), one] at exact_page
    exact exact_page.2 ⟨by decide, by decide⟩

end Storage
end Casework
