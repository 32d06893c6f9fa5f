import Casework.Calendar

/-!
The calendar and the numbers of its days. A cycle of 400 years is four centuries, a century is
25 spans of four years, and the leap day is the last day of a span, or of the last span of the
cycle (`Place`). So the day of every number exists (`exists_ofDays`), and it has that number
(`toDays_ofDays`).
-/

namespace Casework.Date

/-- Where a day stands in a cycle: in which century, in which four years of the century, in which
    of these years, and in the year itself. -/
structure Place where
  century : Int
  span : Int
  year : Int
  day : Int
  century_bounds : 0 ≤ century ∧ century ≤ 3
  span_bounds : 0 ≤ span ∧ span ≤ 24
  year_bounds : 0 ≤ year ∧ year ≤ 3
  day_bounds : 0 ≤ day ∧ day ≤ 365
  /-- Only the last of four years has a leap day, and not at the end of the first centuries. -/
  leap : day = 365 → year = 3 ∧ (span < 24 ∨ century = 3)

namespace Place

def yearOfCycle (p : Place) : Int := 100 * p.century + 4 * p.span + p.year

def dayOfCycle (p : Place) : Int := 36524 * p.century + 1461 * p.span + 365 * p.year + p.day

/-- Every day of a cycle has its place. -/
theorem exists_dayOfCycle {n : Int} (start : 0 ≤ n) (finish : n < 146097) :
    ∃ p : Place, p.dayOfCycle = n := by
  have century : ∃ c, 0 ≤ c ∧ c ≤ 3 ∧ 0 ≤ n - 36524 * c ∧
      (n - 36524 * c < 36524 ∨ (c = 3 ∧ n - 36524 * c = 36524)) := by
    by_cases last : n = 146096
    · exact ⟨3, by omega⟩
    · exact ⟨n / 36524, by omega⟩
  obtain ⟨c, c_low, c_high, d_low, d_high⟩ := century
  generalize inCentury : n - 36524 * c = d at d_low d_high
  have year : ∃ y, 0 ≤ y ∧ y ≤ 3 ∧ 0 ≤ d % 1461 - 365 * y ∧
      (d % 1461 - 365 * y < 365 ∨ (y = 3 ∧ d % 1461 = 1460)) := by
    by_cases last : d % 1461 = 1460
    · exact ⟨3, by omega⟩
    · exact ⟨d % 1461 / 365, by omega⟩
  obtain ⟨y, y_low, y_high, r_low, r_high⟩ := year
  refine ⟨⟨c, d / 1461, y, d % 1461 - 365 * y, ⟨c_low, c_high⟩, by omega, ⟨y_low, y_high⟩,
    by omega, by omega⟩, ?_⟩
  simp only [dayOfCycle]
  omega

variable (p : Place)

/-- The days before a year of the cycle: 365 for each year, and the leap days among them. -/
theorem dayOfCycle_eq :
    p.dayOfCycle =
      365 * p.yearOfCycle + p.yearOfCycle / 4 - p.yearOfCycle / 100 + p.day := by
  have century := p.century_bounds
  have span := p.span_bounds
  have year := p.year_bounds
  have fours : p.yearOfCycle / 4 = 25 * p.century + p.span := by
    unfold yearOfCycle
    omega
  have hundreds : p.yearOfCycle / 100 = p.century := by
    unfold yearOfCycle
    omega
  rw [fours, hundreds]
  unfold dayOfCycle yearOfCycle
  omega

theorem yearOfCycle_bounds : 0 ≤ p.yearOfCycle ∧ p.yearOfCycle ≤ 399 := by
  have century := p.century_bounds
  have span := p.span_bounds
  have year := p.year_bounds
  unfold yearOfCycle
  omega

/-- The year of the cycle is found by leaving the leap days out. -/
theorem year_of_dayOfCycle :
    (p.dayOfCycle - p.dayOfCycle / 1460 + p.dayOfCycle / 36524 - p.dayOfCycle / 146096) / 365 =
      p.yearOfCycle := by
  obtain ⟨c_low, c_high⟩ := p.century_bounds
  obtain ⟨q_low, q_high⟩ := p.span_bounds
  obtain ⟨y_low, y_high⟩ := p.year_bounds
  obtain ⟨d_low, d_high⟩ := p.day_bounds
  have leap := p.leap
  have hundreds : p.dayOfCycle / 36524 - p.dayOfCycle / 146096 = p.century := by
    -- The last day of the cycle is the only one behind 36524 days of its century.
    have inside : 1461 * p.span + 365 * p.year + p.day < 36524 ∨
        p.century = 3 ∧ p.dayOfCycle = 146096 := by
      unfold dayOfCycle
      omega
    rcases inside with inside | ⟨century, last⟩
    · have before : p.dayOfCycle < 146096 := by
        unfold dayOfCycle
        omega
      have none : p.dayOfCycle / 146096 = 0 := by
        unfold dayOfCycle at *
        omega
      rw [none]
      unfold dayOfCycle
      omega
    · rw [last, century]
      rfl
  -- A span counts one day too many by its last days, which are not enough for another year.
  have fours : ∃ k, p.dayOfCycle / 1460 = 25 * p.century + p.span + k ∧ 0 ≤ k ∧ k ≤ 1 ∧
      (k = 1 → 269 ≤ p.day) ∧ (p.day = 365 → k = 1) := by
    unfold dayOfCycle
    refine ⟨(24 * p.century + p.span + 365 * p.year + p.day) / 1460, ?_⟩
    omega
  obtain ⟨k, fours, k_low, k_high, late, last⟩ := fours
  unfold yearOfCycle
  have rest : p.dayOfCycle - p.dayOfCycle / 1460 + p.dayOfCycle / 36524 - p.dayOfCycle / 146096 =
      365 * (100 * p.century + 4 * p.span + p.year) + (p.day - k) := by
    unfold dayOfCycle at *
    omega
  rw [rest]
  omega

end Place

/-! ### The day of a number -/

variable (n : Int)

/-- The parts of the day of a number: the year of the cycle counted from March, and the month and
    the day in it. -/
theorem ofDays_eq {p : Place} (place : p.dayOfCycle = (n + 719468) % 146097) :
    ofDays n =
      let monthFromMarch := (5 * p.day + 2) / 153
      let month := if monthFromMarch < 10 then monthFromMarch + 3 else monthFromMarch - 9
      ⟨p.yearOfCycle + (n + 719468) / 146097 * 400 + (if month ≤ 2 then 1 else 0), month.toNat,
        (p.day - (153 * monthFromMarch + 2) / 5 + 1).toNat⟩ := by
  have day : p.dayOfCycle -
      (365 * p.yearOfCycle + p.yearOfCycle / 4 - p.yearOfCycle / 100) = p.day := by
    have split := p.dayOfCycle_eq
    omega
  unfold ofDays
  simp only [← place, p.year_of_dayOfCycle, day]

theorem exists_place : ∃ p : Place, p.dayOfCycle = (n + 719468) % 146097 :=
  Place.exists_dayOfCycle (by omega) (by omega)

/-- The months counted from March: their first days, and the days that they have. -/
theorem month_bounds {d m : Int} (low : 0 ≤ d) (high : d ≤ 365) (month : (5 * d + 2) / 153 = m) :
    0 ≤ m ∧ m ≤ 11 ∧ (153 * m + 2) / 5 ≤ d ∧ d < (153 * (m + 1) + 2) / 5 := by
  omega

/-- The day of a number has that number. -/
theorem toDays_ofDays : (ofDays n).toDays = n := by
  obtain ⟨p, place⟩ := exists_place n
  have split := p.dayOfCycle_eq
  obtain ⟨y_low, y_high⟩ := p.yearOfCycle_bounds
  rw [ofDays_eq n place]
  generalize month : (5 * p.day + 2) / 153 = m
  obtain ⟨m_low, m_high, first, -⟩ := month_bounds p.day_bounds.1 p.day_bounds.2 month
  have day : ((p.day - (153 * m + 2) / 5 + 1).toNat : Int) = p.day - (153 * m + 2) / 5 + 1 :=
    Int.toNat_of_nonneg (by omega)
  generalize cycle : (n + 719468) / 146097 = c
  have quotient : (p.yearOfCycle + c * 400) / 400 = c := by omega
  have remainder : (p.yearOfCycle + c * 400) % 400 = p.yearOfCycle := by omega
  unfold toDays
  by_cases early : m < 10
  · have number : ((m + 3).toNat : Int) = m + 3 := Int.toNat_of_nonneg (by omega)
    have late : ¬(m + 3).toNat ≤ 2 ∧ ¬m + 3 ≤ 2 := by omega
    simp only [early, late, if_true, if_false, gt_iff_lt, Nat.lt_of_not_le late.1, number, day,
      Int.add_zero, Int.add_sub_cancel, quotient, remainder]
    omega
  · have number : ((m - 9).toNat : Int) = m - 9 := Int.toNat_of_nonneg (by omega)
    have early' : (m - 9).toNat ≤ 2 ∧ m - 9 ≤ 2 := by omega
    simp only [early, early', if_true, if_false, gt_iff_lt, Nat.not_lt.2 early'.1, number, day,
      Int.add_sub_cancel, Int.sub_add_cancel, quotient, remainder]
    omega

theorem isLeapYear_of_place {p : Place} (leap : p.day = 365) (cycle : Int) :
    isLeapYear (p.yearOfCycle + cycle * 400 + 1) = true := by
  obtain ⟨year, last⟩ := p.leap leap
  have century := p.century_bounds
  have span := p.span_bounds
  unfold isLeapYear Place.yearOfCycle
  simp only [Bool.and_eq_true, Bool.or_eq_true, beq_iff_eq, bne_iff_ne]
  omega

/-- The day of a number exists. -/
theorem exists_ofDays : (ofDays n).exists? = true := by
  obtain ⟨p, place⟩ := exists_place n
  rw [ofDays_eq n place]
  generalize month : (5 * p.day + 2) / 153 = m
  obtain ⟨m_low, m_high, first, last⟩ := month_bounds p.day_bounds.1 p.day_bounds.2 month
  have finish := p.day_bounds.2
  have months : m = 0 ∨ m = 1 ∨ m = 2 ∨ m = 3 ∨ m = 4 ∨ m = 5 ∨ m = 6 ∨ m = 7 ∨ m = 8 ∨ m = 9 ∨
      m = 10 ∨ m = 11 := by omega
  unfold exists? daysInMonth
  rcases months with rfl | rfl | rfl | rfl | rfl | rfl | rfl | rfl | rfl | rfl | rfl | rfl
  case inr.inr.inr.inr.inr.inr.inr.inr.inr.inr.inr =>
    -- February, which has its leap day in a leap year.
    by_cases leap : p.day = 365
    · have leapYear := isLeapYear_of_place leap ((n + 719468) / 146097)
      simp [leap, leapYear]
    · simp
      split <;> omega
  all_goals
    simp
    omega

end Casework.Date
