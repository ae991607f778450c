import CampaignConsole.Calendar.Moment
import Mathlib.Tactic.SplitIfs

/-!
# Days are counted in their order

The number of a date is a count of days: the day after has the next number (`dayNumber_next`) and
the day before the previous one (`dayNumber_previous`), through all lengths of months and years.
`dayNumber_lt_iff` says that dates are ordered by year, month and day as by their numbers.
-/

namespace CampaignConsole.Calendar

theorem isLeapYear_iff {year : Int} :
    isLeapYear year = true ↔ year % 4 = 0 ∧ (year % 100 ≠ 0 ∨ year % 400 = 0) := by
  simp [isLeapYear]

theorem daysInMonth_le (year : Int) (month : Nat) : daysInMonth year month ≤ 31 := by
  unfold daysInMonth
  split
  · split_ifs <;> omega
  all_goals omega

namespace Date

/-- The month and the day are ones of the calendar, in whatever year. -/
structure InCalendar (d : Date) : Prop where
  month_pos : 1 ≤ d.month
  month_le : d.month ≤ 12
  day_pos : 1 ≤ d.day
  day_le : d.day ≤ daysInMonth d.year d.month

theorem inCalendar_of_isValid {d : Date} (valid : d.isValid = true) : InCalendar d := by
  simp only [isValid, Bool.and_eq_true, decide_eq_true_eq] at valid
  obtain ⟨⟨⟨⟨⟨_, _⟩, monthPos⟩, monthLe⟩, dayPos⟩, dayLe⟩ := valid
  exact ⟨monthPos, monthLe, dayPos, dayLe⟩

/-! ## Months and years before a date -/

/-- The number of days before a year, counted from the first day of the year 0. -/
def daysBeforeYear (year : Int) : Int :=
  let past := year - 1
  365 * year + past / 4 - past / 100 + past / 400

theorem dayNumber_eq (d : Date) :
    d.dayNumber = daysBeforeYear d.year + daysBeforeMonth d.year d.month + d.day :=
  rfl

theorem daysBeforeMonth_one (year : Int) : daysBeforeMonth year 1 = 0 :=
  rfl

theorem daysBeforeMonth_succ (year : Int) {month : Nat} (positive : 1 ≤ month) :
    daysBeforeMonth year (month + 1) = daysBeforeMonth year month + daysInMonth year month := by
  obtain ⟨before, rfl⟩ := Nat.exists_eq_add_of_le' positive
  rw [daysBeforeMonth, daysBeforeMonth, Nat.add_sub_cancel, Nat.add_sub_cancel, List.range_succ,
    List.foldl_append]
  rfl

/-- The days before a thirteenth month are those of the whole year. -/
theorem daysBeforeMonth_thirteen (year : Int) :
    daysBeforeMonth year 13 = if isLeapYear year then 366 else 365 := by
  cases leap : isLeapYear year <;> simp [daysBeforeMonth, List.range_succ, daysInMonth, leap]

/-- A month ends before a later one starts. -/
theorem daysBeforeMonth_add_le (year : Int) {month later : Nat} (positive : 1 ≤ month)
    (less : month < later) :
    daysBeforeMonth year month + daysInMonth year month ≤ daysBeforeMonth year later := by
  induction less with
  | refl => exact Nat.le_of_eq (daysBeforeMonth_succ year positive).symm
  | @step later less ih =>
      rw [Nat.succ_eq_add_one, daysBeforeMonth_succ year (Nat.one_le_of_lt less)]
      exact Nat.le_add_right_of_le ih

/-- A year starts when the one before it has passed. -/
theorem daysBeforeYear_succ (year : Int) :
    daysBeforeYear (year + 1) = daysBeforeYear year + daysBeforeMonth year 13 := by
  rw [daysBeforeMonth_thirteen, daysBeforeYear, daysBeforeYear]
  split
  · rename_i leap
    have := isLeapYear_iff.1 leap
    omega
  · rename_i common
    have := mt isLeapYear_iff.2 common
    omega

theorem daysBeforeYear_mono {year later : Int} (le : year ≤ later) :
    daysBeforeYear year ≤ daysBeforeYear later := by
  simp only [daysBeforeYear]
  omega

/-! ## The days around a date -/

/-- The day after has the next number. -/
theorem dayNumber_next {d : Date} (valid : InCalendar d) : d.next.dayNumber = d.dayNumber + 1 := by
  have month := daysBeforeMonth_succ d.year valid.month_pos
  have dayLe := valid.day_le
  rw [next]
  split_ifs with inMonth inYear
  · simp only [dayNumber_eq]
    omega
  · simp only [dayNumber_eq, month]
    omega
  · have last : d.month = 12 := by
      have := valid.month_le
      omega
    have year := daysBeforeYear_succ d.year
    rw [last] at month dayLe inMonth
    simp only [dayNumber_eq, year, daysBeforeMonth_one, month, last]
    omega

/-- The day before has the previous number. -/
theorem dayNumber_previous {d : Date} (valid : InCalendar d) :
    d.previous.dayNumber = d.dayNumber - 1 := by
  have dayPos := valid.day_pos
  have monthPos := valid.month_pos
  rw [previous]
  split_ifs with inMonth inYear
  · simp only [dayNumber_eq]
    omega
  · have inside : 1 ≤ d.month - 1 := by omega
    have month := daysBeforeMonth_succ d.year inside
    rw [Nat.sub_add_cancel monthPos] at month
    simp only [dayNumber_eq, month]
    omega
  · have first : d.month = 1 := by omega
    have year := daysBeforeYear_succ (d.year - 1)
    have december := daysBeforeMonth_succ (d.year - 1) (by decide : 1 ≤ 12)
    have days : daysInMonth (d.year - 1) 12 = 31 := rfl
    rw [Int.sub_add_cancel] at year
    simp only [dayNumber_eq, year, december, days, first, daysBeforeMonth_one]
    omega

/-! ## The order of dates -/

/-- A date stands before another one by year, month and day. -/
def Earlier (d e : Date) : Prop :=
  d.year < e.year ∨ d.year = e.year ∧ (d.month < e.month ∨ d.month = e.month ∧ d.day < e.day)

theorem eq_iff {d e : Date} : d = e ↔ d.year = e.year ∧ d.month = e.month ∧ d.day = e.day := by
  obtain ⟨year, month, day⟩ := d
  obtain ⟨year', month', day'⟩ := e
  exact Date.mk.injEq .. ▸ Iff.rfl

theorem earlier_trichotomy (d e : Date) : Earlier d e ∨ d = e ∨ Earlier e d := by
  simp only [Earlier, eq_iff]
  omega

theorem dayNumber_lt_of_earlier {d e : Date} (valid : InCalendar d) (validOther : InCalendar e)
    (earlier : Earlier d e) : d.dayNumber < e.dayNumber := by
  have dayLe := valid.day_le
  have dayPos := validOther.day_pos
  rw [dayNumber_eq, dayNumber_eq]
  rcases earlier with year | ⟨year, month | ⟨month, day⟩⟩
  · -- The rest of the year and the years between stand before the later year.
    have inYear : d.month < 13 := Nat.lt_succ_of_le valid.month_le
    have ends := daysBeforeMonth_add_le d.year valid.month_pos inYear
    have starts := daysBeforeYear_mono (Int.add_one_le_of_lt year)
    rw [daysBeforeYear_succ] at starts
    omega
  · have ends := daysBeforeMonth_add_le d.year valid.month_pos month
    rw [year] at ends dayLe ⊢
    omega
  · rw [year, month]
    omega

/-- Dates are ordered as their numbers. -/
theorem dayNumber_lt_iff {d e : Date} (valid : InCalendar d) (validOther : InCalendar e) :
    d.dayNumber < e.dayNumber ↔ Earlier d e := by
  refine ⟨fun less => ?_, dayNumber_lt_of_earlier valid validOther⟩
  rcases earlier_trichotomy d e with earlier | rfl | later
  · exact earlier
  · exact absurd less (Int.lt_irrefl _)
  · have := dayNumber_lt_of_earlier validOther valid later
    omega

/-- Each date has a number of its own. -/
theorem dayNumber_inj {d e : Date} (valid : InCalendar d) (validOther : InCalendar e) :
    d.dayNumber = e.dayNumber ↔ d = e := by
  refine ⟨fun same => ?_, fun same => same ▸ rfl⟩
  rcases earlier_trichotomy d e with earlier | equal | later
  · exact absurd same (Int.ne_of_lt (dayNumber_lt_of_earlier valid validOther earlier))
  · exact equal
  · exact absurd same.symm (Int.ne_of_lt (dayNumber_lt_of_earlier validOther valid later))

end Date

end CampaignConsole.Calendar
