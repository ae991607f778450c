import CampaignConsole.Proofs.Calendar.Instants
import Mathlib.Data.List.Lex
import Mathlib.Data.String.Basic

/-!
# Moments are ordered as their texts

Numbers that are padded to one width are ordered as their texts (`padded_lt_iff`).  A moment in the
years 0 to 9999 is written in numbers of fixed widths, the year first, so texts of moments compare
as their fields do from the year down to the minute, and that is the order of the minutes
themselves: `toMinuteText_lt_iff`.
-/

namespace CampaignConsole.Calendar.Moment

/-! ## Padded numbers -/

/-- Texts of one length decide a comparison before what follows them. -/
theorem append_lt_append_iff {front other back rest : List Char}
    (same : front.length = other.length) :
    front ++ back < other ++ rest ↔ front < other ∨ front = other ∧ back < rest := by
  induction front generalizing other with
  | nil =>
      obtain rfl := List.eq_nil_of_length_eq_zero same.symm
      simp
  | cons c front ih =>
      obtain _ | ⟨d, other⟩ := other
      · cases same
      · rw [List.cons_append, List.cons_append, List.cons_lt_cons_iff, List.cons_lt_cons_iff,
          ih (Nat.succ_inj.1 same), List.cons.injEq]
        tauto

theorem toList_padded (width n : Nat) : (padded width n).toList =
    List.replicate (width - (Nat.toDigits 10 n).length) '0' ++ Nat.toDigits 10 n := by
  have digits : (toString n).toList = Nat.toDigits 10 n := Nat.toList_repr
  rw [padded, String.toList_append, String.toList_ofList, digits, ← String.length_toList, digits]

/-- The last digit comes off the end of a padded number. -/
theorem toList_padded_succ {width n : Nat} (positive : 0 < width) :
    (padded (width + 1) n).toList = (padded width (n / 10)).toList ++ [Nat.digitChar (n % 10)] := by
  rw [toList_padded, toList_padded]
  by_cases short : n < 10
  · rw [Nat.div_eq_of_lt short, Nat.mod_eq_of_lt short, Nat.toDigits_of_lt_base short,
      Nat.toDigits_zero]
    obtain ⟨width, rfl⟩ := Nat.exists_eq_add_of_le' positive
    simp [List.replicate_succ']
  · rw [Nat.toDigits_of_base_le (by decide) (Nat.le_of_not_lt short)]
    simp [List.append_assoc]

theorem toList_padded_one {n : Nat} (digit : n < 10) :
    (padded 1 n).toList = [Nat.digitChar n] := by
  rw [toList_padded, Nat.toDigits_of_lt_base digit]
  rfl

/-- A number that fits is padded to the width. -/
theorem length_padded {width n : Nat} (positive : 0 < width) (fits : n < 10 ^ width) :
    (padded width n).toList.length = width := by
  induction positive generalizing n with
  | refl => rw [toList_padded_one fits, List.length_singleton]
  | @step width positive ih =>
      rw [Nat.succ_eq_add_one] at fits ⊢
      have shorter : n / 10 < 10 ^ width := by omega
      rw [toList_padded_succ positive, List.length_append, ih shorter, List.length_singleton]

theorem digitChar_lt {a b : Nat} (less : a < b) (digit : b < 10) :
    Nat.digitChar a < Nat.digitChar b := by
  have all : ∀ i j : Fin 10, i < j → Nat.digitChar i < Nat.digitChar j := by decide
  exact all ⟨a, less.trans digit⟩ ⟨b, digit⟩ less

/-- A smaller number has the smaller text: at the first digit that differs, its own is smaller. -/
theorem padded_strictMonoOn {width : Nat} (positive : 0 < width) :
    StrictMonoOn (fun n => (padded width n).toList) {n | n < 10 ^ width} := by
  induction positive with
  | refl =>
      intro a fits b fitsOther less
      dsimp only
      rw [toList_padded_one fits, toList_padded_one fitsOther, List.cons_lt_cons_iff]
      exact Or.inl (digitChar_lt less fitsOther)
  | @step width positive ih =>
      intro a fits b fitsOther less
      change a < 10 ^ width * 10 at fits
      change b < 10 ^ width * 10 at fitsOther
      have shorter : a / 10 < 10 ^ width := by omega
      have shorterOther : b / 10 < 10 ^ width := by omega
      have sameLength :=
        (length_padded positive shorter).trans (length_padded positive shorterOther).symm
      dsimp only
      rw [toList_padded_succ positive, toList_padded_succ positive, append_lt_append_iff sameLength]
      rcases Nat.lt_or_ge (a / 10) (b / 10) with front | front
      · exact Or.inl (ih shorter shorterOther front)
      · have same : a / 10 = b / 10 := by omega
        refine Or.inr ⟨by rw [same], List.cons_lt_cons_iff.2 (Or.inl ?_)⟩
        exact digitChar_lt (by omega) (by omega)

variable {width a b : Nat}

/-- Numbers padded to one width are ordered as their texts. -/
theorem padded_lt_iff (positive : 0 < width) (fits : a < 10 ^ width) (fitsOther : b < 10 ^ width) :
    (padded width a).toList < (padded width b).toList ↔ a < b :=
  (padded_strictMonoOn positive).lt_iff_lt fits fitsOther

theorem padded_inj (positive : 0 < width) (fits : a < 10 ^ width) (fitsOther : b < 10 ^ width) :
    (padded width a).toList = (padded width b).toList ↔ a = b :=
  (padded_strictMonoOn positive).eq_iff_eq fits fitsOther

/-- A padded number decides a comparison before what follows it. -/
theorem padded_append_lt_iff (positive : 0 < width) (fits : a < 10 ^ width)
    (fitsOther : b < 10 ^ width) {back rest : List Char} :
    (padded width a).toList ++ back < (padded width b).toList ++ rest ↔
      a < b ∨ a = b ∧ back < rest := by
  rw [append_lt_append_iff
      ((length_padded positive fits).trans (length_padded positive fitsOther).symm),
    padded_lt_iff positive fits fitsOther, padded_inj positive fits fitsOther]

/-! ## Moments -/

/-- A moment in the years 0 to 9999, with a date and a time of day of the calendar. -/
structure FourDigitYear (m : Moment) : Prop extends InCalendar m where
  year_nonneg : 0 ≤ m.date.year
  year_le : m.date.year ≤ 9999

theorem toList_toMinuteText {m : Moment} (inYears : FourDigitYear m) :
    m.toMinuteText.toList =
      (padded 4 m.date.year.toNat).toList ++ '-' :: ((padded 2 m.date.month).toList ++
        '-' :: ((padded 2 m.date.day).toList ++ ' ' :: ((padded 2 m.hour).toList ++
          ':' :: (padded 2 m.minute).toList))) := by
  have year : yearText m.date.year = padded 4 m.date.year.toNat :=
    if_pos ⟨inYears.year_nonneg, inYears.year_le⟩
  simp [toMinuteText, dateText, year]

/-- Whether a moment is before another one, by year, month, day, hour and minute. -/
def Earlier (m n : Moment) : Prop :=
  m.date.Earlier n.date ∨
    m.date = n.date ∧ (m.hour < n.hour ∨ m.hour = n.hour ∧ m.minute < n.minute)

theorem minutes_lt_iff {m n : Moment} (valid : InCalendar m) (validOther : InCalendar n) :
    m.minutes < n.minutes ↔ m.Earlier n := by
  have ⟨_, hour, minute, _⟩ := valid
  have ⟨_, hourOther, minuteOther, _⟩ := validOther
  rw [Earlier, ← Date.dayNumber_lt_iff valid.date validOther.date,
    ← Date.dayNumber_inj valid.date validOther.date, minutes, minutes]
  omega

/-- Moments in the years 0 to 9999 are ordered as their texts. -/
theorem toMinuteText_lt_iff {m n : Moment} (inYears : FourDigitYear m)
    (inYearsOther : FourDigitYear n) :
    m.toMinuteText < n.toMinuteText ↔ m.minutes < n.minutes := by
  have ⟨⟨date, hour, minute, _⟩, yearPos, yearLe⟩ := inYears
  have ⟨⟨dateOther, hourOther, minuteOther, _⟩, yearPosOther, yearLeOther⟩ := inYearsOther
  have ⟨_, month, _, day⟩ := date
  have ⟨_, monthOther, _, dayOther⟩ := dateOther
  have days := daysInMonth_le m.date.year m.date.month
  have daysOther := daysInMonth_le n.date.year n.date.month
  rw [minutes_lt_iff inYears.toInCalendar inYearsOther.toInCalendar, String.lt_iff_toList_lt,
    toList_toMinuteText inYears, toList_toMinuteText inYearsOther,
    padded_append_lt_iff (by decide) (by omega) (by omega), List.cons_lt_cons_iff,
    padded_append_lt_iff (by decide) (by omega) (by omega), List.cons_lt_cons_iff,
    padded_append_lt_iff (by decide) (by omega) (by omega), List.cons_lt_cons_iff,
    padded_append_lt_iff (by decide) (by omega) (by omega), List.cons_lt_cons_iff,
    padded_lt_iff (by decide) (by omega) (by omega)]
  simp only [Earlier, Date.Earlier, Date.eq_iff, lt_irrefl, false_or, true_and]
  omega

theorem toMinuteText_inj {m n : Moment} (inYears : FourDigitYear m)
    (inYearsOther : FourDigitYear n) :
    m.toMinuteText = n.toMinuteText ↔ m.minutes = n.minutes := by
  have less := toMinuteText_lt_iff inYears inYearsOther
  have greater := toMinuteText_lt_iff inYearsOther inYears
  constructor
  · intro same
    rw [same] at less greater
    have := mt less.2 (lt_irrefl _)
    have := mt greater.2 (lt_irrefl _)
    omega
  · intro same
    refine le_antisymm (not_lt.1 (mt greater.1 ?_)) (not_lt.1 (mt less.1 ?_))
    · exact same.not_gt
    · exact same.not_lt

/-- A moment has a text, unlike what is empty. -/
theorem empty_lt_toMinuteText {m : Moment} (inYears : FourDigitYear m) : "" < m.toMinuteText := by
  have written : m.toMinuteText.toList ≠ [] := by simp [toList_toMinuteText inYears]
  obtain ⟨c, cs, form⟩ := List.exists_cons_of_ne_nil written
  rw [String.lt_iff_toList_lt, form]
  exact List.nil_lt_cons c cs

end CampaignConsole.Calendar.Moment
