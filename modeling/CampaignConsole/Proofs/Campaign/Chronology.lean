import CampaignConsole.Proofs.Calendar.MinuteText
import CampaignConsole.Proofs.Campaign.Canonical

/-!
# A list sorted by date is in the order of time

The date column is sorted by its texts.  Rows without a date have no text there, so they come first;
the others are in the order of the instants that their dates were written as (`before_date_iff`).

`sortBy_date_chronological` says so of every list that was loaded, sorted and thinned out before.
-/

namespace CampaignConsole

open Calendar

/-! ## Dates of campaigns -/

namespace Campaign

/-- The date was read from a text that writes an instant in the given minute, counted from the first
day of the year 0. -/
def DatedAt (c : Campaign) (minute : Int) : Prop :=
  ∃ text there offset m, Moment.ofText? text = some m ∧
    Moment.written? text = some (there, offset) ∧ c.statusDate = some m ∧
    minute = (there.seconds - offset) / 60

/-- A date, where there is one, was read from a text and falls in the years 0 to 9999. -/
def DateFits (c : Campaign) : Prop :=
  ∀ m, c.statusDate = some m →
    (∃ text, Moment.ofText? text = some m) ∧ 0 ≤ m.date.year ∧ m.date.year ≤ 9999

variable {c : Campaign} {m : Moment}

theorem DatedAt.eq_minutes {minute : Int} (dated : c.DatedAt minute)
    (date : c.statusDate = some m) : minute = m.minutes := by
  obtain ⟨text, there, offset, read, ofText, written, same, rfl⟩ := dated
  cases same.symm.trans date
  exact (Moment.minutes_of_written? ofText written).symm

theorem DateFits.datedAt (fits : c.DateFits) (date : c.statusDate = some m) :
    c.DatedAt m.minutes := by
  obtain ⟨⟨text, read⟩, _⟩ := fits m date
  obtain ⟨there, offset, written, _⟩ := Moment.ofText?_eq_some_iff.1 read
  exact ⟨text, there, offset, m, read, written, date, Moment.minutes_of_written? read written⟩

theorem DateFits.fourDigitYear (fits : c.DateFits) (date : c.statusDate = some m) :
    m.FourDigitYear := by
  obtain ⟨⟨text, read⟩, nonneg, le⟩ := fits m date
  exact ⟨Moment.inCalendar_of_ofText? read, nonneg, le⟩

theorem dateText_of_none (undated : c.statusDate = none) : c.dateText = "" := by
  rw [dateText, undated]
  rfl

theorem dateText_of_some (date : c.statusDate = some m) : c.dateText = m.toMinuteText := by
  rw [dateText, date]
  rfl

end Campaign

/-! ## The order of dated rows -/

namespace CampaignRow

/-- Whether a row stands above another one by their dates: rows without a date come first, then
earlier minutes, and rows that this does not tell apart are in the order loaded. -/
def DatedBefore (a b : CampaignRow) : Prop :=
  match a.campaign.statusDate, b.campaign.statusDate with
  | none, none => a.position < b.position
  | none, some _ => True
  | some _, none => False
  | some m, some n => m.minutes < n.minutes ∨ m.minutes = n.minutes ∧ a.position < b.position

/-- The order of the date column is the order of time. -/
theorem before_date_iff {a b : CampaignRow} (fits : a.campaign.DateFits)
    (fitsOther : b.campaign.DateFits) : Before .date a b ↔ DatedBefore a b := by
  have order : Before .date a b ↔ a.campaign.dateText < b.campaign.dateText ∨
      a.campaign.dateText = b.campaign.dateText ∧ a.position < b.position := by
    rw [Before, Text.bytes_inj, ← Text.lt_iff_bytes_lt]
    rfl
  rw [order, DatedBefore]
  cases date : a.campaign.statusDate with
  | none =>
      cases other : b.campaign.statusDate with
      | none => simp [Campaign.dateText_of_none date, Campaign.dateText_of_none other]
      | some n =>
          have notEmpty := Moment.empty_lt_toMinuteText (fitsOther.fourDigitYear other)
          simp [Campaign.dateText_of_none date, Campaign.dateText_of_some other, notEmpty]
  | some m =>
      have inYears := fits.fourDigitYear date
      cases other : b.campaign.statusDate with
      | none =>
          have notEmpty := Moment.empty_lt_toMinuteText inYears
          simp [Campaign.dateText_of_some date, Campaign.dateText_of_none other, notEmpty.not_gt,
            notEmpty.ne']
      | some n =>
          have inYearsOther := fitsOther.fourDigitYear other
          rw [Campaign.dateText_of_some date, Campaign.dateText_of_some other,
            Moment.toMinuteText_lt_iff inYears inYearsOther,
            Moment.toMinuteText_inj inYears inYearsOther]

/-- No row with a date stands above one without. -/
theorem DatedBefore.undated {a b : CampaignRow} (above : DatedBefore a b)
    (undated : b.campaign.statusDate = none) : a.campaign.statusDate = none := by
  rw [DatedBefore, undated] at above
  cases date : a.campaign.statusDate with
  | none => rfl
  | some m =>
      rw [date] at above
      exact above.elim

/-- Rows without a date come first, in the order loaded.  Those with a date follow in the order of
the minutes that their dates were written as, and of one minute in the order loaded. -/
def InOrderOfTime (rows : List CampaignRow) : Prop :=
  ∃ undated dated, rows = undated ++ dated ∧
    (∀ row ∈ undated, row.campaign.statusDate = none) ∧
    undated.Pairwise (fun a b => a.position < b.position) ∧
    (∀ row ∈ dated, ∃ minute, row.campaign.DatedAt minute) ∧
    dated.Pairwise fun a b => ∀ minute later, a.campaign.DatedAt minute →
      b.campaign.DatedAt later → minute < later ∨ minute = later ∧ a.position < b.position

/-- Where no member of a kind stands below one that is not of it, the members of the kind come
first. -/
theorem exists_split_of_pairwise {R : CampaignRow → CampaignRow → Prop} {kind : CampaignRow → Prop}
    {rows : List CampaignRow} (ordered : rows.Pairwise R)
    (closed : ∀ a b, R a b → kind b → kind a) :
    ∃ front back, rows = front ++ back ∧ (∀ row ∈ front, kind row) ∧ ∀ row ∈ back, ¬kind row := by
  induction rows with
  | nil => exact ⟨[], [], rfl, by simp, by simp⟩
  | cons row rows ih =>
      obtain ⟨above, ordered⟩ := List.pairwise_cons.1 ordered
      by_cases first : kind row
      · obtain ⟨front, back, split, ofKind, others⟩ := ih ordered
        refine ⟨row :: front, back, by rw [split, List.cons_append], ?_, others⟩
        exact List.forall_mem_cons.2 ⟨first, ofKind⟩
      · refine ⟨[], row :: rows, rfl, by simp, List.forall_mem_cons.2 ⟨first, ?_⟩⟩
        intro other member ofKind
        exact first (closed row other (above other member) ofKind)

theorem inOrderOfTime_of_pairwise {rows : List CampaignRow}
    (fits : ∀ row ∈ rows, row.campaign.DateFits) (ordered : rows.Pairwise DatedBefore) :
    InOrderOfTime rows := by
  have closed (a b : CampaignRow) (above : DatedBefore a b) :
      b.campaign.statusDate = none → a.campaign.statusDate = none := above.undated
  obtain ⟨undated, dated, rfl, noDate, someDate⟩ := exists_split_of_pairwise ordered closed
  obtain ⟨first, second, _⟩ := List.pairwise_append.1 ordered
  refine ⟨undated, dated, rfl, noDate, ?_, ?_, ?_⟩
  · refine first.imp_of_mem ?_
    intro a b inside insideOther above
    rwa [DatedBefore, noDate a inside, noDate b insideOther] at above
  · intro row member
    obtain ⟨m, date⟩ := Option.ne_none_iff_exists'.1 (someDate row member)
    exact ⟨_, (fits row (List.mem_append_right _ member)).datedAt date⟩
  · refine second.imp_of_mem ?_
    intro a b inside insideOther above minute later written writtenLater
    obtain ⟨m, date⟩ := Option.ne_none_iff_exists'.1 (someDate a inside)
    obtain ⟨n, other⟩ := Option.ne_none_iff_exists'.1 (someDate b insideOther)
    rw [DatedBefore, date, other] at above
    rw [written.eq_minutes date, writtenLater.eq_minutes other]
    exact above

end CampaignRow

namespace DisplayRun

open CampaignRow CampaignList

/-- **A list sorted by date is in the order of time.**  Where the dates of the campaigns were read
from texts, with whatever offsets, and fall in the years 0 to 9999, an ascending sort by date shows
the rows in the order of the instants that the texts write, to the minute; rows without a date come
first, and rows that this does not tell apart are in the order loaded.  A descending sort shows the
exact reverse.  No row is lost, and it does not matter what was done to the list before. -/
theorem sortBy_date_chronological {campaigns : List Campaign}
    (fits : ∀ c ∈ campaigns, c.DateFits) (edits : List ListEdit) :
    let list := (reach campaigns edits).list
    let shown := (list.sortBy ⟨.date, .ascending⟩).rows
    InOrderOfTime shown ∧ (shown.map unmarked).Perm (list.rows.map unmarked) ∧
      (list.sortBy ⟨.date, .descending⟩).rows.map unmarked = (shown.map unmarked).reverse := by
  intro list shown
  have canonical := canonical_reach campaigns edits
  have distinct : (list.rows.map position).Nodup := positions_eq _ ▸ canonical.nodup
  have same : (shown.map unmarked).Perm (list.rows.map unmarked) := sortBy_perm list _
  have fitsShown : ∀ row ∈ shown, row.campaign.DateFits := by
    intro row member
    have loaded := canonical.loaded _ (same.mem_iff.1 (List.mem_map_of_mem member))
    exact fits _ (List.mem_of_getElem? loaded)
  have ordered : shown.Pairwise DatedBefore := by
    refine (sortBy_pairwise ⟨.date, .ascending⟩ distinct).imp_of_mem ?_
    intro a b inside insideOther above
    exact (before_date_iff (fitsShown a inside) (fitsShown b insideOther)).1 above
  exact ⟨inOrderOfTime_of_pairwise fitsShown ordered, same, sortBy_descending list .date⟩

/-- Campaigns around the end of a February with a leap day, written with several offsets; two of
them have no date, and two are of one minute. -/
def leapDay : List Campaign :=
  [("a", some "2020-03-01T00:30:00+01:00"), ("b", none), ("c", some "2020-02-29 23:30:59Z"),
    ("d", some "2020-02-29T18:29:00-05:00"), ("e", none)].map fun (name, date) =>
      { name, title := none, statusDate := date.bind Moment.ofText?, status := none }

theorem sortBy_date_chronological_leapDay :
    leapDay.map Campaign.dateText =
        ["2020-02-29 23:30", "", "2020-02-29 23:30", "2020-02-29 23:29", ""] ∧
      (∀ c ∈ leapDay, c.DateFits) ∧
      let list := (reach leapDay [.sort ⟨.name, .descending⟩, .remove "e"]).list
      let shown := (list.sortBy ⟨.date, .ascending⟩).rows
      InOrderOfTime shown ∧ (shown.map unmarked).Perm (list.rows.map unmarked) ∧
        (list.sortBy ⟨.date, .descending⟩).rows.map unmarked = (shown.map unmarked).reverse := by
  have inYears : ∀ c ∈ leapDay,
      (c.statusDate.all fun m => 0 ≤ m.date.year && m.date.year ≤ 9999) = true := by
    decide +kernel
  have fits : ∀ c ∈ leapDay, c.DateFits := by
    intro c member m date
    have within := inYears c member
    rw [date, Option.all_some, Bool.and_eq_true, decide_eq_true_eq, decide_eq_true_eq] at within
    refine ⟨?_, within⟩
    obtain ⟨⟨name, text?⟩, _, rfl⟩ := List.mem_map.1 member
    obtain ⟨text, _, read⟩ := Option.bind_eq_some_iff.1 date
    exact ⟨text, read⟩
  exact ⟨by decide +kernel, fits, sortBy_date_chronological fits _⟩

end DisplayRun

end CampaignConsole
