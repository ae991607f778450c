import CampaignConsole.Calendar.Reader
import CampaignConsole.Proofs.Calendar.DayCount

/-!
# The instant that a text writes

A text writes a local time and its offset (`Moment.written?`).  The moment read from it is the local
time less the offset, on the day on which that falls: `minutes_of_written?` says so of the instants,
and `inCalendar_of_ofText?` that the moment has a date and a time of day of the calendar.
-/

namespace CampaignConsole.Calendar

/-! ## Moving a moment -/

namespace Moment

/-- The number of seconds of a moment, counted from the first day of the year 0. -/
def seconds (m : Moment) : Int :=
  m.date.dayNumber * 86400 + m.hour * 3600 + m.minute * 60 + m.second

/-- The date and the time of day are ones of the calendar and of the clock. -/
structure InCalendar (m : Moment) : Prop where
  date : m.date.InCalendar
  hour : m.hour < 24
  minute : m.minute < 60
  second : m.second < 60

/-- A moment that is moved is later by as much, to the minute. -/
theorem minutes_shift {m : Moment} (valid : InCalendar m) {seconds : Int}
    (above : -86400 < seconds) (below : seconds < 86400) :
    (m.shift seconds).minutes = (m.seconds + seconds) / 60 := by
  have ⟨date, hour, minute, second⟩ := valid
  have after := Date.dayNumber_next date
  have before := Date.dayNumber_previous date
  simp only [shift, minutes, Moment.seconds]
  split_ifs with early late
  · rw [before]
    omega
  · rw [after]
    omega
  · omega

theorem inCalendar_shift {m : Moment} {seconds : Int}
    (valid : (m.shift seconds).date.isValid = true) : InCalendar (m.shift seconds) := by
  refine ⟨Date.inCalendar_of_isValid valid, ?_, ?_, ?_⟩
  · simp only [shift]
    omega
  · simp only [shift]
    omega
  · simp only [shift]
    omega

end Moment

/-! ## What readers take -/

namespace Reader

variable {α β : Type} {P : α → Prop} {Q : β → Prop}

/-- Every value that a reader takes from the front of a text has a property. -/
def Yields (read : Reader α) (P : α → Prop) : Prop :=
  ∀ text value rest, read text = some (value, rest) → P value

theorem yields_any (read : Reader α) : Yields read fun _ => True :=
  fun _ _ _ _ => trivial

theorem yields_pure {value : α} (holds : P value) : Yields (pure value) P := by
  intro text _ _ taken
  cases taken
  exact holds

theorem yields_failure : Yields (failure : Reader α) P := by
  intro text _ _ taken
  cases taken

theorem Yields.bind {read : Reader α} {next : α → Reader β} (first : Yields read P)
    (second : ∀ value, P value → Yields (next value) Q) : Yields (read >>= next) Q := by
  intro text value rest taken
  obtain ⟨⟨middle, left⟩, took, taken⟩ := Option.bind_eq_some_iff.1 taken
  exact second middle (first text middle left took) left value rest taken

/-- What a reader takes last counts, where what it takes before does not matter. -/
theorem Yields.after {read : Reader α} {next : α → Reader β}
    (second : ∀ value, Yields (next value) Q) : Yields (read >>= next) Q :=
  (yields_any read).bind fun value _ => second value

theorem yields_date : Yields date fun d => d.isValid = true := by
  refine .after fun year => .after fun _ => .after fun month => .after fun _ => .after fun day => ?_
  dsimp only
  split_ifs with valid
  · exact yields_pure valid
  · exact yields_failure

theorem yields_timeOn (date : Date) : Yields (timeOn date) fun m =>
    m.date = date ∧ m.hour < 24 ∧ m.minute < 60 ∧ m.second < 60 := by
  refine .after fun hour => .after fun _ => .after fun minute => .after fun _ =>
    .after fun second => .after fun nanos => ?_
  split_ifs with outside leap
  · exact yields_failure
  · simp only [Bool.or_eq_true, decide_eq_true_eq] at outside
    exact yields_pure ⟨rfl, by dsimp only; omega, by dsimp only; omega, by simp⟩
  · simp only [Bool.or_eq_true, decide_eq_true_eq] at outside
    exact yields_pure ⟨rfl, by dsimp only; omega, by dsimp only; omega, by dsimp only; omega⟩

theorem yields_offsetSize : Yields offsetSize fun seconds => seconds < 86400 := by
  refine .after fun hours => .after fun _ => .after fun minutes => ?_
  split_ifs with outside
  · exact yields_failure
  · simp only [Bool.or_eq_true, decide_eq_true_eq] at outside
    exact yields_pure (by omega)

/-- An offset stays below one day, in both directions. -/
theorem yields_offset : Yields offset fun seconds => -86400 < seconds ∧ seconds < 86400 := by
  refine .after fun _ => .after fun rest => ?_
  split
  · exact .after fun _ => yields_pure (by omega)
  · exact .after fun _ => yields_pure (by omega)
  · exact .after fun _ => yields_offsetSize.bind fun size below => yields_pure (by omega)
  · exact .after fun _ => yields_offsetSize.bind fun size below => yields_pure (by omega)
  · exact .after fun _ => yields_offsetSize.bind fun size below => yields_pure (by omega)
  · split_ifs
    · exact .after fun _ => yields_pure (by omega)
    · exact yields_failure
  · exact yields_failure

/-- Takes a local time and its offset from Coordinated Universal Time in seconds. -/
def zoned : Reader (Moment × Int) := do
  let date ← date
  dateEnd
  let there ← timeOn date
  let offset ← offset
  blanks
  return (there, offset)

theorem yields_zoned : Yields zoned fun (there, offset) =>
    there.InCalendar ∧ -86400 < offset ∧ offset < 86400 := by
  refine yields_date.bind fun date valid => .after fun _ => ?_
  refine (yields_timeOn date).bind fun there ⟨same, hour, minute, second⟩ => ?_
  refine yields_offset.bind fun offset bounds => .after fun _ => yields_pure ⟨?_, bounds⟩
  exact ⟨same ▸ Date.inCalendar_of_isValid valid, hour, minute, second⟩

end Reader

/-! ## Moments read from a text -/

namespace Moment

/-- The local time and the offset in seconds that a text writes. -/
def written? (text : String) : Option (Moment × Int) := do
  let (written, rest) ← Reader.zoned text.toList
  if rest.isEmpty then some written else none

theorem ofText?_eq (text : String) :
    ofText? text = (written? text).bind fun (there, offset) =>
      if (there.shift (-offset)).date.isValid then some (there.shift (-offset)) else none := by
  have reads : (do
      let date ← Reader.date
      Reader.dateEnd
      let there ← Reader.timeOn date
      let offset ← Reader.offset
      Reader.blanks
      return there.shift (-offset) : Reader Moment) =
        Reader.zoned >>= fun (there, offset) => pure (there.shift (-offset)) := by
    simp only [Reader.zoned, bind_assoc, pure_bind]
  unfold ofText? written?
  dsimp only
  rw [reads]
  show Option.bind (Option.bind (Reader.zoned text.toList) _) _ = _
  cases Reader.zoned text.toList with
  | none => rfl
  | some taken =>
      obtain ⟨⟨there, offset⟩, rest⟩ := taken
      cases rest with
      | nil => rfl
      | cons c rest => rfl

/-- A moment is read as the local time less the offset. -/
theorem ofText?_eq_some_iff {text : String} {m : Moment} :
    ofText? text = some m ↔
      ∃ there offset, written? text = some (there, offset) ∧ m = there.shift (-offset) ∧
        m.date.isValid = true := by
  rw [ofText?_eq, Option.bind_eq_some_iff]
  constructor
  · rintro ⟨⟨there, offset⟩, written, shifted⟩
    dsimp only at shifted
    split_ifs at shifted with valid
    cases shifted
    exact ⟨there, offset, written, rfl, valid⟩
  · rintro ⟨there, offset, written, rfl, valid⟩
    exact ⟨(there, offset), written, if_pos valid⟩

/-- What is read is in the calendar. -/
theorem inCalendar_of_ofText? {text : String} {m : Moment} (read : ofText? text = some m) :
    InCalendar m := by
  obtain ⟨there, offset, _, rfl, valid⟩ := ofText?_eq_some_iff.1 read
  exact inCalendar_shift valid

/-- The minute of what is read is that of the local time less the offset. -/
theorem minutes_of_written? {text : String} {m there : Moment} {offset : Int}
    (read : ofText? text = some m) (written : written? text = some (there, offset)) :
    m.minutes = (there.seconds - offset) / 60 := by
  obtain ⟨there', offset', same, rfl, _⟩ := ofText?_eq_some_iff.1 read
  cases written.symm.trans same
  obtain ⟨⟨⟨there', offset'⟩, rest⟩, taken, ended⟩ := Option.bind_eq_some_iff.1 written
  dsimp only at ended
  split_ifs at ended
  cases ended
  obtain ⟨valid, above, below⟩ := Reader.yields_zoned _ _ _ taken
  rw [minutes_shift valid (by omega) (by omega), Int.sub_eq_add_neg]

end Moment

end CampaignConsole.Calendar
