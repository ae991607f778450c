import CampaignConsole.Terminal.Settings
import CampaignConsole.Terminal.Style
import CampaignConsole.Text.Decimal
import CampaignConsole.Watch.Poll

/-!
The status panel on a terminal: a banner, a progress bar, the counts and the table of recipients.
-/

namespace CampaignConsole.Terminal

/-- The number of cells of the progress bar. -/
def barWidth : Nat := 40

/-- The number of filled cells for a progress in percent, rounded, a half upwards. -/
def filledCells (percent : Float) : Nat :=
  min (percent / 100.0 * barWidth.toFloat).round.toUInt64.toNat barWidth

/-- The progress bar with the progress in percent after it. -/
def progressLine (percent : Float) : Line :=
  let filled := filledCells percent
  [.plain "  [",
    .colored .green (String.ofList (List.replicate filled '█')),
    .dimmed (String.ofList (List.replicate (barWidth - filled) '░')),
    .plain "] ",
    .plain (String.ofList (padLeft 5 (Text.tenths percent).toList)),
    .plain "%"]

/-- The name of the mode, in its colour. -/
def banner : PanelMode → Span
  | .notSent => .dimmed "Not sent"
  | .pending => { text := "Sending", style := { bold := true, color := some .yellow } }
  | .complete => { text := "Complete", style := { bold := true, color := some .green } }

/-- The banner with the time of day at which the panel was made, if it is known. -/
def bannerLine (mode : PanelMode) : Option String → Line
  | none => [banner mode]
  | some clock => [banner mode, .plain "  ", .dimmed clock]

/-- The width of the status column. -/
def labelWidth : Nat := 12

/-- A label, filled up to its column. -/
def labelSpan : Option RowLabel → Span
  | none => .wide labelWidth (.plain "")
  | some label =>
      let color := match label with
        | .sending => Color.cyan
        | .retrying => Color.yellow
        | .failed => Color.red
      .wide labelWidth (.colored color (String.ofList (padRight labelWidth label.text.toList)))

/-- The line of a recipient, and its last error on a line of its own. -/
def rowLines (row : RecipientRow) : List Line :=
  [.plain "  ", .wide 32 (.plain row.email), .plain " ",
      .wide 24 (.plain row.fullName), .plain " ", labelSpan row.label, .plain " ",
      .plain (toString row.attempts)] ::
    match row.tooltip with
    | none => []
    | some error => [[.plain "    ", .dimmed "↳", .plain " ", .colored .red error]]

/-- The heads of the columns. -/
def recipientHeads : Line :=
  [.plain "  ", .wide 32 (.bold "Email"), .plain " ", .wide 24 (.bold "Name"), .plain " ",
    .wide 12 (.bold "Status"), .plain " ", .bold "Attempts"]

/-- The table of recipients. -/
def tableLines (table : RecipientTable) : List Line :=
  if table.rows.isEmpty then [[.dimmed "No emails waiting."]]
  else recipientHeads :: table.rows.flatMap rowLines

/-- The description, if there is one. -/
def descriptionLines : Option String → List Line
  | none => []
  | some description => [[.plain "  ", .dimmed description]]

/-- The lines of the panel and its table. -/
def panelLines (panel : StatusPanel) (table : RecipientTable) (clock : Option String) :
    List Line :=
  bannerLine panel.mode clock :: descriptionLines panel.description ++
    match panel.mode with
    | .notSent => [[.colored .yellow "This email has not been sent yet."]]
    | _ => [progressLine panel.percent, [.plain "  ", .plain panel.summary], []] ++ tableLines table

/-- The sequence that clears the terminal and goes to its first line. -/
def clearScreen : String := "\x1b[2J\x1b[H"

/-- The text printed for the panel and its table. -/
def panelText (settings : Settings) (panel : StatusPanel) (table : RecipientTable)
    (clock : Option String) : String :=
  (if settings.redraw then clearScreen else "") ++
    renderLines settings.colors (panelLines panel table clock)

/-- The text printed for what a watch has shown last; nothing before the first answer. -/
def watchText (settings : Settings) (w : Watch) : String :=
  match w.panel with
  | none => ""
  | some panel => panelText settings panel w.table w.clock

end CampaignConsole.Terminal
