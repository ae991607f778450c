import CampaignConsole.Proofs.Terminal.ColorCodes
import CampaignConsole.Terminal.CampaignScreen
import CampaignConsole.Terminal.PanelScreen

/-!
# Colours change neither the text of a screen nor its layout

The texts that a screen adds by itself have no escape character: its own words, numbers, bars and
dates.  So where the texts of a panel (`UnescapedWatch`) or of a campaign list (`UnescapedCampaign`)
have none either, its lines have none (`unescaped_panelLines`, `unescaped_campaignLines`),
and `screens_without_codes` says that colours add nothing but their codes.
-/

namespace CampaignConsole.Terminal

/-! ## Texts without an escape -/

section

variable {s t : String} {cs ds : List Char}

theorem unescaped_append (first : Unescaped s) (second : Unescaped t) : Unescaped (s ++ t) := by
  rw [Unescaped, String.toList_append, List.mem_append, not_or]
  exact ⟨first, second⟩

theorem unescaped_ofList (clean : '\x1b' ∉ cs) : Unescaped (String.ofList cs) := by
  rwa [Unescaped, String.toList_ofList]

theorem escape_not_mem_replicate {c : Char} (other : '\x1b' ≠ c) (n : Nat) :
    '\x1b' ∉ List.replicate n c := by
  intro member
  exact other (List.eq_of_mem_replicate member)

theorem unescaped_toString (n : Nat) : Unescaped (toString n) := by
  have digits : (toString n).toList = Nat.toDigits 10 n := Nat.toList_repr
  rw [Unescaped, digits]
  intro member
  exact absurd (Nat.isDigit_of_mem_toDigits (by omega) (by omega) member) (by decide)

theorem unescaped_tenths (x : Float) : Unescaped (Text.tenths x) := by
  have sign (negative : Prop) [Decidable negative] : Unescaped (if negative then "-" else "") := by
    split_ifs <;> decide
  unfold Text.tenths
  split
  · decide
  · dsimp only
    split
    · exact unescaped_append (sign _) (by decide)
    · refine unescaped_append (unescaped_append (unescaped_append (sign _) ?_) (by decide)) ?_
      · exact unescaped_toString _
      · exact unescaped_toString _

theorem unescaped_padded (width n : Nat) : Unescaped (Calendar.Moment.padded width n) :=
  unescaped_append (unescaped_ofList (escape_not_mem_replicate (by decide) _))
    (unescaped_toString n)

theorem unescaped_toMinuteText (m : Calendar.Moment) : Unescaped m.toMinuteText := by
  have year : Unescaped (Calendar.Moment.yearText m.date.year) := by
    unfold Calendar.Moment.yearText
    split
    · exact unescaped_padded _ _
    · refine unescaped_append ?_ (unescaped_padded _ _)
      split_ifs <;> decide
  have date : Unescaped (Calendar.Moment.dateText m.date) :=
    unescaped_append (unescaped_append (unescaped_append (unescaped_append year (by decide))
      (unescaped_padded _ _)) (by decide)) (unescaped_padded _ _)
  exact unescaped_append (unescaped_append (unescaped_append (unescaped_append date (by decide))
    (unescaped_padded _ _)) (by decide)) (unescaped_padded _ _)

theorem unescaped_dateText (c : Campaign) : Unescaped c.dateText := by
  unfold Campaign.dateText
  cases c.statusDate with
  | none => decide
  | some m => exact unescaped_toMinuteText m

end

/-! ## The panel -/

/-- The texts of a recipient have no escape character. -/
structure UnescapedRow (row : RecipientRow) : Prop where
  email : Unescaped row.email
  fullName : Unescaped row.fullName
  tooltip : ∀ error ∈ row.tooltip, Unescaped error

/-- The texts that a watch shows have no escape character. -/
structure UnescapedWatch (w : Watch) : Prop where
  summary : ∀ panel ∈ w.panel, Unescaped panel.summary
  description : ∀ panel ∈ w.panel, ∀ text ∈ panel.description, Unescaped text
  clock : ∀ clock ∈ w.clock, Unescaped clock
  rows : ∀ row ∈ w.table.rows, UnescapedRow row

theorem UnescapedLine.nil : UnescapedLine [] :=
  List.forall_mem_nil _

theorem UnescapedLine.cons {span : Span} {line : Line} (first : Unescaped span.text)
    (rest : UnescapedLine line) : UnescapedLine (span :: line) :=
  List.forall_mem_cons.2 ⟨first, rest⟩

/-- A span that shows a word of the screen itself. -/
theorem UnescapedLine.word {span : Span} {line : Line} (rest : UnescapedLine line)
    (text : Unescaped span.text := by decide) : UnescapedLine (span :: line) :=
  .cons text rest

theorem unescaped_progressLine (percent : Float) : UnescapedLine (progressLine percent) := by
  have bar {c : Char} (other : '\x1b' ≠ c) (n : Nat) :
      Unescaped (String.ofList (List.replicate n c)) :=
    unescaped_ofList (escape_not_mem_replicate other n)
  have amount (n : Nat) :
      Unescaped (String.ofList (List.replicate n ' ' ++ (Text.tenths percent).toList)) :=
    unescaped_ofList (mt List.mem_append.1 (not_or.2
      ⟨escape_not_mem_replicate (by decide) n, unescaped_tenths percent⟩))
  exact .word <| .cons (bar (by decide) _) <| .cons (bar (by decide) _) <| .word <|
    .cons (amount _) <| .word .nil

theorem unescaped_bannerLine {clock : Option String} (clean : ∀ text ∈ clock, Unescaped text)
    (mode : PanelMode) : UnescapedLine (bannerLine mode clock) := by
  have first : Unescaped (banner mode).text := by cases mode <;> decide
  cases clock with
  | none => exact .cons first .nil
  | some clock => exact .cons first (.word (.cons (clean clock rfl) .nil))

theorem unescaped_labelSpan (label : Option RowLabel) : Unescaped (labelSpan label).text := by
  rcases label with _ | _ | _ | _ <;> decide

theorem unescaped_rowLines {row : RecipientRow} (clean : UnescapedRow row) :
    ∀ line ∈ rowLines row, UnescapedLine line := by
  unfold rowLines
  refine List.forall_mem_cons.2 ⟨?_, ?_⟩
  · exact .word <| .cons clean.email <| .word <| .cons clean.fullName <|
      .word <| .cons (unescaped_labelSpan row.label) <| .word <|
      .cons (unescaped_toString row.attempts) .nil
  · cases told : row.tooltip with
    | none => exact List.forall_mem_nil _
    | some error =>
        refine List.forall_mem_cons.2 ⟨?_, List.forall_mem_nil _⟩
        exact .word <| .word <| .word <| .cons (clean.tooltip error told) .nil

theorem unescaped_tableLines {table : RecipientTable}
    (clean : ∀ row ∈ table.rows, UnescapedRow row) :
    ∀ line ∈ tableLines table, UnescapedLine line := by
  unfold tableLines
  split
  · exact List.forall_mem_cons.2 ⟨.word .nil, List.forall_mem_nil _⟩
  · refine List.forall_mem_cons.2 ⟨?_, ?_⟩
    · have heads : UnescapedLine recipientHeads := by decide
      exact heads
    · intro line member
      obtain ⟨row, listed, member⟩ := List.mem_flatMap.1 member
      exact unescaped_rowLines (clean row listed) line member

theorem unescaped_descriptionLines {description : Option String}
    (clean : ∀ text ∈ description, Unescaped text) :
    ∀ line ∈ descriptionLines description, UnescapedLine line := by
  cases description with
  | none => exact List.forall_mem_nil _
  | some text =>
      exact List.forall_mem_cons.2
        ⟨.word (.cons (clean text rfl) .nil), List.forall_mem_nil _⟩

theorem unescaped_panelLines {w : Watch} (clean : UnescapedWatch w) {panel : StatusPanel}
    (shown : w.panel = some panel) :
    ∀ line ∈ panelLines panel w.table w.clock, UnescapedLine line := by
  unfold panelLines
  refine List.forall_mem_append.2 ⟨?_, ?_⟩
  · exact List.forall_mem_cons.2 ⟨unescaped_bannerLine clean.clock panel.mode,
      unescaped_descriptionLines (clean.description panel shown)⟩
  · split
    · exact List.forall_mem_cons.2 ⟨.word .nil, List.forall_mem_nil _⟩
    · refine List.forall_mem_append.2 ⟨?_, unescaped_tableLines clean.rows⟩
      exact List.forall_mem_cons.2 ⟨unescaped_progressLine panel.percent, List.forall_mem_cons.2
        ⟨.word (.cons (clean.summary panel shown) .nil), List.forall_mem_cons.2
        ⟨.nil, List.forall_mem_nil _⟩⟩⟩

/-! ## The campaign list -/

/-- The texts of a campaign in the list have no escape character. -/
structure UnescapedCampaign (row : CampaignRow) : Prop where
  title : Unescaped (row.text .name)
  status : Unescaped (row.text .status)
  id : Unescaped row.campaign.name

theorem unescaped_controlsLine (controls : SortControls) :
    UnescapedLine (controlsLine controls) := by
  obtain ⟨date, name, status⟩ := controls
  cases date <;> cases name <;> cases status <;> exact .word .nil

theorem unescaped_campaignText {row : CampaignRow} (clean : UnescapedCampaign row) :
    Unescaped (campaignText row) := by
  have date : Unescaped (row.text .date) := unescaped_dateText row.campaign
  refine unescaped_ofList ?_
  simp only [List.mem_append, not_or]
  have gap : '\x1b' ∉ [' '] := by decide
  exact ⟨⟨⟨⟨⟨⟨⟨by decide, escape_not_mem_padRight date 18⟩, gap⟩,
    escape_not_mem_padRight clean.title 36⟩, gap⟩, escape_not_mem_padRight clean.status 14⟩, gap⟩,
    clean.id⟩

theorem unescaped_campaignLine {row : CampaignRow} (clean : UnescapedCampaign row) :
    UnescapedLine (campaignLine row) := by
  unfold campaignLine
  split <;> exact .cons (unescaped_campaignText clean) .nil

theorem unescaped_campaignLines {list : CampaignList}
    (clean : ∀ row ∈ list.rows, UnescapedCampaign row) (controls : SortControls) :
    ∀ line ∈ campaignLines list controls, UnescapedLine line := by
  unfold campaignLines
  split
  · exact List.forall_mem_cons.2 ⟨.word .nil, List.forall_mem_nil _⟩
  · refine List.forall_mem_append.2 ⟨?_, ?_⟩
    · have heads : UnescapedLine campaignHeads := by decide
      exact List.forall_mem_cons.2 ⟨unescaped_controlsLine controls, List.forall_mem_cons.2
        ⟨.nil, List.forall_mem_cons.2 ⟨heads, List.forall_mem_nil _⟩⟩⟩
    · exact List.forall_mem_map.2 fun row listed => unescaped_campaignLine (clean row listed)

/-! ## Whole screens -/

/-- The sequence that clears the screen is no colour code. -/
theorem stripCodes_clearScreen (rest : List Char) :
    stripCodes (clearScreen.toList ++ rest) = clearScreen.toList ++ stripCodes rest := by
  have written : clearScreen.toList =
      '\x1b' :: '[' :: '2' :: 'J' :: '\x1b' :: '[' :: ['H'] := by decide
  rw [written]
  simp only [List.cons_append, List.nil_append]
  rw [stripCodes_of_no_code rfl, stripCodes_cons (by decide), stripCodes_cons (by decide),
    stripCodes_of_no_code rfl, stripCodes_cons (by decide)]

/-- **Colours change neither the text of a screen nor its layout.**  Where no text that is shown has
an escape character, what is printed in colours for a watch, on a terminal or not, and for a
campaign list is what is printed without colours, character for character, once every colour code is
deleted. -/
theorem screens_without_codes :
    (∀ (w : Watch) (redraw : Bool), UnescapedWatch w →
      stripCodes (watchText { colors := true, redraw } w).toList =
        (watchText { colors := false, redraw } w).toList) ∧
    ∀ (list : CampaignList) (controls : SortControls),
      (∀ row ∈ list.rows, UnescapedCampaign row) →
      stripCodes (renderLines true (campaignLines list controls)).toList =
        (renderLines false (campaignLines list controls)).toList := by
  constructor
  · intro w redraw clean
    unfold watchText
    cases shown : w.panel with
    | none => rw [stripCodes.eq_def]; rfl
    | some panel =>
        have lines := stripCodes_renderLines (unescaped_panelLines clean shown)
        simp only [panelText, String.toList_append]
        cases redraw with
        | true => rw [if_pos rfl, stripCodes_clearScreen, lines]
        | false => exact lines
  · intro list controls clean
    exact stripCodes_renderLines (unescaped_campaignLines clean controls)

/-- A panel with a fresh row and a failed one, and a list with a dimmed row. -/
theorem screens_without_codes_two_rows :
    let fresh : RecipientRow := { id := ⟨"7"⟩, email := "ada@example.org", fullName := "Ada" }
    let failed : RecipientRow :=
      { id := ⟨"8"⟩, email := "", fullName := "Zoë", label := some .failed, tooltip := some "[0m" }
    let panel : StatusPanel :=
      { mode := .pending, percent := 12.5, summary := "1 sent ok", description := some "" }
    let w : Watch := { table := { rows := [fresh, failed] }, panel, clock := some "10:02:00" }
    let list : CampaignList := ⟨[
      { position := 0, campaign := ⟨"a", some "May", none, none⟩ },
      { position := 1, campaign := ⟨"b", none, none, some "p"⟩, odd := true }]⟩
    UnescapedWatch w ∧ (∀ row ∈ list.rows, UnescapedCampaign row) ∧
      stripCodes (watchText ⟨true, true⟩ w).toList = (watchText ⟨false, true⟩ w).toList ∧
      stripCodes (renderLines true (campaignLines list {})).toList =
        (renderLines false (campaignLines list {})).toList := by
  intro fresh failed panel w list
  have tooltip : ∀ error ∈ failed.tooltip, Unescaped error := by
    intro error same
    cases same
    decide
  have rows : ∀ row ∈ w.table.rows, UnescapedRow row :=
    List.forall_mem_cons.2 ⟨⟨by decide, by decide, nofun⟩, List.forall_mem_cons.2
      ⟨⟨by decide, by decide, tooltip⟩, List.forall_mem_nil _⟩⟩
  have watch : UnescapedWatch w := by
    refine ⟨?_, ?_, ?_, rows⟩
    · intro shown same
      cases same
      decide
    · intro shown same text told
      cases same
      cases told
      decide
    · intro clock same
      cases same
      decide
  have campaigns : ∀ row ∈ list.rows, UnescapedCampaign row :=
    List.forall_mem_cons.2 ⟨⟨by decide, by decide, by decide⟩, List.forall_mem_cons.2
      ⟨⟨by decide, by decide, by decide⟩, List.forall_mem_nil _⟩⟩
  exact ⟨watch, campaigns, screens_without_codes.1 w true watch,
    screens_without_codes.2 list {} campaigns⟩

end CampaignConsole.Terminal
