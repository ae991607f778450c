import CampaignConsole.Proofs.Command.Excluding
import CampaignConsole.Proofs.Command.RememberedSort

/-!
# What a listing of campaigns shows

A run that lists campaigns asks the page for them, applies the sort asked for or else the one
remembered, takes out the campaigns excluded, and prints notices and the list.

* `runList_eq_ok` follows the run: what it prints is `Command.exclude` of the campaigns that the
  page answered with, in the order of the sort.
* `run_list_shows` says what that is: every row and mark, the order, the notices, and when exactly
  the campaigns of the names excluded are left out.
* `run_list_shows_excluded_namesake` is a run that shows a campaign of a name excluded.
-/

namespace CampaignConsole

open Files Terminal CampaignList

/-- The notice that no campaign of a name is left to be excluded. -/
def noticeLine (name : String) : Line :=
  [.colored .yellow ("⚠ No campaign named " ++ name)]

/-- A listing was printed: the notices first, then the list under its controls. -/
def PrintsListing (terminal : Terminal.Settings) (shown : CampaignList) (missing : List String)
    (printed printed' : List String) : Prop :=
  ∃ controls, printed' = renderLines terminal.colors (campaignLines shown controls) ::
    renderLines terminal.colors (missing.map noticeLine) :: printed

namespace CampaignDesk

/-- Restoring a list that was just loaded puts it in the order remembered. -/
theorem list_restore (campaigns : List Campaign) (store : StateStore) :
    (load campaigns store).restore.1.list = sorted campaigns (remembered? store) := by
  cases remembered : remembered? store with
  | none => rw [restore_load_of_none remembered, load, sorted, Option.toList_none, List.foldl_nil]
  | some choice =>
      rw [restore_load_of_some remembered, arrange, load]
      rfl

end CampaignDesk

namespace Command

open Session

variable {settings : Settings} {terminal : Terminal.Settings} {store : StateStore}
  {s s' : Session}

/-- A list was loaded where the page answered with campaigns. -/
theorem loadDesk_eq_ok {desk : CampaignDesk}
    (loaded : (loadDesk settings store : Run _) s = .ok (.ok desk) s') :
    ∃ campaigns, (CampaignPage.listCampaigns settings.listUrl : Run _) s = .ok (.ok campaigns) s' ∧
      desk = (CampaignDesk.load campaigns store).restore.1 := by
  obtain ⟨answer, s₁, asked, loaded⟩ := bind_eq_ok loaded
  cases answer with
  | error e => cases loaded
  | ok campaigns =>
      cases loaded
      exact ⟨campaigns, asked, rfl⟩

theorem runList_eq_ok {choice : Option SortChoice} {names : List String} {ending : Ending}
    (ran : (runList settings terminal store choice names : Run _) s = .ok (.ok ending) s') :
    ∃ campaigns s₁,
      (CampaignPage.listCampaigns settings.listUrl : Run _) s = .ok (.ok campaigns) s₁ ∧
      let left := exclude (sorted campaigns (choice.or (CampaignDesk.remembered? store))) names
      PrintsListing terminal left.1 left.2 s.printed s'.printed := by
  obtain ⟨loaded, s₁, loads, ran⟩ := bind_eq_ok ran
  cases loaded with
  | error e => cases ran
  | ok desk =>
      obtain ⟨campaigns, asked, rfl⟩ := loadDesk_eq_ok loads
      have silent : Keeps printed (CampaignPage.listCampaigns settings.listUrl : Run _) :=
        keeps_send (fun _ _ _ => rfl) _ _
      have restored := CampaignDesk.list_restore campaigns store
      refine ⟨campaigns, s₁, asked, ?_⟩
      rw [← silent.eq_of_ok asked]
      cases choice with
      | none =>
          rw [Option.none_or, ← restored]
          cases ran
          exact ⟨_, rfl⟩
      | some choice =>
          obtain ⟨⟨desk, outcome⟩, s₂, sorts, ran⟩ := bind_eq_ok ran
          have arranged : desk.list = sorted campaigns (some choice) := by
            rw [← sortBy_sorted campaigns (CampaignDesk.remembered? store), ← restored]
            cases sorts
            rfl
          have printedNothing : s₂.printed = s₁.printed := by
            cases sorts
            rfl
          rw [Option.some_or, ← arranged, ← printedNothing]
          cases outcome with
          | error e => cases ran
          | ok =>
              cases ran
              exact ⟨_, rfl⟩

/-- A run that is done is no watch: the command itself ended so. -/
theorem runCampaign_of_done {command : CampaignCommand}
    (ran : Session.run settings terminal (.campaign command) s = (.done, s')) :
    (runCampaign settings terminal command : Run _) s = .ok (.ok .done) s' := by
  unfold Session.run Command.run at ran
  dsimp only at ran
  cases ended : (runCampaign settings terminal command : Run _) s with
  | error e s₁ =>
      rw [ended] at ran
      cases ran
  | ok ending s₁ =>
      rw [ended] at ran
      cases ending with
      | error e => cases ran
      | ok ending =>
          cases ending with
          | done =>
              cases ran
              rfl
          | watch =>
              -- A watch goes on or is stopped, and is never done.
              have watching : Session.watch settings terminal s₁ = (.done, s') := ran
              unfold Session.watch at watching
              dsimp only at watching
              split at watching <;> cases watching

/-- **A listing shows the campaigns not excluded, as far as the names excluded are mentioned.**
Where campaigns were listed, the page answered with campaigns, and every row shown is one of them,
at its own position and once.  The order is that of the sort asked for, else of the sort remembered,
else as loaded, and every other row is marked.  Of the campaigns of a name as many are missing as it
is excluded, the uppermost ones; so all campaigns of the names excluded are left out where each name
is excluded at least as often as there are campaigns of it, and not otherwise.  A notice is printed
for each mention of a name that goes beyond the campaigns of it. -/
theorem run_list_shows {sort : Option SortField} {descending : Bool} {names : List String}
    (ran : Session.run settings terminal (.campaign (.list sort descending names)) s =
      (.done, s')) :
    ∃ campaigns s₁ shown missing,
      (CampaignPage.listCampaigns settings.listUrl : Run _) s = .ok (.ok campaigns) s₁ ∧
      PrintsListing terminal shown missing s.printed s'.printed ∧
      Shows campaigns (nextSort (rememberedSort s.disk ⟨settings.statePath⟩)
        (.list sort descending names)) names shown ∧
      ((∀ p, p ∈ shown.rows.map CampaignRow.position ↔
          ∃ c, campaigns[p]? = some c ∧ c.name ∉ names) ↔
        ∀ name ∈ names, campaigns.countP (·.name == name) ≤ names.count name) ∧
      missing.Sublist names ∧
      ∀ name, missing.count name = names.count name - campaigns.countP (·.name == name) := by
  obtain ⟨opened, s₁, opens, ran⟩ := bind_eq_ok (runCampaign_of_done ran)
  have reads : (StateStore.openAt ⟨settings.statePath⟩ : Run _) s =
      .ok (StateStore.ofRead ⟨settings.statePath⟩ (s.disk.read ⟨settings.statePath⟩)) s := rfl
  rw [reads] at opens
  cases opens
  cases found : StateStore.ofRead ⟨settings.statePath⟩ (s.disk.read ⟨settings.statePath⟩) with
  | error e =>
      rw [found] at ran
      cases ran
  | ok store =>
      rw [found] at ran
      obtain ⟨campaigns, s₂, asked, prints⟩ := runList_eq_ok ran
      have order : (sort.map fun field => ⟨field, .ofAscending (!descending)⟩).or
          (CampaignDesk.remembered? store) = nextSort (rememberedSort s.disk ⟨settings.statePath⟩)
            (.list sort descending names) := by
        rw [remembered?_of_ofRead found]
        cases sort <;> cases descending <;> rfl
      rw [order] at prints
      have shows := shows_exclude campaigns (nextSort (rememberedSort s.disk ⟨settings.statePath⟩)
        (.list sort descending names)) names
      refine ⟨campaigns, s₂, _, _, asked, prints, shows, shows.exact_iff, sublist_exclude _ _, ?_⟩
      intro name
      rw [count_exclude, length_named_sorted]

/-- A page with two campaigns of one name and another one between them. -/
def twinPage : PageScript :=
  { reactions := [.reply { code := 200, body :=
      ("\x7b\"status\":true,\"data\":[\x7b\"name\":\"a\",\"title\":\"First\"\x7d," ++
        "\x7b\"name\":\"b\"\x7d,\x7b\"name\":\"a\",\"title\":\"Second\"\x7d]\x7d").toUTF8 }] }

/-- The campaigns of that page, listed without colors. -/
def listTwins (command : CampaignCommand) : Session.Outcome × Session :=
  Session.run { pageUrl := "http://h/p" } { colors := false, redraw := false } (.campaign command)
    { page := twinPage }

theorem run_list_shows_both_twins_excluded :
    (listTwins (.list (some .name) true ["a", "c", "a"])).1 = .done ∧
    ∃ campaigns shown missing, campaigns.map Campaign.name = ["a", "b", "a"] ∧
      PrintsListing { colors := false, redraw := false } shown missing []
        (listTwins (.list (some .name) true ["a", "c", "a"])).2.printed ∧
      Shows campaigns (some ⟨.name, .descending⟩) ["a", "c", "a"] shown ∧
      (∀ p, p ∈ shown.rows.map CampaignRow.position ↔
        ∃ c, campaigns[p]? = some c ∧ c.name ∉ ["a", "c", "a"]) ∧
      missing.count "a" = 0 ∧ missing.count "c" = 1 := by
  have done : (listTwins (.list (some .name) true ["a", "c", "a"])).1 = .done := by decide +kernel
  obtain ⟨campaigns, s₁, shown, missing, asked, prints, shows, exact, _, reported⟩ :=
    run_list_shows (Prod.ext done rfl)
  have answered : (match (CampaignPage.listCampaigns "http://h" : Run _) { page := twinPage } with
      | .ok (.ok campaigns) _ => campaigns.map Campaign.name
      | _ => []) = ["a", "b", "a"] := by decide +kernel
  have loadedFrom : (CampaignPage.listCampaigns "http://h" : Run _) { page := twinPage } =
      .ok (.ok campaigns) s₁ := asked
  rw [loadedFrom] at answered
  have names : campaigns.map Campaign.name = ["a", "b", "a"] := answered
  have bearing (name : String) : campaigns.countP (·.name == name) =
      ["a", "b", "a"].count name := by
    rw [← names, List.count, List.countP_map]
    rfl
  refine ⟨done, campaigns, shown, missing, names, prints, shows, exact.2 ?_, ?_, ?_⟩
  · intro name excluded
    rw [bearing]
    simp only [List.mem_cons, List.not_mem_nil, or_false] at excluded
    rcases excluded with rfl | rfl | rfl <;> decide
  · rw [reported, bearing]
    decide
  · rw [reported, bearing]
    decide

/-- One mention of a name leaves the second campaign of that name in the listing, and without a
notice. -/
theorem run_list_shows_excluded_namesake :
    (listTwins (.list none false ["a", "b"])).1 = .done ∧
      (listTwins (.list none false ["a", "b"])).2.printed =
        ["Sort: date ▲  name ▲  status ▲\n\n" ++
          "  Date               Name                                 Status         Id\n" ++
          "                     Second                               Draft          a\n", ""] := by
  decide +kernel

end Command

end CampaignConsole
