import CampaignConsole.Proofs.Campaign.DeskLaws
import CampaignConsole.Proofs.Command.Ensures
import CampaignConsole.Proofs.Store.StateFile

/-!
# What a campaign command does to the disk

`CampaignCommand.sortSet` is the sort that a command picks, `CampaignEffect` what the command leaves
on the disk.  A command that fails has made directories at most, one that picks no sort leaves the
disk as it was, and one that picks a sort stores the entries it read with that sort among them.
`ensures_runCampaign` says so for every command, whatever the page answers.
-/

namespace CampaignConsole

open Files Session

/-- The sort that a command picks where another sort is remembered; none if it picks none. -/
def CampaignCommand.sortSet (remembered : Option SortChoice) : CampaignCommand → Option SortChoice
  | .list none _ _ => none
  | .list (some field) descending _ => some ⟨field, if descending then .descending else .ascending⟩
  | .sort field =>
      match remembered with
      | some ⟨last, direction⟩ =>
          some ⟨field, if last = field then direction.flipped else .ascending⟩
      | none => some ⟨field, .ascending⟩
  | .create _ _ => none

theorem CampaignCommand.field_of_sortSet {remembered : Option SortChoice} {field : SortField}
    {choice : SortChoice} (sets : (CampaignCommand.sort field).sortSet remembered = some choice) :
    choice.field = field := by
  unfold sortSet at sets
  cases remembered <;> cases sets <;> rfl

namespace CampaignDesk

/-- After a list was loaded, the controls point where the sort command takes them: away from the
remembered sort. -/
theorem sortSet_restore (campaigns : List Campaign) (store : StateStore) (field : SortField) :
    (CampaignCommand.sort field).sortSet (remembered? store) =
      some ⟨field, (load campaigns store).restore.1.controls.next field⟩ := by
  cases remembered : remembered? store with
  | none => rw [restore_load_of_none remembered, load, next_untouched, CampaignCommand.sortSet]
  | some choice =>
      rw [restore_load_of_some remembered, arrange, load, next_markSorted, next_untouched,
        CampaignCommand.sortSet]

end CampaignDesk

/-- What a command leaves on the disk, by how it ended. -/
def CampaignEffect (path : Path) (command : CampaignCommand) (d : Disk)
    (ended : Except CommandError Ending) (d' : Disk) : Prop :=
  match ended with
  | .error _ => d.Grows d'
  | .ok ending => ending = .done ∧ ∃ store, StateStore.ofRead path (d.read path) = .ok store ∧
      match command.sortSet (CampaignDesk.remembered? store) with
      | none => d' = d
      | some choice => d.Stores path (store.insert sortKey choice.encode).entries.text d'

namespace Command

variable {settings : Settings} {terminal : Terminal.Settings} {path : Path} {store : StateStore}
  {s : Session}

/-- A list that was loaded has the remembered sort applied; the disk is as it was. -/
theorem ensures_loadDesk (settings : Settings) (store : StateStore) (s : Session) :
    Ensures (loadDesk settings store : Run _) s
      (fun loaded s' => s'.disk = s.disk ∧ ∀ desk, loaded = .ok desk →
        ∃ campaigns, desk = (CampaignDesk.load campaigns store).restore.1)
      fun s' => s'.disk = s.disk := by
  unfold loadDesk
  have asking := keepsDisk_listCampaigns settings.listUrl
  refine (asking.ensures rfl).bind fun answer s' same => ?_
  cases answer with
  | error e =>
      refine ⟨⟨same, fun desk loaded => ?_⟩⟩
      cases loaded
  | ok campaigns =>
      refine ⟨⟨same, fun desk loaded => ⟨campaigns, ?_⟩⟩⟩
      cases loaded
      rfl

/-- Replacing the state file stores its text, or directories were made at most. -/
theorem replace_effect (d : Disk) (path : Path) (text : String) :
    match (d.replace path text).2.mapError StoreError.write with
    | .error _ => d.Grows (d.replace path text).1
    | .ok () => d.Stores path text (d.replace path text).1 := by
  rcases d.replace_cases path text with ⟨e, failed, grows⟩ | ⟨done, stores⟩
  · rw [failed]
    exact grows
  · rw [done]
    exact stores

/-- A sort that the user picked is stored, or directories were made at most. -/
theorem ensures_userSort (desk : CampaignDesk) (choice : SortChoice) (s : Session)
    (stopped : Session → Prop) :
    Ensures (desk.userSort choice : Run _) s (fun sorted s' =>
      match sorted.2 with
      | .error _ => s.disk.Grows s'.disk
      | .ok () => s.disk.Stores desk.store.path
          (desk.store.insert sortKey choice.encode).entries.text s'.disk) stopped :=
  ⟨replace_effect s.disk desk.store.path (desk.store.insert sortKey choice.encode).entries.text⟩

/-- Activating a control picks the sort that the control points to. -/
theorem ensures_activate (desk : CampaignDesk) (field : SortField) (s : Session)
    (stopped : Session → Prop) :
    Ensures (desk.activate field : Run _) s (fun sorted s' =>
      match sorted.2 with
      | .error _ => s.disk.Grows s'.disk
      | .ok _ =>
          let picked : SortChoice := ⟨field, desk.controls.next field⟩
          s.disk.Stores desk.store.path (desk.store.insert sortKey picked.encode).entries.text
            s'.disk) stopped := by
  unfold CampaignDesk.activate
  refine (ensures_userSort desk ⟨field, desk.controls.next field⟩ s stopped).bind ?_
  rintro ⟨sorted, outcome⟩ s' stored
  cases outcome with
  | error e => exact ⟨stored⟩
  | ok => exact ⟨stored⟩

theorem ensures_runList (opened : StateStore.ofRead path (s.disk.read path) = .ok store)
    (sort : Option SortField) (descending : Bool) (names : List String) :
    Ensures (runList settings terminal store
        (sort.map fun field => ⟨field, .ofAscending (!descending)⟩) names : Run _) s
      (fun ended s' => CampaignEffect path (.list sort descending names) s.disk ended s'.disk)
      fun s' => s'.disk = s.disk := by
  unfold runList
  refine (ensures_loadDesk settings store s).bind ?_
  rintro loaded s' ⟨same, desks⟩
  cases loaded with
  | error e => exact ⟨same ▸ Disk.Grows.refl s.disk⟩
  | ok desk =>
      obtain ⟨campaigns, rfl⟩ := desks desk rfl
      cases sort with
      | none => exact ⟨⟨rfl, store, opened, same⟩⟩
      | some field =>
          refine (ensures_userSort _ _ s' _).bind ?_
          rintro ⟨sorted, outcome⟩ s'' stored
          rw [CampaignDesk.store_restore, StateStore.path_of_ofRead opened, same] at stored
          cases outcome with
          | error e => exact ⟨stored⟩
          | ok =>
              refine ⟨⟨rfl, store, opened, ?_⟩⟩
              cases descending <;> exact stored

theorem ensures_runSort (opened : StateStore.ofRead path (s.disk.read path) = .ok store)
    (field : SortField) :
    Ensures (runSort settings terminal store field : Run _) s
      (fun ended s' => CampaignEffect path (.sort field) s.disk ended s'.disk)
      fun s' => s'.disk = s.disk := by
  unfold runSort
  refine (ensures_loadDesk settings store s).bind ?_
  rintro loaded s' ⟨same, desks⟩
  cases loaded with
  | error e => exact ⟨same ▸ Disk.Grows.refl s.disk⟩
  | ok desk =>
      obtain ⟨campaigns, rfl⟩ := desks desk rfl
      refine (ensures_activate _ field s' _).bind ?_
      rintro ⟨sorted, outcome⟩ s'' stored
      rw [CampaignDesk.store_restore, StateStore.path_of_ofRead opened, same] at stored
      cases outcome with
      | error e => exact ⟨stored⟩
      | ok choice =>
          refine ⟨⟨rfl, store, opened, ?_⟩⟩
          rw [CampaignDesk.sortSet_restore campaigns]
          exact stored

/-- Creating a job leaves the disk as it is. -/
theorem ensures_runCreate (opened : StateStore.ofRead path (s.disk.read path) = .ok store)
    (action : Option String) (fields : FormValues) :
    Ensures (runCreate settings terminal store action fields : Run _) s
      (fun ended s' => CampaignEffect path (.create action fields) s.disk ended s'.disk)
      fun s' => s'.disk = s.disk := by
  unfold runCreate
  have creating := keepsDisk_createJob (.ofAddress settings.pageUrl)
    (action.getD settings.listUrl) fields
  refine (creating.ensures rfl).bind fun answer s' same => ?_
  cases answer with
  | error e => exact ⟨same ▸ Disk.Grows.refl s.disk⟩
  | ok =>
      refine ((keepsDisk_printLines terminal _).ensures same).bind fun _ s₁ same₁ => ?_
      have loading := ensures_loadDesk settings store s₁
      rw [same₁] at loading
      refine loading.bind ?_
      rintro loaded s₂ ⟨same₂, _⟩
      cases loaded with
      | error e => exact ⟨same₂ ▸ Disk.Grows.refl s.disk⟩
      | ok desk => exact ⟨⟨rfl, store, opened, same₂⟩⟩

/-- What a command about the campaign list leaves on the disk, whatever the page answers. -/
theorem ensures_runCampaign (settings : Settings) (terminal : Terminal.Settings)
    (command : CampaignCommand) (s : Session) :
    Ensures (runCampaign settings terminal command : Run _) s
      (fun ended s' => CampaignEffect ⟨settings.statePath⟩ command s.disk ended s'.disk)
      fun s' => s'.disk = s.disk := by
  unfold runCampaign
  have reading : Ensures (StateStore.openAt ⟨settings.statePath⟩ : Run _) s
      (fun found s' => found = StateStore.ofRead ⟨settings.statePath⟩
        (s.disk.read ⟨settings.statePath⟩) ∧ s' = s) fun s' => s'.disk = s.disk :=
    ⟨⟨rfl, rfl⟩⟩
  refine reading.bind ?_
  rintro found s' ⟨rfl, rfl⟩
  cases opened : StateStore.ofRead ⟨settings.statePath⟩ (s'.disk.read ⟨settings.statePath⟩) with
  | error e => exact ⟨Disk.Grows.refl _⟩
  | ok store =>
      cases command with
      | list sort descending names => exact ensures_runList opened sort descending names
      | sort field => exact ensures_runSort opened field
      | create action fields => exact ensures_runCreate opened action fields

end Command

end CampaignConsole
