import CampaignConsole.Proofs.Command.CampaignRuns
import Mathlib.Logic.Function.Iterate

/-!
# The remembered sort, from one run of the console to the next

An `Invocation` is one start of the console with a command about the campaign list; only the disk is
left to the next one.  `rememberedSort` is the sort that the state file remembers.

* `Invocation.leaves_cases` is the step lemma: what an invocation leaves on the disk.
* `rememberedSort_reach` is the run lemma: the sort remembered is what the commands that succeeded
  make of the one remembered first.
* `rememberedSort_follows` says both of every disk, every page and every device that may refuse.
-/

namespace CampaignConsole

open Files

/-! ## What is remembered -/

/-- The sort that the state file at a path remembers. -/
def rememberedSort (d : Disk) (path : Path) : Option SortChoice := do
  let entries ← storedEntries d path
  let text ← entries.get? sortKey
  (SortChoice.decode text).toOption

/-- The sort remembered after a command succeeded. -/
def nextSort (remembered : Option SortChoice) (command : CampaignCommand) : Option SortChoice :=
  (command.sortSet remembered).or remembered

/-! ## Invocations -/

/-- One start of the console with a command about the campaign list, with all that the command meets
but the disk: the settings, the page's answers, and what the device refuses meanwhile. -/
structure Invocation where
  command : CampaignCommand
  settings : Settings
  terminal : Terminal.Settings := { colors := false, redraw := false }
  page : PageScript := {}
  /-- The directories in which nothing may be made or replaced. -/
  readOnly : List Location := []
  /-- Whether no more bytes can be written. -/
  full : Bool := false

namespace Invocation

/-- The disk that an invocation finds: what stands on it is what was left there. -/
def finds (d : Disk) (now : Invocation) : Disk :=
  { d with readOnly := now.readOnly, full := now.full }

/-- Runs the command with the state file at a path. -/
def run (path : Path) (d : Disk) (now : Invocation) : Session.Outcome × Session :=
  Session.run { now.settings with statePath := path.text } now.terminal (.campaign now.command)
    { page := now.page, disk := now.finds d }

/-- How an invocation ends. -/
def outcome (path : Path) (d : Disk) (now : Invocation) : Session.Outcome :=
  (now.run path d).1

/-- The disk that an invocation leaves. -/
def leaves (path : Path) (d : Disk) (now : Invocation) : Disk :=
  (now.run path d).2.disk

/-- The disk after some invocations, one after the other. -/
def reach (path : Path) (d : Disk) (invocations : List Invocation) : Disk :=
  invocations.foldl (leaves path) d

/-- The commands that succeed, in order. -/
def succeeded (path : Path) (d : Disk) : List Invocation → List CampaignCommand
  | [] => []
  | now :: later =>
      if now.outcome path d = .done then
        now.command :: succeeded path (now.leaves path d) later
      else succeeded path (now.leaves path d) later

/-! ## One invocation -/

theorem finds_grows (d : Disk) (now : Invocation) : d.Grows (now.finds d) :=
  ⟨rfl, fun _ => Or.inl rfl⟩

/-- What an invocation leaves on the disk, by how it ends. -/
theorem leaves_cases (path : Path) (d : Disk) (now : Invocation) :
    (now.outcome path d ≠ .done ∧ d.Grows (now.leaves path d)) ∨
      (now.outcome path d = .done ∧ ∃ store, StateStore.ofRead path (d.read path) = .ok store ∧
        match now.command.sortSet (CampaignDesk.remembered? store) with
        | none => now.leaves path d = now.finds d
        | some choice => (now.finds d).Stores path
            (store.insert sortKey choice.encode).entries.text (now.leaves path d)) := by
  have effect := (Command.ensures_runCampaign { now.settings with statePath := path.text }
    now.terminal now.command { page := now.page, disk := now.finds d }).holds
  unfold outcome leaves run Session.run Command.run
  dsimp only
  split at effect
  · rename_i ended s' ran
    rw [ran]
    cases ended with
    | error e =>
        have grows : (now.finds d).Grows s'.disk := effect
        exact Or.inl ⟨by simp, (finds_grows d now).trans grows⟩
    | ok ending =>
        obtain ⟨rfl, done⟩ := effect
        exact Or.inr ⟨rfl, done⟩
  · -- The script ends a run before anything is written.
    rename_i s' ran
    rw [ran]
    have grows : d.Grows s'.disk := effect ▸ finds_grows d now
    exact Or.inl ⟨by simp, grows⟩

end Invocation

/-! ## The sort in the state file -/

section

variable {path : Path} {d d' : Disk} {store : StateStore}

theorem remembered?_of_ofRead (opened : StateStore.ofRead path (d.read path) = .ok store) :
    CampaignDesk.remembered? store = rememberedSort d path := by
  unfold CampaignDesk.remembered? rememberedSort StateStore.get?
  rw [StateStore.entries_of_ofRead opened]
  cases storedEntries d path with
  | none => rfl
  | some entries =>
      simp only [Option.getD_some, Option.bind_eq_bind, Option.bind_some]
      cases entries.get? sortKey with
      | none => rfl
      | some text =>
          simp only [Option.bind_some]
          cases SortChoice.decode text <;> rfl

/-- A sort that was stored is remembered, and no other value changes. -/
theorem rememberedSort_of_stores (opened : StateStore.ofRead path (d.read path) = .ok store)
    {choice : SortChoice}
    (stores : d.Stores path (store.insert sortKey choice.encode).entries.text d') :
    rememberedSort d' path = some choice ∧ ∃ entries, storedEntries d' path = some entries ∧
      ∀ key, key ≠ sortKey → entries.get? key = ((storedEntries d path).getD .empty).get? key := by
  obtain ⟨stored, _⟩ := StateStore.storedEntries_of_stores opened stores
  refine ⟨?_, _, stored, ?_⟩
  · have kept := CampaignDesk.get?_insert_sortKey store choice.encode
    simp [rememberedSort, stored, kept, SortChoice.decode_encode, Except.toOption]
  · intro key other
    rw [StateStore.insert, Entries.get?_insert, if_neg other, StateStore.entries_of_ofRead opened]

end

namespace Invocation

variable {path : Path} {d : Disk} {now : Invocation}

/-- An invocation that fails or is cut off has made directories at most. -/
theorem grows_of_not_done (failed : now.outcome path d ≠ .done) : d.Grows (now.leaves path d) := by
  rcases leaves_cases path d now with ⟨_, grows⟩ | ⟨done, _⟩
  · exact grows
  · exact absurd done failed

/-- An invocation that succeeds without picking a sort leaves the disk that it found. -/
theorem leaves_of_sortSet_none (done : now.outcome path d = .done)
    (sets : now.command.sortSet (rememberedSort d path) = none) :
    now.leaves path d = now.finds d := by
  rcases leaves_cases path d now with ⟨failed, _⟩ | ⟨_, store, opened, effect⟩
  · exact absurd done failed
  · rwa [remembered?_of_ofRead opened, sets] at effect

/-- An invocation that succeeds and picks a sort has it remembered and changes no other value; the
path leads to the state file then. -/
theorem leaves_of_sortSet_some {choice : SortChoice} (done : now.outcome path d = .done)
    (sets : now.command.sortSet (rememberedSort d path) = some choice) :
    rememberedSort (now.leaves path d) path = some choice ∧
      (∃ entries, storedEntries (now.leaves path d) path = some entries ∧ ∀ key, key ≠ sortKey →
        entries.get? key = ((storedEntries d path).getD .empty).get? key) ∧
      ∃ loc, (now.leaves path d).locate path = .ok loc := by
  rcases leaves_cases path d now with ⟨failed, _⟩ | ⟨_, store, opened, effect⟩
  · exact absurd done failed
  · rw [remembered?_of_ofRead opened, sets] at effect
    have openedThere : StateStore.ofRead path ((now.finds d).read path) = .ok store := opened
    obtain ⟨remembered, others⟩ := rememberedSort_of_stores openedThere effect
    exact ⟨remembered, others, (StateStore.storedEntries_of_stores openedThere effect).2⟩

/-! ## Many invocations -/

theorem nextSort_of_sortSet {remembered : Option SortChoice} {choice : SortChoice}
    {command : CampaignCommand} (sets : command.sortSet remembered = some choice) :
    nextSort remembered command = some choice := by
  rw [nextSort, sets, Option.some_or]

/-- The step lemma: an invocation at a settled path leaves it settled, and moves the remembered sort
where it succeeds. -/
theorem leaves_settled (settled : d.Settled path) (now : Invocation) :
    (now.leaves path d).Settled path ∧
      rememberedSort (now.leaves path d) path =
        if now.outcome path d = .done then nextSort (rememberedSort d path) now.command
        else rememberedSort d path := by
  have grown {d' : Disk} (grows : d.Grows d') :
      d'.Settled path ∧ rememberedSort d' path = rememberedSort d path := by
    refine ⟨settled.of_grows grows, ?_⟩
    rw [rememberedSort, storedEntries, settled d' grows]
    rfl
  split_ifs with done
  · cases sets : now.command.sortSet (rememberedSort d path) with
    | none =>
        rw [leaves_of_sortSet_none done sets, nextSort, sets, Option.none_or]
        exact grown (finds_grows d now)
    | some choice =>
        obtain ⟨remembered, _, loc, located⟩ := leaves_of_sortSet_some done sets
        rw [nextSort_of_sortSet sets]
        exact ⟨Disk.settled_of_locate located, remembered⟩
  · exact grown (grows_of_not_done done)

/-- The run lemma: the sort remembered is what the commands that succeeded make of the first one. -/
theorem rememberedSort_reach (settled : d.Settled path) (invocations : List Invocation) :
    rememberedSort (reach path d invocations) path =
      (succeeded path d invocations).foldl nextSort (rememberedSort d path) := by
  induction invocations generalizing d with
  | nil => rfl
  | cons now later ih =>
      obtain ⟨settledAfter, remembered⟩ := leaves_settled settled now
      rw [reach, List.foldl_cons, ← reach, ih settledAfter, remembered, succeeded]
      split_ifs <;> rfl

/-- A command that succeeds was given. -/
theorem mem_succeeded {invocations : List Invocation} {command : CampaignCommand}
    (member : command ∈ succeeded path d invocations) :
    ∃ now ∈ invocations, now.command = command := by
  induction invocations generalizing d with
  | nil => cases member
  | cons now later ih =>
      rw [succeeded] at member
      split_ifs at member
      · rcases List.mem_cons.1 member with rfl | there
        · exact ⟨now, List.mem_cons_self, rfl⟩
        · obtain ⟨other, inside, same⟩ := ih there
          exact ⟨other, List.mem_cons_of_mem _ inside, same⟩
      · obtain ⟨other, inside, same⟩ := ih member
        exact ⟨other, List.mem_cons_of_mem _ inside, same⟩

/-- Activating one control again and again turns its direction each time. -/
theorem foldl_nextSort_sort {commands : List CampaignCommand} {field : SortField}
    (only : ∀ command ∈ commands, command = .sort field) (direction : SortDirection) :
    commands.foldl nextSort (some ⟨field, direction⟩) =
      some ⟨field, SortDirection.flipped^[commands.length] direction⟩ := by
  induction commands generalizing direction with
  | nil => rfl
  | cons command commands ih =>
      obtain rfl := only command List.mem_cons_self
      have turned : nextSort (some ⟨field, direction⟩) (.sort field) =
          some ⟨field, direction.flipped⟩ := by
        simp [nextSort, CampaignCommand.sortSet]
      have rest := ih fun other member => only other (List.mem_cons_of_mem _ member)
      rw [List.foldl_cons, turned, rest]
      rfl

/-- **The remembered sort follows the commands that succeed.**  An invocation that fails or is cut
off changes no file.  One that succeeds without picking a sort changes nothing on the disk.  One
that succeeds and picks a sort has it remembered, and keeps every other value of the state file.
From then on, and from the start where the path leads to a place or never turns back, the sort
remembered is what the commands that succeeded make of the one remembered before, whatever failed
in between; so activating one control again and again turns the direction each time. -/
theorem rememberedSort_follows (path : Path) (d : Disk) (now : Invocation)
    (later : List Invocation) :
    (now.outcome path d ≠ .done → ∀ loc bytes,
      (now.leaves path d).get? loc = some (.file bytes) ↔ d.get? loc = some (.file bytes)) ∧
    (now.outcome path d = .done → now.command.sortSet (rememberedSort d path) = none →
      ∀ loc, (now.leaves path d).get? loc = d.get? loc) ∧
    (∀ choice, now.outcome path d = .done →
      now.command.sortSet (rememberedSort d path) = some choice →
      rememberedSort (now.leaves path d) path = some choice ∧
      (∃ entries, storedEntries (now.leaves path d) path = some entries ∧ ∀ key, key ≠ sortKey →
        entries.get? key = ((storedEntries d path).getD .empty).get? key) ∧
      rememberedSort (reach path d (now :: later)) path =
        (succeeded path d (now :: later)).foldl nextSort (rememberedSort d path) ∧
      ∀ field, (∀ other ∈ now :: later, other.command = .sort field) →
        rememberedSort (reach path d (now :: later)) path =
          some ⟨field, SortDirection.flipped^[(succeeded path (now.leaves path d) later).length]
            choice.direction⟩) ∧
    ((∃ loc, d.locate path = .ok loc) ∨ d.IsTree ∧ ".." ∉ path.steps →
      rememberedSort (reach path d (now :: later)) path =
        (succeeded path d (now :: later)).foldl nextSort (rememberedSort d path)) := by
  refine ⟨fun failed loc bytes => (grows_of_not_done failed).file_iff, ?_, ?_, ?_⟩
  · intro done sets loc
    rw [leaves_of_sortSet_none done sets]
    rfl
  · intro choice done sets
    obtain ⟨remembered, others, loc, located⟩ := leaves_of_sortSet_some done sets
    -- The path leads to the file just written, so it is settled from here on.
    have onwards := rememberedSort_reach (Disk.settled_of_locate located) later
    rw [remembered] at onwards
    refine ⟨remembered, others, ?_, ?_⟩
    · rw [reach, List.foldl_cons, ← reach, onwards, succeeded, if_pos done, List.foldl_cons,
        nextSort_of_sortSet sets]
    · intro field only
      rw [only now List.mem_cons_self] at sets
      obtain ⟨column, direction⟩ := choice
      obtain rfl : column = field := CampaignCommand.field_of_sortSet sets
      have repeated (command : CampaignCommand)
          (member : command ∈ succeeded path (now.leaves path d) later) :
          command = .sort column := by
        obtain ⟨other, inside, rfl⟩ := mem_succeeded member
        exact only other (List.mem_cons_of_mem _ inside)
      rw [foldl_nextSort_sort repeated] at onwards
      exact onwards
  · intro leads
    have settled : d.Settled path := by
      rcases leads with ⟨loc, located⟩ | ⟨tree, straight⟩
      · exact Disk.settled_of_locate located
      · exact Disk.settled_of_isTree tree straight
    exact rememberedSort_reach settled (now :: later)

/-- A page that answers with an empty list. -/
def emptyList : PageScript :=
  { reactions := [.reply { code := 200, body := "\x7b\"status\":true,\"data\":[]\x7d".toUTF8 }] }

/-- Activating the control of the dates, where the page answers. -/
def sortDates : Invocation :=
  { command := .sort .date, settings := { pageUrl := "http://h" }, page := emptyList }

/-- Showing the list as it is. -/
def showList : Invocation :=
  { command := .list none false [], settings := { pageUrl := "http://h" }, page := emptyList }

/-- The same on a device without room. -/
def sortDatesFull : Invocation :=
  { sortDates with full := true }

/-- The disk after the dates were sorted once. -/
def datesSorted : Disk :=
  sortDates.leaves ⟨"state"⟩ {}

theorem rememberedSort_follows_dates :
    (sortDatesFull.outcome ⟨"state"⟩ datesSorted ≠ .done ∧ ∀ loc bytes,
      (sortDatesFull.leaves ⟨"state"⟩ datesSorted).get? loc = some (.file bytes) ↔
        datesSorted.get? loc = some (.file bytes)) ∧
    (showList.outcome ⟨"state"⟩ datesSorted = .done ∧
      ∀ loc, (showList.leaves ⟨"state"⟩ datesSorted).get? loc = datesSorted.get? loc) ∧
    rememberedSort (reach ⟨"state"⟩ {} [sortDates, sortDatesFull, sortDates]) ⟨"state"⟩ =
      some ⟨.date, .descending⟩ ∧
    rememberedSort (reach ⟨"state"⟩ {} [sortDatesFull, sortDates, showList]) ⟨"state"⟩ =
      [.sort .date, .list none false []].foldl nextSort none := by
  refine ⟨?_, ?_, ?_, ?_⟩
  · have failed : sortDatesFull.outcome ⟨"state"⟩ datesSorted ≠ .done := by decide +kernel
    exact ⟨failed, (rememberedSort_follows ⟨"state"⟩ datesSorted sortDatesFull []).1 failed⟩
  · have done : showList.outcome ⟨"state"⟩ datesSorted = .done := by decide +kernel
    exact ⟨done, (rememberedSort_follows ⟨"state"⟩ datesSorted showList []).2.1 done rfl⟩
  · have done : sortDates.outcome ⟨"state"⟩ {} = .done := by decide +kernel
    have sets : sortDates.command.sortSet (rememberedSort {} ⟨"state"⟩) =
        some ⟨.date, .ascending⟩ := by decide +kernel
    have once : (succeeded ⟨"state"⟩ (sortDates.leaves ⟨"state"⟩ {})
        [sortDatesFull, sortDates]).length = 1 := by decide +kernel
    have only : ∀ other ∈ [sortDates, sortDatesFull, sortDates], other.command = .sort .date := by
      simp [sortDates, sortDatesFull]
    have alternates := ((rememberedSort_follows ⟨"state"⟩ {} sortDates
      [sortDatesFull, sortDates]).2.2.1 _ done sets).2.2.2 .date only
    rw [once] at alternates
    exact alternates
  · have located : ({} : Disk).locate ⟨"state"⟩ = .ok ["state"] := by decide +kernel
    have commands : succeeded ⟨"state"⟩ {} [sortDatesFull, sortDates, showList] =
        [.sort .date, .list none false []] := by decide +kernel
    have follows := (rememberedSort_follows ⟨"state"⟩ {} sortDatesFull
      [sortDates, showList]).2.2.2 (Or.inl ⟨_, located⟩)
    rw [commands] at follows
    exact follows

end Invocation

end CampaignConsole
