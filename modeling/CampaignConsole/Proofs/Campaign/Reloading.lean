import CampaignConsole.Proofs.Campaign.Canonical
import CampaignConsole.Proofs.Campaign.DeskLaws
import CampaignConsole.Proofs.Store.Reopening

/-!
# Reloading a list shows what the session showed

A `DeskSession` is a list on a desk, with the disk that remembers its sort and the sorts applied so
far.  Every sort of the user sets one value of the store (`sort_eq_some`), so what is known of the
store carries over.

* `ofCampaigns_foldl_sortBy` says that the last sort alone decides a list.
* `Remembers` is the invariant: the store on the disk remembers the last sort, and the list and the
  controls are what sorts made of them.  `Remembers.sort` is its step lemma.
* `reload_after_session` compares the session with a list that is loaded afresh.
-/

namespace CampaignConsole

open Files

/-! ## The last sort decides a list -/

theorem DisplayRun.reach_sorts (campaigns : List Campaign) (choices : List SortChoice) :
    let run := DisplayRun.reach campaigns (choices.map .sort)
    run.list = choices.foldl CampaignList.sortBy (.ofCampaigns campaigns) ∧ run.removed = [] ∧
      run.lastSort = choices.getLast? := by
  induction choices using List.reverseRecOn with
  | nil => exact ⟨rfl, rfl, rfl⟩
  | append_singleton choices choice ih =>
      rcases ih with ⟨list, removed, _⟩
      have last : DisplayRun.reach campaigns ((choices ++ [choice]).map .sort) =
          (DisplayRun.reach campaigns (choices.map .sort)).edit (.sort choice) := by
        simp [DisplayRun.reach, List.foldl_append]
      rw [last, List.foldl_append, ← list, List.getLast?_concat]
      exact ⟨rfl, removed, rfl⟩

/-- Whatever sorts came before, the last one decides the list. -/
theorem ofCampaigns_foldl_sortBy (campaigns : List Campaign) {choices others : List SortChoice}
    (same : choices.getLast? = others.getLast?) :
    choices.foldl CampaignList.sortBy (.ofCampaigns campaigns) =
      others.foldl CampaignList.sortBy (.ofCampaigns campaigns) := by
  rcases DisplayRun.reach_sorts campaigns choices with ⟨list, removed, last⟩
  rcases DisplayRun.reach_sorts campaigns others with ⟨otherList, otherRemoved, otherLast⟩
  have canonical := DisplayRun.canonical_reach campaigns (choices.map .sort)
  have rows := canonical.rows_eq (DisplayRun.canonical_reach campaigns (others.map .sort))
    (fun p => by
      rw [DisplayRun.removedPositions, DisplayRun.removedPositions, removed, otherRemoved])
    (last.trans (same.trans otherLast.symm))
  rw [← list, ← otherList]
  exact congrArg CampaignList.mk rows

/-! ## Sessions -/

/-- How a user sorts a list. -/
inductive UserSort where
  | pick (choice : SortChoice)
  /-- Activates the control of a column. -/
  | activate (field : SortField)
  deriving DecidableEq, Repr

/-- A list on a desk, the disk that remembers its sort, and the sorts applied so far, in order. -/
structure DeskSession where
  desk : CampaignDesk
  disk : Disk
  applied : List SortChoice := []

namespace DeskSession

/-- The session after one more sort; none where it cannot be remembered. -/
def sort (now : DeskSession) : UserSort → Option DeskSession
  | .pick choice =>
      match (now.desk.userSort choice : StateM Disk _).run now.disk with
      | ((desk, .ok ()), disk) => some { desk, disk, applied := now.applied ++ [choice] }
      | ((_, .error _), _) => none
  | .activate field =>
      match (now.desk.activate field : StateM Disk _).run now.disk with
      | ((desk, .ok choice), disk) => some { desk, disk, applied := now.applied ++ [choice] }
      | ((_, .error _), _) => none

/-- Opens the state file, loads a list, restores the remembered sort or not, and sorts as the user
does; none where something fails. -/
def reach (path : Path) (d : Disk) (campaigns : List Campaign) (restored : Bool)
    (sorts : List UserSort) : Option DeskSession := do
  let (store, disk) ← StoreStep.openOn path d
  let desk := CampaignDesk.load campaigns store
  sorts.foldlM sort { desk := if restored then desk.restore.1 else desk, disk }

/-- Opens the state file, loads a list and restores the remembered sort. -/
def reload (path : Path) (campaigns : List Campaign) :
    StateM Disk (Except StoreError (CampaignDesk × Option SortChoice)) := do
  match ← StateStore.openAt path with
  | .error e => return .error e
  | .ok store => return .ok (CampaignDesk.load campaigns store).restore

/-! ## One sort -/

theorem sort_pick_eq_some (path : Path) {now next : DeskSession} {choice : SortChoice}
    (sorted : now.sort (.pick choice) = some next) :
    next.applied = now.applied ++ [choice] ∧ next.desk.list = now.desk.list.sortBy choice ∧
      next.desk.controls = now.desk.controls.markSorted choice ∧
      StoreStep.run path (now.desk.store, now.disk) (.set sortKey choice.encode) =
        some (next.desk.store, next.disk) := by
  have picks : (now.desk.userSort choice : StateM Disk _).run now.disk =
      (let set := (now.desk.store.set sortKey choice.encode : StateM Disk _).run now.disk
       (({ now.desk.arrange choice with store := set.1.1 }, set.1.2), set.2)) := rfl
  unfold StoreStep.run
  dsimp only
  rw [sort, picks] at sorted
  generalize (now.desk.store.set sortKey choice.encode : StateM Disk _).run now.disk = set
    at sorted ⊢
  rcases set with ⟨⟨store, e | done⟩, disk⟩
  · cases sorted
  · cases sorted
    exact ⟨rfl, rfl, rfl, rfl⟩

/-- Activating a control picks the sort that it points to. -/
theorem sort_activate (now : DeskSession) (field : SortField) :
    now.sort (.activate field) = now.sort (.pick ⟨field, now.desk.controls.next field⟩) := by
  have activates : (now.desk.activate field : StateM Disk _).run now.disk =
      (let picked : SortChoice := ⟨field, now.desk.controls.next field⟩
       let sorted := (now.desk.userSort picked : StateM Disk _).run now.disk
       ((sorted.1.1, sorted.1.2.map fun _ => picked), sorted.2)) := rfl
  unfold sort
  dsimp only
  rw [activates]
  dsimp only
  generalize (now.desk.userSort ⟨field, now.desk.controls.next field⟩ : StateM Disk _).run
    now.disk = sorted
  rcases sorted with ⟨⟨desk, e | done⟩, disk⟩
  · rfl
  · rfl

/-- What a sort of the user does: it arranges the list, and sets one value of the store. -/
theorem sort_eq_some (path : Path) {now next : DeskSession} {asked : UserSort}
    (sorted : now.sort asked = some next) :
    ∃ choice, next.applied = now.applied ++ [choice] ∧
      next.desk.list = now.desk.list.sortBy choice ∧
      next.desk.controls = now.desk.controls.markSorted choice ∧
      StoreStep.run path (now.desk.store, now.disk) (.set sortKey choice.encode) =
        some (next.desk.store, next.disk) := by
  cases asked with
  | pick choice => exact ⟨choice, sort_pick_eq_some path sorted⟩
  | activate field =>
      rw [sort_activate] at sorted
      exact ⟨_, sort_pick_eq_some path sorted⟩

/-! ## Many sorts -/

/-- The store on the disk is the one in memory, and it remembers the last sort.  The list and the
controls are what the sorts made of them, the one restored at first included. -/
structure Remembers (path : Path) (campaigns : List Campaign) (restored : Option SortChoice)
    (now : DeskSession) : Prop where
  stored : StoreStep.InStep path (now.desk.store, now.disk)
  list : now.desk.list = (restored.toList ++ now.applied).foldl CampaignList.sortBy
    (.ofCampaigns campaigns)
  last : ∀ choice, now.applied.getLast? = some choice →
    CampaignDesk.remembered? now.desk.store = some choice ∧
      now.desk.controls.next choice.field = choice.direction.flipped

section

variable {path : Path} {campaigns : List Campaign} {restored : Option SortChoice}
  {now next session : DeskSession}

/-- The step lemma. -/
theorem Remembers.sort (remembers : Remembers path campaigns restored now) {asked : UserSort}
    (sorted : now.sort asked = some next) : Remembers path campaigns restored next := by
  rcases sort_eq_some path sorted with ⟨choice, applied, list, controls, set⟩
  have inMemory : next.desk.store = now.desk.store.insert sortKey choice.encode :=
    (StoreStep.run_set_eq_some set).1
  refine ⟨remembers.stored.set set, ?_, ?_⟩
  · rw [list, applied, ← List.append_assoc, List.foldl_append, ← remembers.list]
    rfl
  · intro picked isLast
    rw [applied, List.getLast?_concat] at isLast
    cases isLast
    refine ⟨?_, ?_⟩
    · rw [inMemory]
      exact CampaignDesk.remembered?_insert now.desk.store choice
    · rw [controls, CampaignDesk.next_markSorted, if_pos rfl]

/-- The run lemma, with the number of sorts applied. -/
theorem Remembers.foldlM (remembers : Remembers path campaigns restored now)
    {sorts : List UserSort} (ran : sorts.foldlM DeskSession.sort now = some session) :
    Remembers path campaigns restored session ∧
      session.applied.length = now.applied.length + sorts.length := by
  induction sorts generalizing now with
  | nil =>
      cases ran
      exact ⟨remembers, rfl⟩
  | cons asked sorts ih =>
      rw [List.foldlM_cons] at ran
      rcases Option.bind_eq_some_iff.1 ran with ⟨next, first, rest⟩
      rcases sort_eq_some path first with ⟨choice, applied, _⟩
      have after := ih (remembers.sort first) rest
      refine ⟨after.1, ?_⟩
      rw [after.2, applied, List.length_append, List.length_singleton, List.length_cons]
      omega

/-- A list that was loaded, with its remembered sort or without it, is the start of a session. -/
theorem remembers_start {store : StateStore} {disk : Disk}
    (stored : StoreStep.InStep path (store, disk)) (campaigns : List Campaign) (restore : Bool) :
    let desk := CampaignDesk.load campaigns store
    ∃ restored, Remembers path campaigns restored
      { desk := if restore then desk.restore.1 else desk, disk } := by
  intro desk
  have plain : Remembers path campaigns none { desk, disk } :=
    ⟨stored, rfl, fun choice last => by cases last⟩
  cases restore with
  | false => exact ⟨none, plain⟩
  | true =>
      cases remembered : CampaignDesk.remembered? store with
      | none =>
          refine ⟨none, ?_⟩
          rw [if_pos rfl, CampaignDesk.restore_load_of_none remembered]
          exact plain
      | some choice =>
          refine ⟨some choice, ?_⟩
          rw [if_pos rfl, CampaignDesk.restore_load_of_some remembered]
          exact ⟨stored, rfl, fun _ last => by cases last⟩

theorem reload_of_ofRead {d : Disk} {store : StateStore}
    (opened : StateStore.ofRead path (d.read path) = .ok store) :
    (reload path campaigns).run d = (.ok (CampaignDesk.load campaigns store).restore, d) := by
  have reads : (StateStore.openAt path : StateM Disk _).run d =
      (StateStore.ofRead path (d.read path), d) := rfl
  rw [reload, StateT.run_bind, reads, opened]
  rfl

/-- **Reloading a list shows what the session showed.**  Let a list be loaded, with its remembered
sort or without it, and sorted by the user at least once, with every sort remembered.  When the
state file is opened anew and the list is loaded afresh, the sort restored is the last one applied,
and every row is as it was in the session.  The control of the sorted column points where it
pointed, the others point upwards, and neither the store nor the disk changes. -/
theorem reload_after_session {d : Disk} {restore : Bool} {sorts : List UserSort}
    (ran : reach path d campaigns restore sorts = some session) (sortedOnce : sorts ≠ []) :
    ∃ last reloaded, session.applied.getLast? = some last ∧
      (reload path campaigns).run session.disk = (.ok (reloaded, some last), session.disk) ∧
      reloaded.list = session.desk.list ∧
      reloaded.controls.next last.field = session.desk.controls.next last.field ∧
      (∀ field, field ≠ last.field → reloaded.controls.next field = .ascending) ∧
      reloaded.store = session.desk.store ∧
      StateStore.ofRead path (session.disk.read path) = .ok reloaded.store := by
  rcases Option.bind_eq_some_iff.1 ran with ⟨⟨store, disk⟩, opened, ran⟩
  have stored : StoreStep.InStep path (store, disk) := (StoreStep.openOn_eq_some_iff.1 opened).1
  rcases remembers_start stored campaigns restore with ⟨restored, start⟩
  rcases start.foldlM ran with ⟨remembers, applied⟩
  -- Each sort of the user was applied, so there is a last one.
  have some : session.applied ≠ [] := by
    rw [← List.length_pos_iff, applied]
    have := List.length_pos_iff.2 sortedOnce
    omega
  rcases Option.ne_none_iff_exists'.1 (mt List.getLast?_eq_none_iff.1 some) with ⟨last, isLast⟩
  rcases remembers.last last isLast with ⟨remembered, control⟩
  have fresh : StateStore.ofRead path (session.disk.read path) = .ok session.desk.store :=
    remembers.stored
  refine ⟨last, (CampaignDesk.load campaigns session.desk.store).arrange last, isLast, ?_, ?_, ?_,
    ?_, rfl, fresh⟩
  · rw [reload_of_ofRead fresh,
      CampaignDesk.restore_of_some (.load campaigns session.desk.store) remembered]
  · have lastOnly : [last].getLast? = (restored.toList ++ session.applied).getLast? := by
      rw [List.getLast?_append, isLast]
      rfl
    rw [remembers.list, ← ofCampaigns_foldl_sortBy campaigns lastOnly]
    rfl
  · rw [control, CampaignDesk.arrange, CampaignDesk.next_markSorted, if_pos rfl]
  · intro field other
    rw [CampaignDesk.arrange, CampaignDesk.next_markSorted, if_neg (Ne.symm other)]
    exact CampaignDesk.next_untouched field

end

/-- Three campaigns, two of them of one title, and none with a date. -/
def namesakes : List Campaign :=
  [("a", "News"), ("b", "Offers"), ("c", "News")].map fun (name, title) =>
    { name, title := some title, statusDate := none, status := none }

/-- A state file that remembers a sort by name, and another value. -/
def nameRemembered : Disk :=
  { entries := [(["state"], .file
      "\x7b\"email-sort-type\":\"name#desc\",\"theme\":\"dark\"\x7d".toUTF8)] }

/-- Controls are activated and a sort is picked in between. -/
def mixedSorts : List UserSort :=
  [.activate .name, .pick ⟨.status, .descending⟩, .activate .date, .activate .name]

theorem reload_after_session_namesakes :
    ∃ session, reach ⟨"state"⟩ nameRemembered namesakes true mixedSorts = some session ∧
      session.applied = [⟨.name, .ascending⟩, ⟨.status, .descending⟩, ⟨.date, .ascending⟩,
        ⟨.name, .descending⟩] ∧
      ∃ reloaded, (reload ⟨"state"⟩ namesakes).run session.disk =
          (.ok (reloaded, some ⟨.name, .descending⟩), session.disk) ∧
        reloaded.list = session.desk.list ∧
        reloaded.controls.next .name = session.desk.controls.next .name ∧
        reloaded.controls.next .status = .ascending := by
  have succeeds : (reach ⟨"state"⟩ nameRemembered namesakes true mixedSorts).isSome = true := by
    decide +kernel
  have applied : (reach ⟨"state"⟩ nameRemembered namesakes true mixedSorts).map (·.applied) =
      some [⟨.name, .ascending⟩, ⟨.status, .descending⟩, ⟨.date, .ascending⟩,
        ⟨.name, .descending⟩] := by decide +kernel
  rcases Option.isSome_iff_exists.1 succeeds with ⟨session, ran⟩
  rw [ran] at applied
  have inOrder : session.applied = _ := Option.some.inj applied
  rcases reload_after_session ran (by simp [mixedSorts]) with
    ⟨last, reloaded, isLast, reloads, list, control, others, _⟩
  have same : last = ⟨.name, .descending⟩ := by
    rw [inOrder] at isLast
    exact (Option.some.inj isLast).symm
  rw [same] at reloads control others
  exact ⟨session, ran, inOrder, reloaded, reloads, list, control, others .status (by decide)⟩

end DeskSession

end CampaignConsole
