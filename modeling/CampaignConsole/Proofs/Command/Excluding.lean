import CampaignConsole.Command.Run
import CampaignConsole.Proofs.Campaign.Canonical
import CampaignConsole.Proofs.Campaign.Reloading

/-!
# Campaigns taken out of a list by name

`Command.exclude` takes out one row for each mention of a name, the uppermost that is left.  A name
may stand on several rows, and be mentioned several times.  `CampaignList.named` are the rows of one
name, in the order shown.

* `named_remove?` says what one mention takes out, `named_exclude` what all of them do: as many rows
  of a name as it is mentioned, from the top.
* `count_exclude` counts the mentions that found no row.
* `Shows.exact_iff` says when that leaves out all campaigns of the names: each name is to be
  mentioned as often as it stands in the list.
-/

namespace CampaignConsole

open CampaignRow

namespace CampaignList

/-- The rows of the campaigns of a name, without their marks. -/
def named (list : CampaignList) (name : String) : List CampaignRow :=
  (list.rows.map unmarked).filter (·.campaign.name == name)

theorem mem_named {list : CampaignList} {name : String} {row : CampaignRow} :
    row ∈ list.named name ↔ row ∈ list.rows.map unmarked ∧ row.campaign.name = name := by
  rw [named, List.mem_filter, beq_iff_eq]

theorem named_ofRows (rows : List CampaignRow) (name : String) :
    (ofRows rows).named name = (rows.map unmarked).filter (·.campaign.name == name) := by
  rw [named, ofRows, map_unmarked_stripedFrom]

/-! ## One removal -/

/-- Only a name without rows is not found. -/
theorem named_of_remove?_eq_none {list : CampaignList} {name : String}
    (missing : list.remove? name = none) : list.named name = [] := by
  rw [remove?] at missing
  cases found : list.rows.find? (·.campaign.name == name) with
  | some row => simp [found] at missing
  | none =>
      rw [List.find?_eq_none] at found
      rw [named, List.filter_eq_nil_iff]
      intro row member
      obtain ⟨whole, inside, rfl⟩ := List.mem_map.1 member
      exact found whole inside

/-- A removal takes the uppermost row of its name, and none of another name. -/
theorem named_remove? {list rest : CampaignList} {name : String} {row : CampaignRow}
    (removed : list.remove? name = some (row, rest)) (other : String) :
    list.named other = (if name = other then [row.unmarked] else []) ++ rest.named other := by
  obtain ⟨front, back, split, rowName, unnamed, rfl⟩ := remove?_eq_some removed
  have rowNamed : (row.unmarked.campaign.name == other) = decide (name = other) := by
    rw [← rowName]
    rfl
  rw [named_ofRows, named, split, List.map_append, List.map_append, List.map_cons,
    List.filter_append, List.filter_append, List.filter_cons, rowNamed]
  by_cases same : name = other
  · -- No row above the one taken has the name.
    have noneAbove : (front.map unmarked).filter (·.campaign.name == other) = [] := by
      rw [List.filter_eq_nil_iff]
      intro above member named
      obtain ⟨whole, inside, rfl⟩ := List.mem_map.1 member
      exact unnamed whole inside ((eq_of_beq named).trans same.symm)
    simp [same, noneAbove]
  · simp [same]

end CampaignList

namespace Command

open CampaignList

/-! ## Many removals -/

/-- Of the rows of a name as many are taken out as it is mentioned, from the top. -/
theorem named_exclude (list : CampaignList) (names : List String) (name : String) :
    (exclude list names).1.named name = (list.named name).drop (names.count name) := by
  induction names generalizing list with
  | nil => rfl
  | cons first names ih =>
      rw [exclude, List.count_cons]
      cases removed : list.remove? first with
      | none =>
          rw [ih]
          by_cases same : first = name
          · rw [← same, named_of_remove?_eq_none removed, List.drop_nil, List.drop_nil]
          · simp [same]
      | some taken =>
          obtain ⟨row, rest⟩ := taken
          rw [ih, named_remove? removed name]
          by_cases same : first = name
          · simp [same]
          · simp [same]

/-- A mention is reported where the name stood on fewer rows than it was mentioned before. -/
theorem count_exclude (list : CampaignList) (names : List String) (name : String) :
    (exclude list names).2.count name = names.count name - (list.named name).length := by
  induction names generalizing list with
  | nil => simp [exclude]
  | cons first names ih =>
      rw [exclude, List.count_cons]
      cases removed : list.remove? first with
      | none =>
          rw [List.count_cons, ih]
          by_cases same : first = name
          · simp [← same, named_of_remove?_eq_none removed]
          · simp [same]
      | some taken =>
          obtain ⟨row, rest⟩ := taken
          rw [ih, named_remove? removed name]
          by_cases same : first = name
          · simp [same]
          · simp [same]

/-- The mentions reported are in the order of the mentions. -/
theorem sublist_exclude (list : CampaignList) (names : List String) :
    (exclude list names).2.Sublist names := by
  induction names generalizing list with
  | nil => exact List.Sublist.refl []
  | cons first names ih =>
      rw [exclude]
      cases list.remove? first with
      | none => exact (ih list).cons_cons first
      | some taken => exact (ih taken.2).cons first

/-- Names taken out of a displayed list are edits of it. -/
theorem list_foldl_remove (run : DisplayRun) (names : List String) :
    ((names.map ListEdit.remove).foldl DisplayRun.edit run).list = (exclude run.list names).1 := by
  induction names generalizing run with
  | nil => rfl
  | cons first names ih =>
      rw [List.map_cons, List.foldl_cons, ih, exclude, DisplayRun.edit]
      cases run.list.remove? first with
      | none => rfl
      | some taken => rfl

theorem lastSort_foldl_remove (run : DisplayRun) (names : List String) :
    ((names.map ListEdit.remove).foldl DisplayRun.edit run).lastSort = run.lastSort := by
  induction names generalizing run with
  | nil => rfl
  | cons first names ih =>
      rw [List.map_cons, List.foldl_cons, ih, DisplayRun.edit]
      cases run.list.remove? first with
      | none => rfl
      | some taken => rfl

end Command

/-! ## What is left of the campaigns loaded -/

namespace CampaignList

/-- The list of campaigns in the order of a sort, or as loaded where there is none. -/
def sorted (campaigns : List Campaign) (sort : Option SortChoice) : CampaignList :=
  sort.toList.foldl sortBy (.ofCampaigns campaigns)

/-- A list already in the order of a sort is sorted by another one as if it were just loaded. -/
theorem sortBy_sorted (campaigns : List Campaign) (sort : Option SortChoice) (choice : SortChoice) :
    (sorted campaigns sort).sortBy choice = sorted campaigns (some choice) := by
  have twice : (sorted campaigns sort).sortBy choice =
      (sort.toList ++ [choice]).foldl sortBy (.ofCampaigns campaigns) := by
    rw [List.foldl_append]
    rfl
  rw [twice]
  exact ofCampaigns_foldl_sortBy campaigns (by simp)

theorem length_named_sorted (campaigns : List Campaign) (sort : Option SortChoice) (name : String) :
    ((sorted campaigns sort).named name).length = campaigns.countP (·.name == name) := by
  have loaded : ((ofCampaigns campaigns).named name).length =
      campaigns.countP (·.name == name) := by
    have start : (ofCampaigns campaigns).rows.map unmarked = _ := DisplayRun.rows_start campaigns
    conv_rhs => rw [← List.zipIdx_map_fst 0 campaigns, List.countP_map]
    rw [named, start, ← List.countP_eq_length_filter, List.countP_map]
    rfl
  cases sort with
  | none => exact loaded
  | some choice =>
      have same := (sortBy_perm (ofCampaigns campaigns) choice).filter (·.campaign.name == name)
      rw [← loaded]
      exact same.length_eq

/-- What is shown of campaigns in the order of a sort, where names are excluded. -/
structure Shows (campaigns : List Campaign) (sort : Option SortChoice) (names : List String)
    (shown : CampaignList) : Prop where
  once : (shown.rows.map position).Nodup
  loaded : ∀ row ∈ shown.rows, campaigns[row.position]? = some row.campaign
  ordered : InOrder sort shown.rows
  striped : ∀ (i : Nat) (inside : i < shown.rows.length), shown.rows[i].odd = (i % 2 == 1)
  left : ∀ name, shown.named name = ((sorted campaigns sort).named name).drop (names.count name)

/-- Every row of a list that was striped last tells by its mark whether its place is odd. -/
theorem odd_of_striped {list : CampaignList} {rows : List CampaignRow}
    (striped : stripedFrom 0 rows = list.rows) (i : Nat) (inside : i < list.rows.length) :
    list.rows[i].odd = (i % 2 == 1) := by
  obtain ⟨shown⟩ := list
  subst striped
  rw [odd_stripedFrom, Nat.zero_add]

theorem shows_exclude (campaigns : List Campaign) (sort : Option SortChoice)
    (names : List String) :
    Shows campaigns sort names (Command.exclude (sorted campaigns sort) names).1 := by
  let edits := sort.toList.map ListEdit.sort ++ names.map ListEdit.remove
  obtain ⟨list, _, last⟩ := DisplayRun.reach_sorts campaigns sort.toList
  have reached : DisplayRun.reach campaigns edits = (names.map ListEdit.remove).foldl
      DisplayRun.edit (DisplayRun.reach campaigns (sort.toList.map ListEdit.sort)) := by
    rw [DisplayRun.reach, List.foldl_append]
    rfl
  have shown : (DisplayRun.reach campaigns edits).list =
      (Command.exclude (sorted campaigns sort) names).1 := by
    rw [reached, Command.list_foldl_remove, list]
    rfl
  have lastSort : (DisplayRun.reach campaigns edits).lastSort = sort := by
    rw [reached, Command.lastSort_foldl_remove, last]
    cases sort <;> rfl
  have canonical := DisplayRun.canonical_reach campaigns edits
  rw [← shown]
  refine ⟨DisplayRun.positions_eq _ ▸ canonical.nodup, ?_, ?_, odd_of_striped canonical.marked, ?_⟩
  · intro row member
    exact canonical.loaded row.unmarked (List.mem_map_of_mem member)
  · rw [inOrder_iff, ← lastSort]
    exact pairwise_unmarked.1 canonical.ordered
  · intro name
    rw [shown, Command.named_exclude]

/-- Every campaign of a name stands in the list, at its own position. -/
theorem mem_named_sorted {campaigns : List Campaign} {sort : Option SortChoice} {name : String}
    {row : CampaignRow} : row ∈ (sorted campaigns sort).named name ↔
      row.odd = false ∧ campaigns[row.position]? = some row.campaign ∧
        row.campaign.name = name := by
  obtain ⟨list, removed, _⟩ := DisplayRun.reach_sorts campaigns sort.toList
  have canonical := DisplayRun.canonical_reach campaigns (sort.toList.map .sort)
  have rows := @DisplayRun.Canonical.mem_rows_iff _ _ canonical row
  rw [DisplayRun.rows, list, DisplayRun.removedPositions, removed] at rows
  rw [mem_named, sorted, rows]
  simp [and_assoc]

section

variable {campaigns : List Campaign} {sort : Option SortChoice} {names : List String}
  {shown : CampaignList}

theorem Shows.mem_positions_iff (shows : Shows campaigns sort names shown) {p : Nat} {c : Campaign}
    (loaded : campaigns[p]? = some c) :
    p ∈ shown.rows.map position ↔ ⟨p, c, false⟩ ∈ shown.named c.name := by
  rw [mem_named]
  constructor
  · intro member
    obtain ⟨row, inside, rfl⟩ := List.mem_map.1 member
    have same := (shows.loaded row inside).symm.trans loaded
    cases Option.some.inj same
    exact ⟨List.mem_map_of_mem inside, rfl⟩
  · intro present
    obtain ⟨row, inside, same⟩ := List.mem_map.1 present.1
    have place : row.position = p := congrArg CampaignRow.position same
    exact place ▸ List.mem_map_of_mem inside

/-- The campaigns shown are those of names not excluded where each name excluded is mentioned as
often as there are campaigns of it, and only there. -/
theorem Shows.exact_iff (shows : Shows campaigns sort names shown) :
    (∀ p, p ∈ shown.rows.map position ↔ ∃ c, campaigns[p]? = some c ∧ c.name ∉ names) ↔
      ∀ name ∈ names, campaigns.countP (·.name == name) ≤ names.count name := by
  have gone (name : String) : shown.named name = [] ↔
      campaigns.countP (·.name == name) ≤ names.count name := by
    rw [shows.left, List.drop_eq_nil_iff, length_named_sorted]
  constructor
  · intro exact name excluded
    rw [← gone, List.eq_nil_iff_forall_not_mem]
    intro row member
    obtain ⟨present, rowName⟩ := mem_named.1 member
    obtain ⟨whole, inside, rfl⟩ := List.mem_map.1 present
    obtain ⟨c, loaded, kept⟩ := (exact whole.position).1 (List.mem_map_of_mem inside)
    cases Option.some.inj ((shows.loaded whole inside).symm.trans loaded)
    exact kept (rowName ▸ excluded)
  · intro often p
    constructor
    · intro member
      obtain ⟨row, inside, rfl⟩ := List.mem_map.1 member
      refine ⟨row.campaign, shows.loaded row inside, fun excluded => ?_⟩
      have present := (shows.mem_positions_iff (shows.loaded row inside)).1 member
      rw [(gone _).2 (often _ excluded)] at present
      cases present
    · intro wanted
      obtain ⟨c, loaded, kept⟩ := wanted
      rw [shows.mem_positions_iff loaded, shows.left, List.count_eq_zero_of_not_mem kept,
        List.drop_zero]
      exact mem_named_sorted.2 ⟨rfl, loaded, rfl⟩

end

end CampaignList

end CampaignConsole
