import CampaignConsole.Campaign.List
import CampaignConsole.Proofs.Text.ByteOrder
import Mathlib.Data.List.Nodup
import Mathlib.Data.Prod.Lex

/-!
# What a displayed list shows, whatever was done to it

A `DisplayRun` is a displayed list with the rows taken out of it and the sort last asked for;
`reach` folds sorts and removals from the list as loaded.

* `DisplayRun.Canonical` is the invariant: which rows are left, in which order and with which marks.
  `Canonical.edit` is its step lemma.
* `Canonical.rows_eq` says that the invariant leaves no freedom: what is taken out and the last sort
  determine every row.
* `reach_canonical` puts them together for every order of edits.

Marks are set anew after every edit, so the lemmas compare rows with their marks wiped
(`CampaignRow.unmarked`).
-/

namespace CampaignConsole

/-! ## Rows in order -/

namespace CampaignRow

/-- The row without its mark. -/
def unmarked (row : CampaignRow) : CampaignRow :=
  { row with odd := false }

theorem text_unmarked (row : CampaignRow) (field : SortField) :
    row.unmarked.text field = row.text field := by
  cases field <;> rfl

/-- Whether a row stands above another one in an ascending sort by a column. -/
def Before (field : SortField) (a b : CampaignRow) : Prop :=
  Text.bytes (a.text field) < Text.bytes (b.text field) ∨
    Text.bytes (a.text field) = Text.bytes (b.text field) ∧ a.position < b.position

/-- Whether a row stands above another one, after the last sort. -/
def ShownBefore : Option SortChoice → CampaignRow → CampaignRow → Prop
  | none, a, b => a.position < b.position
  | some ⟨field, .ascending⟩, a, b => Before field a b
  | some ⟨field, .descending⟩, a, b => Before field b a

/-- What a sort by a column compares. -/
def sortKey (field : SortField) (row : CampaignRow) : String ×ₗ Nat :=
  toLex (row.text field, row.position)

theorem precedes_iff {field : SortField} {a b : CampaignRow} :
    precedes field a b = true ↔ a.sortKey field ≤ b.sortKey field := by
  simp [precedes, sortKey, Prod.Lex.toLex_le_toLex]

theorem before_iff {field : SortField} {a b : CampaignRow} :
    Before field a b ↔ a.sortKey field < b.sortKey field := by
  rw [Before, sortKey, sortKey, Prod.Lex.toLex_lt_toLex, Text.lt_iff_bytes_lt, Text.bytes_inj]

theorem before_of_precedes {field : SortField} {a b : CampaignRow} (sorted : precedes field a b)
    (distinct : a.position ≠ b.position) : Before field a b := by
  rw [before_iff]
  refine lt_of_le_of_ne (precedes_iff.1 sorted) fun same => distinct ?_
  exact congrArg (fun key => (ofLex key).2) same

theorem ShownBefore.asymm {last : Option SortChoice} {a b : CampaignRow}
    (above : ShownBefore last a b) : ¬ ShownBefore last b a := by
  rcases last with _ | ⟨field, _ | _⟩
  · exact Nat.lt_asymm above
  · intro below
    exact lt_asymm (before_iff.1 above) (before_iff.1 below)
  · intro below
    exact lt_asymm (before_iff.1 above) (before_iff.1 below)

theorem shownBefore_unmarked {last : Option SortChoice} {a b : CampaignRow} :
    ShownBefore last a.unmarked b.unmarked ↔ ShownBefore last a b := by
  rcases last with _ | ⟨field, _ | _⟩
  · exact Iff.rfl
  · rw [ShownBefore, ShownBefore, Before, Before, text_unmarked, text_unmarked]
    exact Iff.rfl
  · rw [ShownBefore, ShownBefore, Before, Before, text_unmarked, text_unmarked]
    exact Iff.rfl

theorem pairwise_unmarked {last : Option SortChoice} {rows : List CampaignRow} :
    (rows.map unmarked).Pairwise (ShownBefore last) ↔ rows.Pairwise (ShownBefore last) := by
  rw [List.pairwise_map]
  simp only [shownBefore_unmarked]

/-- The order of rows after the last sort: as loaded where there was none, by the column sorted by,
and in the reverse of that order after a descending sort. -/
def InOrder : Option SortChoice → List CampaignRow → Prop
  | none, rows => rows.Pairwise fun a b => a.position < b.position
  | some ⟨field, .ascending⟩, rows => rows.Pairwise (Before field)
  | some ⟨field, .descending⟩, rows => rows.reverse.Pairwise (Before field)

theorem inOrder_iff {last : Option SortChoice} {rows : List CampaignRow} :
    InOrder last rows ↔ rows.Pairwise (ShownBefore last) := by
  rcases last with _ | ⟨field, _ | _⟩
  · exact Iff.rfl
  · exact Iff.rfl
  · exact List.pairwise_reverse

end CampaignRow

namespace CampaignList

open CampaignRow

/-! ## Marks -/

theorem map_unmarked_stripedFrom (place : Nat) (rows : List CampaignRow) :
    (stripedFrom place rows).map unmarked = rows.map unmarked := by
  induction rows generalizing place with
  | nil => rfl
  | cons row rows ih => rw [stripedFrom, List.map_cons, List.map_cons, ih, unmarked, unmarked]

theorem stripedFrom_map_unmarked (place : Nat) (rows : List CampaignRow) :
    stripedFrom place (rows.map unmarked) = stripedFrom place rows := by
  induction rows generalizing place with
  | nil => rfl
  | cons row rows ih => rw [List.map_cons, stripedFrom, stripedFrom, ih, unmarked]

/-- The mark of a row tells whether its place is odd. -/
theorem odd_stripedFrom (place : Nat) (rows : List CampaignRow) (i : Nat)
    (inside : i < (stripedFrom place rows).length) :
    (stripedFrom place rows)[i].odd = ((place + i) % 2 == 1) := by
  induction rows generalizing place i with
  | nil => simp [stripedFrom] at inside
  | cons row rows ih =>
      cases i with
      | zero => rfl
      | succ i =>
          simp only [stripedFrom, List.getElem_cons_succ]
          rw [ih, Nat.add_right_comm, Nat.add_assoc]

/-- The marks of a list are determined by its rows without them. -/
theorem marked_ofRows (rows : List CampaignRow) :
    stripedFrom 0 ((ofRows rows).rows.map unmarked) = (ofRows rows).rows := by
  rw [ofRows, map_unmarked_stripedFrom, stripedFrom_map_unmarked]

/-! ## Sorting and removing -/

/-- A sort keeps the rows. -/
theorem sortBy_perm (list : CampaignList) (choice : SortChoice) :
    ((list.sortBy choice).rows.map unmarked).Perm (list.rows.map unmarked) := by
  have sorted := List.mergeSort_perm list.rows (precedes choice.field)
  rw [sortBy, ofRows, map_unmarked_stripedFrom]
  cases choice.direction with
  | ascending => exact sorted.map unmarked
  | descending => exact ((List.reverse_perm _).trans sorted).map unmarked

/-- A sort orders rows of distinct positions by its column, and by position where texts are
equal. -/
theorem sortBy_pairwise {list : CampaignList} (choice : SortChoice)
    (distinct : (list.rows.map position).Nodup) :
    (list.sortBy choice).rows.Pairwise (ShownBefore (some choice)) := by
  obtain ⟨field, direction⟩ := choice
  have apart : (list.rows.mergeSort (precedes field)).Pairwise fun a b => a.position ≠ b.position :=
    List.pairwise_map.1 (((List.mergeSort_perm _ _).map position).nodup_iff.2 distinct)
  have sorted : (list.rows.mergeSort (precedes field)).Pairwise (precedes field · ·) := by
    refine List.pairwise_mergeSort ?_ ?_ list.rows
    · intro a b c first second
      exact precedes_iff.2 ((precedes_iff.1 first).trans (precedes_iff.1 second))
    · intro a b
      rw [Bool.or_eq_true, precedes_iff, precedes_iff]
      exact le_total _ _
  -- No two rows share a position, so the weak order of the sort is strict.
  have strict : (list.rows.mergeSort (precedes field)).Pairwise (Before field) :=
    (sorted.and apart).imp fun both => before_of_precedes both.1 both.2
  rw [sortBy, ofRows, ← pairwise_unmarked, map_unmarked_stripedFrom, pairwise_unmarked]
  cases direction with
  | ascending => exact strict
  | descending => exact List.pairwise_reverse.2 strict

/-- A descending sort shows the reverse of an ascending one. -/
theorem sortBy_descending (list : CampaignList) (field : SortField) :
    (list.sortBy ⟨field, .descending⟩).rows.map unmarked =
      ((list.sortBy ⟨field, .ascending⟩).rows.map unmarked).reverse := by
  simp only [sortBy, ofRows, map_unmarked_stripedFrom, List.map_reverse]

/-- A sort in the other direction turns over rows that were sorted. -/
theorem sortBy_flipped {list : CampaignList} {field : SortField} {direction : SortDirection}
    (distinct : (list.rows.map position).Nodup)
    (sorted : list.rows.Pairwise (ShownBefore (some ⟨field, direction⟩))) :
    (list.sortBy ⟨field, direction.flipped⟩).rows.map unmarked =
      (list.rows.map unmarked).reverse := by
  have turned : (list.rows.map unmarked).reverse.Pairwise
      (ShownBefore (some ⟨field, direction.flipped⟩)) := by
    rw [List.pairwise_reverse]
    cases direction with
    | ascending => exact pairwise_unmarked.2 sorted
    | descending => exact pairwise_unmarked.2 sorted
  refine List.Perm.eq_of_pairwise ?_ (pairwise_unmarked.2 (sortBy_pairwise _ distinct)) turned
    ((sortBy_perm list _).trans (List.reverse_perm _).symm)
  intro a b _ _ above below
  exact absurd below above.asymm

/-- A removal takes out one row, and moves no other. -/
theorem remove?_eq_some {list rest : CampaignList} {name : String} {row : CampaignRow}
    (removed : list.remove? name = some (row, rest)) :
    ∃ front back, list.rows = front ++ row :: back ∧ row.campaign.name = name ∧
      (∀ other ∈ front, other.campaign.name ≠ name) ∧ rest = ofRows (front ++ back) := by
  rw [remove?] at removed
  cases found : list.rows.find? (·.campaign.name == name) with
  | none => simp [found] at removed
  | some first =>
      rw [found] at removed
      cases removed
      obtain ⟨named, front, back, split, before⟩ := List.find?_eq_some_iff_append.1 found
      have unnamed : ∀ other ∈ front, ¬(other.campaign.name == name) = true := by
        intro other member
        simpa using before other member
      refine ⟨front, back, split, eq_of_beq named, ?_, ?_⟩
      · intro other member
        simpa using unnamed other member
      · have taken : (row :: back).eraseP (·.campaign.name == name) = back :=
          List.eraseP_cons_of_pos named
        rw [split, List.eraseP_append_right _ unnamed, taken]

end CampaignList

/-! ## Runs -/

/-- What can be done to a displayed list. -/
inductive ListEdit where
  | sort (choice : SortChoice)
  | remove (name : String)
  deriving DecidableEq, Repr

/-- A displayed list with what was done to it. -/
structure DisplayRun where
  list : CampaignList
  /-- The rows taken out, in the order in which they were. -/
  removed : List CampaignRow := []
  /-- The sort last asked for. -/
  lastSort : Option SortChoice := none
  deriving DecidableEq, Repr

namespace DisplayRun

open CampaignRow CampaignList

/-- The run after one more edit. -/
def edit (run : DisplayRun) : ListEdit → DisplayRun
  | .sort choice => { run with list := run.list.sortBy choice, lastSort := some choice }
  | .remove name =>
      match run.list.remove? name with
      | none => run
      | some (row, list) => { run with list, removed := run.removed ++ [row] }

/-- The run that edits lead to, from the list as loaded. -/
def reach (campaigns : List Campaign) (edits : List ListEdit) : DisplayRun :=
  edits.foldl edit { list := .ofCampaigns campaigns }

/-- The rows that are left, without their marks. -/
def rows (run : DisplayRun) : List CampaignRow :=
  run.list.rows.map unmarked

/-- The positions of the rows that are left. -/
def positions (run : DisplayRun) : List Nat :=
  run.rows.map position

/-- The positions of the rows taken out. -/
def removedPositions (run : DisplayRun) : List Nat :=
  run.removed.map position

/-- The list is what the rows taken out and the last sort make of the campaigns loaded. -/
structure Canonical (campaigns : List Campaign) (run : DisplayRun) : Prop where
  nodup : run.positions.Nodup
  loaded : ∀ row ∈ run.rows, campaigns[row.position]? = some row.campaign
  present : ∀ p, p ∈ run.positions ↔ p < campaigns.length ∧ p ∉ run.removedPositions
  ordered : run.rows.Pairwise (ShownBefore run.lastSort)
  marked : stripedFrom 0 run.rows = run.list.rows

variable {campaigns : List Campaign} {run other : DisplayRun}

theorem positions_eq (run : DisplayRun) : run.positions = run.list.rows.map position := by
  rw [positions, rows, List.map_map]
  rfl

theorem rows_start (campaigns : List Campaign) :
    rows { list := .ofCampaigns campaigns } =
      campaigns.zipIdx.map fun (campaign, position) => { position, campaign } := by
  rw [rows, ofCampaigns, ofRows, map_unmarked_stripedFrom, List.map_map]
  rfl

theorem positions_start (campaigns : List Campaign) :
    positions { list := .ofCampaigns campaigns } = List.range campaigns.length := by
  rw [positions, rows_start, List.map_map, List.range_eq_range', ← List.zipIdx_map_snd]
  rfl

theorem canonical_start (campaigns : List Campaign) :
    Canonical campaigns { list := .ofCampaigns campaigns } := by
  refine ⟨?_, ?_, ?_, ?_, marked_ofRows _⟩
  · rw [positions_start]
    exact List.nodup_range
  · intro row member
    rw [rows_start] at member
    obtain ⟨⟨campaign, position⟩, indexed, rfl⟩ := List.mem_map.1 member
    exact List.mem_zipIdx_iff_getElem?.1 indexed
  · intro p
    rw [positions_start]
    simp [removedPositions]
  · have increasing : (positions { list := .ofCampaigns campaigns }).Pairwise (· < ·) := by
      rw [positions_start]
      exact List.pairwise_lt_range
    have shown : (rows { list := .ofCampaigns campaigns }).Pairwise
        fun a b => a.position < b.position := List.pairwise_map.1 increasing
    exact shown

theorem Canonical.sort (canonical : Canonical campaigns run) (choice : SortChoice) :
    Canonical campaigns (run.edit (.sort choice)) := by
  have same : (run.edit (.sort choice)).rows.Perm run.rows := sortBy_perm run.list choice
  have samePositions : (run.edit (.sort choice)).positions.Perm run.positions := same.map position
  have distinct : (run.list.rows.map position).Nodup := run.positions_eq ▸ canonical.nodup
  refine ⟨samePositions.nodup_iff.2 canonical.nodup, ?_, ?_, ?_, marked_ofRows _⟩
  · intro row member
    exact canonical.loaded row (same.mem_iff.1 member)
  · intro p
    exact samePositions.mem_iff.trans (canonical.present p)
  · exact pairwise_unmarked.2 (sortBy_pairwise choice distinct)

theorem Canonical.takeOut (canonical : Canonical campaigns run) {front back : List CampaignRow}
    {row : CampaignRow} (split : run.list.rows = front ++ row :: back) :
    Canonical campaigns
      { run with list := ofRows (front ++ back), removed := run.removed ++ [row] } := by
  have after : (ofRows (front ++ back)).rows.map unmarked = (front ++ back).map unmarked := by
    rw [ofRows, map_unmarked_stripedFrom]
  have fewer : ((front ++ back).map unmarked).Sublist run.rows := by
    rw [rows, split]
    exact ((List.sublist_cons_self row back).append_left front).map unmarked
  have positionsBefore :
      run.positions.Perm (row.position :: (front ++ back).map position) := by
    rw [positions_eq, split]
    exact List.perm_middle.map position
  have positionsAfter : (ofRows (front ++ back)).rows.map position =
      (front ++ back).map position := by
    have wiped := congrArg (List.map position) after
    rwa [List.map_map, List.map_map] at wiped
  -- The position taken out occurs once, so it is gone with its row.
  obtain ⟨gone, distinct⟩ := List.nodup_cons.1 (positionsBefore.nodup_iff.1 canonical.nodup)
  refine ⟨?_, ?_, ?_, ?_, marked_ofRows _⟩
  · rw [positions_eq, positionsAfter]
    exact distinct
  · intro kept member
    rw [rows, after] at member
    exact canonical.loaded kept (fewer.subset member)
  · intro p
    have shown := canonical.present p
    rw [positionsBefore.mem_iff, List.mem_cons] at shown
    have taken : p ∈ (run.removed ++ [row]).map position ↔
        p ∈ run.removedPositions ∨ p = row.position := by
      simp [removedPositions]
    rw [positions_eq, positionsAfter, removedPositions, taken, not_or, ← and_assoc, ← shown]
    constructor
    · intro kept
      refine ⟨Or.inr kept, ?_⟩
      rintro rfl
      exact gone kept
    · rintro ⟨rfl | kept, other⟩
      · exact absurd rfl other
      · exact kept
  · rw [rows, after]
    exact canonical.ordered.sublist fewer

theorem Canonical.remove (canonical : Canonical campaigns run) (name : String) :
    Canonical campaigns (run.edit (.remove name)) := by
  rw [edit]
  cases removed : run.list.remove? name with
  | none => exact canonical
  | some taken =>
      obtain ⟨row, rest⟩ := taken
      obtain ⟨front, back, split, _, _, rfl⟩ := remove?_eq_some removed
      exact canonical.takeOut split

theorem Canonical.edit (canonical : Canonical campaigns run) (change : ListEdit) :
    Canonical campaigns (run.edit change) := by
  cases change with
  | sort choice => exact canonical.sort choice
  | remove name => exact canonical.remove name

/-! ## Every order of edits -/

theorem canonical_reach (campaigns : List Campaign) (edits : List ListEdit) :
    Canonical campaigns (reach campaigns edits) := by
  have carried (run : DisplayRun) (canonical : Canonical campaigns run) :
      Canonical campaigns (edits.foldl DisplayRun.edit run) := by
    induction edits generalizing run with
    | nil => exact canonical
    | cons change edits ih => exact ih (run.edit change) (canonical.edit change)
  exact carried _ (canonical_start campaigns)

theorem Canonical.mem_rows_iff (canonical : Canonical campaigns run) {row : CampaignRow} :
    row ∈ run.rows ↔ row.odd = false ∧ campaigns[row.position]? = some row.campaign ∧
      row.position ∉ run.removedPositions := by
  constructor
  · intro member
    obtain ⟨whole, _, rfl⟩ := List.mem_map.1 member
    have shown : whole.unmarked.position ∈ run.positions := List.mem_map_of_mem member
    exact ⟨rfl, canonical.loaded _ member, ((canonical.present _).1 shown).2⟩
  · rintro ⟨plain, loaded, kept⟩
    obtain ⟨inside, _⟩ := List.getElem?_eq_some_iff.1 loaded
    obtain ⟨found, member, same⟩ := List.mem_map.1 ((canonical.present _).2 ⟨inside, kept⟩)
    have loadedFound := canonical.loaded found member
    obtain ⟨whole, _, rfl⟩ := List.mem_map.1 member
    obtain ⟨position, campaign, odd⟩ := row
    cases same
    cases plain
    cases loadedFound.symm.trans loaded
    exact member

/-- What is taken out and the last sort determine every row. -/
theorem Canonical.rows_eq (canonical : Canonical campaigns run)
    (canonicalOther : Canonical campaigns other)
    (sameRemoved : ∀ p, p ∈ run.removedPositions ↔ p ∈ other.removedPositions)
    (sameSort : run.lastSort = other.lastSort) : run.list.rows = other.list.rows := by
  have nodup : run.rows.Nodup := List.Nodup.of_map position canonical.nodup
  have nodupOther : other.rows.Nodup := List.Nodup.of_map position canonicalOther.nodup
  have same : run.rows.Perm other.rows := by
    rw [List.perm_ext_iff_of_nodup nodup nodupOther]
    intro row
    rw [canonical.mem_rows_iff, canonicalOther.mem_rows_iff, sameRemoved]
  have orderedOther : other.rows.Pairwise (ShownBefore run.lastSort) :=
    sameSort ▸ canonicalOther.ordered
  -- A strict order leaves one way to list the same rows.
  have plain : run.rows = other.rows := by
    refine List.Perm.eq_of_pairwise ?_ canonical.ordered orderedOther same
    intro a b _ _ above below
    exact absurd below above.asymm
  rw [← canonical.marked, plain, canonicalOther.marked]

/-- **A displayed list is canonical, whatever was done to it.**  Its rows are those of the campaigns
loaded less the rows taken out, each at its own position and with the texts of its campaign.  Every
other row is marked.  The order is that of the last sort: by the bytes of the column's texts and
then by position, or in the reverse of that; without a sort it is the order loaded.  So lists with
the same rows taken out and the same last sort show the same, whatever else was done to them. -/
theorem reach_canonical (campaigns : List Campaign) (edits : List ListEdit) :
    (reach campaigns edits).positions.Nodup ∧
    (∀ row ∈ (reach campaigns edits).list.rows, ∃ inside : row.position < campaigns.length,
      row.campaign = campaigns[row.position] ∧
      row.text .date = campaigns[row.position].dateText ∧
      row.text .name = campaigns[row.position].titleText ∧
      row.text .status = campaigns[row.position].statusText) ∧
    (∀ p, p ∈ (reach campaigns edits).positions ↔
      p < campaigns.length ∧ p ∉ (reach campaigns edits).removedPositions) ∧
    (∀ (i : Nat) (inside : i < (reach campaigns edits).list.rows.length),
      (reach campaigns edits).list.rows[i].odd = (i % 2 == 1)) ∧
    InOrder (reach campaigns edits).lastSort (reach campaigns edits).list.rows ∧
    ∀ others : List ListEdit,
      (∀ p, p ∈ (reach campaigns edits).removedPositions ↔
        p ∈ (reach campaigns others).removedPositions) →
      (reach campaigns edits).lastSort = (reach campaigns others).lastSort →
      (reach campaigns edits).list.rows = (reach campaigns others).list.rows := by
  have canonical := canonical_reach campaigns edits
  refine ⟨canonical.nodup, ?_, canonical.present, ?_, ?_, ?_⟩
  · intro row member
    have loaded := canonical.loaded _ (List.mem_map_of_mem member)
    obtain ⟨inside, same⟩ := List.getElem?_eq_some_iff.1 loaded
    refine ⟨inside, same.symm, ?_, ?_, ?_⟩
    · exact congrArg Campaign.dateText same.symm
    · exact congrArg Campaign.titleText same.symm
    · exact congrArg Campaign.statusText same.symm
  · intro i inside
    have marked := canonical.marked
    generalize (reach campaigns edits).list.rows = shown at marked inside ⊢
    subst marked
    rw [odd_stripedFrom, Nat.zero_add]
  · exact inOrder_iff.2 (pairwise_unmarked.1 canonical.ordered)
  · intro others sameRemoved sameSort
    exact canonical.rows_eq (canonical_reach campaigns others) sameRemoved sameSort

/-- Two campaigns of one name and one more, all untitled drafts. -/
def twins : List Campaign :=
  ["b", "a", "b"].map fun name => { name, title := none, statusDate := none, status := none }

/-- The first of the twins is taken out, and the names are sorted downwards. -/
def twinEdits : List ListEdit :=
  [.remove "b", .sort ⟨.name, .descending⟩]

/-- The same with edits in between that nothing shows of. -/
def otherTwinEdits : List ListEdit :=
  [.remove "c", .remove "b", .sort ⟨.date, .ascending⟩, .sort ⟨.status, .descending⟩,
    .sort ⟨.name, .descending⟩]

theorem reach_canonical_twins :
    (reach twins twinEdits).removedPositions = [0] ∧
      (reach twins otherTwinEdits).removedPositions = [0] ∧
      (reach twins twinEdits).lastSort = (reach twins otherTwinEdits).lastSort ∧
      (reach twins twinEdits).list.rows = (reach twins otherTwinEdits).list.rows := by
  have removed : (reach twins twinEdits).removedPositions = [0] := by decide +kernel
  have otherRemoved : (reach twins otherTwinEdits).removedPositions = [0] := by decide +kernel
  have sameSort : (reach twins twinEdits).lastSort = (reach twins otherTwinEdits).lastSort := by
    decide +kernel
  refine ⟨removed, otherRemoved, sameSort, ?_⟩
  refine (reach_canonical twins twinEdits).2.2.2.2.2 otherTwinEdits ?_ sameSort
  intro p
  rw [removed, otherRemoved]

end DisplayRun

end CampaignConsole
