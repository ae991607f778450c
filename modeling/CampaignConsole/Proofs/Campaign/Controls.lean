import CampaignConsole.Proofs.Campaign.Reloading

/-!
# Controls point away from what is shown

A `DeskStep` restores the remembered sort, sorts as the user asks or takes out a row.  `step_cases`
says what a step can do: it applies one sort to list and controls, or it leaves the controls alone.

* `PointsAway` is the invariant: each control points away from the last sort by its column.
  `PointsAway.step` is its step lemma and `PointsAway.follow` the run lemma.
* `TurnedBy` says that the rows are in the order that a control would turn over.  It is kept by
  steps that do not change the list (`TurnedBy.follow`).
* `controls_point_away` compares two activations of one control with whatever lies between.
-/

namespace CampaignConsole

open Files CampaignRow CampaignList

theorem SortDirection.flipped_flipped (direction : SortDirection) :
    direction.flipped.flipped = direction := by
  cases direction <;> rfl

/-- What can be done to a list on a desk. -/
inductive DeskStep where
  | restore
  | sort (asked : UserSort)
  | remove (name : String)
  deriving DecidableEq, Repr

/-- The direction that a control points in after sorts: away from the last one by its column. -/
def pointed (field : SortField) (applied : List SortChoice) : SortDirection :=
  match (applied.filter (·.field = field)).getLast? with
  | none => .ascending
  | some last => last.direction.flipped

theorem pointed_concat (field : SortField) (applied : List SortChoice) (choice : SortChoice) :
    pointed field (applied ++ [choice]) =
      if choice.field = field then choice.direction.flipped else pointed field applied := by
  rw [pointed, List.filter_append]
  split_ifs with same
  · rw [List.filter_cons_of_pos (by simpa using same), List.filter_nil, List.getLast?_concat]
  · rw [List.filter_cons_of_neg (by simpa using same), List.filter_nil, List.append_nil, pointed]

theorem pointed_append_of_others {field : SortField} {applied others : List SortChoice}
    (untouched : ∀ choice ∈ others, choice.field ≠ field) :
    pointed field (applied ++ others) = pointed field applied := by
  have none : others.filter (·.field = field) = [] := by
    rw [List.filter_eq_nil_iff]
    intro choice member
    simpa using untouched choice member
  rw [pointed, List.filter_append, none, List.append_nil, pointed]

namespace DeskSession

/-- The session after one more step; none where a sort cannot be remembered. -/
def step (now : DeskSession) : DeskStep → Option DeskSession
  | .restore =>
      let (desk, restored) := now.desk.restore
      some { now with desk, applied := now.applied ++ restored.toList }
  | .sort asked => now.sort asked
  | .remove name =>
      match now.desk.list.remove? name with
      | none => some now
      | some (_, list) => some { now with desk := { now.desk with list } }

/-- The session after steps, all of which succeed. -/
def follow (now : DeskSession) (steps : List DeskStep) : Option DeskSession :=
  steps.foldlM step now

/-- A list on a desk whose controls were not used yet. -/
def start (list : CampaignList) (store : StateStore) (disk : Disk) : DeskSession :=
  { desk := { list, store }, disk }

/-! ## One step -/

/-- A sort was applied to the list and shown by the controls. -/
structure Applies (now : DeskSession) (choice : SortChoice) (next : DeskSession) : Prop where
  applied : next.applied = now.applied ++ [choice]
  list : next.desk.list = now.desk.list.sortBy choice
  controls : next.desk.controls = now.desk.controls.markSorted choice

variable {campaigns : List Campaign} {now next : DeskSession} {field : SortField}

/-- Activating a control sorts where it points to, and remembers that sort. -/
theorem activate_eq_some (activated : now.step (.sort (.activate field)) = some next) :
    Applies now ⟨field, now.desk.controls.next field⟩ next ∧
      next.desk.store.get? sortKey =
        some (SortChoice.encode ⟨field, now.desk.controls.next field⟩) := by
  rw [step, sort_activate] at activated
  rcases sort_pick_eq_some ⟨""⟩ activated with ⟨applied, list, controls, set⟩
  rcases StoreStep.run_set_eq_some set with ⟨store, _⟩
  have inMemory : next.desk.store = now.desk.store.insert sortKey _ := store
  refine ⟨⟨applied, list, controls⟩, ?_⟩
  rw [inMemory]
  exact CampaignDesk.get?_insert_sortKey now.desk.store _

/-- A step applies one sort, or it leaves the controls alone and takes out a row at most. -/
theorem step_cases {move : DeskStep} (moved : now.step move = some next) :
    (∃ choice, Applies now choice next) ∨
      next.applied = now.applied ∧ next.desk.controls = now.desk.controls ∧
        (next.desk.list = now.desk.list ∨
          ∃ name row, now.desk.list.remove? name = some (row, next.desk.list)) := by
  cases move with
  | restore =>
      cases remembered : CampaignDesk.remembered? now.desk.store with
      | none =>
          rw [step, CampaignDesk.restore_of_none now.desk remembered] at moved
          cases moved
          exact Or.inr ⟨List.append_nil _, rfl, Or.inl rfl⟩
      | some choice =>
          rw [step, CampaignDesk.restore_of_some now.desk remembered] at moved
          cases moved
          exact Or.inl ⟨choice, rfl, rfl, rfl⟩
  | sort asked =>
      rcases sort_eq_some ⟨""⟩ moved with ⟨choice, applied, list, controls, _⟩
      exact Or.inl ⟨choice, applied, list, controls⟩
  | remove name =>
      rw [step] at moved
      cases removed : now.desk.list.remove? name with
      | none =>
          rw [removed] at moved
          cases moved
          exact Or.inr ⟨rfl, rfl, Or.inl rfl⟩
      | some taken =>
          rw [removed] at moved
          cases moved
          exact Or.inr ⟨rfl, rfl, Or.inr ⟨name, taken.1, removed⟩⟩

/-! ## Where the controls point -/

/-- The list is what edits make of the campaigns, and every control points away from the last sort
by its column. -/
structure PointsAway (campaigns : List Campaign) (now : DeskSession) : Prop where
  edited : ∃ edits, now.desk.list = (DisplayRun.reach campaigns edits).list
  next : ∀ field, now.desk.controls.next field = pointed field now.applied

theorem PointsAway.distinct (points : PointsAway campaigns now) :
    (now.desk.list.rows.map position).Nodup := by
  rcases points.edited with ⟨edits, list⟩
  rw [list, ← DisplayRun.positions_eq]
  exact (DisplayRun.canonical_reach campaigns edits).nodup

theorem edited_snoc (edits : List ListEdit) (edit : ListEdit) :
    DisplayRun.reach campaigns (edits ++ [edit]) =
      (DisplayRun.reach campaigns edits).edit edit := by
  simp [DisplayRun.reach, List.foldl_append]

/-- The step lemma, with the sorts that a step adds. -/
theorem PointsAway.step (points : PointsAway campaigns now) {move : DeskStep}
    (moved : now.step move = some next) :
    PointsAway campaigns next ∧ now.applied <+: next.applied := by
  rcases points.edited with ⟨edits, edited⟩
  rcases step_cases moved with ⟨choice, applies⟩ | ⟨applied, controls, kept⟩
  · refine ⟨⟨⟨edits ++ [.sort choice], ?_⟩, ?_⟩, ?_⟩
    · rw [applies.list, edited, edited_snoc]
      rfl
    · intro field
      rw [applies.controls, applies.applied, CampaignDesk.next_markSorted, pointed_concat,
        points.next]
    · rw [applies.applied]
      exact List.prefix_append _ _
  · refine ⟨⟨?_, ?_⟩, applied ▸ List.prefix_refl _⟩
    · rcases kept with same | ⟨name, row, removed⟩
      · exact ⟨edits, same.trans edited⟩
      · refine ⟨edits ++ [.remove name], ?_⟩
        rw [edited] at removed
        rw [edited_snoc, DisplayRun.edit, removed]
    · intro field
      rw [controls, applied, points.next]

/-- The run lemma. -/
theorem PointsAway.follow (points : PointsAway campaigns now) {steps : List DeskStep}
    (ran : now.follow steps = some next) :
    PointsAway campaigns next ∧ now.applied <+: next.applied := by
  induction steps generalizing now with
  | nil =>
      cases ran
      exact ⟨points, List.prefix_refl _⟩
  | cons move steps ih =>
      rw [DeskSession.follow, List.foldlM_cons] at ran
      rcases Option.bind_eq_some_iff.1 ran with ⟨middle, first, rest⟩
      rcases points.step first with ⟨middlePoints, added⟩
      rcases ih middlePoints rest with ⟨nextPoints, more⟩
      exact ⟨nextPoints, added.trans more⟩

theorem pointsAway_start (edits : List ListEdit) (store : StateStore) (disk : Disk) :
    PointsAway campaigns (start (DisplayRun.reach campaigns edits).list store disk) :=
  ⟨⟨edits, rfl⟩, fun field => CampaignDesk.next_untouched field⟩

/-! ## Rows that a control would turn over -/

/-- The rows are in the order that activating a control turns over. -/
def TurnedBy (field : SortField) (now : DeskSession) : Prop :=
  now.desk.list.rows.Pairwise
    (ShownBefore (some ⟨field, (now.desk.controls.next field).flipped⟩))

theorem Applies.turnedBy {choice : SortChoice} (applies : Applies now choice next)
    (distinct : (now.desk.list.rows.map position).Nodup) : TurnedBy choice.field next := by
  have control : (next.desk.controls.next choice.field).flipped = choice.direction := by
    rw [applies.controls, CampaignDesk.next_markSorted, if_pos rfl, SortDirection.flipped_flipped]
  rw [TurnedBy, control, applies.list]
  exact sortBy_pairwise choice distinct

/-- The list stays as it is at every step. -/
def KeepsList (now : DeskSession) (steps : List DeskStep) : Prop :=
  ∀ done, done <+: steps → ∀ middle, now.follow done = some middle →
    middle.desk.list = now.desk.list

theorem TurnedBy.step (turned : TurnedBy field now) (points : PointsAway campaigns now)
    {move : DeskStep} (moved : now.step move = some next)
    (same : next.desk.list = now.desk.list) : TurnedBy field next := by
  rcases step_cases moved with ⟨choice, applies⟩ | ⟨_, controls, _⟩
  · by_cases sorted : choice.field = field
    · exact sorted ▸ applies.turnedBy points.distinct
    · rwa [TurnedBy, same, applies.controls, CampaignDesk.next_markSorted, if_neg sorted]
  · rwa [TurnedBy, same, controls]

theorem TurnedBy.follow (turned : TurnedBy field now) (points : PointsAway campaigns now)
    {steps : List DeskStep} (keeps : KeepsList now steps) (ran : now.follow steps = some next) :
    TurnedBy field next := by
  induction steps generalizing now with
  | nil =>
      cases ran
      exact turned
  | cons move steps ih =>
      rw [DeskSession.follow, List.foldlM_cons] at ran
      rcases Option.bind_eq_some_iff.1 ran with ⟨middle, first, rest⟩
      have same : middle.desk.list = now.desk.list := by
        refine keeps [move] (List.prefix_append [move] steps) middle ?_
        simp [DeskSession.follow, first]
      refine ih (turned.step points first same) (points.step first).1 ?_ rest
      intro done isPrefix last reached
      rw [same]
      refine keeps (move :: done) (List.cons_prefix_cons.2 ⟨rfl, isPrefix⟩) last ?_
      rw [DeskSession.follow, List.foldlM_cons, first]
      exact reached

/-- **Each control points away from the last sort by its column.**  A list is restored, sorted by
the user and thinned out in any order, from controls that were not used yet.  Then the next
direction of a column is the opposite of the direction of the last sort by it, and upwards where
there was none.

When a control is activated twice, the second direction is the opposite of the first unless its
column was sorted by in between, and the store then remembers the second sort.  Where nothing in
between changed the list, the second activation shows the exact reverse of what the first one
showed. -/
theorem controls_point_away (campaigns : List Campaign) (edits : List ListEdit)
    {store : StateStore} {disk : Disk} {steps : List DeskStep} {now : DeskSession}
    (ran : (start (DisplayRun.reach campaigns edits).list store disk).follow steps = some now)
    (field : SortField) :
    now.desk.controls.next field = pointed field now.applied ∧
      ∀ first between middle second, now.step (.sort (.activate field)) = some first →
        first.follow between = some middle →
        middle.step (.sort (.activate field)) = some second →
        ∃ direction others again,
          first.applied = now.applied ++ [⟨field, direction⟩] ∧
          middle.applied = first.applied ++ others ∧
          second.applied = middle.applied ++ [⟨field, again⟩] ∧
          ((∀ choice ∈ others, choice.field ≠ field) → again = direction.flipped) ∧
          second.desk.store.get? sortKey = some (SortChoice.encode ⟨field, again⟩) ∧
          (KeepsList first between →
            second.desk.list.rows.map unmarked = (first.desk.list.rows.map unmarked).reverse) := by
  have points := ((pointsAway_start edits store disk).follow ran).1
  refine ⟨points.next field, ?_⟩
  intro first between middle second activated ranBetween activatedAgain
  have firstPoints := (points.step activated).1
  rcases firstPoints.follow ranBetween with ⟨middlePoints, others, added⟩
  rcases activate_eq_some activated with ⟨applies, _⟩
  rcases activate_eq_some activatedAgain with ⟨appliesAgain, remembered⟩
  refine ⟨_, others, _, applies.applied, added.symm, appliesAgain.applied, ?_, remembered, ?_⟩
  · intro untouched
    rw [middlePoints.next, ← added, pointed_append_of_others untouched, applies.applied,
      pointed_concat, if_pos rfl]
  · intro keeps
    have turned : TurnedBy field middle :=
      (applies.turnedBy points.distinct).follow firstPoints keeps ranBetween
    have same := keeps between (List.prefix_refl _) middle ranBetween
    have reversed := sortBy_flipped middlePoints.distinct turned
    rw [SortDirection.flipped_flipped, same] at reversed
    rw [appliesAgain.list, same, reversed]

/-- The store that is opened from `nameRemembered`. -/
def nameRememberedStore : StateStore :=
  { path := ⟨"state"⟩, entries := ⟨[("email-sort-type", "name#desc"), ("theme", "dark")]⟩ }

/-- A row is taken out, and a descending sort by name is restored. -/
def thinnedOut : List DeskStep :=
  [.remove "b", .restore]

/-- Other columns are sorted by, and the last of these sorts is restored. -/
def otherColumns : List DeskStep :=
  [.sort (.activate .date), .sort (.pick ⟨.status, .descending⟩), .restore]

theorem controls_point_away_namesakes :
    ∃ now first middle second turned,
      (start (DisplayRun.reach namesakes []).list nameRememberedStore nameRemembered).follow
        thinnedOut = some now ∧
      now.step (.sort (.activate .name)) = some first ∧
      first.follow otherColumns = some middle ∧
      middle.step (.sort (.activate .name)) = some second ∧
      first.step (.sort (.activate .name)) = some turned ∧
      now.desk.controls.next .name = pointed .name [⟨.name, .descending⟩] ∧
      first.applied = [⟨.name, .descending⟩, ⟨.name, .ascending⟩] ∧
      (∃ before again, second.applied = before ++ [⟨.name, again⟩] ∧
        again = .descending ∧
        second.desk.store.get? sortKey = some (SortChoice.encode ⟨.name, again⟩)) ∧
      turned.desk.list.rows.map unmarked = (first.desk.list.rows.map unmarked).reverse := by
  have sessions : (do
      let now ← (start (DisplayRun.reach namesakes []).list nameRememberedStore
        nameRemembered).follow thinnedOut
      let first ← now.step (.sort (.activate .name))
      let middle ← first.follow otherColumns
      let second ← middle.step (.sort (.activate .name))
      let _ ← first.step (.sort (.activate .name))
      some (now.applied, first.applied, second.applied.getLast?)) =
        some ([⟨.name, .descending⟩], [⟨.name, .descending⟩, ⟨.name, .ascending⟩],
          some ⟨.name, .descending⟩) := by decide +kernel
  rcases Option.bind_eq_some_iff.1 sessions with ⟨now, ran, sessions⟩
  rcases Option.bind_eq_some_iff.1 sessions with ⟨first, activated, sessions⟩
  rcases Option.bind_eq_some_iff.1 sessions with ⟨middle, ranBetween, sessions⟩
  rcases Option.bind_eq_some_iff.1 sessions with ⟨second, activatedAgain, sessions⟩
  rcases Option.bind_eq_some_iff.1 sessions with ⟨turned, turnedOver, sessions⟩
  simp only [Option.some.injEq, Prod.mk.injEq] at sessions
  rcases sessions with ⟨applied, appliedFirst, last⟩
  rcases controls_point_away namesakes [] ran .name with ⟨next, twice⟩
  rcases twice first otherColumns middle second activated ranBetween activatedAgain with
    ⟨_, _, again, _, _, appliedAgain, _, remembered, _⟩
  rcases twice first [] first turned activated rfl turnedOver with
    ⟨_, _, _, _, _, _, _, _, reversed⟩
  refine ⟨now, first, middle, second, turned, ran, activated, ranBetween, activatedAgain,
    turnedOver, applied ▸ next, appliedFirst, ⟨_, again, appliedAgain, ?_, remembered⟩,
    reversed ?_⟩
  · rw [appliedAgain, List.getLast?_concat] at last
    exact congrArg SortChoice.direction (Option.some.inj last)
  · intro done isPrefix session reached
    rw [List.prefix_nil.1 isPrefix] at reached
    cases reached
    rfl

end DeskSession

end CampaignConsole
