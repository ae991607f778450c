import CampaignConsole.Proofs.Watch.Operations
import Mathlib.Data.List.Induction

/-!
# The order of the rows

A new row stands first and no update moves a row, so the rows stand in the order in which they were
made, the newest first.

* `NewestFirst` is the invariant: an undelivered id has a row once it was named, and the rows stand
  in the reverse of the order in which their ids were first named.
* `NewestFirst.of_ids` is the step lemma of every operation that may make a row, and
  `newestFirst_reach` the run lemma.
* `NewestFirst.above_iff` reads the order of two rows off the names.
-/

namespace CampaignConsole

/-- The ids of the recipients that an answer names, in the order in which it is taken in. -/
def SendJob.namedIds (job : SendJob) : List EmailId :=
  (job.sending ++ job.retrying ++ job.failed).map (·.id)

theorem SendJob.map_id_mentions (job : SendJob) :
    job.mentions.map (·.recipient.id) = job.namedIds := by
  simp [mentions, namedIds, Function.comp_def]

/-- The ids named since all rows were last dropped, after one more step. -/
def TableStep.extendNames (names : List EmailId) : TableStep → List EmailId
  | .deliver _ => names
  | .getOrCreate r => names ++ [r.id]
  | .clear => []
  | .answer job => if job.code.isSome then names ++ job.namedIds else []

namespace RecipientTable

/-- The ids that steps named since all rows were last dropped, in order. -/
def namedSince (steps : List TableStep) : List EmailId :=
  steps.foldl TableStep.extendNames []

/-- The row of an id stands above the row of another one. -/
def Above (t : RecipientTable) (x y : EmailId) : Prop :=
  [x, y].Sublist t.ids

/-- The rows are those of the undelivered ids that were named, the last one named first. -/
structure NewestFirst (names : List EmailId) (t : RecipientTable) : Prop where
  mem_ids : ∀ x, x ∈ t.ids ↔ x ∈ names ∧ x ∉ t.delivered
  ordered : t.ids.Pairwise fun x y => names.idxOf y < names.idxOf x

section

variable {names more : List EmailId} {t t' : RecipientTable} {x y : EmailId}

theorem NewestFirst.start : NewestFirst [] {} :=
  ⟨by simp [ids], List.Pairwise.nil⟩

theorem NewestFirst.clear (t : RecipientTable) : NewestFirst [] t.clear :=
  ⟨by simp [ids, RecipientTable.clear], List.Pairwise.nil⟩

/-- Further names leave the order of the rows that are there. -/
theorem NewestFirst.ordered_append (newest : NewestFirst names t) (more : List EmailId) :
    t.ids.Pairwise fun x y => (names ++ more).idxOf y < (names ++ more).idxOf x := by
  refine newest.ordered.imp_of_mem fun {a b} inA inB earlier => ?_
  have namedA : a ∈ names := ((newest.mem_ids a).1 inA).1
  have namedB : b ∈ names := ((newest.mem_ids b).1 inB).1
  rwa [List.idxOf_append_of_mem namedA, List.idxOf_append_of_mem namedB]

/-- The step lemma of every operation that adds an id in front unless it is known. -/
theorem NewestFirst.of_ids {r : Recipient} (newest : NewestFirst names t)
    (delivered : t'.delivered = t.delivered)
    (added : t'.ids = if r.id ∈ t.delivered ∨ r.id ∈ t.ids then t.ids else r.id :: t.ids) :
    NewestFirst (names ++ [r.id]) t' := by
  split at added
  · rename_i known
    refine ⟨fun x => ?_, added ▸ newest.ordered_append [r.id]⟩
    rw [added, delivered, newest.mem_ids, List.mem_append, List.mem_singleton]
    constructor
    · rintro ⟨named, undelivered⟩
      exact ⟨Or.inl named, undelivered⟩
    · rintro ⟨named | rfl, undelivered⟩
      · exact ⟨named, undelivered⟩
      · exact (newest.mem_ids _).1 (known.resolve_left undelivered)
  · rename_i unknown
    rcases not_or.1 unknown with ⟨undelivered, missing⟩
    have unnamed : r.id ∉ names := fun named =>
      missing ((newest.mem_ids _).2 ⟨named, undelivered⟩)
    constructor
    · intro x
      rw [added, delivered, List.mem_cons, newest.mem_ids, List.mem_append, List.mem_singleton]
      constructor
      · rintro (rfl | ⟨named, still⟩)
        · exact ⟨Or.inr rfl, undelivered⟩
        · exact ⟨Or.inl named, still⟩
      · rintro ⟨named | rfl, still⟩
        · exact Or.inr ⟨named, still⟩
        · exact Or.inl rfl
    · rw [added]
      refine List.pairwise_cons.2 ⟨fun y inIds => ?_, newest.ordered_append [r.id]⟩
      have named : y ∈ names := ((newest.mem_ids y).1 inIds).1
      have before : names.idxOf y < names.length := List.idxOf_lt_length_iff.2 named
      rw [List.idxOf_append_of_mem named, List.idxOf_append_of_notMem unnamed]
      omega

theorem NewestFirst.markDelivered (newest : NewestFirst names t) (id : EmailId) :
    NewestFirst names (t.markDelivered id) := by
  constructor
  · intro x
    rw [ids_markDelivered, List.mem_filter, bne_iff_ne, newest.mem_ids,
      mem_delivered_markDelivered, not_or, and_assoc, and_comm (a := x ≠ id)]
  · rw [ids_markDelivered]
    exact newest.ordered.filter _

theorem NewestFirst.deliverAll (newest : NewestFirst names t) (ds : List Delivered) :
    NewestFirst names (t.deliverAll ds) := by
  induction ds generalizing t with
  | nil => exact newest
  | cons d ds ih => exact ih (newest.markDelivered d.emailId)

theorem NewestFirst.mentionEach (newest : NewestFirst names t) (ms : List Mention) :
    NewestFirst (names ++ ms.map (·.recipient.id)) (t.mentionEach ms) := by
  induction ms generalizing names t with
  | nil => rwa [List.map_nil, List.append_nil]
  | cons m ms ih =>
      have mentioned : NewestFirst (names ++ [m.recipient.id]) (t.mention m.label m.recipient) :=
        newest.of_ids (delivered_mention ..) (ids_mention ..)
      have rest := ih mentioned
      rwa [List.append_assoc, List.singleton_append] at rest

theorem NewestFirst.step (newest : NewestFirst names t) (step : TableStep) :
    NewestFirst (step.extendNames names) (step.run t) := by
  cases step with
  | deliver id => exact newest.markDelivered id
  | getOrCreate r => exact newest.of_ids (delivered_ensure ..) (ids_ensure ..)
  | clear => exact NewestFirst.clear t
  | answer job =>
      cases code : job.code with
      | none =>
          rw [TableStep.run, apply_of_no_code code, TableStep.extendNames, code]
          exact NewestFirst.clear t
      | some _ =>
          have sent : job.code.isSome := by simp [code]
          rw [TableStep.run, apply_of_code sent, TableStep.extendNames, if_pos sent,
            ← job.map_id_mentions]
          exact (newest.deliverAll job.successful).mentionEach job.mentions

theorem newestFirst_reach (steps : List TableStep) :
    NewestFirst (namedSince steps) (reach steps) := by
  induction steps using List.reverseRecOn with
  | nil => exact NewestFirst.start
  | append_singleton steps step ih =>
      rw [namedSince, List.foldl_append, reach_append]
      exact ih.step step

/-- The order of two rows is that of their first names, the later one above. -/
theorem NewestFirst.above_iff (newest : NewestFirst names t) :
    t.Above x y ↔ x ∈ t.ids ∧ y ∈ t.ids ∧ names.idxOf y < names.idxOf x := by
  constructor
  · intro above
    have earlier := List.pairwise_iff_forall_sublist.1 newest.ordered above
    exact ⟨above.subset (by simp), above.subset (by simp), earlier⟩
  · rintro ⟨inX, inY, earlier⟩
    rcases List.append_of_mem inX with ⟨front, back, split⟩
    have ordered := newest.ordered
    rw [split, List.pairwise_append] at ordered
    rw [split, List.mem_append, List.mem_cons] at inY
    rcases inY with inFront | rfl | inBack
    · have later := ordered.2.2 y inFront x List.mem_cons_self
      omega
    · omega
    · rw [Above, split]
      exact ((List.singleton_sublist.2 inBack).cons_cons x).trans (List.sublist_append_right ..)

/-- An id that gets its row from further names was not named before. -/
theorem NewestFirst.unnamed_of_new (newest : NewestFirst names t)
    (remembered : ∀ z ∈ t.delivered, z ∈ t'.delivered) (after : NewestFirst more t')
    (has : x ∈ t'.ids) (hadNone : x ∉ t.ids) : x ∉ names := by
  intro named
  have undelivered : x ∉ t'.delivered := ((after.mem_ids x).1 has).2
  exact hadNone ((newest.mem_ids x).2 ⟨named, mt (remembered x) undelivered⟩)

/-- Further names move no row, and put the new rows above the others. -/
theorem NewestFirst.above_append (newest : NewestFirst names t)
    (remembered : ∀ z ∈ t.delivered, z ∈ t'.delivered) (after : NewestFirst (names ++ more) t')
    (hasX : x ∈ t'.ids) (hasY : y ∈ t'.ids) :
    (x ∈ t.ids → y ∈ t.ids → (t'.Above x y ↔ t.Above x y)) ∧
    (x ∉ t.ids → y ∈ t.ids → t'.Above x y) ∧
    (x ∉ t.ids → y ∉ t.ids → (t'.Above x y ↔ more.idxOf y < more.idxOf x)) := by
  have named {z : EmailId} (hadOne : z ∈ t.ids) : z ∈ names := ((newest.mem_ids z).1 hadOne).1
  have unnamed {z : EmailId} (has : z ∈ t'.ids) (hadNone : z ∉ t.ids) : z ∉ names :=
    newest.unnamed_of_new remembered after has hadNone
  rw [after.above_iff]
  refine ⟨fun oldX oldY => ?_, fun newX oldY => ?_, fun newX newY => ?_⟩
  · rw [newest.above_iff, List.idxOf_append_of_mem (named oldX),
      List.idxOf_append_of_mem (named oldY)]
    simp only [hasX, hasY, oldX, oldY, true_and]
  · have before : names.idxOf y < names.length := List.idxOf_lt_length_iff.2 (named oldY)
    rw [List.idxOf_append_of_notMem (unnamed hasX newX), List.idxOf_append_of_mem (named oldY)]
    exact ⟨hasX, hasY, by omega⟩
  · rw [List.idxOf_append_of_notMem (unnamed hasX newX),
      List.idxOf_append_of_notMem (unnamed hasY newY)]
    simp only [hasX, hasY, true_and]
    omega

end

/-- **The rows stand in the order in which they were made, the newest first.**  Whatever was done to
the table, an id has a row if it was named since all rows were last dropped and was never delivered,
and of two rows the one whose id was named first stands below.  So one more answer leaves two rows
that were there in their order, puts every row that it makes above them, and of two rows that it
makes puts the one above whose id it names later for the first time. -/
theorem rows_newest_first (steps : List TableStep) (job : SendJob) (x y : EmailId) :
    let before := reach steps
    let after := before.apply job
    (x ∈ before.ids ↔ x ∈ namedSince steps ∧ x ∉ before.delivered) ∧
    (before.Above x y ↔ x ∈ before.ids ∧ y ∈ before.ids ∧
      (namedSince steps).idxOf y < (namedSince steps).idxOf x) ∧
    (x ∈ after.ids → y ∈ after.ids →
      (x ∈ before.ids → y ∈ before.ids → (after.Above x y ↔ before.Above x y)) ∧
      (x ∉ before.ids → y ∈ before.ids → after.Above x y) ∧
      (x ∉ before.ids → y ∉ before.ids →
        (after.Above x y ↔ job.namedIds.idxOf y < job.namedIds.idxOf x))) := by
  intro before after
  have newest : NewestFirst (namedSince steps) before := newestFirst_reach steps
  have taken : NewestFirst ((TableStep.answer job).extendNames (namedSince steps)) after :=
    newest.step (.answer job)
  have remembered : ∀ z ∈ before.delivered, z ∈ after.delivered := fun z delivered =>
    mem_delivered_apply.2 (Or.inr delivered)
  refine ⟨newest.mem_ids x, newest.above_iff, fun hasX hasY => ?_⟩
  rw [TableStep.extendNames] at taken
  split at taken
  · exact newest.above_append remembered taken hasX hasY
  · -- Without a status code the answer leaves no row.
    exact absurd ((taken.mem_ids x).1 hasX).1 List.not_mem_nil

/-- Two emails are sent to. -/
def twoSent : List TableStep :=
  let recipient (id : String) : Recipient :=
    { id := ⟨id⟩, email := "", fullName := "", retries := 0, lastError := none }
  [.answer { code := some .pending, sending := [recipient "a", recipient "b"] }]

/-- Two more are named, one of them twice, and so are both of the first ones. -/
def fourNamed : SendJob :=
  let recipient (id : String) : Recipient :=
    { id := ⟨id⟩, email := "", fullName := "", retries := 1, lastError := some "450" }
  { code := some .pending
    sending := [recipient "c"]
    retrying := [recipient "a", recipient "d", recipient "c"]
    failed := [recipient "b"] }

theorem rows_newest_first_fourNamed :
    let before := reach twoSent
    let after := before.apply fourNamed
    (∀ x ∈ [⟨"a"⟩, ⟨"b"⟩, ⟨"c"⟩, ⟨"d"⟩], x ∈ after.ids) ∧
      (before.Above ⟨"b"⟩ ⟨"a"⟩ ∧ after.Above ⟨"b"⟩ ⟨"a"⟩) ∧ after.Above ⟨"c"⟩ ⟨"b"⟩ ∧
      after.Above ⟨"d"⟩ ⟨"c"⟩ := by
  intro before after
  have shown : ∀ x ∈ [⟨"a"⟩, ⟨"b"⟩, ⟨"c"⟩, ⟨"d"⟩], x ∈ after.ids := by decide
  have hadA : ⟨"a"⟩ ∈ before.ids := by decide
  have hadB : ⟨"b"⟩ ∈ before.ids := by decide
  have newC : ⟨"c"⟩ ∉ before.ids := by decide
  have newD : ⟨"d"⟩ ∉ before.ids := by decide
  have earlier : (namedSince twoSent).idxOf ⟨"a"⟩ < (namedSince twoSent).idxOf ⟨"b"⟩ := by decide
  have laterNamed : fourNamed.namedIds.idxOf ⟨"c"⟩ < fourNamed.namedIds.idxOf ⟨"d"⟩ := by decide
  have below : before.Above ⟨"b"⟩ ⟨"a"⟩ :=
    (rows_newest_first twoSent fourNamed ⟨"b"⟩ ⟨"a"⟩).2.1.2 ⟨hadB, hadA, earlier⟩
  refine ⟨shown, ⟨below, ?_⟩, ?_, ?_⟩
  · exact (((rows_newest_first twoSent fourNamed ⟨"b"⟩ ⟨"a"⟩).2.2 (shown _ (by simp))
      (shown _ (by simp))).1 hadB hadA).2 below
  · exact ((rows_newest_first twoSent fourNamed ⟨"c"⟩ ⟨"b"⟩).2.2 (shown _ (by simp))
      (shown _ (by simp))).2.1 newC hadB
  · exact (((rows_newest_first twoSent fourNamed ⟨"d"⟩ ⟨"c"⟩).2.2 (shown _ (by simp))
      (shown _ (by simp))).2.2 newD newC).2 laterNamed

end RecipientTable

end CampaignConsole
