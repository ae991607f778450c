import CampaignConsole.Proofs.Store.StateFile

/-!
# Values set are found again

A `StoreStep` sets a value in a store or opens the state file anew.  `runSteps` opens the file and
takes the steps, and has no result where one of them fails.

* `InStep` is the invariant: opening the file would give the store that is in memory.
  `InStep.run` is its step lemma, and `InStep.foldlM` the run lemma.
* `get?_runSteps` says of every key what is found after the steps, in memory and in the file.
-/

namespace CampaignConsole

open Files Json

namespace Entries

/-- The pairs that a text writes as a JSON object of strings, in their order. -/
def pairsOf? (text : String) : Option (List (String × String)) :=
  match Node.parse? (text.toList.map some) with
  | some (.object members) => members.mapM readMember
  | _ => none

theorem ofText?_eq (text : String) : ofText? text = (pairsOf? text).map ofPairs := by
  unfold ofText? pairsOf?
  cases Node.parse? (text.toList.map some) with
  | none => rfl
  | some node =>
      cases node with
      | object members => exact (Option.map_eq_bind ..).symm
      | _ => rfl

theorem get?_ofPairs (pairs : List (String × String)) (key : String) :
    (ofPairs pairs).get? key = pairs.reverse.lookup key := by
  induction pairs using List.reverseRecOn with
  | nil => rfl
  | append_singleton pairs pair ih =>
      have last : ofPairs (pairs ++ [pair]) = (ofPairs pairs).insert pair.1 pair.2 := by
        simp [ofPairs, List.foldl_append]
      rw [last, get?_insert, List.reverse_append, List.reverse_singleton, List.singleton_append,
        lookup_cons, ih]

end Entries

/-- A file is missing, or it is a JSON object of strings with the given pairs. -/
def HoldsPairs (d : Disk) (path : Path) (pairs : List (String × String)) : Prop :=
  (d.read path = .error .notFound ∧ pairs = []) ∨
    ∃ text, d.read path = .ok text ∧ Entries.pairsOf? text = some pairs

/-- One use of the state file: setting a value, or opening the file anew. -/
inductive StoreStep where
  | set (key value : String)
  | reopen

namespace StoreStep

/-- Opens the store at a path of a disk. -/
def openOn (path : Path) (d : Disk) : Option (StateStore × Disk) :=
  match (StateStore.openAt path : StateM Disk _).run d with
  | (.ok store, d) => some (store, d)
  | (.error _, _) => none

/-- The store and the disk after a step that succeeds. -/
def run (path : Path) (now : StateStore × Disk) : StoreStep → Option (StateStore × Disk)
  | .reopen => openOn path now.2
  | .set key value =>
      match (now.1.set key value : StateM Disk _).run now.2 with
      | ((store, .ok ()), d) => some (store, d)
      | ((_, .error _), _) => none

/-- Opens the store at a path and takes steps, all of which succeed. -/
def runSteps (path : Path) (d : Disk) (steps : List StoreStep) : Option (StateStore × Disk) := do
  steps.foldlM (run path) (← openOn path d)

/-- The values that steps set for a key, in order. -/
def valuesSet (key : String) (steps : List StoreStep) : List String :=
  steps.filterMap fun
    | .set k value => if k = key then some value else none
    | .reopen => none

/-! ## One step -/

/-- Opening the file of a disk gives the store that is in memory. -/
def InStep (path : Path) (now : StateStore × Disk) : Prop :=
  StateStore.ofRead path (now.2.read path) = .ok now.1

theorem openOn_eq_some_iff {path : Path} {d : Disk} {now : StateStore × Disk} :
    openOn path d = some now ↔ InStep path now ∧ now.2 = d := by
  have opens : (StateStore.openAt path : StateM Disk _).run d =
      (StateStore.ofRead path (d.read path), d) := rfl
  obtain ⟨store, d'⟩ := now
  unfold openOn InStep
  rw [opens]
  cases found : StateStore.ofRead path (d.read path) with
  | ok opened =>
      constructor
      · rintro ⟨⟩
        exact ⟨found, rfl⟩
      · rintro ⟨same, rfl⟩
        rw [found] at same
        cases same
        rfl
  | error e =>
      constructor
      · rintro ⟨⟩
      · rintro ⟨same, rfl⟩
        rw [found] at same
        cases same

/-- A value that was set is in memory, and the store is on the disk. -/
theorem run_set_eq_some {path : Path} {now next : StateStore × Disk} {key value : String}
    (ran : run path now (.set key value) = some next) :
    next.1 = now.1.insert key value ∧
      now.2.Stores now.1.path (now.1.insert key value).entries.text next.2 := by
  obtain ⟨store, d⟩ := now
  have sets : (store.set key value : StateM Disk _).run d =
      ((store.insert key value,
          (d.replace store.path (store.insert key value).entries.text).2.mapError StoreError.write),
        (d.replace store.path (store.insert key value).entries.text).1) := rfl
  rw [run, sets] at ran
  rcases d.replace_cases store.path (store.insert key value).entries.text with
    ⟨e, failed, _⟩ | ⟨done, stores⟩
  · rw [failed] at ran
    cases ran
  · rw [done] at ran
    cases ran
    exact ⟨rfl, stores⟩

/-- A store that was set anew is what the file gives. -/
theorem InStep.set {path : Path} {now next : StateStore × Disk} (inStep : InStep path now)
    {key value : String} (ran : run path now (.set key value) = some next) : InStep path next := by
  obtain ⟨store, stores⟩ := run_set_eq_some ran
  have here : now.1.path = path := StateStore.path_of_ofRead inStep
  rw [here] at stores
  have stored := (StateStore.storedEntries_of_stores inStep stores).1
  have walkable := StateStore.walkable_of_ofRead inStep stores.notEmpty
  rw [storedEntries, stores.read walkable] at stored
  have decoded : Entries.ofText? (now.1.insert key value).entries.text =
    some (now.1.insert key value).entries := stored
  rw [InStep, stores.read walkable, StateStore.ofRead, decoded, store, Option.getD_some, ← here]
  rfl

/-- The step lemma, with what becomes of the value of a key. -/
theorem InStep.run {path : Path} {now next : StateStore × Disk} (inStep : InStep path now)
    {step : StoreStep} (ran : step.run path now = some next) (key : String) :
    InStep path next ∧
      next.1.get? key = ((valuesSet key [step]).getLast?).or (now.1.get? key) := by
  cases step with
  | reopen =>
      obtain ⟨opened, sameDisk⟩ := openOn_eq_some_iff.1 ran
      -- The disk is the same, so the invariant gives the store that was in memory.
      have again := opened
      rw [InStep, sameDisk, inStep] at again
      have sameStore : now.1 = next.1 := Except.ok.inj again
      exact ⟨opened, sameStore ▸ rfl⟩
  | set k value =>
      refine ⟨inStep.set ran, ?_⟩
      obtain ⟨store, _⟩ := run_set_eq_some ran
      have looked := Entries.get?_insert now.1.entries k value key
      rw [store, StateStore.get?, StateStore.insert, looked, valuesSet]
      by_cases same : k = key
      · subst same
        simp
      · simp [same, Ne.symm same, StateStore.get?]

/-! ## Many steps -/

theorem valuesSet_cons (key : String) (step : StoreStep) (steps : List StoreStep) :
    valuesSet key (step :: steps) = valuesSet key [step] ++ valuesSet key steps := by
  rw [valuesSet, valuesSet, valuesSet, ← List.filterMap_append, List.singleton_append]

/-- The run lemma: the value of a key is the last one set, or the one at the start. -/
theorem InStep.foldlM {path : Path} {now last : StateStore × Disk} (inStep : InStep path now)
    {steps : List StoreStep} (ran : steps.foldlM (StoreStep.run path) now = some last)
    (key : String) :
    InStep path last ∧ last.1.get? key = ((valuesSet key steps).getLast?).or (now.1.get? key) := by
  induction steps generalizing now with
  | nil =>
      cases ran
      exact ⟨inStep, rfl⟩
  | cons step steps ih =>
      rw [List.foldlM_cons] at ran
      obtain ⟨next, first, rest⟩ := Option.bind_eq_some_iff.1 ran
      obtain ⟨nextInStep, here⟩ := inStep.run first key
      obtain ⟨lastInStep, there⟩ := ih nextInStep rest
      refine ⟨lastInStep, ?_⟩
      rw [there, here, valuesSet_cons key step steps, List.getLast?_append, Option.or_assoc]

/-- A file of pairs is opened with the last value of each key. -/
theorem get?_of_holdsPairs {path : Path} {d : Disk} {pairs : List (String × String)}
    (holds : HoldsPairs d path pairs) {now : StateStore × Disk} (opened : openOn path d = some now)
    (key : String) : now.1.get? key = pairs.reverse.lookup key := by
  obtain ⟨inStep, same⟩ := openOn_eq_some_iff.1 opened
  rw [StateStore.get?, StateStore.entries_of_ofRead inStep, same, storedEntries]
  rcases holds with ⟨missing, rfl⟩ | ⟨text, found, written⟩
  · rw [missing]
    rfl
  · have decoded : Entries.ofText? text = some (Entries.ofPairs pairs) := by
      rw [Entries.ofText?_eq, written]
      rfl
    rw [found]
    show ((Entries.ofText? text).getD .empty).get? key = _
    rw [decoded, Option.getD_some, Entries.get?_ofPairs]

/-- **Values survive in the state file.**  Where the file is missing or a JSON object of strings,
and steps that set values and open the file anew all succeed, the store in memory and a store that
is opened afresh both have the last value that was set for a key, whatever its characters; or the
last one that the file had for it at first; or none. -/
theorem get?_runSteps {path : Path} {d : Disk} {pairs : List (String × String)}
    (holds : HoldsPairs d path pairs) {steps : List StoreStep} {store : StateStore} {d' : Disk}
    (succeeds : runSteps path d steps = some (store, d')) (key : String) :
    store.get? key = ((valuesSet key steps).getLast?).or (pairs.reverse.lookup key) ∧
      ∃ fresh, openOn path d' = some (fresh, d') ∧
        fresh.get? key = ((valuesSet key steps).getLast?).or (pairs.reverse.lookup key) := by
  obtain ⟨first, opened, ran⟩ := Option.bind_eq_some_iff.1 succeeds
  obtain ⟨inStep, _⟩ := openOn_eq_some_iff.1 opened
  obtain ⟨lastInStep, found⟩ := inStep.foldlM ran key
  rw [get?_of_holdsPairs holds opened] at found
  exact ⟨found, store, openOn_eq_some_iff.2 ⟨lastInStep, rfl⟩, found⟩

/-- A file that names one key twice. -/
def twiceNamed : Disk :=
  { entries := [(["state"], .file "\x7b\"a\":\"1\", \"b\":\"\\u00e9\", \"a\":\"2\"\x7d".toUTF8)] }

/-- Setting values that need escapes, with the file opened anew in between. -/
def escapedSteps : List StoreStep :=
  [.set "b" "line\n\"\\", .reopen, .set "" "\x00😀", .set "b" "", .reopen]

theorem get?_runSteps_escaped :
    HoldsPairs twiceNamed ⟨"state"⟩ [("a", "1"), ("b", "é"), ("a", "2")] ∧
      ∃ store d', runSteps ⟨"state"⟩ twiceNamed escapedSteps = some (store, d') ∧
        store.get? "a" = some "2" ∧ store.get? "b" = some "" ∧ store.get? "" = some "\x00😀" ∧
        ∃ fresh, openOn ⟨"state"⟩ d' = some (fresh, d') ∧ fresh.get? "" = some "\x00😀" := by
  have holds : HoldsPairs twiceNamed ⟨"state"⟩ [("a", "1"), ("b", "é"), ("a", "2")] :=
    Or.inr ⟨_, rfl, by decide +kernel⟩
  have succeeds : (runSteps ⟨"state"⟩ twiceNamed escapedSteps).isSome = true := by decide +kernel
  obtain ⟨⟨store, d'⟩, ran⟩ := Option.isSome_iff_exists.1 succeeds
  exact ⟨holds, store, d', ran, (get?_runSteps holds ran "a").1, (get?_runSteps holds ran "b").1,
    (get?_runSteps holds ran "").1, (get?_runSteps holds ran "").2⟩

end StoreStep

end CampaignConsole
