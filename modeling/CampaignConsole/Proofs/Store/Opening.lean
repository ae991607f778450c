import CampaignConsole.Proofs.Store.AllOrNothing
import CampaignConsole.Proofs.Store.Reopening

/-!
# What opening a store makes of a state file

A `StateFile` is what stands at the path of a state file: nothing, or any bytes.
`ofRead_of_isText` and `ofRead_of_not_isText` say what becomes of it when a store is opened, and
`stored_of_runOn_set` what stands there after the next value was set.

`openAt_ok_iff_isText` puts them together: bytes that are a text are opened, whatever the text is,
and bytes that are none are refused.
-/

namespace CampaignConsole

open Files

/-- What stands at the path of a state file. -/
inductive StateFile where
  | missing
  | file (bytes : ByteArray)

namespace StateFile

/-- A path of a disk leads to nothing, or to a file with the given bytes. -/
def At (d : Disk) (path : Path) : StateFile → Prop
  | .missing => d.read path = .error .notFound
  | .file bytes => ∃ loc, d.locate path = .ok loc ∧ d.get? loc = some (.file bytes)

/-- The bytes are a text; nothing counts as one. -/
def IsText : StateFile → Prop
  | .missing => True
  | .file bytes => bytes.IsValidUTF8

/-- The pairs of a state file: those that its text writes as a JSON object of strings, and none
where it is missing or holds anything else. -/
def pairs : StateFile → List (String × String)
  | .missing => []
  | .file bytes => (String.fromUTF8? bytes >>= Entries.pairsOf?).getD []

end StateFile

namespace StateStore

variable {d : Disk} {path : Path} {file : StateFile} {store : StateStore}

/-! ## Opening -/

/-- The entries of a text are those of its pairs. -/
theorem get?_ofText? (text key : String) :
    ((Entries.ofText? text).getD .empty).get? key =
      ((Entries.pairsOf? text).getD []).reverse.lookup key := by
  rw [Entries.ofText?_eq]
  cases Entries.pairsOf? text with
  | none => rfl
  | some pairs => exact Entries.get?_ofPairs pairs key

/-- A text is opened with its pairs. -/
theorem ofRead_of_isText (stands : file.At d path) (isText : file.IsText) :
    ∃ store, ofRead path (d.read path) = .ok store ∧
      ∀ key, store.get? key = file.pairs.reverse.lookup key := by
  cases file with
  | missing =>
      have nothing : d.read path = .error .notFound := stands
      rw [nothing]
      exact ⟨_, rfl, fun _ => rfl⟩
  | file bytes =>
      obtain ⟨loc, located, standing⟩ := stands
      have decoded : String.fromUTF8? bytes = some (.ofByteArray bytes isText) := dif_pos isText
      have found : d.read path = .ok (.ofByteArray bytes isText) := by
        rw [Disk.read_of_locate located, Disk.textAt, standing]
        simp only [decoded]
      rw [found, StateFile.pairs, decoded]
      exact ⟨_, rfl, get?_ofText? _⟩

/-- Bytes that are no text are refused. -/
theorem ofRead_of_not_isText (stands : file.At d path) (broken : ¬file.IsText) :
    ofRead path (d.read path) = .error (.read path .notUtf8) := by
  cases file with
  | missing => exact absurd trivial broken
  | file bytes =>
      obtain ⟨loc, located, standing⟩ := stands
      have undecoded : String.fromUTF8? bytes = none := dif_neg broken
      have refused : d.read path = .error .notUtf8 := by
        rw [Disk.read_of_locate located, Disk.textAt, standing]
        simp only [undecoded]
      rw [refused]
      rfl

theorem isText_of_ofRead (stands : file.At d path)
    (opened : ofRead path (d.read path) = .ok store) : file.IsText := by
  by_contra broken
  rw [ofRead_of_not_isText stands broken] at opened
  cases opened

/-! ## The next value -/

/-- Where a value is set, the file is read as the entries of the store with that value. -/
theorem stored_of_runOn_set (inUse : InUse store) {faults : Faults} {now written : Disk}
    {key value : String} {after : StateStore}
    (sets : Device.runOn faults now (store.set key value) = ((after, .ok ()), written)) :
    after = store.insert key value ∧ ∃ loc text, written.locate store.path = .ok loc ∧
      written.get? loc = some (.file text.toUTF8) ∧ Entries.ofText? text = some after.entries := by
  rcases runOn_set_cases faults now store key value with
    ⟨e, kept, failed, _⟩ | ⟨grown, target, stored, done, _, _, puts⟩
  · rw [failed] at sets
    cases sets
  · rw [done] at sets
    cases sets
    have walkable := inUse.walkable puts.notEmpty
    have sorted := inUse.sorted.insert key value
    refine ⟨rfl, target, _, puts.locate walkable, ?_, sorted.ofText?_text⟩
    rw [puts.get?, if_pos rfl]
    rfl

/-- **A state file is opened exactly if it is a text.**  Opening changes nothing on the disk.  A
missing file and any text are opened: with the pairs of a JSON object of strings, the last one of a
key counting, and with no values where the text is anything else.  The next value that is set,
whatever the disk is by then, leaves a file that is read as those values with the new one.  Bytes
that are no text are refused with an error. -/
theorem openAt_ok_iff_isText (stands : file.At d path) :
    ((∃ store, (openAt path : StateM Disk _).run d = (.ok store, d)) ↔ file.IsText) ∧
      (¬file.IsText →
        (openAt path : StateM Disk _).run d = (.error (.read path .notUtf8), d)) ∧
      ∀ store d', (openAt path : StateM Disk _).run d = (.ok store, d') →
        (∀ key, store.get? key = file.pairs.reverse.lookup key) ∧
        ∀ faults now key value after written,
          Device.runOn faults now (store.set key value) = ((after, .ok ()), written) →
          ∃ loc text, written.locate path = .ok loc ∧
            written.get? loc = some (.file text.toUTF8) ∧
            Entries.ofText? text = some after.entries ∧
            ∀ other, after.get? other = if other = key then some value else store.get? other := by
  have opens : (openAt path : StateM Disk _).run d = (ofRead path (d.read path), d) := rfl
  rw [opens]
  refine ⟨⟨?_, ?_⟩, ?_, ?_⟩
  · intro done
    obtain ⟨store, done⟩ := done
    exact isText_of_ofRead stands (congrArg Prod.fst done)
  · intro isText
    obtain ⟨store, opened, _⟩ := ofRead_of_isText stands isText
    exact ⟨store, congrArg (·, d) opened⟩
  · intro broken
    rw [ofRead_of_not_isText stands broken]
  · intro store d' done
    have opened : ofRead path (d.read path) = .ok store := congrArg Prod.fst done
    have samePath := path_of_ofRead opened
    refine ⟨?_, ?_⟩
    · obtain ⟨found, again, values⟩ := ofRead_of_isText stands (isText_of_ofRead stands opened)
      obtain rfl : store = found := Except.ok.inj (opened.symm.trans again)
      exact values
    · intro faults now key value after written sets
      obtain ⟨rfl, loc, text, located, standing, read⟩ :=
        stored_of_runOn_set (.opened (samePath.symm ▸ opened)) sets
      exact ⟨loc, text, samePath ▸ located, standing, read,
        Entries.get?_insert store.entries key value⟩

/-- A disk with a text at the state path that is no JSON. -/
def scribbled : Disk :=
  { entries := [(["state"], .file "not json".toUTF8)] }

theorem openAt_ok_iff_isText_scribbled :
    (StateFile.file "not json".toUTF8).At scribbled ⟨"state"⟩ ∧
      (StateFile.file "not json".toUTF8).IsText ∧
      ∃ store, (openAt ⟨"state"⟩ : StateM Disk _).run scribbled = (.ok store, scribbled) ∧
        store.get? "theme" = none ∧
        ∃ after written,
          Device.runOn {} scribbled (store.set "theme" "dark") = ((after, .ok ()), written) ∧
          ∃ loc text, written.locate ⟨"state"⟩ = .ok loc ∧
            written.get? loc = some (.file text.toUTF8) ∧
            Entries.ofText? text = some after.entries ∧ after.get? "theme" = some "dark" := by
  have stands : (StateFile.file "not json".toUTF8).At scribbled ⟨"state"⟩ :=
    ⟨["state"], rfl, rfl⟩
  have isText : (StateFile.file "not json".toUTF8).IsText := "not json".isValidUTF8
  have opened : ofRead ⟨"state"⟩ (scribbled.read ⟨"state"⟩) =
      .ok { path := ⟨"state"⟩, entries := .empty } := by decide +kernel
  have done : (openAt ⟨"state"⟩ : StateM Disk _).run scribbled =
      (.ok { path := ⟨"state"⟩, entries := .empty }, scribbled) := congrArg (·, scribbled) opened
  obtain ⟨_, sets⟩ := (openAt_ok_iff_isText stands).2.2 _ scribbled done
  have succeeds : (Device.runOn {} scribbled
      (set { path := ⟨"state"⟩, entries := .empty } "theme" "dark")).1.2 = .ok () := by
    decide +kernel
  rcases ran : Device.runOn {} scribbled
      (set { path := ⟨"state"⟩, entries := .empty } "theme" "dark") with
    ⟨⟨after, outcome⟩, written⟩
  rw [ran] at succeeds
  subst succeeds
  obtain ⟨loc, text, located, standing, read, values⟩ := sets {} scribbled _ _ after written ran
  exact ⟨stands, isText, _, done, rfl, after, written, ran, loc, text, located, standing, read,
    values "theme"⟩

/-- A disk with a byte at the state path that begins no character. -/
def loneByte : Disk :=
  { entries := [(["state.json"], .file ⟨#[0xff]⟩)] }

/-- A state file that is no text is not opened, although it can be read. -/
theorem openAt_error_loneByte :
    (StateFile.file ⟨#[0xff]⟩).At loneByte ⟨"state.json"⟩ ∧
      (openAt ⟨"state.json"⟩ : StateM Disk _).run loneByte =
        (.error (.read ⟨"state.json"⟩ .notUtf8), loneByte) := by
  have refused : ofRead ⟨"state.json"⟩ (loneByte.read ⟨"state.json"⟩) =
      .error (.read ⟨"state.json"⟩ .notUtf8) := by decide +kernel
  exact ⟨⟨["state.json"], rfl, rfl⟩, congrArg (·, loneByte) refused⟩

end StateStore

end CampaignConsole
