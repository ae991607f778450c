import CampaignConsole.Proofs.Files.Faults
import CampaignConsole.Proofs.Files.Locating

/-!
# Replacing a file, as a whole or not at all

`replaceOn_cases` says all that replacing a file can do, on any device.  Either it fails and made
directories at most, or it made directories and put the text where the path now leads to (`Puts`).
`Stores` forgets where the directories were made, and `replace_cases` is what remains for a device
that does not fail.  After a success the path is read as the text (`Stores.read`).
-/

namespace CampaignConsole.Files.Disk

/-! ## The steps, without their monad -/

theorem rename_eq (d : Disk) (draft : Location) (bytes : ByteArray) (p : Path) :
    d.rename draft bytes p =
      if p.steps.getLast? ∈ [some ".", some ".."] then .error .busy
      else if p.text.isEmpty then .error .notFound
      else
        match p.steps.foldlM d.step (d.start p) with
        | .error e => .error e
        | .ok loc =>
            if p.endsInSlash then .error .notDirectory
            else if d.isDirectory loc then .error .isDirectory
            else if loc.dropLast ∈ d.readOnly then .error .denied
            else .ok ((d.erase draft).put loc (.file bytes)) := by
  unfold rename
  cases p.steps.foldlM d.step (d.start p) with
  | error e => split_ifs <;> rfl
  | ok loc =>
      dsimp only [bind, Except.bind]
      split_ifs <;> rfl

/-- A draft is renamed only to a place that the path leads to and where no directory stands. -/
theorem rename_eq_ok {d renamed : Disk} {draft : Location} {bytes : ByteArray} {p : Path}
    (done : d.rename draft bytes p = .ok renamed) :
    p.steps.getLast? ∉ [some ".", some ".."] ∧ p.text.isEmpty = false ∧ p.endsInSlash = false ∧
      ∃ loc, p.steps.foldlM d.step (d.start p) = .ok loc ∧ d.isDirectory loc = false ∧
        loc.dropLast ∉ d.readOnly ∧ renamed = (d.erase draft).put loc (.file bytes) := by
  rw [rename_eq] at done
  split at done
  · cases done
  rename_i notDotted
  split at done
  · cases done
  rename_i notEmpty
  split at done
  · cases done
  rename_i loc walk
  split at done
  · cases done
  rename_i noSlash
  split at done
  · cases done
  rename_i noDirectory
  split at done
  · cases done
  rename_i writable
  cases done
  exact ⟨notDotted, Bool.not_eq_true _ ▸ notEmpty, Bool.not_eq_true _ ▸ noSlash, loc, walk,
    Bool.not_eq_true _ ▸ noDirectory, writable, rfl⟩

/-! ## What replacing can do -/

/-- The disk `d'` is `d` with a text put at a place, where the path leads to. -/
structure Puts (d : Disk) (p : Path) (text : String) (loc : Location) (d' : Disk) : Prop where
  notEmpty : p.text.isEmpty = false
  noSlash : p.endsInSlash = false
  vacant : d.get? loc ≠ some .directory
  put : d' = d.put loc (.file text.toUTF8)
  walk : p.steps.foldlM d'.step (d'.start p) = .ok loc

/-- The disk `d'` is `d` with directories made and a text put where the path leads to. -/
structure Stores (d : Disk) (p : Path) (text : String) (d' : Disk) : Prop where
  notEmpty : p.text.isEmpty = false
  noSlash : p.endsInSlash = false
  put : ∃ grown loc, Grows d grown ∧ grown.get? loc ≠ some .directory ∧
    d' = grown.put loc (.file text.toUTF8) ∧ p.steps.foldlM d'.step (d'.start p) = .ok loc

/-- Renaming a draft puts its text at the target, where it succeeds. -/
theorem puts_of_rename {d renamed : Disk} {directory : Location} {p : Path} {text : String}
    (done : (d.put (directory ++ [d.draftName]) (.file text.toUTF8)).rename
      (directory ++ [d.draftName]) text.toUTF8 p = .ok renamed) :
    ∃ loc, Puts d p text loc renamed := by
  obtain ⟨_, notEmpty, noSlash, loc, walk, noDirectory, _, rfl⟩ := rename_eq_ok done
  rw [erase_put (draft_free d directory)]
  have vacant : d.get? loc ≠ some .directory := by
    rw [ne_eq, ← get?_drafted, ← isDirectory_iff, noDirectory]
    exact Bool.false_ne_true
  refine ⟨loc, notEmpty, noSlash, vacant, rfl, walk_of_directories ?_ walk⟩
  -- The target was walked to while the draft stood; the way leads through neither of the two.
  intro place standing
  have before := get?_drafted.1 standing
  have notTarget : place ≠ loc := fun same => vacant (same ▸ before)
  rw [get?_put d (ne_nil_of_vacant vacant), if_neg notTarget, before]

/-- Nothing changes at other places. -/
theorem Puts.get? {d d' : Disk} {p : Path} {text : String} {loc : Location}
    (puts : Puts d p text loc d') (other : Location) :
    d'.get? other = if other = loc then some (.file text.toUTF8) else d.get? other := by
  rw [puts.put, get?_put d (ne_nil_of_vacant puts.vacant)]

theorem Puts.locate {d d' : Disk} {p : Path} {text : String} {loc : Location}
    (puts : Puts d p text loc d') (walkable : Walkable p) : d'.locate p = .ok loc := by
  refine locate_eq_ok_iff.2 ⟨walkable, puts.walk, fun slash => ?_⟩
  rw [puts.noSlash] at slash
  cases slash

theorem Puts.stores {d grown d' : Disk} {p : Path} {text : String} {loc : Location}
    (puts : Puts grown p text loc d') (grows : Grows d grown) : Stores d p text d' :=
  ⟨puts.notEmpty, puts.noSlash, grown, loc, grows, puts.vacant, puts.put, puts.walk⟩

theorem makeDirectoriesOn_makes (faults : Faults) (d : Disk) (loc : Location)
    (names : List String) :
    Makes (waypoints loc names) d (d.makeDirectoriesOn faults loc names).1 := by
  unfold makeDirectoriesOn
  split
  · exact makeDirectories_makes d loc names
  · rename_i made cause _
    exact (makeDirectories_makes d loc (names.take made)).mono
      (waypoints_take_subset loc names made)

/-- A draft that cannot be renamed leaves nothing behind. -/
theorem draftOn_cases (faults : Faults) (d : Disk) (directory : Location) (p : Path)
    (text : String) :
    (∃ e, d.draftOn faults directory p text = (d, .error e)) ∨
      ∃ loc renamed, d.draftOn faults directory p text = (renamed, .ok ()) ∧
        faults.createDraft = none ∧ faults.writeDraft = none ∧ faults.rename = none ∧
        Puts d p text loc renamed := by
  have free := draft_free d directory
  unfold draftOn
  split
  · exact Or.inl ⟨_, rfl⟩
  split
  · exact Or.inl ⟨_, rfl⟩
  rename_i created
  dsimp only
  split
  · rw [erase_put free]
    exact Or.inl ⟨_, rfl⟩
  split
  · rw [put_put, erase_put free]
    exact Or.inl ⟨_, rfl⟩
  rename_i written
  rw [put_put, erase_put free]
  split
  · exact Or.inl ⟨_, rfl⟩
  rename_i renames
  split
  · rename_i renamed done
    obtain ⟨loc, puts⟩ := puts_of_rename done
    exact Or.inr ⟨loc, renamed, rfl, created, written, renames, puts⟩
  · exact Or.inl ⟨_, rfl⟩

/-- Replacing a file either fails, and made directories on the way to it at most; or no step failed,
and the text was put where the path leads to. -/
theorem replaceOn_cases (faults : Faults) (d : Disk) (p : Path) (text : String) :
    (∃ d' e, d.replaceOn faults p text = (d', .error e) ∧ Makes (d.parents p) d d') ∨
      ∃ grown loc d', d.replaceOn faults p text = (d', .ok ()) ∧ faults.isNone = true ∧
        Makes (d.parents p) d grown ∧ Puts grown p text loc d' := by
  have makes := makeDirectoriesOn_makes faults d (d.start p.directory) p.directory.steps
  unfold replaceOn
  split
  · rename_i grown e made
    rw [made] at makes
    exact Or.inl ⟨grown, _, rfl, makes⟩
  · rename_i grown directory made
    rw [made] at makes
    rcases draftOn_cases faults grown directory p text with
      ⟨e, failed⟩ | ⟨loc, renamed, done, created, written, renames, puts⟩
    · exact Or.inl ⟨grown, e, failed, makes⟩
    · refine Or.inr ⟨grown, loc, renamed, done, ?_, makes, puts⟩
      have noMaking : faults.makeDirectories = none := by
        unfold makeDirectoriesOn at made
        split at made
        · assumption
        · cases made
      simp [Faults.isNone, noMaking, created, written, renames]

/-- Replacing a file either fails, and made directories at most, or stores the text. -/
theorem replace_cases (d : Disk) (p : Path) (text : String) :
    (∃ e, (d.replace p text).2 = .error e ∧ Grows d (d.replace p text).1) ∨
      (d.replace p text).2 = .ok () ∧ Stores d p text (d.replace p text).1 := by
  rcases replaceOn_cases {} d p text with
    ⟨d', e, failed, makes⟩ | ⟨grown, loc, d', done, _, makes, puts⟩
  · rw [← replaceOn_none, failed]
    exact Or.inl ⟨e, rfl, makes.toGrows⟩
  · rw [← replaceOn_none, done]
    exact Or.inr ⟨rfl, puts.stores makes.toGrows⟩

/-! ## What is read afterwards -/

namespace Stores

variable {d d' : Disk} {p : Path} {text : String}

theorem locate (stores : Stores d p text d') (walkable : Walkable p) :
    ∃ loc, d'.locate p = .ok loc ∧ d'.get? loc = some (.file text.toUTF8) := by
  obtain ⟨notEmpty, noSlash, grown, loc, _, vacant, put, walk⟩ := stores
  have puts : Puts grown p text loc d' := ⟨notEmpty, noSlash, vacant, put, walk⟩
  exact ⟨loc, puts.locate walkable, by rw [puts.get?, if_pos rfl]⟩

/-- The text stored is the text read. -/
theorem read (stores : Stores d p text d') (walkable : Walkable p) : d'.read p = .ok text := by
  obtain ⟨loc, located, standing⟩ := stores.locate walkable
  have bytes : text.toUTF8.IsValidUTF8 := text.isValidUTF8
  have valid : String.fromUTF8? text.toUTF8 = some text := by
    rw [String.fromUTF8?, dif_pos bytes]
    rfl
  rw [read_of_locate located, textAt, standing]
  simp only [valid]

end Stores

end CampaignConsole.Files.Disk
