import CampaignConsole.Proofs.Files.Growth
import Mathlib.Data.List.Induction

/-!
# Where a path leads, and what is read there

`locate_eq_ok_iff` says when a path leads to a place.  A path that leads to one leads there still
after directories were made (`Grows.locate`).

`Settled` says that making directories brings no other text into view at a path.  That is so where
the path leads to a place already (`settled_of_locate`), and on any tree for a path that never turns
back (`settled_of_isTree`).  It can fail only for a path such as `missing/../file`, which leads
nowhere until `missing` is made.
-/

namespace CampaignConsole.Files.Disk

/-! ## Leading to a place -/

/-- A path that can be walked: it is not empty, holds no zero byte and is not too long. -/
structure Walkable (p : Path) : Prop where
  notEmpty : p.text.isEmpty = false
  noNul : p.text.toList.contains '\x00' = false
  short : ¬pathLimit < p.text.utf8ByteSize

theorem locate_eq (d : Disk) (p : Path) :
    d.locate p =
      if p.text.isEmpty then .error .notFound
      else if p.text.toList.contains '\x00' then .error .nulInPath
      else if pathLimit < p.text.utf8ByteSize then .error .nameTooLong
      else
        match p.steps.foldlM d.step (d.start p) with
        | .error e => .error e
        | .ok loc => if p.endsInSlash then d.step loc "." else .ok loc := by
  unfold locate
  split_ifs <;> first | rfl | (cases p.steps.foldlM d.step (d.start p) <;> rfl)

theorem locate_eq_ok_iff {d : Disk} {p : Path} {loc : Location} :
    d.locate p = .ok loc ↔
      Walkable p ∧ p.steps.foldlM d.step (d.start p) = .ok loc ∧
        (p.endsInSlash = true → d.get? loc = some .directory) := by
  rw [locate_eq]
  constructor
  · intro located
    split at located
    · cases located
    rename_i notEmpty
    split at located
    · cases located
    rename_i noNul
    split at located
    · cases located
    rename_i short
    have walkable : Walkable p := ⟨Bool.not_eq_true _ ▸ notEmpty, Bool.not_eq_true _ ▸ noNul, short⟩
    split at located
    · cases located
    rename_i last walk
    split at located
    · obtain ⟨standing, same⟩ := step_eq_ok_iff.1 located
      rw [if_pos rfl] at same
      subst same
      exact ⟨walkable, walk, fun _ => standing⟩
    · rename_i noSlash
      cases located
      exact ⟨walkable, walk, fun slash => absurd slash noSlash⟩
  · rintro ⟨walkable, walk, directory⟩
    rw [walk, walkable.notEmpty, walkable.noNul, if_neg Bool.false_ne_true,
      if_neg Bool.false_ne_true, if_neg walkable.short]
    show (if p.endsInSlash = true then d.step loc "." else .ok loc) = .ok loc
    split_ifs with slash
    · exact step_eq_ok_iff.2 ⟨directory slash, rfl⟩
    · rfl

/-- The text of what stands at a place. -/
def textAt (d : Disk) (loc : Location) : Except FileError String :=
  match d.get? loc with
  | none => .error .notFound
  | some .directory => .error .isDirectory
  | some (.file bytes) =>
      match String.fromUTF8? bytes with
      | some text => .ok text
      | none => .error .notUtf8

theorem read_of_locate {d : Disk} {p : Path} {loc : Location} (located : d.locate p = .ok loc) :
    d.read p = d.textAt loc := by
  rw [read, located]
  rfl

theorem read_of_locate_error {d : Disk} {p : Path} {e : FileError}
    (lost : d.locate p = .error e) : d.read p = .error e := by
  rw [read, lost]
  rfl

/-- A path that is neither empty nor refused outright can be walked. -/
theorem walkable_of_read {d : Disk} {p : Path} (notEmpty : p.text.isEmpty = false)
    (noNul : d.read p ≠ .error .nulInPath) (short : d.read p ≠ .error .nameTooLong) :
    Walkable p := by
  have clean : p.text.toList.contains '\x00' = false := by
    refine Bool.eq_false_iff.2 fun nul => noNul (read_of_locate_error ?_)
    rw [locate_eq, notEmpty, if_neg Bool.false_ne_true, if_pos nul]
  refine ⟨notEmpty, clean, fun long => short (read_of_locate_error ?_)⟩
  rw [locate_eq, notEmpty, clean, if_neg Bool.false_ne_true, if_neg Bool.false_ne_true,
    if_pos long]

/-! ## After directories were made -/

variable {d d' d'' : Disk} {p : Path}

/-- A path that leads to a place leads there still. -/
theorem Grows.locate (grows : Grows d d') {loc : Location} (located : d.locate p = .ok loc) :
    d'.locate p = .ok loc := by
  obtain ⟨walkable, walk, directory⟩ := locate_eq_ok_iff.1 located
  refine locate_eq_ok_iff.2 ⟨walkable, ?_, fun slash => grows.directory (directory slash)⟩
  rw [grows.start]
  exact walk_of_directories (fun _ standing => grows.directory standing) walk

/-- A text read at a place is read there still, and no text appears. -/
theorem Grows.textAt (grows : Grows d d') (loc : Location) :
    (d'.textAt loc).toOption = (d.textAt loc).toOption := by
  unfold Disk.textAt
  rcases grows.places loc with same | ⟨missing, made⟩
  · rw [same]
  · rw [missing, made]
    rfl

/-- Making directories brings no other text into view at a path. -/
def Settled (d : Disk) (p : Path) : Prop :=
  ∀ d', Grows d d' → (d'.read p).toOption = (d.read p).toOption

theorem Settled.of_grows (settled : Settled d p) (grows : Grows d d') : Settled d' p := by
  intro later more
  rw [settled later (grows.trans more), settled d' grows]

theorem settled_of_locate {loc : Location} (located : d.locate p = .ok loc) : Settled d p := by
  intro d' grows
  rw [read_of_locate (grows.locate located), read_of_locate located, grows.textAt]

/-! ## Trees -/

/-- Whatever stands on a disk stands in a directory. -/
def IsTree (d : Disk) : Prop :=
  ∀ loc name, d.get? (loc ++ [name]) ≠ none → d.get? loc = some .directory

/-- Everything above something on a tree is a directory. -/
theorem IsTree.above (tree : IsTree d) {top below : Location}
    (standing : d.get? (top ++ below) ≠ none) (proper : below ≠ []) :
    d.get? top = some .directory := by
  induction below using List.reverseRecOn with
  | nil => exact absurd rfl proper
  | append_singleton init name ih =>
      rw [← List.append_assoc] at standing
      have directory := tree (top ++ init) name standing
      by_cases first : init = []
      · subst first
        rwa [List.append_nil] at directory
      · refine ih ?_ first
        rw [directory]
        exact Option.some_ne_none _

/-- A walk that never turns back ends below each place on its way. -/
theorem prefix_of_walk {names : List String} {loc last : Location} (straight : ".." ∉ names)
    (walk : names.foldlM d.step loc = .ok last) : loc <+: last := by
  induction names generalizing loc with
  | nil =>
      cases walk
      exact List.prefix_refl _
  | cons name names ih =>
      obtain ⟨next, stepped, rest⟩ := foldlM_step_cons walk
      obtain ⟨notBack, straight⟩ := List.ne_and_not_mem_of_not_mem_cons straight
      have below := ih straight rest
      obtain ⟨_, moved⟩ := step_eq_ok_iff.1 stepped
      rw [if_neg (Ne.symm notBack)] at moved
      split_ifs at moved
      · exact moved ▸ below
      · exact (moved.2 ▸ List.prefix_append loc [name]).trans below

/-- A walk that never turns back needs directories above its end only. -/
theorem walk_of_above {names : List String} {loc last : Location} (straight : ".." ∉ names)
    (above : ∀ top, top <+: last → top ≠ last → d.get? top = some .directory)
    (noDirectory : d'.get? last ≠ some .directory) (walk : names.foldlM d'.step loc = .ok last) :
    names.foldlM d.step loc = .ok last := by
  induction names generalizing loc with
  | nil => exact walk
  | cons name names ih =>
      have below := prefix_of_walk straight walk
      obtain ⟨next, stepped, rest⟩ := foldlM_step_cons walk
      obtain ⟨standing, moved⟩ := step_eq_ok_iff.1 stepped
      have notLast : loc ≠ last := by
        rintro rfl
        exact noDirectory standing
      have again : d.step loc name = .ok next :=
        step_eq_ok_iff.2 ⟨above loc below notLast, moved⟩
      rw [List.foldlM_cons, again]
      exact ih (List.not_mem_of_not_mem_cons straight) rest

/-- On a tree, a path that never turns back is settled: what is missing on its way holds nothing. -/
theorem settled_of_isTree (tree : IsTree d) (straight : ".." ∉ p.steps) : Settled d p := by
  intro d' grows
  cases located : d.locate p with
  | ok loc => exact settled_of_locate located d' grows
  | error e =>
      rw [read_of_locate_error located]
      cases located' : d'.locate p with
      | error e' => rw [read_of_locate_error located']; rfl
      | ok last =>
          rw [read_of_locate located', textAt]
          split
          · rfl
          · rfl
          · rename_i bytes standing
            -- The file stood there before, so the directories above it did, and the way was open.
            obtain ⟨walkable, walk, directory⟩ := locate_eq_ok_iff.1 located'
            have noDirectory : d'.get? last ≠ some .directory := by
              rw [standing]
              simp
            have above (top : Location) (below : top <+: last) (proper : top ≠ last) :
                d.get? top = some .directory := by
              obtain ⟨rest, rfl⟩ := below
              have found : d.get? (top ++ rest) ≠ none := by
                rw [grows.file_iff.1 standing]
                exact Option.some_ne_none _
              refine tree.above found ?_
              rintro rfl
              exact proper (List.append_nil top).symm
            rw [grows.start] at walk
            have found : d.locate p = .ok last := locate_eq_ok_iff.2 ⟨walkable,
              walk_of_above straight above noDirectory walk,
              fun slash => absurd (directory slash) noDirectory⟩
            rw [located] at found
            cases found

end CampaignConsole.Files.Disk
