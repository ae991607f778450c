import CampaignConsole.Files.Disk
import Mathlib.Tactic.SplitIfs

/-!
# Disks on which directories are made

`Disk.Grows` says that nothing changed on a disk but that directories were made where nothing stood.
It is reflexive and transitive, and a walk that led somewhere leads there still
(`walk_of_directories`).  `Disk.Makes` says also where they were made, and `makeDirectories_makes`
that making directories is no more than that, on the way.

`get?_put` and `erase_put` say what stands where after something was put on a disk, and `get?_draft`
says that a draft stands where nothing did.
-/

namespace CampaignConsole.Files.Disk

/-! ## What stands where -/

theorem lookup_filter_ne (entries : List (Location × Entry)) (loc other : Location) :
    (entries.filter (·.1 != loc)).lookup other =
      if other = loc then none else entries.lookup other := by
  induction entries with
  | nil => simp
  | cons entry entries ih =>
      obtain ⟨place, standing⟩ := entry
      by_cases gone : place = loc
      · subst gone
        rw [List.filter_cons_of_neg (by simp), ih]
        split_ifs with same
        · rfl
        · rw [List.lookup_cons, beq_false_of_ne same]
      · rw [List.filter_cons_of_pos (by simpa using gone), List.lookup_cons, List.lookup_cons, ih]
        by_cases here : other = place
        · subst here
          simp [gone]
        · simp [beq_false_of_ne here]

theorem get?_of_ne_nil (d : Disk) {loc : Location} (deep : loc ≠ []) :
    d.get? loc = d.entries.lookup loc := by
  rw [get?, if_neg (by simpa using deep)]

/-- No directory is missing at the root. -/
theorem ne_nil_of_vacant {d : Disk} {loc : Location} (vacant : d.get? loc ≠ some .directory) :
    loc ≠ [] := by
  intro root
  rw [root] at vacant
  exact vacant rfl

theorem isDirectory_iff {d : Disk} {loc : Location} :
    d.isDirectory loc = true ↔ d.get? loc = some .directory := by
  unfold isDirectory
  split <;> simp_all

theorem get?_put (d : Disk) {loc : Location} (deep : loc ≠ []) (entry : Entry) (other : Location) :
    (d.put loc entry).get? other = if other = loc then some entry else d.get? other := by
  by_cases root : other = []
  · subst root
    rw [if_neg (Ne.symm deep)]
    rfl
  · rw [get?_of_ne_nil _ root, get?_of_ne_nil _ root, put, List.lookup_cons, lookup_filter_ne]
    by_cases here : other = loc
    · simp [here]
    · simp [here, beq_false_of_ne here]

/-- Putting an entry where none is listed and erasing it again changes nothing. -/
theorem erase_put {d : Disk} {loc : Location} (free : ∀ entry ∈ d.entries, entry.1 ≠ loc)
    (entry : Entry) : (d.put loc entry).erase loc = d := by
  have kept : d.entries.filter (·.1 != loc) = d.entries := by
    rw [List.filter_eq_self]
    exact fun entry member => bne_iff_ne.2 (free entry member)
  rw [put, erase, List.filter_cons_of_neg (by simp), kept, kept]

theorem put_put (d : Disk) (loc : Location) (first second : Entry) :
    (d.put loc first).put loc second = d.put loc second := by
  simp [put, List.filter_filter]

/-! ## Drafts -/

/-- Every name on a disk is shorter than the name of a draft. -/
theorem length_lt_draftName {d : Disk} {entry : Location × Entry} (member : entry ∈ d.entries)
    {name : String} (inside : name ∈ entry.1) : name.length < d.draftName.length := by
  -- The fold falls neither below its start nor below a length that it passes.
  have grown (names : List String) (least : Nat) :
      least ≤ names.foldl (fun longest name => max longest name.length) least ∧
        ∀ name ∈ names,
          name.length ≤ names.foldl (fun longest name => max longest name.length) least := by
    induction names generalizing least with
    | nil => simp
    | cons first names ih =>
        obtain ⟨above, each⟩ := ih (max least first.length)
        refine ⟨by simp only [List.foldl_cons]; omega, ?_⟩
        intro name member
        rcases List.mem_cons.1 member with rfl | there
        · simp only [List.foldl_cons]
          omega
        · exact each name there
  have onDisk : name ∈ d.entries.flatMap (·.1) := List.mem_flatMap.2 ⟨entry, member, inside⟩
  have shorter := (grown (d.entries.flatMap (·.1)) 0).2 name onDisk
  simp only [draftName, String.length_append, String.length_ofList, List.length_replicate]
  omega

/-- A draft stands where nothing does. -/
theorem draft_free (d : Disk) (loc : Location) :
    ∀ entry ∈ d.entries, entry.1 ≠ loc ++ [d.draftName] := by
  intro entry member same
  have named : d.draftName ∈ entry.1 := by
    rw [same]
    exact List.mem_append_right _ List.mem_cons_self
  exact Nat.lt_irrefl _ (length_lt_draftName member named)

theorem get?_draft (d : Disk) (loc : Location) : d.get? (loc ++ [d.draftName]) = none := by
  rw [get?_of_ne_nil d (by simp), List.lookup_eq_none_iff]
  intro entry member
  exact bne_iff_ne.2 (Ne.symm (draft_free d loc entry member))

/-- Where a draft stands, the directories are the same. -/
theorem get?_drafted {d : Disk} {directory place : Location} {bytes : ByteArray} :
    (d.put (directory ++ [d.draftName]) (.file bytes)).get? place = some .directory ↔
      d.get? place = some .directory := by
  rw [get?_put d (by simp)]
  split_ifs with here
  · simp [here, get?_draft]
  · exact Iff.rfl

/-! ## Growing -/

/-- Directories were made where nothing stood, and nothing else changed. -/
structure Grows (d d' : Disk) : Prop where
  home : d'.home = d.home
  places : ∀ loc, d'.get? loc = d.get? loc ∨ d.get? loc = none ∧ d'.get? loc = some .directory

namespace Grows

variable {d d' d'' : Disk}

theorem refl (d : Disk) : Grows d d :=
  ⟨rfl, fun _ => Or.inl rfl⟩

theorem trans (first : Grows d d') (second : Grows d' d'') : Grows d d'' := by
  refine ⟨second.home.trans first.home, ?_⟩
  intro loc
  rcases first.places loc with same | ⟨missing, made⟩
  · rw [← same]
    exact second.places loc
  · rcases second.places loc with same | ⟨missing', _⟩
    · exact Or.inr ⟨missing, same.trans made⟩
    · rw [made] at missing'
      cases missing'

theorem start (grows : Grows d d') (p : Path) : d'.start p = d.start p := by
  rw [Disk.start, Disk.start, grows.home]

theorem directory (grows : Grows d d') {loc : Location} (standing : d.get? loc = some .directory) :
    d'.get? loc = some .directory := by
  rcases grows.places loc with same | ⟨_, made⟩
  · rw [same, standing]
  · exact made

/-- The files are the same. -/
theorem file_iff (grows : Grows d d') {loc : Location} {bytes : ByteArray} :
    d'.get? loc = some (.file bytes) ↔ d.get? loc = some (.file bytes) := by
  rcases grows.places loc with same | ⟨missing, made⟩
  · rw [same]
  · simp [missing, made]

end Grows

/-! ## Walking -/

theorem step_eq_ok_iff {d : Disk} {loc next : Location} {name : String} :
    d.step loc name = .ok next ↔ d.get? loc = some .directory ∧
      (if name = "." then next = loc
        else if name = ".." then next = loc.dropLast
        else ¬nameLimit < name.utf8ByteSize ∧ next = loc ++ [name]) := by
  unfold step
  split
  · simp_all
  · simp_all
  · split_ifs <;> simp_all [eq_comm]

theorem foldlM_step_cons {d : Disk} {name : String} {names : List String} {loc last : Location}
    (walk : (name :: names).foldlM d.step loc = .ok last) :
    ∃ next, d.step loc name = .ok next ∧ names.foldlM d.step next = .ok last := by
  rw [List.foldlM_cons] at walk
  cases stepped : d.step loc name with
  | error e =>
      rw [stepped] at walk
      cases walk
  | ok next =>
      rw [stepped] at walk
      exact ⟨next, rfl, walk⟩

/-- A walk goes through directories only, so it leads to the same place where they stand. -/
theorem walk_of_directories {d d' : Disk}
    (kept : ∀ loc, d.get? loc = some .directory → d'.get? loc = some .directory)
    {names : List String} {loc last : Location} (walk : names.foldlM d.step loc = .ok last) :
    names.foldlM d'.step loc = .ok last := by
  induction names generalizing loc with
  | nil => exact walk
  | cons name names ih =>
      obtain ⟨next, stepped, rest⟩ := foldlM_step_cons walk
      obtain ⟨standing, moved⟩ := step_eq_ok_iff.1 stepped
      have again : d'.step loc name = .ok next := step_eq_ok_iff.2 ⟨kept loc standing, moved⟩
      rw [List.foldlM_cons, again]
      exact ih rest

/-! ## Making directories -/

/-- The place that a step of a walk leads to. -/
def walked (loc : Location) (name : String) : Location :=
  if name = "." then loc else if name = ".." then loc.dropLast else loc ++ [name]

/-- The places on the way along names. -/
def waypoints (loc : Location) : List String → List Location
  | [] => []
  | name :: names => walked loc name :: waypoints (walked loc name) names

/-- The directories on the way to a file, with the one that holds it. -/
def parents (d : Disk) (p : Path) : List Location :=
  waypoints (d.start p.directory) p.directory.steps

/-- Directories were made at some of the given places, and nothing else changed. -/
structure Makes (way : List Location) (d d' : Disk) : Prop extends Grows d d' where
  within : ∀ loc, d'.get? loc ≠ d.get? loc → loc ∈ way

namespace Makes

variable {d d' d'' : Disk} {way more : List Location}

theorem refl (way : List Location) (d : Disk) : Makes way d d :=
  ⟨Grows.refl d, fun _ changed => absurd rfl changed⟩

theorem trans (first : Makes way d d') (second : Makes way d' d'') : Makes way d d'' := by
  refine ⟨first.toGrows.trans second.toGrows, ?_⟩
  intro loc changed
  by_cases same : d'.get? loc = d.get? loc
  · exact second.within loc (same ▸ changed)
  · exact first.within loc same

theorem mono (makes : Makes way d d') (wider : way ⊆ more) : Makes more d d' :=
  ⟨makes.toGrows, fun loc changed => wider (makes.within loc changed)⟩

end Makes

theorem put_directory_makes {d : Disk} {loc : Location} (missing : d.get? loc = none) :
    Makes [loc] d (d.put loc .directory) := by
  have vacant : d.get? loc ≠ some .directory := by simp [missing]
  have deep := ne_nil_of_vacant vacant
  have entries (other : Location) :
      (d.put loc .directory).get? other = d.get? other ∨ other = loc := by
    rw [get?_put d deep]
    split_ifs with here
    · exact Or.inr here
    · exact Or.inl rfl
  refine ⟨⟨rfl, fun other => ?_⟩, fun other changed => ?_⟩
  · rcases entries other with same | rfl
    · exact Or.inl same
    · exact Or.inr ⟨missing, by rw [get?_put d deep, if_pos rfl]⟩
  · exact List.mem_singleton.2 ((entries other).resolve_left changed)

theorem walked_of_step {d : Disk} {loc next : Location} {name : String}
    (stepped : d.step loc name = .ok next) : next = walked loc name := by
  obtain ⟨_, moved⟩ := step_eq_ok_iff.1 stepped
  unfold walked
  split_ifs at moved ⊢ with here back
  · exact moved
  · exact moved
  · exact moved.2

/-- A directory is entered, or it is made where the step leads to. -/
theorem enter_cases (d : Disk) (loc : Location) (name : String) (isLast : Bool) :
    (∃ e, d.enter loc name isLast = (d, .error e)) ∨
      ∃ d', d.enter loc name isLast = (d', .ok (walked loc name)) ∧
        Makes [walked loc name] d d' := by
  unfold enter
  split
  · exact Or.inl ⟨_, rfl⟩
  · rename_i next stepped
    have there := walked_of_step stepped
    subst there
    split
    · exact Or.inr ⟨d, rfl, Makes.refl _ d⟩
    · exact Or.inl ⟨_, rfl⟩
    · rename_i missing
      split
      · exact Or.inl ⟨_, rfl⟩
      · exact Or.inr ⟨_, rfl, put_directory_makes missing⟩

/-- Making directories does no more than that, also where it fails. -/
theorem makeDirectories_makes (d : Disk) (loc : Location) (names : List String) :
    Makes (waypoints loc names) d (d.makeDirectories loc names).1 := by
  induction names generalizing d loc with
  | nil => exact Makes.refl _ d
  | cons name names ih =>
      rw [makeDirectories, waypoints]
      rcases enter_cases d loc name names.isEmpty with ⟨e, entered⟩ | ⟨d', entered, makes⟩
      · rw [entered]
        exact Makes.refl _ d
      · rw [entered]
        exact (makes.mono (by simp)).trans ((ih d' (walked loc name)).mono (by simp))

theorem waypoints_take_subset (loc : Location) (names : List String) (count : Nat) :
    waypoints loc (names.take count) ⊆ waypoints loc names := by
  induction names generalizing loc count with
  | nil => simp
  | cons name names ih =>
      cases count with
      | zero => exact List.nil_subset _
      | succ count => exact List.cons_subset_cons _ (ih (walked loc name) count)

end CampaignConsole.Files.Disk
