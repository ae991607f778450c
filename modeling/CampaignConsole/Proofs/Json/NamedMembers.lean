import CampaignConsole.Json.Members
import Mathlib.Data.List.Forall2

/-!
# The members of an object by their names

`valuesOf` collects the values that an object has under a name.  A record reads its members through
these values only: `lookup_of_namedMembers?` for the value of a member,
`members?_object_eq_some_iff` for whether the object is a record at all.
-/

namespace CampaignConsole.Json.Node

/-- The values of the members of an object that have a name, in their order. -/
def valuesOf (name : String) (members : List (List Piece × Node)) : List Node :=
  members.filterMap fun member => if textOf? member.1 = some name then some member.2 else none

theorem valuesOf_append (name : String) (front back : List (List Piece × Node)) :
    valuesOf name (front ++ back) = valuesOf name front ++ valuesOf name back :=
  List.filterMap_append

theorem valuesOf_cons (name : String) (member : List Piece × Node)
    (members : List (List Piece × Node)) :
    valuesOf name (member :: members) =
      (if textOf? member.1 = some name then [member.2] else []) ++ valuesOf name members := by
  unfold valuesOf
  rw [List.filterMap_cons]
  split_ifs <;> rfl

theorem valuesOf_cons_self {key : List Piece} {name : String} (named : textOf? key = some name)
    (value : Node) (members : List (List Piece × Node)) :
    valuesOf name ((key, value) :: members) = value :: valuesOf name members := by
  rw [valuesOf_cons, if_pos named, List.singleton_append]

theorem valuesOf_cons_of_ne {key : List Piece} {name other : String}
    (named : textOf? key = some name) (ne : name ≠ other) (value : Node)
    (members : List (List Piece × Node)) :
    valuesOf other ((key, value) :: members) = valuesOf other members := by
  rw [valuesOf_cons, if_neg]
  · rfl
  · intro same
    exact ne (Option.some.inj (named.symm.trans same))

/-- The names of an object are read one by one. -/
theorem namedMembers?_cons_eq_some_iff {member : List Piece × Node}
    {members : List (List Piece × Node)} {read : Members} :
    namedMembers? (member :: members) = some read ↔
      ∃ name rest, textOf? member.1 = some name ∧ namedMembers? members = some rest ∧
        read = (name, member.2) :: rest := by
  have unfolded : namedMembers? (member :: members) =
      (textOf? member.1).bind fun name => (namedMembers? members).bind fun rest =>
        some ((name, member.2) :: rest) := by
    obtain ⟨pieces, value⟩ := member
    rw [namedMembers?, List.mapM_cons]
    show (textOf? pieces >>= fun name => some (name, value)) >>= _ = _
    cases textOf? pieces <;> rfl
  rw [unfolded]
  simp only [Option.bind_eq_some_iff, Option.some.injEq]
  constructor
  · rintro ⟨name, named, rest, others, rfl⟩
    exact ⟨name, rest, named, others, rfl⟩
  · rintro ⟨name, rest, named, others, rfl⟩
    exact ⟨name, named, rest, others, rfl⟩

/-- The names of an object can be read if each of them is a text. -/
theorem exists_namedMembers?_iff {members : List (List Piece × Node)} :
    (∃ read, namedMembers? members = some read) ↔
      ∀ member ∈ members, (textOf? member.1).isSome := by
  induction members with
  | nil => exact ⟨fun _ => by simp, fun _ => ⟨[], rfl⟩⟩
  | cons member members ih =>
      rw [List.forall_mem_cons, ← ih]
      constructor
      · intro ⟨_, read⟩
        obtain ⟨name, rest, named, others, rfl⟩ := namedMembers?_cons_eq_some_iff.1 read
        exact ⟨Option.isSome_iff_exists.2 ⟨name, named⟩, rest, others⟩
      · intro ⟨isText, rest, others⟩
        obtain ⟨name, named⟩ := Option.isSome_iff_exists.1 isText
        exact ⟨_, namedMembers?_cons_eq_some_iff.2 ⟨name, rest, named, others, rfl⟩⟩

section

variable {members : List (List Piece × Node)} {read : Members}

/-- The members read under a name have the values of the object. -/
theorem map_filter_of_namedMembers? (named : namedMembers? members = some read) (name : String) :
    (read.filter (·.1 == name)).map (·.2) = valuesOf name members := by
  induction members generalizing read with
  | nil =>
      cases named
      rfl
  | cons member members ih =>
      obtain ⟨first, rest, firstNamed, others, rfl⟩ := namedMembers?_cons_eq_some_iff.1 named
      rw [valuesOf_cons, firstNamed, ← ih others, List.filter_cons]
      by_cases same : first = name
      · simp [same]
      · simp [same]

theorem lookup_eq_head?_filter (read : Members) (name : String) :
    read.lookup name = ((read.filter (·.1 == name)).map (·.2)).head? := by
  induction read with
  | nil => rfl
  | cons member read ih =>
      obtain ⟨key, value⟩ := member
      rw [List.lookup_cons, List.filter_cons, ih]
      by_cases same : key = name
      · simp [same]
      · simp [same, beq_false_of_ne (Ne.symm same)]

/-- The value of a member is the first one that the object has under its name. -/
theorem lookup_of_namedMembers? (named : namedMembers? members = some read) (name : String) :
    read.lookup name = (valuesOf name members).head? := by
  rw [lookup_eq_head?_filter, map_filter_of_namedMembers? named]

/-- An object is a record if its names are texts and none that is known occurs twice. -/
theorem members?_object_eq_some_iff {known : List String} :
    members? known (.object members) = some read ↔ namedMembers? members = some read ∧
      ∀ name ∈ known, (valuesOf name members).length ≤ 1 := by
  have unfolded : members? known (.object members) =
      (namedMembers? members).bind fun read =>
        if knownOnce known read then some read else none := rfl
  rw [unfolded, Option.bind_eq_some_iff]
  have once {read : Members} (named : namedMembers? members = some read) :
      knownOnce known read = true ↔ ∀ name ∈ known, (valuesOf name members).length ≤ 1 := by
    rw [knownOnce, List.all_eq_true]
    refine forall₂_congr fun name _ => ?_
    rw [← map_filter_of_namedMembers? named, List.length_map]
    exact decide_eq_true_iff
  constructor
  · intro ⟨found, named, kept⟩
    split_ifs at kept with known
    cases kept
    exact ⟨named, (once named).1 known⟩
  · intro ⟨named, single⟩
    exact ⟨read, named, if_pos ((once named).2 single)⟩

theorem exists_members?_object_iff {known : List String} :
    (∃ read, members? known (.object members) = some read) ↔
      (∀ member ∈ members, (textOf? member.1).isSome) ∧
        ∀ name ∈ known, (valuesOf name members).length ≤ 1 := by
  simp only [members?_object_eq_some_iff, exists_and_right, exists_namedMembers?_iff]

end

end CampaignConsole.Json.Node

namespace CampaignConsole.Json.Members

/-! ## Members that may be missing or null -/

variable {m m' : Members} {name : String} {α : Type} {read : Node → Option α} {default : α}

theorem getD_of_null (found : m.lookup name = some .null) :
    m.getD name read default = some default := by
  rw [getD, found]

theorem getD_of_ne_null {value : Node} (found : m.lookup name = some value)
    (notNull : value ≠ .null) : m.getD name read default = read value := by
  rw [getD, found]
  cases value with
  | null => exact absurd rfl notNull
  | _ => rfl

theorem getD_congr (same : m.lookup name = m'.lookup name) :
    m.getD name read default = m'.getD name read default := by
  rw [getD, getD, same]

end CampaignConsole.Json.Members
