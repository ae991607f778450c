import CampaignConsole.Proofs.Json.NamedMembers

/-!
# Records with one member left open

An `Opening` is a record that lacks the value of one member, in the form of an object or of an
array.  Whatever value is filled in, the record is one or is none, and its other members are the
same (`Opening.members?_fill`); how deep and how sound it is depends on the depth and the soundness
of the value (`Opening.canKeep_fill`).
-/

namespace CampaignConsole.Json.Node

/-- A record without the value of one member: an object that has it under a key that stands for its
name, or an array that has it at its place. -/
inductive Opening (known : List String) (name : String) where
  | object (front : List (List Piece × Node)) (key : List Piece) (back : List (List Piece × Node))
    (named : textOf? key = some name)
  | array (front back : List Node) (placed : known[front.length]? = some name)

namespace Opening

variable {known : List String} {name : String}

/-- The record with a value for its open member. -/
def fill : Opening known name → Node → Node
  | object front key back _, value => .object (front ++ (key, value) :: back)
  | array front back _, value => .array (front ++ value :: back)

/-! ## The members -/

section

variable {front back : List (List Piece × Node)} {key : List Piece} {value value' : Node}

theorem isSome_names_fill :
    (∀ member ∈ front ++ (key, value) :: back, (textOf? member.1).isSome) ↔
      ∀ member ∈ front ++ (key, value') :: back, (textOf? member.1).isSome := by
  simp only [List.forall_mem_append, List.forall_mem_cons]

theorem length_valuesOf_fill (named : textOf? key = some name) (other : String) :
    (valuesOf other (front ++ (key, value) :: back)).length =
      (valuesOf other (front ++ (key, value') :: back)).length := by
  rw [valuesOf_append, valuesOf_append, List.length_append, List.length_append]
  by_cases same : name = other
  · subst same
    rw [valuesOf_cons_self named, valuesOf_cons_self named]
    rfl
  · rw [valuesOf_cons_of_ne named same, valuesOf_cons_of_ne named same]

/-- Whether an object is a record does not depend on the value of its open member. -/
theorem exists_members?_fill_object (named : textOf? key = some name)
    (found : ∃ members, members? known (.object (front ++ (key, value) :: back)) = some members)
    (value' : Node) :
    ∃ members, members? known (.object (front ++ (key, value') :: back)) = some members := by
  obtain ⟨names, once⟩ := exists_members?_object_iff.1 found
  refine exists_members?_object_iff.2 ⟨isSome_names_fill.1 names, fun other isKnown => ?_⟩
  rw [length_valuesOf_fill named]
  exact once other isKnown

/-- The open member of an object is the only one of its name. -/
theorem lookup_fill_object (named : textOf? key = some name) (isKnown : name ∈ known)
    {members : Members}
    (found : members? known (.object (front ++ (key, value) :: back)) = some members) :
    members.lookup name = some value := by
  obtain ⟨read, once⟩ := members?_object_eq_some_iff.1 found
  have single := once name isKnown
  rw [lookup_of_namedMembers? read]
  rw [valuesOf_append, valuesOf_cons_self named] at single ⊢
  match before : valuesOf name front, single with
  | [], _ => rfl
  | _ :: _, single =>
      rw [List.length_append, List.length_cons, List.length_cons] at single
      omega

end

theorem lookup_fill_array {front back : List Node} {value : Node} {known : List String}
    (placed : known[front.length]? = some name) (once : known.Nodup) :
    (known.zip (front ++ value :: back)).lookup name = some value := by
  induction front generalizing known with
  | nil =>
      cases known with
      | nil => cases placed
      | cons first known =>
          cases placed
          rw [List.nil_append, List.zip_cons_cons, List.lookup_cons_self]
  | cons item front ih =>
      cases known with
      | nil => cases placed
      | cons first known =>
          have later : known[front.length]? = some name := placed
          obtain ⟨new, once⟩ := List.nodup_cons.1 once
          have other : name ≠ first := fun same => new (same ▸ List.mem_of_getElem? later)
          rw [List.cons_append, List.zip_cons_cons, List.lookup_cons, beq_false_of_ne other]
          exact ih later once

theorem lookup_fill_array_of_ne {front back : List Node} {value value' : Node}
    {known : List String} (placed : known[front.length]? = some name) {other : String}
    (ne : other ≠ name) :
    (known.zip (front ++ value :: back)).lookup other =
      (known.zip (front ++ value' :: back)).lookup other := by
  induction front generalizing known with
  | nil =>
      cases known with
      | nil => cases placed
      | cons first known =>
          cases placed
          rw [List.nil_append, List.nil_append, List.zip_cons_cons, List.zip_cons_cons,
            List.lookup_cons, List.lookup_cons, beq_false_of_ne ne]
  | cons item front ih =>
      cases known with
      | nil => cases placed
      | cons first known =>
          have later : known[front.length]? = some name := placed
          rw [List.cons_append, List.cons_append, List.zip_cons_cons, List.zip_cons_cons,
            List.lookup_cons, List.lookup_cons, ih later]

/-- Whatever value is filled in, what results is no record, or a record with this value for the open
member and always the same other members. -/
theorem members?_fill (opening : Opening known name) (isKnown : name ∈ known)
    (once : known.Nodup) :
    (∀ value, (opening.fill value).members? known = none) ∨
      ∃ members : Node → Members, ∀ value,
        (opening.fill value).members? known = some (members value) ∧
          (members value).lookup name = some value ∧
          ∀ value' other, other ≠ name →
            (members value).lookup other = (members value').lookup other := by
  cases opening with
  | object front key back named =>
      by_cases found : ∃ members,
          members? known (.object (front ++ (key, .null) :: back)) = some members
      · right
        choose members reads using exists_members?_fill_object named found
        refine ⟨members, fun value => ⟨reads value, ?_, fun value' other ne => ?_⟩⟩
        · exact lookup_fill_object named isKnown (reads value)
        · have here := (members?_object_eq_some_iff.1 (reads value)).1
          have there := (members?_object_eq_some_iff.1 (reads value')).1
          rw [lookup_of_namedMembers? here, lookup_of_namedMembers? there, valuesOf_append,
            valuesOf_append, valuesOf_cons_of_ne named ne.symm, valuesOf_cons_of_ne named ne.symm]
      · left
        intro value
        by_contra some
        exact found (exists_members?_fill_object named (Option.ne_none_iff_exists'.1 some) .null)
  | array front back placed =>
      by_cases short : front.length + (back.length + 1) ≤ known.length
      · right
        refine ⟨fun value => known.zip (front ++ value :: back), fun value => ⟨?_, ?_, ?_⟩⟩
        · simp [fill, members?, short]
        · exact lookup_fill_array placed once
        · exact fun value' other => lookup_fill_array_of_ne placed
      · left
        intro value
        simp [fill, members?, short]

/-! ## Keeping the record whole -/

section

variable {value value' : Node}

theorem itemsDepth_fill (front back : List Node) (same : value.depth = value'.depth) :
    itemsDepth (front ++ value :: back) = itemsDepth (front ++ value' :: back) := by
  induction front with
  | nil => rw [List.nil_append, List.nil_append, itemsDepth, itemsDepth, same]
  | cons item front ih => rw [List.cons_append, List.cons_append, itemsDepth, itemsDepth, ih]

theorem membersDepth_fill (front : List (List Piece × Node)) (key : List Piece)
    (back : List (List Piece × Node)) (same : value.depth = value'.depth) :
    membersDepth (front ++ (key, value) :: back) =
      membersDepth (front ++ (key, value') :: back) := by
  induction front with
  | nil => rw [List.nil_append, List.nil_append, membersDepth, membersDepth, same]
  | cons member front ih =>
      rw [List.cons_append, List.cons_append, membersDepth, membersDepth, ih]

theorem itemsSound_fill (front back : List Node) (same : value.isSound = value'.isSound) :
    itemsSound (front ++ value :: back) = itemsSound (front ++ value' :: back) := by
  induction front with
  | nil => rw [List.nil_append, List.nil_append, itemsSound, itemsSound, same]
  | cons item front ih => rw [List.cons_append, List.cons_append, itemsSound, itemsSound, ih]

theorem membersSound_fill (front : List (List Piece × Node)) (key : List Piece)
    (back : List (List Piece × Node)) (same : value.isSound = value'.isSound) :
    membersSound (front ++ (key, value) :: back) =
      membersSound (front ++ (key, value') :: back) := by
  induction front with
  | nil => rw [List.nil_append, List.nil_append, membersSound, membersSound, same]
  | cons member front ih =>
      rw [List.cons_append, List.cons_append, membersSound, membersSound, ih]

/-- Values of one depth that are both sound or both not are kept in the same records. -/
theorem canKeep_fill (opening : Opening known name) (depth : value.depth = value'.depth)
    (sound : value.isSound = value'.isSound) (level : Nat) :
    (opening.fill value).canKeep level = (opening.fill value').canKeep level := by
  cases opening with
  | object front key back named =>
      rw [canKeep, canKeep, fill, fill, Node.depth, Node.depth, isSound, isSound,
        membersDepth_fill front key back depth, membersSound_fill front key back sound]
  | array front back placed =>
      rw [canKeep, canKeep, fill, fill, Node.depth, Node.depth, isSound, isSound,
        itemsDepth_fill front back depth, itemsSound_fill front back sound]

end

end Opening

end CampaignConsole.Json.Node
