import CampaignConsole.Proofs.Json.Integers
import CampaignConsole.Proofs.Json.NamedMembers
import CampaignConsole.Proofs.Json.Rendering
import Mathlib.Data.List.Nodup

/-!
# Reading a record that was written

What the writers of values make, the readers of records take apart again: the members of an object
(`Node.members?_ofMembers`), lists (`Node.list?_map`), counts (`Node.natBelow?_ofNat`) and texts
that may be missing (`Members.optional_ofText?`).  In the other direction,
`Node.forall_mem_of_list?` and `Members.of_getD` carry what a reader guarantees of a value to the
list or the member it is in.
-/

namespace CampaignConsole.Json

namespace Node

/-- An object whose names differ is read as its members. -/
theorem members?_ofMembers {known : List String} (members : Members)
    (once : (members.map Prod.fst).Nodup) : (ofMembers members).members? known = some members := by
  have named : namedMembers? (spellNames members) = some members := by
    clear once
    induction members with
    | nil => rfl
    | cons member members ih =>
        exact namedMembers?_cons_eq_some_iff.2 ⟨member.1, members, textOf?_spell _, ih, rfl⟩
  rw [ofMembers_eq, members?_object_eq_some_iff]
  refine ⟨named, fun name _ => ?_⟩
  rw [← map_filter_of_namedMembers? named, List.length_map, ← List.countP_eq_length_filter]
  have single := List.nodup_iff_count_le_one.1 once name
  rw [List.count, List.countP_map] at single
  exact single

/-- The values of an object that is written are kept whole with it. -/
theorem isSound_ofMembers {members : Members}
    (sound : ∀ member ∈ members, member.2.isSound = true) : (ofMembers members).isSound = true := by
  rw [ofMembers_eq, isSound]
  induction members with
  | nil => rfl
  | cons member members ih =>
      obtain ⟨first, others⟩ := List.forall_mem_cons.1 sound
      rw [spellNames_cons, membersSound, textOf?_spell, first, ih others]
      rfl

theorem isSound_ofText (s : String) : (ofText s).isSound = true := by
  rw [ofText, isSound, textOf?_spell]
  rfl

theorem isSound_ofText? : ∀ s : Option String, (ofText? s).isSound = true
  | none => rfl
  | some s => isSound_ofText s

theorem natBelow?_ofNat {n bound : Nat} (small : n < bound) (width : bound ≤ 2 ^ 64) :
    (ofNat n).natBelow? bound = some n := by
  rw [ofNat, Node.natBelow?, Number.natBelow?, Number.integer?_ofNat (by omega)]
  exact if_pos small

theorem lt_of_natBelow? {v : Node} {n bound : Nat} (read : v.natBelow? bound = some n) :
    n < bound := by
  cases v with
  | number m =>
      rw [Node.natBelow?, Number.natBelow?] at read
      split at read
      · split at read
        · rename_i small
          cases read
          exact small
        · cases read
      · cases read
  | _ => cases read

/-- Writing a list of values and reading it gives the values back. -/
theorem list?_map {α : Type} {read : Node → Option α} {write : α → Node} {entries : List α}
    (back : ∀ entry ∈ entries, read (write entry) = some entry) :
    list? read (.array (entries.map write)) = some entries := by
  rw [list?]
  induction entries with
  | nil => rfl
  | cons entry entries ih =>
      obtain ⟨first, others⟩ := List.forall_mem_cons.1 back
      rw [List.map_cons, List.mapM_cons, first, ih others]
      rfl

/-- What every value that is read has, every entry of a list has. -/
theorem forall_mem_of_list? {α : Type} {read : Node → Option α} {P : α → Prop}
    (reads : ∀ v a, read v = some a → P a) {v : Node} {entries : List α}
    (found : list? read v = some entries) : ∀ entry ∈ entries, P entry := by
  cases v with
  | array items =>
      rw [list?] at found
      induction items generalizing entries with
      | nil =>
          cases found
          exact List.forall_mem_nil _
      | cons item items ih =>
          rw [List.mapM_cons] at found
          obtain ⟨entry, here, found⟩ := Option.bind_eq_some_iff.1 found
          obtain ⟨rest, others, found⟩ := Option.bind_eq_some_iff.1 found
          cases found
          exact List.forall_mem_cons.2 ⟨reads item entry here, ih others⟩
  | _ => cases found

theorem ofText_ne_null (s : String) : ofText s ≠ .null := by
  intro same
  cases same

end Node

namespace Members

open Node

/-- What the default and every value that is read have, a member that may be missing has. -/
theorem of_getD {α : Type} {m : Members} {name : String} {read : Node → Option α}
    {default a : α} {P : α → Prop} (missing : P default) (reads : ∀ v a, read v = some a → P a)
    (found : m.getD name read default = some a) : P a := by
  unfold Members.getD at found
  split at found
  · cases found
    exact missing
  · cases found
    exact missing
  · exact reads _ a found

theorem getD_ofText {m : Members} {name s default : String}
    (found : m.lookup name = some (ofText s)) : m.getD name Node.text? default = some s := by
  rw [getD_of_ne_null found (ofText_ne_null s)]
  exact textOf?_spell s

theorem optional_ofText? {m : Members} {name : String} {s : Option String}
    (found : m.lookup name = some (ofText? s)) : m.optional name Node.text? = some s := by
  cases s with
  | none => exact getD_of_null found
  | some s =>
      rw [Members.optional, getD_of_ne_null found (ofText_ne_null s)]
      show (textOf? (spell s)).map some = _
      rw [textOf?_spell]
      rfl

end Members

end CampaignConsole.Json
