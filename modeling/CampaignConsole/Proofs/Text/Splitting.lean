import CampaignConsole.Text.Split
import Mathlib.Data.List.TakeWhile

/-!
# Where a text is split

`splitCharsAtFirst_eq_some_iff` says where a text is split at a character: before the first one and
after it.  `splitCharsAtFirst_eq_none_iff` says when it is not split at all.
-/

namespace CampaignConsole.Text

section

variable {c : Char} {cs before after : List Char}

/-- A text is split at the first of the characters. -/
theorem splitCharsAtFirst_append (absent : c ∉ before) (after : List Char) :
    splitCharsAtFirst c (before ++ c :: after) = some (before, after) := by
  have others : ∀ d ∈ before, (d != c) = true := by
    intro d member
    exact bne_iff_ne.2 fun same => absent (same ▸ member)
  have skipped : (before ++ c :: after).dropWhile (· != c) = c :: after := by
    rw [List.dropWhile_append_of_pos others, List.dropWhile_cons, bne_self_eq_false]
    rfl
  have taken : (before ++ c :: after).takeWhile (· != c) = before := by
    rw [List.takeWhile_append_of_pos others, List.takeWhile_cons, bne_self_eq_false]
    exact List.append_nil before
  rw [splitCharsAtFirst, skipped, taken]

theorem splitCharsAtFirst_eq_none_iff : splitCharsAtFirst c cs = none ↔ c ∉ cs := by
  constructor
  · intro whole member
    obtain ⟨before, after, rfl, absent⟩ := List.eq_append_cons_of_mem member
    rw [splitCharsAtFirst_append absent] at whole
    cases whole
  · intro absent
    have skipped : cs.dropWhile (· != c) = [] := by
      rw [List.dropWhile_eq_nil_iff]
      intro d member
      exact bne_iff_ne.2 fun same => absent (same ▸ member)
    rw [splitCharsAtFirst, skipped]

theorem splitCharsAtFirst_eq_some_iff :
    splitCharsAtFirst c cs = some (before, after) ↔ cs = before ++ c :: after ∧ c ∉ before := by
  constructor
  · intro found
    have member : c ∈ cs := by
      by_contra absent
      rw [splitCharsAtFirst_eq_none_iff.2 absent] at found
      cases found
    obtain ⟨front, back, rfl, absent⟩ := List.eq_append_cons_of_mem member
    rw [splitCharsAtFirst_append absent, Option.some.injEq, Prod.mk.injEq] at found
    obtain ⟨rfl, rfl⟩ := found
    exact ⟨rfl, absent⟩
  · intro ⟨whole, absent⟩
    rw [whole, splitCharsAtFirst_append absent]

end

section

variable {c : Char} {s before after : String}

theorem splitAtFirst_eq_none_iff : splitAtFirst c s = none ↔ c ∉ s.toList := by
  rw [splitAtFirst, Option.map_eq_none_iff, splitCharsAtFirst_eq_none_iff]

theorem splitAtFirst_eq_some_iff :
    splitAtFirst c s = some (before, after) ↔
      s = before ++ .singleton c ++ after ∧ c ∉ before.toList := by
  have whole : s = before ++ .singleton c ++ after ↔
      s.toList = before.toList ++ c :: after.toList := by
    rw [← String.toList_inj, String.toList_append, String.toList_append, String.toList_singleton,
      List.append_assoc, List.singleton_append]
  rw [whole, ← splitCharsAtFirst_eq_some_iff, splitAtFirst, Option.map_eq_some_iff]
  constructor
  · intro ⟨⟨front, back⟩, found, same⟩
    obtain ⟨rfl, rfl⟩ := Prod.mk.inj same
    rw [found, String.toList_ofList, String.toList_ofList]
  · intro found
    exact ⟨_, found, Prod.ext String.ofList_toList String.ofList_toList⟩

end

end CampaignConsole.Text
