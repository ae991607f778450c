import CampaignConsole.Settings
import Mathlib.Data.List.DropRight

/-!
# The address of the campaign list

A `PageAddress` is the address of a campaign page by its parts.  `PageAddress.folder` is the address
of the folder that the page lies in, which is where its campaign list is looked for.

`Settings.folderOf` works on the text alone, by its slashes.  `folderOf_of_split` says what it makes
of a text whose last slash is known, and `listUrl_eq_folder_iff` when that is the folder.
-/

namespace CampaignConsole

/-! ## Addresses by their parts -/

/-- No character ends a part of an address. -/
def IsPlain (cs : List Char) : Prop :=
  ∀ c ∈ cs, c ≠ '/' ∧ c ≠ '?' ∧ c ≠ '#'

instance (cs : List Char) : Decidable (IsPlain cs) :=
  List.decidableBAll _ cs

/-- The address of a page: a scheme, an authority, the segments of a path with any number of slashes
after them, and a query and a fragment that may hold anything. -/
structure PageAddress where
  secure : Bool := false
  authority : List Char
  segments : List (List Char) := []
  slashes : Nat := 0
  query : Option (List Char) := none
  fragment : Option (List Char) := none
  authority_ne_nil : authority ≠ []
  authority_isPlain : IsPlain authority
  segments_ne_nil : ∀ segment ∈ segments, segment ≠ []
  segments_isPlain : ∀ segment ∈ segments, IsPlain segment

namespace PageAddress

/-- The scheme of an address. -/
def scheme (a : PageAddress) : List Char :=
  if a.secure then "https".toList else "http".toList

/-- The scheme and the authority of an address. -/
def site (a : PageAddress) : List Char :=
  a.scheme ++ ':' :: '/' :: '/' :: a.authority

/-- The text of the segments of a path. -/
def pathChars (segments : List (List Char)) : List Char :=
  segments.flatMap ('/' :: ·)

/-- The text of an optional part behind its mark. -/
def marked (mark : Char) : Option (List Char) → List Char
  | none => []
  | some part => mark :: part

/-- The query and the fragment of an address, behind their marks. -/
def extras (a : PageAddress) : List Char :=
  marked '?' a.query ++ marked '#' a.fragment

/-- The text of an address. -/
def text (a : PageAddress) : String :=
  String.ofList (a.site ++ pathChars a.segments ++ List.replicate a.slashes '/' ++ a.extras)

/-- The address of the folder of a page: its last segment is left out, and all that comes after. -/
def folder (a : PageAddress) : String :=
  String.ofList (a.site ++ pathChars a.segments.dropLast)

end PageAddress

/-! ## The last slash of a text -/

theorem trimSlashes_eq (cs : List Char) : trimSlashes cs = cs.rdropWhile (· == '/') :=
  rfl

/-- A text that does not end in a slash stays as it is. -/
theorem trimSlashes_of_end {cs : List Char} (ends : cs.getLast? ≠ some '/') :
    trimSlashes cs = cs := by
  rw [trimSlashes_eq, List.rdropWhile_eq_self_iff]
  intro filled slash
  rw [List.getLast?_eq_getLast_of_ne_nil filled, eq_of_beq slash] at ends
  exact ends rfl

theorem trimSlashes_append_replicate (cs : List Char) (slashes : Nat) :
    trimSlashes (cs ++ List.replicate slashes '/') = trimSlashes cs := by
  induction slashes with
  | zero => rw [List.replicate_zero, List.append_nil]
  | succ slashes ih =>
      rw [List.replicate_succ', ← List.append_assoc, trimSlashes_eq,
        List.rdropWhile_concat_pos _ _ _ (by decide)]
      exact ih

theorem trimSlashes_append (front : List Char) {back : List Char} (kept : trimSlashes back ≠ []) :
    trimSlashes (front ++ back) = front ++ trimSlashes back := by
  unfold trimSlashes at kept ⊢
  rw [List.reverse_append, List.dropWhile_append, if_neg, List.reverse_append, List.reverse_reverse]
  simpa using kept

theorem beforeLastSlash?_append (front : List Char) {back : List Char} (plain : '/' ∉ back) :
    beforeLastSlash? (front ++ '/' :: back) = some front := by
  have skipped : (back.reverse ++ '/' :: front.reverse).dropWhile (· != '/') =
      '/' :: front.reverse := by
    rw [List.dropWhile_append_of_pos, List.dropWhile_cons_of_neg (by decide)]
    intro c member
    rw [bne_iff_ne]
    intro slash
    exact plain (List.mem_reverse.1 (slash ▸ member))
  unfold beforeLastSlash?
  rw [List.reverse_append, List.reverse_cons, List.append_assoc, List.singleton_append, skipped]
  simp

/-- A text with a slash has a last one. -/
theorem exists_last_slash {cs : List Char} (slash : '/' ∈ cs) :
    ∃ front back, cs = front ++ '/' :: back ∧ '/' ∉ back := by
  induction cs with
  | nil => cases slash
  | cons c cs ih =>
      by_cases later : '/' ∈ cs
      · obtain ⟨front, back, split, plain⟩ := ih later
        exact ⟨c :: front, back, by rw [split, List.cons_append], plain⟩
      · obtain rfl := (List.mem_cons.1 slash).resolve_right later
        exact ⟨[], cs, rfl, later⟩

namespace Settings

/-- The folder of a text ends before its last slash, unless another one stands in front of it. -/
theorem folderOf_of_split {cs front back : List Char}
    (split : trimSlashes cs = front ++ '/' :: back) (plain : '/' ∉ back) :
    folderOf (String.ofList cs) =
      String.ofList (if front.getLast? = some '/' then front ++ '/' :: back else front) := by
  unfold folderOf
  dsimp only
  rw [String.toList_ofList, split, beforeLastSlash?_append front plain]
  simp only [beq_iff_eq]

end Settings

namespace IsPlain

theorem no_slash {cs : List Char} (plain : IsPlain cs) : '/' ∉ cs :=
  fun member => (plain '/' member).1 rfl

theorem getLast?_ne {cs : List Char} (plain : IsPlain cs) (filled : cs ≠ []) (front : List Char) :
    (front ++ cs).getLast? ≠ some '/' := by
  rw [List.getLast?_append_of_ne_nil _ filled]
  intro last
  exact plain.no_slash (List.mem_of_getLast? last)

theorem mark_not_mem {cs : List Char} (plain : IsPlain cs) {mark : Char}
    (isMark : mark = '?' ∨ mark = '#') : mark ∉ cs := by
  intro member
  rcases isMark with rfl | rfl
  · exact (plain '?' member).2.1 rfl
  · exact (plain '#' member).2.2 rfl

end IsPlain

namespace PageAddress

variable (a : PageAddress)

/-! ## The parts of an address -/

/-- The scheme, the authority and the path of an address, without slashes at their end. -/
def base : List Char :=
  a.site ++ pathChars a.segments

theorem pathChars_concat (segments : List (List Char)) (last : List Char) :
    pathChars (segments ++ [last]) = pathChars segments ++ '/' :: last := by
  simp [pathChars]

theorem scheme_isPlain : IsPlain a.scheme := by
  rw [scheme]
  cases a.secure with
  | false => decide
  | true => decide

/-- The site has two slashes, in front of the authority. -/
theorem site_eq : a.site = (a.scheme ++ [':', '/']) ++ '/' :: a.authority := by
  rw [site, List.append_assoc]
  rfl

theorem getLast?_site : a.site.getLast? ≠ some '/' := by
  rw [site_eq, List.append_cons]
  exact a.authority_isPlain.getLast?_ne a.authority_ne_nil _

theorem getLast?_pathChars {segments : List (List Char)} {site : List Char}
    (ends : site.getLast? ≠ some '/') (filled : ∀ segment ∈ segments, segment ≠ [])
    (plain : ∀ segment ∈ segments, IsPlain segment) :
    (site ++ pathChars segments).getLast? ≠ some '/' := by
  rcases List.eq_nil_or_concat segments with rfl | ⟨init, last, rfl⟩
  · rw [pathChars, List.flatMap_nil, List.append_nil]
    exact ends
  · have member : last ∈ init.concat last := by simp
    rw [List.concat_eq_append, pathChars_concat, List.append_cons, ← List.append_assoc]
    exact (plain last member).getLast?_ne (filled last member) _

theorem getLast?_base : a.base.getLast? ≠ some '/' :=
  getLast?_pathChars a.getLast?_site a.segments_ne_nil a.segments_isPlain

/-- The folder is what stands before the last slash of the path, and the site where there is no
path.  There the last slash has another one in front of it. -/
theorem exists_last_part : ∃ front back, a.base = front ++ '/' :: back ∧ '/' ∉ back ∧
    (if front.getLast? = some '/' then a.segments = []
      else a.segments ≠ [] ∧ a.folder = String.ofList front) := by
  rcases List.eq_nil_or_concat a.segments with nothing | ⟨init, last, split⟩
  · refine ⟨a.scheme ++ [':', '/'], a.authority, ?_, a.authority_isPlain.no_slash, ?_⟩
    · rw [base, nothing, pathChars, List.flatMap_nil, List.append_nil, site_eq]
    · rw [if_pos (by simp)]
      exact nothing
  · rw [List.concat_eq_append] at split
    have member : last ∈ a.segments := by simp [split]
    have init_subset : ∀ segment ∈ init, segment ∈ a.segments := by
      intro segment inside
      rw [split]
      exact List.mem_append_left _ inside
    have ends : (a.site ++ pathChars init).getLast? ≠ some '/' :=
      getLast?_pathChars a.getLast?_site
        (fun segment inside => a.segments_ne_nil segment (init_subset segment inside))
        fun segment inside => a.segments_isPlain segment (init_subset segment inside)
    refine ⟨a.site ++ pathChars init, last, ?_, (a.segments_isPlain last member).no_slash, ?_⟩
    · rw [base, split, pathChars_concat, List.append_assoc]
    · rw [if_neg ends, folder, split, List.dropLast_concat]
      exact ⟨by simp, rfl⟩

theorem text_eq : a.text =
    String.ofList (a.base ++ List.replicate a.slashes '/' ++ a.extras) :=
  rfl

/-- What stands behind the path begins with a mark, also without slashes at its end. -/
theorem exists_mark (given : a.extras ≠ []) :
    ∃ mark rest, (mark = '?' ∨ mark = '#') ∧ trimSlashes a.extras = mark :: rest := by
  have begins : ∃ mark rest, (mark = '?' ∨ mark = '#') ∧ a.extras = mark :: rest := by
    unfold extras at given ⊢
    generalize a.query = query at given ⊢
    generalize a.fragment = fragment at given ⊢
    cases query with
    | some query => exact ⟨'?', _, Or.inl rfl, rfl⟩
    | none =>
        cases fragment with
        | some fragment => exact ⟨'#', _, Or.inr rfl, rfl⟩
        | none => exact absurd rfl given
  obtain ⟨mark, rest, isMark, starts⟩ := begins
  have noSlash : mark ≠ '/' := by rcases isMark with rfl | rfl <;> decide
  have kept : trimSlashes a.extras ≠ [] := by
    rw [trimSlashes_eq, ne_eq, List.rdropWhile_eq_nil_iff, starts]
    intro all
    exact noSlash (eq_of_beq (all mark List.mem_cons_self))
  obtain ⟨first, more, trimmed⟩ := List.exists_cons_of_ne_nil kept
  have within : trimSlashes a.extras <+: a.extras := List.rdropWhile_prefix _ _
  rw [trimmed, starts, List.cons_prefix_cons] at within
  exact ⟨first, more, within.1 ▸ isMark, trimmed⟩

/-! ## What the last slash of an address makes of it -/

/-- Without a query and a fragment the slashes of the path decide. -/
theorem folderOf_text_of_plain (plain : a.extras = []) : Settings.folderOf a.text = a.folder := by
  obtain ⟨front, back, split, noSlash, last⟩ := a.exists_last_part
  have trimmed : trimSlashes (a.base ++ List.replicate a.slashes '/' ++ a.extras) =
      front ++ '/' :: back := by
    rw [plain, List.append_nil, trimSlashes_append_replicate, trimSlashes_of_end a.getLast?_base,
      split]
  rw [text_eq, Settings.folderOf_of_split trimmed noSlash]
  split_ifs at last ⊢
  · rw [← split, base, folder, last, List.dropLast_nil]
  · exact last.2.symm

/-- A text holds the whole path and the mark behind it. -/
def KeepsMark (text : String) : Prop :=
  ∃ mark rest, (mark = '?' ∨ mark = '#') ∧
    text = String.ofList (a.base ++ List.replicate a.slashes '/' ++ mark :: rest)

section

variable {a : PageAddress} {front back : List Char}

theorem folderOf_text_of_cut (given : a.extras ≠ [])
    (cut : a.base ++ List.replicate a.slashes '/' ++ trimSlashes a.extras = front ++ '/' :: back)
    (plain : '/' ∉ back) : Settings.folderOf a.text =
      String.ofList (if front.getLast? = some '/' then front ++ '/' :: back else front) := by
  obtain ⟨mark, rest, _, trimmed⟩ := a.exists_mark given
  have kept : trimSlashes a.extras ≠ [] := by simp [trimmed]
  rw [text_eq, Settings.folderOf_of_split (by rw [trimSlashes_append _ kept, cut]) plain]

/-- A slash behind the mark is the last one. -/
theorem keepsMark_of_slash (given : a.extras ≠ []) (slash : '/' ∈ trimSlashes a.extras) :
    a.KeepsMark (Settings.folderOf a.text) := by
  obtain ⟨mark, rest, isMark, trimmed⟩ := a.exists_mark given
  have noSlash : mark ≠ '/' := by rcases isMark with rfl | rfl <;> decide
  rw [trimmed] at slash
  obtain ⟨before, back, split, plain⟩ :=
    exists_last_slash ((List.mem_cons.1 slash).resolve_left (Ne.symm noSlash))
  have cut : a.base ++ List.replicate a.slashes '/' ++ trimSlashes a.extras =
      (a.base ++ List.replicate a.slashes '/' ++ mark :: before) ++ '/' :: back := by
    rw [trimmed, split]
    simp
  rw [folderOf_text_of_cut given cut plain]
  split_ifs
  · exact ⟨mark, before ++ '/' :: back, isMark, by simp⟩
  · exact ⟨mark, before, isMark, rfl⟩

/-- Where the mark stands right behind the path, the last slash is the one of its last part. -/
theorem folderOf_text_of_no_slashes (given : a.extras ≠ []) (plain : '/' ∉ trimSlashes a.extras)
    (zero : a.slashes = 0) : (a.segments ≠ [] ∧ Settings.folderOf a.text = a.folder) ∨
      (a.segments = [] ∧ a.KeepsMark (Settings.folderOf a.text)) := by
  obtain ⟨mark, rest, isMark, trimmed⟩ := a.exists_mark given
  obtain ⟨front, back, split, noSlash, last⟩ := a.exists_last_part
  have cut : a.base ++ List.replicate a.slashes '/' ++ trimSlashes a.extras =
      front ++ '/' :: (back ++ trimSlashes a.extras) := by
    rw [zero, split]
    simp
  have behind : '/' ∉ back ++ trimSlashes a.extras := by
    rw [List.mem_append]
    exact not_or.2 ⟨noSlash, plain⟩
  rw [folderOf_text_of_cut given cut behind]
  split_ifs at last ⊢
  · refine Or.inr ⟨last, mark, rest, isMark, ?_⟩
    rw [← cut, trimmed]
  · exact Or.inl ⟨last.1, last.2.symm⟩

/-- One slash between the path and the mark is the last one. -/
theorem folderOf_text_of_one_slash (given : a.extras ≠ []) (plain : '/' ∉ trimSlashes a.extras)
    (one : a.slashes = 1) : Settings.folderOf a.text = String.ofList a.base := by
  have cut : a.base ++ List.replicate a.slashes '/' ++ trimSlashes a.extras =
      a.base ++ '/' :: trimSlashes a.extras := by
    rw [one]
    simp
  rw [folderOf_text_of_cut given cut plain, if_neg a.getLast?_base]

/-- Of several slashes in front of the mark, the last one has another one in front of it. -/
theorem keepsMark_of_slashes (given : a.extras ≠ []) (plain : '/' ∉ trimSlashes a.extras)
    {more : Nat} (several : a.slashes = more + 2) :
    a.KeepsMark (Settings.folderOf a.text) := by
  obtain ⟨mark, rest, isMark, trimmed⟩ := a.exists_mark given
  have cut : a.base ++ List.replicate a.slashes '/' ++ trimSlashes a.extras =
      (a.base ++ List.replicate (more + 1) '/') ++ '/' :: trimSlashes a.extras := by
    rw [several, List.replicate_succ']
    simp
  have ends : (a.base ++ List.replicate (more + 1) '/').getLast? = some '/' := by
    rw [List.replicate_succ', ← List.append_assoc, List.getLast?_concat]
  rw [folderOf_text_of_cut given cut plain, if_pos ends, ← cut, trimmed]
  exact ⟨mark, rest, isMark, rfl⟩

end

/-- What is made of an address with a query or a fragment. -/
theorem folderOf_text_of_marked (given : a.extras ≠ []) :
    ('/' ∉ trimSlashes a.extras ∧ a.slashes = 0 ∧ a.segments ≠ [] ∧
        Settings.folderOf a.text = a.folder) ∨
      ('/' ∉ trimSlashes a.extras ∧ a.slashes = 1 ∧
        Settings.folderOf a.text = String.ofList a.base) ∨
      (('/' ∈ trimSlashes a.extras ∨ a.slashes = 0 ∧ a.segments = [] ∨ 2 ≤ a.slashes) ∧
        a.KeepsMark (Settings.folderOf a.text)) := by
  by_cases slash : '/' ∈ trimSlashes a.extras
  · exact Or.inr (Or.inr ⟨Or.inl slash, keepsMark_of_slash given slash⟩)
  · rcases counted : a.slashes with _ | _ | more
    · rcases folderOf_text_of_no_slashes given slash counted with
        ⟨path, isFolder⟩ | ⟨noPath, keeps⟩
      · exact Or.inl ⟨slash, rfl, path, isFolder⟩
      · exact Or.inr (Or.inr ⟨Or.inr (Or.inl ⟨rfl, noPath⟩), keeps⟩)
    · exact Or.inr (Or.inl ⟨slash, rfl, folderOf_text_of_one_slash given slash counted⟩)
    · have keeps := keepsMark_of_slashes given slash counted
      exact Or.inr (Or.inr ⟨Or.inr (Or.inr (by omega)), keeps⟩)

/-! ## When the list address is the folder -/

/-- No mark stands in the address of a folder. -/
theorem mark_not_mem_folder {mark : Char} (isMark : mark = '?' ∨ mark = '#') :
    mark ∉ a.site ++ pathChars a.segments.dropLast := by
  have path : mark ∉ pathChars a.segments.dropLast := by
    intro member
    obtain ⟨segment, inside, there⟩ := List.mem_flatMap.1 member
    rcases List.mem_cons.1 there with slash | later
    · rw [slash] at isMark
      exact absurd isMark (by decide)
    · have plain := a.segments_isPlain segment (List.dropLast_subset _ inside)
      exact plain.mark_not_mem isMark later
  have separators : mark ∉ [':', '/', '/'] := by rcases isMark with rfl | rfl <;> decide
  have site : a.site = a.scheme ++ [':', '/', '/'] ++ a.authority := by
    rw [PageAddress.site, List.append_assoc]
    rfl
  rw [site, List.mem_append, List.mem_append, List.mem_append]
  refine not_or.2 ⟨not_or.2 ⟨not_or.2 ⟨?_, separators⟩, ?_⟩, path⟩
  · exact a.scheme_isPlain.mark_not_mem isMark
  · exact a.authority_isPlain.mark_not_mem isMark

theorem KeepsMark.ne_folder {a : PageAddress} {text : String} (keeps : a.KeepsMark text) :
    text ≠ a.folder := by
  obtain ⟨mark, rest, isMark, rfl⟩ := keeps
  intro same
  have member : mark ∈ a.site ++ pathChars a.segments.dropLast := by
    rw [← String.ofList_injective same]
    simp
  exact a.mark_not_mem_folder isMark member

/-- The path with its last segment is the folder only where there is no segment. -/
theorem base_eq_folder_iff : String.ofList a.base = a.folder ↔ a.segments = [] := by
  rcases List.eq_nil_or_concat a.segments with nothing | ⟨init, last, split⟩
  · rw [folder, base, nothing, List.dropLast_nil]
    exact iff_of_true rfl rfl
  · rw [List.concat_eq_append] at split
    rw [folder, base, split, List.dropLast_concat, pathChars_concat]
    refine iff_of_false (fun same => ?_) (by simp)
    have longer := congrArg List.length (String.ofList_injective same)
    simp at longer

/-- **The list address is the folder of the page, unless a query or a fragment is in the way.**  It
always begins with the scheme and the authority of the page.  Where the page has a query or a
fragment, it is the folder only if there is no slash in them, but at the very end, and the path has
either segments and no slash after them, or no segment and one slash. -/
theorem listUrl_eq_folder_iff (s : Settings) :
    a.site <+: (Settings.listUrl { s with pageUrl := a.text, explicitListUrl := none }).toList ∧
      (Settings.listUrl { s with pageUrl := a.text, explicitListUrl := none } = a.folder ↔
        a.extras = [] ∨ '/' ∉ trimSlashes a.extras ∧
          (a.segments ≠ [] ∧ a.slashes = 0 ∨ a.segments = [] ∧ a.slashes = 1)) := by
  have derived : Settings.listUrl { s with pageUrl := a.text, explicitListUrl := none } =
      Settings.folderOf a.text := by
    rw [Settings.listUrl, Option.getD_none]
  rw [derived]
  by_cases plain : a.extras = []
  · have isFolder := a.folderOf_text_of_plain plain
    rw [isFolder, folder, String.toList_ofList]
    exact ⟨List.prefix_append _ _, iff_of_true rfl (Or.inl plain)⟩
  · rcases a.folderOf_text_of_marked plain with
      ⟨noSlash, zero, path, isFolder⟩ | ⟨noSlash, one, isBase⟩ | ⟨hidden, keeps⟩
    · rw [isFolder, folder, String.toList_ofList]
      exact ⟨List.prefix_append _ _,
        iff_of_true rfl (Or.inr ⟨noSlash, Or.inl ⟨path, zero⟩⟩)⟩
    · rw [isBase, base_eq_folder_iff, base, String.toList_ofList]
      refine ⟨List.prefix_append _ _, ?_⟩
      simp [plain, noSlash, one]
    · constructor
      · obtain ⟨mark, rest, _, kept⟩ := keeps
        rw [kept, base, String.toList_ofList, List.append_assoc, List.append_assoc]
        exact List.prefix_append _ _
      · refine iff_of_false keeps.ne_folder ?_
        intro clear
        rcases clear with clear | ⟨noSlash, ⟨path, counted⟩ | ⟨noPath, counted⟩⟩
        · exact plain clear
        · rcases hidden with slash | ⟨_, noPath⟩ | several
          · exact noSlash slash
          · exact path noPath
          · omega
        · rcases hidden with slash | ⟨zero, _⟩ | several
          · exact noSlash slash
          · omega
          · omega

/-- The page of a campaign, with a query that tells where to go back to. -/
def returning : PageAddress where
  authority := "localhost:8080".toList
  segments := ["emails".toList, "spring".toList]
  query := some "back=/home".toList
  authority_ne_nil := by decide
  authority_isPlain := by decide
  segments_ne_nil := by decide
  segments_isPlain := List.forall_mem_cons.2 ⟨by decide, List.forall_mem_singleton.2 (by decide)⟩

/-- The list address of that page is cut inside its query. -/
theorem listUrl_ne_folder_returning :
    returning.text = "http://localhost:8080/emails/spring?back=/home" ∧
      returning.folder = "http://localhost:8080/emails" ∧
      Settings.listUrl { pageUrl := returning.text } =
        "http://localhost:8080/emails/spring?back=" ∧
      Settings.listUrl { pageUrl := returning.text } ≠ returning.folder := by
  decide

end PageAddress

end CampaignConsole
