import CampaignConsole.Proofs.Url.FormReading
import CampaignConsole.Url.Basic

/-!
# A flag added to a query

A flag is a named value whose name and value are letters and digits, so it is written as it is
(`formPair_of_plain`).  `AddsFlag` says what it is to add one to the query of an address: it stands
alone where there was no query or an empty one and behind an ampersand otherwise, it is read behind
the values that were there, and nothing else of the address changes.  `addsFlag_iff` says that
`Url.addQuery` does this, and that there is no other way to do it.
-/

namespace CampaignConsole.Url

/-! ## Flags as text -/

/-- Whether a text is made of letters and digits. -/
def isPlain (s : String) : Bool :=
  s.toList.all Char.isAlphanum

theorem toNat_lt_of_isAlphanum {c : Char} (plain : c.isAlphanum = true) : c.toNat < 128 := by
  change (decide (65 ≤ c.val ∧ c.val ≤ 90) || (decide (97 ≤ c.val) && decide (c.val ≤ 122)) ||
    (decide (48 ≤ c.val) && decide (c.val ≤ 57))) = true at plain
  simp only [Bool.or_eq_true, Bool.and_eq_true, decide_eq_true_eq, UInt32.le_iff_toNat_le] at plain
  change ((65 ≤ c.toNat ∧ c.toNat ≤ 90) ∨ (97 ≤ c.toNat ∧ c.toNat ≤ 122)) ∨
    (48 ≤ c.toNat ∧ c.toNat ≤ 57) at plain
  omega

/-- Letters and digits are written as they are. -/
theorem formPart_of_plain {s : String} (plain : isPlain s = true) : formPart s = s.toList := by
  have written : ∀ n < 128, (Char.ofNat n).isAlphanum = true →
      (String.utf8EncodeChar (Char.ofNat n)).flatMap formByte = [Char.ofNat n] := by
    decide +kernel
  rw [isPlain, List.all_eq_true] at plain
  rw [formPart]
  generalize s.toList = cs at plain
  induction cs with
  | nil => rfl
  | cons c cs ih =>
      rcases List.forall_mem_cons.1 plain with ⟨first, others⟩
      have here := written c.toNat (toNat_lt_of_isAlphanum first)
      rw [Char.ofNat_toNat] at here
      rw [List.flatMap_cons, here first, ih others, List.singleton_append]

theorem formPair_of_plain {name value : String} (plainName : isPlain name = true)
    (plainValue : isPlain value = true) :
    formPair (name, value) = (name ++ "=" ++ value).toList := by
  rw [formPair, formPart_of_plain plainName, formPart_of_plain plainValue, String.toList_append,
    String.toList_append, List.append_assoc]
  rfl

/-! ## The query with a value added -/

/-- What stands before an ampersand is read before what stands behind it. -/
theorem formDecode_append (front back : List Char) :
    formDecode (front ++ '&' :: back) = formDecode front ++ formDecode back := by
  rw [formDecode, splitOnChar_append, List.filter_append, List.map_append]
  rfl

section

variable {u : Url} {name value : String}

/-- An address has no query or an empty one, or it has one with something in it. -/
theorem query_cases (u : Url) : u.query.getD [] = [] ∨ ∃ q, u.query = some q ∧ q ≠ [] := by
  rcases u.query with _ | _ | ⟨c, q⟩
  · exact Or.inl rfl
  · exact Or.inl rfl
  · exact Or.inr ⟨c :: q, rfl, List.cons_ne_nil c q⟩

theorem query_addQuery_of_blank (blank : u.query.getD [] = []) :
    (u.addQuery name value).query = some (formPair (name, value)) := by
  rw [addQuery]
  rcases query : u.query with _ | q
  · rfl
  · rw [query, Option.getD_some] at blank
    rw [blank]

theorem query_addQuery_of_query {q : List Char} (query : u.query = some q) (filled : q ≠ []) :
    (u.addQuery name value).query = some (q ++ '&' :: formPair (name, value)) := by
  rw [addQuery, query]
  cases q with
  | nil => exact absurd rfl filled
  | cons c q => rfl

/-- A value that is added is read behind those that were there. -/
theorem formDecode_query_addQuery (u : Url) (name value : String) :
    formDecode ((u.addQuery name value).query.getD []) =
      formDecode (u.query.getD []) ++ [(name, value)] := by
  have pair : formDecode (formPair (name, value)) = [(name, value)] := by
    have read := formDecode_formEncode [(name, value)]
    rwa [formEncode, List.map_singleton, List.intercalate_singleton] at read
  rcases u.query_cases with blank | ⟨q, query, filled⟩
  · rw [query_addQuery_of_blank blank, blank, Option.getD_some, pair]
    rfl
  · rw [query_addQuery_of_query query filled, query, Option.getD_some, Option.getD_some,
      formDecode_append, pair]

/-- Whether an address is another one with a flag added to its query. -/
structure AddsFlag (u : Url) (name value : String) (asked : Url) : Prop where
  /-- Where there was no query or an empty one, the flag is all of it. -/
  alone : u.query.getD [] = [] → asked.query = some (name ++ "=" ++ value).toList
  /-- Otherwise it stands behind what was there. -/
  behind : ∀ q, u.query = some q → q ≠ [] →
    asked.query = some (q ++ '&' :: (name ++ "=" ++ value).toList)
  read : formDecode (asked.query.getD []) = formDecode (u.query.getD []) ++ [(name, value)]
  elsewhere : { asked with query := u.query } = u

/-- A flag is added in one way, which is that of `Url.addQuery`. -/
theorem addsFlag_iff (plainName : isPlain name = true) (plainValue : isPlain value = true)
    {asked : Url} : u.AddsFlag name value asked ↔ asked = u.addQuery name value := by
  have flag : formPair (name, value) = (name ++ "=" ++ value).toList :=
    formPair_of_plain plainName plainValue
  constructor
  · intro adds
    have query : asked.query = (u.addQuery name value).query := by
      rcases u.query_cases with blank | ⟨q, found, filled⟩
      · rw [adds.alone blank, query_addQuery_of_blank blank, flag]
      · rw [adds.behind q found filled, query_addQuery_of_query found filled, flag]
    calc asked = { ({ asked with query := u.query } : Url) with query := asked.query } := rfl
      _ = { u with query := (u.addQuery name value).query } := by rw [adds.elsewhere, query]
      _ = u.addQuery name value := rfl
  · rintro rfl
    exact {
      alone := fun blank => by rw [query_addQuery_of_blank blank, flag]
      behind := fun q query filled => by
        rw [query_addQuery_of_query query filled, flag]
      read := formDecode_query_addQuery u name value
      elsewhere := rfl }

end

end CampaignConsole.Url
