import CampaignConsole.Proofs.Text.ByteOrder
import CampaignConsole.Proofs.Text.Decoding
import CampaignConsole.Proofs.Text.Splitting
import CampaignConsole.Url.FormEncoding

/-!
# A form is read back from its text

The signs that separate names from values, and one named value from the next, are never written for
a byte of a name or a value (`separator_not_mem_formPart`), and what is written for the bytes of a
text stands for these bytes (`percentDecode_formPart`).  So a form is cut where it was put together,
and `formDecode_formEncode` reads the named values back, whatever characters they hold.
-/

namespace CampaignConsole.Url

/-- A plus sign stands for a space. -/
def plusAsSpace (c : Char) : Char :=
  if c = '+' then ' ' else c

/-! ## One byte -/

theorem hexValue?_upperHexDigit (n : Nat) : hexValue? (upperHexDigit n) = some (n % 16) := by
  have digits : ∀ m < 16, hexValue? (Nat.digitChar m).toUpper = some m := by decide
  exact digits (n % 16) (Nat.mod_lt n (by omega))

theorem upperHexDigit_not_mem (n : Nat) : upperHexDigit n ∉ ['&', '=', '+'] := by
  have digits : ∀ m < 16, (Nat.digitChar m).toUpper ∉ ['&', '=', '+'] := by decide
  exact digits (n % 16) (Nat.mod_lt n (by omega))

theorem plusAsSpace_upperHexDigit (n : Nat) : plusAsSpace (upperHexDigit n) = upperHexDigit n := by
  refine if_neg fun plus => upperHexDigit_not_mem n ?_
  simp [plus]

/-- A byte is written as the character that it is, as a plus, or as a percent sign
with two digits. -/
theorem formByte_cases (b : UInt8) :
    (∃ c, formByte b = [c] ∧ c ∉ ['&', '=', '+', '%'] ∧ String.utf8EncodeChar c = [b]) ∨
      (formByte b = ['+'] ∧ b = 32) ∨ formByte b = percentByte b := by
  have plain : ∀ n < 256,
      ((Char.ofNat n).isAlphanum || Char.ofNat n ∈ ['*', '-', '.', '_']) = true →
      Char.ofNat n ∉ ['&', '=', '+', '%'] ∧ String.utf8EncodeChar (Char.ofNat n) = [n.toUInt8] := by
    decide +kernel
  have space : ∀ n < 256, Char.ofNat n = ' ' → n.toUInt8 = 32 := by decide +kernel
  have back : b.toNat.toUInt8 = b := UInt8.ofNat_toNat
  unfold formByte
  dsimp only
  split_ifs with isPlain isSpace
  · have found := plain b.toNat b.toNat_lt isPlain
    rw [back] at found
    exact .inl ⟨_, rfl, found⟩
  · have found := space b.toNat b.toNat_lt isSpace
    rw [back] at found
    exact .inr (.inl ⟨rfl, found⟩)
  · exact .inr (.inr rfl)

theorem percentDecode_cons {c : Char} (plain : c ≠ '%') (rest : List Char) :
    percentDecode (c :: rest) = String.utf8EncodeChar c ++ percentDecode rest := by
  rw [percentDecode]
  intro _ _ _ sign
  exact absurd sign plain

theorem percentDecode_percentByte (b : UInt8) (rest : List Char) :
    percentDecode (percentByte b ++ rest) = b :: percentDecode rest := by
  have small : b.toNat < 256 := b.toNat_lt
  have value : b.toNat / 16 % 16 * 16 + b.toNat % 16 = b.toNat := by omega
  simp only [percentByte, List.cons_append, List.nil_append, percentDecode, hexValue?_upperHexDigit,
    value]
  rw [show b.toNat.toUInt8 = b from UInt8.ofNat_toNat]

/-- What is written for a byte is read as that byte. -/
theorem percentDecode_formByte (b : UInt8) (rest : List Char) :
    percentDecode ((formByte b).map plusAsSpace ++ rest) = b :: percentDecode rest := by
  rcases formByte_cases b with ⟨c, written, plain, encoded⟩ | ⟨written, rfl⟩ | written
  · simp only [List.mem_cons, List.not_mem_nil, or_false, not_or] at plain
    have same : plusAsSpace c = c := if_neg plain.2.2.1
    rw [written, List.map_singleton, same, List.singleton_append, percentDecode_cons plain.2.2.2,
      encoded, List.singleton_append]
  · rw [written]
    exact percentDecode_cons (by decide) rest
  · have same : (percentByte b).map plusAsSpace = percentByte b := by
      simp only [percentByte, List.map_cons, List.map_nil, plusAsSpace_upperHexDigit]
      rfl
    rw [written, same, percentDecode_percentByte]

/-- No separator is written for a byte. -/
theorem separator_not_mem_formByte {separator : Char} (isSeparator : separator ∈ ['&', '='])
    (b : UInt8) : separator ∉ formByte b := by
  have none (n : Nat) : separator ≠ upperHexDigit n := by
    rintro rfl
    exact upperHexDigit_not_mem n (List.mem_append_left ['+'] isSeparator)
  rcases formByte_cases b with ⟨c, written, plain, _⟩ | ⟨written, _⟩ | written
  · rw [written, List.mem_singleton]
    rintro rfl
    exact plain (List.mem_append_left ['+', '%'] isSeparator)
  · rw [written, List.mem_singleton]
    rintro rfl
    exact absurd isSeparator (by decide)
  · have sign : separator ≠ '%' := by
      rintro rfl
      exact absurd isSeparator (by decide)
    simp [written, percentByte, sign, none]

/-! ## One name or value -/

theorem formPart_eq (s : String) : formPart s = (Text.bytes s).flatMap formByte := by
  rw [formPart, Text.bytes_eq, List.flatMap_assoc]

theorem separator_not_mem_formPart {separator : Char} (isSeparator : separator ∈ ['&', '='])
    (s : String) : separator ∉ formPart s := by
  rw [formPart_eq, List.mem_flatMap]
  intro ⟨b, _, member⟩
  exact separator_not_mem_formByte isSeparator b member

/-- What is written for a text is read as the bytes of the text. -/
theorem percentDecode_formPart (s : String) :
    percentDecode ((formPart s).map plusAsSpace) = Text.bytes s := by
  rw [formPart_eq]
  induction Text.bytes s with
  | nil => rfl
  | cons b bytes ih => rw [List.flatMap_cons, List.map_append, percentDecode_formByte, ih]

/-- A name or a value is read back from its text. -/
theorem formDecodePart_formPart (s : String) : formDecodePart (formPart s) = s := by
  have read : percentDecode ((formPart s).map plusAsSpace) = s.toUTF8.data.toList :=
    percentDecode_formPart s
  show String.ofList ((Text.Utf8.places
    ⟨(percentDecode ((formPart s).map plusAsSpace)).toArray⟩).map (·.getD '\uFFFD')) = s
  have chars : (s.toList.map some).map (·.getD '\uFFFD') = s.toList := by
    rw [List.map_map]
    exact List.map_id _
  rw [read, Array.toArray_toList, Text.Utf8.places_toUTF8, chars, String.ofList_toList]

/-! ## Named values -/

theorem splitOnChar_of_not_mem {separator : Char} {part : List Char} (absent : separator ∉ part) :
    splitOnChar separator part = [part] := by
  induction part with
  | nil => rfl
  | cons c part ih =>
      obtain ⟨other, rest⟩ := not_or.1 (mt List.mem_cons.2 absent)
      rw [splitOnChar, if_neg (Ne.symm other), ih rest]

theorem splitOnChar_ne_nil (separator : Char) (cs : List Char) : splitOnChar separator cs ≠ [] := by
  cases cs with
  | nil => exact List.cons_ne_nil [] []
  | cons c cs =>
      rw [splitOnChar]
      split
      · exact List.cons_ne_nil _ _
      · split <;> exact List.cons_ne_nil _ _

/-- A separator parts what stands before it from what stands behind it. -/
theorem splitOnChar_append (separator : Char) (front back : List Char) :
    splitOnChar separator (front ++ separator :: back) =
      splitOnChar separator front ++ splitOnChar separator back := by
  induction front with
  | nil => rw [List.nil_append, splitOnChar, splitOnChar, if_pos rfl, List.singleton_append]
  | cons c front ih =>
      rw [List.cons_append, splitOnChar, splitOnChar, ih]
      by_cases same : c = separator
      · rw [if_pos same, if_pos same, List.cons_append]
      · rw [if_neg same, if_neg same]
        cases parts : splitOnChar separator front with
        | nil => exact absurd parts (splitOnChar_ne_nil separator front)
        | cons part parts => rfl

/-- Parts without the separator are found again between the separators. -/
theorem splitOnChar_intercalate {separator : Char} {parts : List (List Char)} (some : parts ≠ [])
    (absent : ∀ part ∈ parts, separator ∉ part) :
    splitOnChar separator ([separator].intercalate parts) = parts := by
  induction parts with
  | nil => exact absurd rfl some
  | cons part parts ih =>
      have first : separator ∉ part := absent part List.mem_cons_self
      cases parts with
      | nil =>
          rw [List.intercalate_singleton]
          exact splitOnChar_of_not_mem first
      | cons next parts =>
          rw [List.intercalate_cons_cons, List.append_assoc, List.singleton_append,
            splitOnChar_append, splitOnChar_of_not_mem first, List.singleton_append,
            ih (List.cons_ne_nil next parts)]
          exact fun part member => absent part (List.mem_cons_of_mem _ member)

theorem and_not_mem_formPair (pair : String × String) : '&' ∉ formPair pair := by
  simp [formPair, separator_not_mem_formPart]

/-- A named value is read back from its text. -/
theorem splitCharsAtFirst_formPair (pair : String × String) :
    Text.splitCharsAtFirst '=' (formPair pair) = some (formPart pair.1, formPart pair.2) :=
  Text.splitCharsAtFirst_append (separator_not_mem_formPart (by decide) pair.1) _

/-- The named values of a form are read back from its text, in their order. -/
theorem formDecode_formEncode (pairs : List (String × String)) :
    formDecode (formEncode pairs) = pairs := by
  by_cases some : pairs.map formPair = []
  · obtain rfl := List.map_eq_nil_iff.1 some
    rfl
  · have parts : splitOnChar '&' (formEncode pairs) = pairs.map formPair := by
      refine splitOnChar_intercalate some fun part member => ?_
      obtain ⟨pair, _, rfl⟩ := List.mem_map.1 member
      exact and_not_mem_formPair pair
    have whole : (pairs.map formPair).filter (!·.isEmpty) = pairs.map formPair := by
      rw [List.filter_eq_self]
      intro part member
      obtain ⟨pair, _, rfl⟩ := List.mem_map.1 member
      simp [formPair]
    rw [formDecode, parts, whole, List.map_map]
    refine List.map_id'' (fun pair => ?_) pairs
    simp only [Function.comp_apply, splitCharsAtFirst_formPair, formDecodePart_formPart]

end CampaignConsole.Url
