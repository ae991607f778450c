import CampaignConsole.Text.Utf8
import Mathlib.Data.String.Basic

/-!
# A text is decoded from its own bytes

The places of the UTF-8 form of a text are its characters (`places_toUTF8`), and the reading with
replacement characters gives the text back unless it starts with a byte order mark
(`lossy_toUTF8`).
-/

namespace CampaignConsole.Text.Utf8

/-- Behind bytes that were read already, the form of a text is read one character at a time. -/
theorem placesFrom_append (read : ByteArray) (cs : List Char) :
    placesFrom (read ++ cs.utf8Encode) read.size = cs.map some := by
  induction cs generalizing read with
  | nil =>
      rw [placesFrom, if_neg (by simp)]
      rfl
  | cons c cs ih =>
      have rest : (read ++ (c :: cs).utf8Encode).extract read.size
          (read ++ (c :: cs).utf8Encode).size = (c :: cs).utf8Encode :=
        ByteArray.extract_append_eq_right rfl ByteArray.size_append
      have first : (read ++ (c :: cs).utf8Encode).utf8DecodeChar? read.size = some c := by
        rw [ByteArray.utf8DecodeChar?_eq_utf8DecodeChar?_extract, rest,
          List.utf8DecodeChar?_utf8Encode_cons]
      have moved : read ++ (c :: cs).utf8Encode = (read ++ [c].utf8Encode) ++ cs.utf8Encode := by
        rw [ByteArray.append_assoc, ← List.utf8Encode_append, List.singleton_append]
      have size : (read ++ [c].utf8Encode).size = read.size + c.utf8Size := by
        rw [ByteArray.size_append, List.utf8Encode_singleton, List.size_toByteArray,
          String.length_utf8EncodeChar]
      have inside : read.size < (read ++ (c :: cs).utf8Encode).size := by
        have := c.utf8Size_pos
        rw [moved, ByteArray.size_append, size]
        omega
      rw [placesFrom, if_pos inside, first]
      dsimp only
      rw [moved, ← size, ih, List.map_cons]

/-- The places of the bytes of a text are its characters. -/
theorem places_toUTF8 (s : String) : places s.toUTF8 = s.toList.map some := by
  have all := placesFrom_append .empty s.toList
  rw [ByteArray.empty_append, String.utf8Encode_toList] at all
  exact all

/-- A text without a byte order mark at its start is read back from its bytes. -/
theorem lossy_toUTF8 {s : String} (unmarked : s.toList.head? ≠ some '\uFEFF') :
    lossy s.toUTF8 = s := by
  have chars : (s.toList.map some).map (·.getD '\uFFFD') = s.toList := by
    rw [List.map_map]
    exact List.map_id _
  rw [lossy, places_toUTF8, chars]
  split
  · rename_i rest marked
    rw [marked] at unmarked
    exact absurd rfl unmarked
  · exact String.ofList_toList

end CampaignConsole.Text.Utf8
