import CampaignConsole.Json.Node
import CampaignConsole.Json.Text
import CampaignConsole.Text.Blank

/-!
# Scanning what was written

A text that is written as a string is scanned back: `scanString_spell` for the scanner of strings,
`scan_quoted` for the one of tokens, whatever follows.  A blank text writes no value
(`Node.parse?_blank`).
-/

namespace CampaignConsole.Json

theorem hexDigit?_hexDigit (n : Nat) : hexDigit? (hexDigit n) = some (n % 16) := by
  have digits : ∀ m < 16, hexDigit? (Nat.digitChar m) = some m := by decide
  exact digits _ (Nat.mod_lt n (by omega))

/-- Four hexadecimal digits name the unit that they were written for. -/
theorem unit?_hexDigit {code : Nat} (small : code < 65536) :
    unit? (some (hexDigit (code / 4096))) (some (hexDigit (code / 256)))
      (some (hexDigit (code / 16))) (some (hexDigit code)) = some code := by
  simp only [unit?, Option.bind_eq_bind, Option.bind_some, hexDigit?_hexDigit, Option.pure_def,
    Option.some.injEq]
  omega

/-- One written character is scanned back. -/
theorem scanString_spellChar (c : Char) (rest : List Place) :
    scanString ((spellChar c).text.map some ++ rest) =
      (scanString rest).map fun (s, r) => (spellChar c :: s, r) := by
  unfold spellChar
  split
  · rename_i control
    have named := unit?_hexDigit (show c.toNat < 65536 by omega)
    simp [Piece.text, scanString, named]
  · rename_i plain
    by_cases short : c ∈ ['"', '\\', '\x08', '\x0c', '\n', '\r', '\t']
    · simp only [List.mem_cons, List.not_mem_nil, or_false] at short
      rcases short with rfl | rfl | rfl | rfl | rfl | rfl | rfl <;>
        simp [Piece.text, scanString, escaped?]
    · simp only [List.mem_cons, List.not_mem_nil, or_false, not_or] at short plain
      have large : ¬c.toNat < 0x20 := fun small => plain ⟨small, short.2.2⟩
      have written : (Piece.char c).text = [c] := by
        unfold Piece.text
        split <;> simp_all
      rw [written, List.map_singleton, List.singleton_append]
      rw [scanString, if_neg large]
      all_goals simp [short]

/-- A written text is scanned back, up to its closing quote. -/
theorem scanString_spell (s : String) (rest : List Place) :
    scanString (((spell s).flatMap Piece.text).map some ++ some '"' :: rest) =
      some (spell s, rest) := by
  unfold spell
  induction s.toList with
  | nil => rfl
  | cons c cs ih =>
      rw [List.map_cons, List.flatMap_cons, List.map_append, List.append_assoc,
        scanString_spellChar, ih]
      rfl

namespace Token

theorem scan_space {c : Char} (space : isSpace c = true) (rest : List Place) :
    scan (some c :: rest) = scan rest := by
  simp only [isSpace, Bool.or_eq_true, beq_iff_eq] at space
  rcases space with ((rfl | rfl) | rfl) | rfl <;> simp [scan, isSpace]

/-- A quoted text is one token. -/
theorem scan_quoted (s : String) (rest : List Place) :
    scan ((stringText (spell s)).map some ++ rest) = (scan rest).map (.string (spell s) :: ·) := by
  have taken := scanString_spell s rest
  rw [stringText, List.cons_append, List.map_cons, List.map_append, List.cons_append,
    List.append_assoc, List.map_singleton, List.singleton_append, scan, taken]

end Token

/-! ## Blank texts -/

/-- A blank character begins no number. -/
theorem scanNumber_blank {c : Char} (blank : Text.isBlank c = true) (rest : List Place) :
    scanNumber (some c :: rest) = none := by
  have noDigit : digit? c = none := by
    unfold digit?
    rw [if_neg]
    intro digit
    have low : '0'.toNat ≤ c.toNat := digit.1
    have high : c.toNat ≤ '9'.toNat := digit.2
    simp only [Text.isBlank, Bool.or_eq_true, Bool.and_eq_true, decide_eq_true_eq, beq_iff_eq]
      at blank
    have : '0'.toNat = 48 := rfl
    have : '9'.toNat = 57 := rfl
    omega
  have noSign : scanSign (some c :: rest) = (false, some c :: rest) := by
    unfold scanSign
    split
    · rename_i same
      cases same
      exact absurd blank (by decide)
    · rfl
  simp [scanNumber, noSign, scanWhole, scanDigits, noDigit]

/-- A blank text has no tokens, or is none of JSON. -/
theorem Token.scan_blank {cs : List Char} (blank : cs.all Text.isBlank = true) :
    Token.scan (cs.map some) = some [] ∨ Token.scan (cs.map some) = none := by
  induction cs with
  | nil => exact Or.inl (by rw [List.map_nil, Token.scan])
  | cons c cs ih =>
      rw [List.all_cons, Bool.and_eq_true] at blank
      rcases blank with ⟨first, rest⟩
      by_cases space : isSpace c = true
      · rw [List.map_cons, Token.scan_space space]
        exact ih rest
      · have noNumber := scanNumber_blank first (cs.map some)
        have marks : ['{', '}', '[', ']', ',', ':', 'n', 't', 'f', '"'].all
            (fun mark => !Text.isBlank mark) = true := by decide
        have other : ∀ mark ∈ ['{', '}', '[', ']', ',', ':', 'n', 't', 'f', '"'], c ≠ mark := by
          intro mark member same
          have notBlank := List.all_eq_true.1 marks mark member
          rw [← same, first] at notBlank
          cases notBlank
        right
        -- What stands first is no mark, so the scan of a number is the branch that is left.
        rw [List.map_cons, Token.scan, if_neg space]
        · split
          · rename_i found
            rw [noNumber] at found
            cases found
          · rfl
        all_goals simp_all

/-- A blank text writes no value. -/
theorem Node.parse?_blank {cs : List Char} (blank : cs.all Text.isBlank = true) :
    Node.parse? (cs.map some) = none := by
  rcases Token.scan_blank blank with empty | refused
  · rw [Node.parse?, empty]
    rfl
  · rw [Node.parse?, refused]
    rfl

end CampaignConsole.Json
