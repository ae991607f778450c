import CampaignConsole.Json.Token

/-!
What a JSON string stands for.

`textOf?` joins the UTF-16 units of a string into characters; it has no answer for a unit without
its partner and for bytes that are no character.  `spell` writes a text as pieces, and
`textOf?_spell` says that nothing is lost.
-/

namespace CampaignConsole.Json

/-- A unit that starts a pair. -/
def isHighSurrogate (code : Nat) : Bool := 0xD800 ≤ code && code < 0xDC00

/-- A unit that ends a pair. -/
def isLowSurrogate (code : Nat) : Bool := 0xDC00 ≤ code && code < 0xE000

/-- The characters that the pieces of a string stand for. -/
def charsOf? : List Piece → Option (List Char)
  | [] => some []
  | .char c :: rest => (charsOf? rest).map (c :: ·)
  | .unit high :: .unit low :: rest =>
      if isHighSurrogate high then
        if isLowSurrogate low then
          (charsOf? rest).map
            (Char.ofNat (0x10000 + (high - 0xD800) * 0x400 + (low - 0xDC00)) :: ·)
        else none
      else if isLowSurrogate high then none
      else (charsOf? (.unit low :: rest)).map (Char.ofNat high :: ·)
  | .unit code :: rest =>
      if isHighSurrogate code || isLowSurrogate code then none
      else (charsOf? rest).map (Char.ofNat code :: ·)
  | .broken :: _ => none

/-- The text that the pieces of a string stand for. -/
def textOf? (s : List Piece) : Option String :=
  (charsOf? s).map String.ofList

/-! ## Writing a string -/

/-- The piece that a character is written as: control characters without a short
escape become units. -/
def spellChar (c : Char) : Piece :=
  if c.toNat < 0x20 ∧ c ∉ ['\x08', '\x0c', '\n', '\r', '\t'] then .unit c.toNat else .char c

/-- The pieces that a text is written as. -/
def spell (s : String) : List Piece :=
  s.toList.map spellChar

/-- A lower-case hexadecimal digit. -/
def hexDigit (n : Nat) : Char :=
  Nat.digitChar (n % 16)

/-- The text of a piece inside quotes. -/
def Piece.text : Piece → List Char
  | .char '"' => ['\\', '"']
  | .char '\\' => ['\\', '\\']
  | .char '\x08' => ['\\', 'b']
  | .char '\x0c' => ['\\', 'f']
  | .char '\n' => ['\\', 'n']
  | .char '\r' => ['\\', 'r']
  | .char '\t' => ['\\', 't']
  | .char c => [c]
  | .unit code =>
      ['\\', 'u', hexDigit (code / 4096), hexDigit (code / 256), hexDigit (code / 16),
        hexDigit code]
  | .broken => ['\uFFFD']

/-- The text of a string, with its quotes. -/
def stringText (s : List Piece) : List Char :=
  '"' :: s.flatMap Piece.text ++ ['"']

/-! ## Nothing is lost in writing -/

theorem charsOf?_unit_cons {code : Nat} (rest : List Piece) (small : code < 0xD800) :
    charsOf? (.unit code :: rest) = (charsOf? rest).map (Char.ofNat code :: ·) := by
  have high : isHighSurrogate code = false := by simp [isHighSurrogate]; omega
  have low : isLowSurrogate code = false := by simp [isLowSurrogate]; omega
  cases rest with
  | nil => simp [charsOf?, high, low]
  | cons p rest => cases p <;> simp [charsOf?, high, low]

theorem charsOf?_spellChar_cons (c : Char) (rest : List Piece) :
    charsOf? (spellChar c :: rest) = (charsOf? rest).map (c :: ·) := by
  unfold spellChar
  split
  · rename_i control
    rw [charsOf?_unit_cons rest (by omega), Char.ofNat_toNat]
  · rw [charsOf?]

/-- A written text stands for itself. -/
theorem textOf?_spell (s : String) : textOf? (spell s) = some s := by
  have chars : ∀ cs : List Char, charsOf? (cs.map spellChar) = some cs := by
    intro cs
    induction cs with
    | nil => rfl
    | cons c cs ih => simp [charsOf?_spellChar_cons, ih]
  simp [textOf?, spell, chars]

end CampaignConsole.Json
