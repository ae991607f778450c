/-!
Texts that arrive as bytes.

`places` reads bytes as UTF-8 and keeps what does not decode: each place of the result is a
character or `none`, one `none` for each longest piece that could still have become a character.
The strict reading of a state file, the reading of a reply's text with replacement characters, and
the reading of JSON straight from the bytes all start from it or from the core library's
`String.fromUTF8?`.
-/

namespace CampaignConsole.Text.Utf8

/-- The bytes that may stand second in a character that starts with `lead`. -/
def mayFollow (lead next : UInt8) : Bool :=
  let low : UInt8 := if lead == 0xE0 then 0xA0 else if lead == 0xF0 then 0x90 else 0x80
  let high : UInt8 := if lead == 0xED then 0x9F else if lead == 0xF4 then 0x8F else 0xBF
  low ≤ next && next ≤ high

/-- The number of bytes that a character starting with `lead` has, and 1 where none starts so. -/
def announced (lead : UInt8) : Nat :=
  if 0xC2 ≤ lead && lead ≤ 0xDF then 2
  else if 0xE0 ≤ lead && lead ≤ 0xEF then 3
  else if 0xF0 ≤ lead && lead ≤ 0xF4 then 4
  else 1

/-- The length of the longest piece at `i` that begins a character and does not finish one. -/
def brokenLength (bytes : ByteArray) (i : Nat) : Nat :=
  let lead := bytes.get! i
  let continues (j : Nat) : Bool := j < bytes.size && 0x80 ≤ bytes.get! j && bytes.get! j ≤ 0xBF
  if announced lead == 1 || !(i + 1 < bytes.size && mayFollow lead (bytes.get! (i + 1))) then 1
  else if announced lead == 4 && continues (i + 2) then 3
  else 2

theorem brokenLength_pos (bytes : ByteArray) (i : Nat) : 0 < brokenLength bytes i := by
  unfold brokenLength
  dsimp only
  split
  · decide
  · split <;> decide

/-- The places of a text from byte `i` on: its characters, and `none` for each broken piece. -/
def placesFrom (bytes : ByteArray) (i : Nat) : List (Option Char) :=
  if i < bytes.size then
    match bytes.utf8DecodeChar? i with
    | some c => some c :: placesFrom bytes (i + c.utf8Size)
    | none => none :: placesFrom bytes (i + brokenLength bytes i)
  else
    []
termination_by bytes.size - i
decreasing_by
  · have := c.utf8Size_pos; omega
  · have := brokenLength_pos bytes i; omega

/-- The places of a text of bytes. -/
def places (bytes : ByteArray) : List (Option Char) :=
  placesFrom bytes 0

/-- The text of bytes with U+FFFD for each broken piece, and without a byte order
mark at its start. -/
def lossy (bytes : ByteArray) : String :=
  match (places bytes).map (·.getD '\uFFFD') with
  | '\uFEFF' :: rest => String.ofList rest
  | cs => String.ofList cs

end CampaignConsole.Text.Utf8
