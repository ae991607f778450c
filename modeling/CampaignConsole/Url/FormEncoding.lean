import CampaignConsole.Text.Split
import CampaignConsole.Text.Utf8
import CampaignConsole.Url.Percent

/-!
Forms as `application/x-www-form-urlencoded` text.

`formEncode` writes named values as the body of a post or as a query, and `formDecode` reads such a
text by the rules of the URL standard.
-/

namespace CampaignConsole.Url

/-! ## Writing -/

/-- A byte of a name or value: letters, digits and four signs stand for themselves,
a space is a plus. -/
def formByte (b : UInt8) : List Char :=
  let c := Char.ofNat b.toNat
  if c.isAlphanum || c ∈ ['*', '-', '.', '_'] then [c]
  else if c = ' ' then ['+']
  else percentByte b

/-- A name or a value. -/
def formPart (s : String) : List Char :=
  s.toList.flatMap fun c => (String.utf8EncodeChar c).flatMap formByte

/-- A named value. -/
def formPair (pair : String × String) : List Char :=
  formPart pair.1 ++ '=' :: formPart pair.2

/-- Named values, in their order. -/
def formEncode (pairs : List (String × String)) : List Char :=
  ['&'].intercalate (pairs.map formPair)

/-! ## Reading -/

/-- The parts of a text between separators. -/
def splitOnChar (separator : Char) : List Char → List (List Char)
  | [] => [[]]
  | c :: cs =>
      if c = separator then [] :: splitOnChar separator cs
      else
        match splitOnChar separator cs with
        | [] => [[c]]
        | part :: parts => (c :: part) :: parts

/-- The text of a name or a value; bytes that are no UTF-8 are replaced. -/
def formDecodePart (cs : List Char) : String :=
  let spaced := cs.map fun c => if c = '+' then ' ' else c
  String.ofList ((Text.Utf8.places ⟨(percentDecode spaced).toArray⟩).map (·.getD '\uFFFD'))

/-- The named values of a text, in their order. -/
def formDecode (cs : List Char) : List (String × String) :=
  ((splitOnChar '&' cs).filter (!·.isEmpty)).map fun part =>
    match Text.splitCharsAtFirst '=' part with
    | some (name, value) => (formDecodePart name, formDecodePart value)
    | none => (formDecodePart part, "")

end CampaignConsole.Url
