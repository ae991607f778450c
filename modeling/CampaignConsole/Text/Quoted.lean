import CampaignConsole.Text.Split
import CampaignConsole.Text.Visible

/-!
Texts quoted in messages.

A quoted text stands in double quotes; the quote, the backslash and the common control characters
are written with a backslash, and what a message does not show as it is (`isVisible`) is written as
its code point.
-/

namespace CampaignConsole.Text

/-- A number in lower-case hexadecimal digits. -/
def hexText (n : Nat) : List Char :=
  Nat.toDigits 16 n

/-- A character inside quotes. -/
def quotedChar (c : Char) : List Char :=
  match c with
  | '"' => ['\\', '"']
  | '\\' => ['\\', '\\']
  | '\n' => ['\\', 'n']
  | '\r' => ['\\', 'r']
  | '\t' => ['\\', 't']
  | '\x00' => ['\\', '0']
  | c => if isVisible c then [c] else ['\\', 'u', '{'] ++ hexText c.toNat ++ ['}']

/-- A text in quotes. -/
def quoted (s : String) : String :=
  String.ofList ('"' :: s.toList.flatMap quotedChar ++ ['"'])

end CampaignConsole.Text
