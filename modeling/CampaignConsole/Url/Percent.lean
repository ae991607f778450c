/-!
Percent encoding.

A character that may not stand in some part of a URL is written as its UTF-8 bytes, each as `%` and
two hexadecimal digits.  The sets say which ASCII characters each part of a URL may not hold; no
part holds a character outside ASCII.
-/

namespace CampaignConsole.Url

/-- An upper-case hexadecimal digit. -/
def upperHexDigit (n : Nat) : Char :=
  (Nat.digitChar (n % 16)).toUpper

/-- A byte as `%` and two digits. -/
def percentByte (b : UInt8) : List Char :=
  ['%', upperHexDigit (b.toNat / 16), upperHexDigit b.toNat]

/-- A text with the characters of class `escape`, and all outside ASCII, as encoded bytes. -/
def percentEncode (escape : Char → Bool) (cs : List Char) : List Char :=
  cs.flatMap fun c =>
    if c.toNat < 0x80 && !escape c then [c] else (String.utf8EncodeChar c).flatMap percentByte

/-! ## Sets -/

/-- Control characters. -/
def escapeControl (c : Char) : Bool :=
  c.toNat < 0x20 || c.toNat == 0x7F

/-- What a fragment may not hold. -/
def escapeFragment (c : Char) : Bool :=
  escapeControl c || c ∈ [' ', '"', '<', '>', '\x60']

/-- What a query may not hold. -/
def escapeQuery (c : Char) : Bool :=
  escapeControl c || c ∈ [' ', '"', '#', '<', '>']

/-- What a query of a special scheme may not hold. -/
def escapeSpecialQuery (c : Char) : Bool :=
  escapeQuery c || c == '\''

/-- What a segment of a path may not hold. -/
def escapePath (c : Char) : Bool :=
  escapeFragment c || c ∈ ['#', '?', '{', '}']

/-- What a user name or password may not hold. -/
def escapeUserInfo (c : Char) : Bool :=
  escapePath c || c ∈ ['/', ':', ';', '=', '@', '[', '\\', ']', '^', '|']

/-! ## Decoding -/

/-- The value of a hexadecimal digit of either case. -/
def hexValue? (c : Char) : Option Nat :=
  if '0' ≤ c ∧ c ≤ '9' then some (c.toNat - 48)
  else if 'a' ≤ c ∧ c ≤ 'f' then some (c.toNat - 87)
  else if 'A' ≤ c ∧ c ≤ 'F' then some (c.toNat - 55)
  else none

/-- The bytes of a text, with `%` and two digits standing for a byte. -/
def percentDecode : List Char → List UInt8
  | [] => []
  | '%' :: a :: b :: rest =>
      match hexValue? a, hexValue? b with
      | some high, some low => (high * 16 + low).toUInt8 :: percentDecode rest
      | _, _ => String.utf8EncodeChar '%' ++ percentDecode (a :: b :: rest)
  | c :: rest => String.utf8EncodeChar c ++ percentDecode rest

end CampaignConsole.Url
