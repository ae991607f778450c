import CampaignConsole.Json.Members
import CampaignConsole.Text.Shortest

/-!
Writing JSON values as text without white space.
-/

namespace CampaignConsole.Json

/-- The text of a token. -/
def Token.text : Token → List Char
  | .openBrace => ['{']
  | .closeBrace => ['}']
  | .openBracket => ['[']
  | .closeBracket => [']']
  | .comma => [',']
  | .colon => [':']
  | .null => ['n', 'u', 'l', 'l']
  | .bool true => ['t', 'r', 'u', 'e']
  | .bool false => ['f', 'a', 'l', 's', 'e']
  | .number n => n.text
  | .string s => stringText s

/-! ## Doubles -/

namespace Number

/-- The exponent form of digits: one digit before the point. -/
def ofExponent (negative : Bool) (digits : List Nat) (power : Int) : Number :=
  { negative
    whole := digits.take 1
    fraction := digits.drop 1
    exponent := some ⟨power < 0, digitsOf power.natAbs⟩ }

/-- The number that writes digits times a power of ten.  Where the point falls from four places
before the first digit to sixteen after it, the form is positional; a whole number has a zero after
the point. -/
def ofScaled (negative : Bool) (s : Text.ScaledDigits) : Number :=
  let digits := digitsOf s.digits
  let point : Int := digits.length + s.power
  let plain (whole fraction : List Nat) : Number := ⟨negative, whole, fraction, none⟩
  if 16 < point ∨ point ≤ -5 then ofExponent negative digits (point - 1)
  else if point ≤ 0 then plain [0] (List.replicate (-point).toNat 0 ++ digits)
  else if 0 ≤ s.power then plain (digits ++ List.replicate s.power.toNat 0) [0]
  else plain (digits.take point.toNat) (digits.drop point.toNat)

/-- The number that writes a double with the fewest digits that read back; what is
not finite has none. -/
def ofDouble? (x : Float) : Option Number :=
  if x.isFinite then
    let negative := x.toBits.toNat / Nat.pow 2 63 == 1
    some (if x == 0.0 then ⟨negative, [0], [0], none⟩ else ofScaled negative (Text.shortest x))
  else none

end Number

namespace Node

/-- The text of a value, without white space. -/
def render (n : Node) : String :=
  String.ofList (n.tokens.flatMap Token.text)

/-- The value that stands for a text. -/
def ofText (s : String) : Node :=
  .string (spell s)

/-- The value that stands for a text that may be missing. -/
def ofText? : Option String → Node
  | none => .null
  | some s => ofText s

/-- The value that stands for a natural number. -/
def ofNat (n : Nat) : Node :=
  .number (Number.ofNat n)

/-- The value that stands for a double; one that is not finite is null. -/
def ofDouble (x : Float) : Node :=
  match Number.ofDouble? x with
  | none => .null
  | some n => .number n

/-- The object with the given members, in their order. -/
def ofMembers (members : Members) : Node :=
  .object (members.map fun (name, value) => (spell name, value))

end Node

end CampaignConsole.Json
