import CampaignConsole.Json.Token

/-!
What a JSON number stands for.

`Number.integer?` is the integer of a number in integer form, as far as 64 bits hold it.
`Number.double?` is the double nearest to the number up to the error of its own steps: the leading
digits that fit in 64 bits become a double, which is then scaled by a power of ten; both steps
round.
-/

namespace CampaignConsole.Json

/-- The number that decimal digits write. -/
def digitsValue (digits : List Nat) : Nat :=
  digits.foldl (fun n d => n * 10 + d) 0

namespace Number

/-! ## Integers -/

/-- Whether a number is written without point and exponent. -/
def isIntegral (n : Number) : Bool :=
  n.fraction.isEmpty && n.exponent.isNone

/-- The integer of a number in integer form from -2^63 to 2^64 - 1; minus zero is not an integer. -/
def integer? (n : Number) : Option Int :=
  if !n.isIntegral then none
  else
    let value := digitsValue n.whole
    if n.negative then
      if value ≠ 0 ∧ value ≤ Nat.pow 2 63 then some (-(value : Int)) else none
    else if value < UInt64.size then some (value : Int)
    else none

/-- The integer of a number if it is at least zero and less than `bound`. -/
def natBelow? (bound : Nat) (n : Number) : Option Nat :=
  match n.integer? with
  | some (.ofNat value) => if value < bound then some value else none
  | _ => none

/-! ## Doubles -/

/-- Takes digits into a significand as long as it fits in 64 bits, and gives the
digits left over. -/
def gather (significand : Nat) : List Nat → Nat × List Nat
  | [] => (significand, [])
  | d :: rest =>
      if significand * 10 + d < UInt64.size then gather (significand * 10 + d) rest
      else (significand, d :: rest)

/-- A double divided by a power of ten, in steps that doubles can hold. -/
def scaleDown (x : Float) (power : Nat) : Float :=
  if power ≤ 308 then x / Float.ofScientific 1 false power
  else if x == 0.0 then x
  else scaleDown (x / Float.ofScientific 1 false 308) (power - 308)
termination_by power

/-- A double times a power of ten, unless that is too large for a double. -/
def scaleUp? (x : Float) (power : Nat) : Option Float :=
  if power ≤ 308 then
    let y := x * Float.ofScientific 1 false power
    if y.isInf then none else some y
  else if x == 0.0 then some x
  else none

/-- A double times a power of ten of either sign. -/
def scale? (x : Float) : Int → Option Float
  | .ofNat power => scaleUp? x power
  | .negSucc power => some (scaleDown x (power + 1))

/-- The greatest power of ten that is looked at digit by digit. -/
def exponentLimit : Nat := 2147483647

/-- The size of a number as a double, or `none` if it is too large for one. -/
def magnitude? (n : Number) : Option Float :=
  let (whole, dropped) := gather 0 n.whole
  let (significand, left) := gather whole n.fraction
  let power : Int := dropped.length - (n.fraction.length - left.length : Nat)
  let x := significand.toUInt64.toFloat
  match n.exponent with
  | none => scale? x power
  | some e =>
      let shift := digitsValue e.digits
      if exponentLimit < shift then
        if significand ≠ 0 ∧ ¬ e.negative then none else some 0.0
      else scale? x (if e.negative then power - shift else power + shift)

/-- The double of a number, or `none` if it is too large for one. -/
def double? (n : Number) : Option Float :=
  n.magnitude?.map fun x => if n.negative then -x else x

/-! ## Writing -/

/-- The text of decimal digits. -/
def digitsText (digits : List Nat) : List Char :=
  digits.map Nat.digitChar

/-- The text of a number, as it was written but for the case of `e` and the plus sign. -/
def text (n : Number) : List Char :=
  (if n.negative then ['-'] else []) ++ digitsText n.whole ++
    (if n.fraction.isEmpty then [] else '.' :: digitsText n.fraction) ++
    match n.exponent with
    | none => []
    | some e => 'e' :: (if e.negative then ['-'] else []) ++ digitsText e.digits

/-- The decimal digits of a number, most significant first. -/
def digitsOf (n : Nat) : List Nat :=
  (Nat.toDigits 10 n).map fun c => c.toNat - 48

/-- The number that writes a natural number. -/
def ofNat (n : Nat) : Number :=
  ⟨false, digitsOf n, [], none⟩

end Number

end CampaignConsole.Json
