/-!
Doubles as decimal text.

`roundHalfEven` rounds a quotient to a whole number, a half to the even neighbour; `tenths` writes a
double with one digit after the point from its exact value.
-/

namespace CampaignConsole.Text

/-- The quotient of two natural numbers rounded to a whole number, a half to the even neighbour. -/
def roundHalfEven (num den : Nat) : Nat :=
  let quotient := num / den
  let twice := 2 * (num % den)
  if twice < den ∨ (twice = den ∧ quotient % 2 = 0) then quotient else quotient + 1

/-- The size of a finite double as a mantissa and a power of two. -/
def mantissaAndPower (x : Float) : Nat × Int :=
  let bits : Nat := x.toBits.toNat
  let mantissa : Nat := bits % Nat.pow 2 52
  let biased : Nat := bits / Nat.pow 2 52 % 2048
  if biased = 0 then (mantissa, -1074) else (mantissa + Nat.pow 2 52, (biased : Int) - 1075)

/-- The size of a finite double in tenths, rounded. -/
def tenthsOf (x : Float) : Nat :=
  match mantissaAndPower x with
  | (mantissa, .ofNat power) => mantissa * Nat.pow 2 power * 10
  | (mantissa, .negSucc power) => roundHalfEven (mantissa * 10) (Nat.pow 2 (power + 1))

/-- A double with one digit after the point. -/
def tenths (x : Float) : String :=
  if x.isNaN then "NaN"
  else
    let sign := if x.toBits.toNat / Nat.pow 2 63 = 1 then "-" else ""
    if x.isInf then sign ++ "inf"
    else sign ++ toString (tenthsOf x / 10) ++ "." ++ toString (tenthsOf x % 10)

end CampaignConsole.Text
