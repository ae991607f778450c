import CampaignConsole.Text.Decimal

/-!
The shortest decimal that stands for a double.

The reals that round to a double form an interval around it.  On the grid of the multiples of a
power of ten, the two neighbours of the double are the only candidates; the coarsest grid with a
candidate in the interval has the fewest digits, and of two candidates on it the nearer one is
taken.
-/

namespace CampaignConsole.Text

/-- A natural number times a power of ten. -/
structure ScaledDigits where
  digits : Nat
  power : Int
  deriving DecidableEq, Repr

/-- The reals that round to a finite double above zero, in quarters of its last place: its size, the
lower and the upper end, and the power of two of a quarter.  The interval reaches less far down from
a power of two, and its ends belong to it where the mantissa is even. -/
structure RoundingInterval where
  low : Nat
  size : Nat
  high : Nat
  power : Int
  closed : Bool

namespace RoundingInterval

/-- The interval of a double. -/
def ofDouble (x : Float) : RoundingInterval :=
  let (mantissa, power) := mantissaAndPower x
  let narrow := mantissa = Nat.pow 2 52 ∧ -1074 < power
  { low := if narrow then 4 * mantissa - 1 else 4 * mantissa - 2
    size := 4 * mantissa
    high := 4 * mantissa + 2
    power := power - 2
    closed := mantissa % 2 = 0 }

/-- The power of ten or two with an exponent, and 1 where the exponent is negative. -/
def upward (base : Nat) (power : Int) : Nat :=
  Nat.pow base power.toNat

/-- The length of one step on the grid of a power of ten, where a quarter has the
length `quarter`. -/
def step (i : RoundingInterval) (power : Int) : Nat :=
  upward 10 power * upward 2 (-i.power)

/-- The length of a quarter, where one step on the grid of a power of ten has the length `step`. -/
def quarter (i : RoundingInterval) (power : Int) : Nat :=
  upward 2 i.power * upward 10 (-power)

/-- Whether a multiple of a power of ten lies in the interval. -/
def holds (i : RoundingInterval) (power : Int) (n : Nat) : Bool :=
  let low := i.low * i.quarter power
  let high := i.high * i.quarter power
  let here := n * i.step power
  if i.closed then low ≤ here && here ≤ high else low < here && here < high

/-- The multiple of a power of ten in the interval that is nearest to its double, the even one of
two equally near. -/
def nearest? (i : RoundingInterval) (power : Int) : Option Nat :=
  let below := i.size * i.quarter power / i.step power
  let rest := i.size * i.quarter power % i.step power
  match i.holds power below, i.holds power (below + 1) with
  | true, false => some below
  | false, true => some (below + 1)
  | false, false => none
  | true, true =>
      if 2 * rest < i.step power ∨ (2 * rest = i.step power ∧ below % 2 = 0) then some below
      else some (below + 1)

/-- The nearest multiple lies in the interval. -/
theorem holds_of_nearest? {i : RoundingInterval} {power : Int} {n : Nat}
    (h : i.nearest? power = some n) : i.holds power n = true := by
  unfold nearest? at h
  dsimp only at h
  split at h
  · rename_i below _
    cases h; exact below
  · rename_i above
    cases h; exact above
  · cases h
  · rename_i below above
    split at h
    · cases h; exact below
    · cases h; exact above

/-- The coarsest hit among the powers of ten from `power` downwards. -/
def coarsest (i : RoundingInterval) : (steps : Nat) → (power : Int) → ScaledDigits
  | 0, power => ⟨i.size * upward 2 i.power, power⟩
  | steps + 1, power =>
      match i.nearest? power with
      | some digits => ⟨digits, power⟩
      | none => i.coarsest steps (power - 1)

end RoundingInterval

/-- The shortest decimal that stands for a finite double above zero. -/
def shortest (x : Float) : ScaledDigits :=
  let (mantissa, power) := mantissaAndPower x
  (RoundingInterval.ofDouble x).coarsest 20
    (((mantissa.log2 : Int) + power + 1) * 30103 / 100000 + 1)

end CampaignConsole.Text
