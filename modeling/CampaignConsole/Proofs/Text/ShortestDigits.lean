import CampaignConsole.Text.Shortest
import Mathlib.Algebra.Order.Field.Power
import Mathlib.Tactic.Linarith
import Mathlib.Tactic.Positivity
import Mathlib.Tactic.Ring

/-!
# The shortest decimal stays inside the rounding interval

`shortest_mem`: the decimal that is written for a finite double lies between the ends of the reals
that round to this double.  The search for it stops at the first grid with a hit, and a grid whose
steps are no longer than a quarter of a last place has one (`isSome_nearest?`); within twenty grids
from where the search starts there is such a grid (`step_lastGrid`).
-/

namespace CampaignConsole.Text

/-- The number that scaled digits stand for. -/
def ScaledDigits.value (s : ScaledDigits) : ℚ :=
  s.digits * 10 ^ s.power

namespace RoundingInterval

/-! ## Powers without a sign -/

theorem upward_pos {base : Nat} (positive : 0 < base) (power : Int) : 0 < upward base power :=
  Nat.pow_pos positive

/-- A power is the quotient of two powers without a sign. -/
theorem upward_eq {base : Nat} (positive : 0 < base) (power : Int) :
    (upward base power : ℚ) = (base : ℚ) ^ power * upward base (-power) := by
  have nonzero : (base : ℚ) ≠ 0 := by exact_mod_cast positive.ne'
  have cast (power : Int) : (upward base power : ℚ) = (base : ℚ) ^ (power.toNat : Int) := by
    rw [zpow_natCast]
    exact Nat.cast_pow base _
  rw [cast, cast, ← zpow_add₀ nonzero]
  congr 1
  omega

section

variable (i : RoundingInterval) (power : Int)

theorem step_pos : 0 < i.step power :=
  Nat.mul_pos (upward_pos (by decide) _) (upward_pos (by decide) _)

theorem quarter_pos : 0 < i.quarter power :=
  Nat.mul_pos (upward_pos (by decide) _) (upward_pos (by decide) _)

/-- Steps and quarters have one scale. -/
theorem exists_scale : ∃ scale : ℚ, 0 < scale ∧ (i.step power : ℚ) = 10 ^ power * scale ∧
    (i.quarter power : ℚ) = 2 ^ i.power * scale := by
  have scale : (0 : ℚ) < upward 10 (-power) * upward 2 (-i.power) := by
    have ten := upward_pos (show 0 < 10 by decide) (-power)
    have two := upward_pos (show 0 < 2 by decide) (-i.power)
    positivity
  have ten := upward_eq (show 0 < 10 by decide) power
  have two := upward_eq (show 0 < 2 by decide) i.power
  refine ⟨_, scale, ?_, ?_⟩
  · rw [step, Nat.cast_mul, ten]
    push_cast
    ring
  · rw [quarter, Nat.cast_mul, two]
    push_cast
    ring

end

variable {i : RoundingInterval} {power : Int}

/-- Steps compare with quarters as the powers of ten and two do. -/
theorem step_le_quarter_iff (n k : Nat) :
    n * i.step power ≤ k * i.quarter power ↔ (n : ℚ) * 10 ^ power ≤ k * 2 ^ i.power := by
  obtain ⟨scale, positive, step, quarter⟩ := exists_scale i power
  rw [← Nat.cast_le (α := ℚ), Nat.cast_mul, Nat.cast_mul, step, quarter, ← mul_assoc, ← mul_assoc,
    mul_le_mul_iff_left₀ positive]

theorem quarter_le_step_iff (k n : Nat) :
    k * i.quarter power ≤ n * i.step power ↔ (k : ℚ) * 2 ^ i.power ≤ n * 10 ^ power := by
  obtain ⟨scale, positive, step, quarter⟩ := exists_scale i power
  rw [← Nat.cast_le (α := ℚ), Nat.cast_mul, Nat.cast_mul, step, quarter, ← mul_assoc, ← mul_assoc,
    mul_le_mul_iff_left₀ positive]

/-! ## The search -/

theorem bounds_of_holds {n : Nat} (hit : i.holds power n = true) :
    i.low * i.quarter power ≤ n * i.step power ∧ n * i.step power ≤ i.high * i.quarter power := by
  simp only [holds] at hit
  split at hit <;> rw [Bool.and_eq_true, decide_eq_true_eq, decide_eq_true_eq] at hit
  · exact hit
  · exact ⟨hit.1.le, hit.2.le⟩

/-- On a grid whose steps are no longer than a quarter, the neighbour below is in the interval. -/
theorem holds_below (above : i.low < i.size) (below : i.size < i.high)
    (fine : i.step power ≤ i.quarter power) :
    i.holds power (i.size * i.quarter power / i.step power) = true := by
  have quarter := quarter_pos i power
  have parts := Nat.div_add_mod' (i.size * i.quarter power) (i.step power)
  have rest := Nat.mod_lt (i.size * i.quarter power) (step_pos i power)
  have lower : (i.low + 1) * i.quarter power ≤ i.size * i.quarter power :=
    Nat.mul_le_mul_right _ above
  have upper : i.size * i.quarter power < i.high * i.quarter power :=
    Nat.mul_lt_mul_of_pos_right below quarter
  rw [Nat.add_mul, one_mul] at lower
  simp only [holds]
  split <;> rw [Bool.and_eq_true, decide_eq_true_eq, decide_eq_true_eq] <;> omega

theorem isSome_nearest? (above : i.low < i.size) (below : i.size < i.high)
    (fine : i.step power ≤ i.quarter power) : (i.nearest? power).isSome := by
  have hit := holds_below above below fine
  unfold nearest?
  dsimp only
  rw [hit]
  cases i.holds power (i.size * i.quarter power / i.step power + 1) with
  | false => rfl
  | true =>
      dsimp only
      split <;> rfl

/-- A search that has a hit within its steps ends at one. -/
theorem nearest?_coarsest {steps k : Nat} (within : k < steps)
    (hit : (i.nearest? (power - k)).isSome) :
    i.nearest? (i.coarsest steps power).power = some (i.coarsest steps power).digits := by
  induction steps generalizing power k with
  | zero => cases within
  | succ steps ih =>
      rw [coarsest]
      rcases found : i.nearest? power with _ | digits
      · dsimp only
        cases k with
        | zero =>
            rw [Nat.cast_zero, sub_zero, found] at hit
            cases hit
        | succ k =>
            have next : power - ((k + 1 : Nat) : Int) = power - 1 - k := by omega
            rw [next] at hit
            exact ih (by omega) hit
      · exact found

end RoundingInterval

/-! ## Doubles -/

section

open Float.Model Float.Model.UnpackedFloat

variable {bits : BitVec Format.binary64.numBits}

theorem unpackExponent_toNat : (unpackExponent bits).toNat = bits.toNat / 2 ^ 52 % 2048 := by
  rw [unpackExponent, BitVec.toNat_cast, BitVec.extractLsb_toNat, Nat.shiftRight_eq_div_pow]
  rfl

theorem unpackMantissa_toNat : (unpackMantissa bits).toNat = bits.toNat % 2 ^ 52 := by
  rw [unpackMantissa, BitVec.toNat_cast, BitVec.extractLsb_toNat, Nat.shiftRight_zero]
  rfl

/-- Only doubles that are not finite have the greatest exponent. -/
theorem exponent_of_isFinite
    (finite : (UnpackedFloat.unpack Format.binary64 bits).isFinite = true) :
    bits.toNat / 2 ^ 52 % 2048 < 2047 := by
  have notTop : unpackExponent bits ≠ -1#11 := by
    intro top
    unfold UnpackedFloat.unpack at finite
    dsimp only at finite
    rw [if_pos top] at finite
    split at finite <;> cases finite
  have different : (unpackExponent bits).toNat ≠ 2047 :=
    fun same => notTop (BitVec.eq_of_toNat_eq same)
  have small := (unpackExponent bits).isLt
  change (unpackExponent bits).toNat < 2048 at small
  rw [unpackExponent_toNat] at different small
  omega

/-- Without a mantissa, the least exponent is the one of zero. -/
theorem unpack_eq_zero (bits : BitVec Format.binary64.numBits)
    (exponent : bits.toNat / 2 ^ 52 % 2048 = 0)
    (mantissa : bits.toNat % 2 ^ 52 = 0) :
    UnpackedFloat.unpack Format.binary64 bits = .zero (Sign.ofBitVec (unpackSign bits)) := by
  have bottom : unpackExponent bits = 0#11 :=
    BitVec.eq_of_toNat_eq (unpackExponent_toNat.trans exponent)
  have empty : unpackMantissa bits = 0#52 :=
    BitVec.eq_of_toNat_eq (unpackMantissa_toNat.trans mantissa)
  have notTop : unpackExponent bits ≠ -1#11 := by
    rw [bottom]
    decide
  unfold UnpackedFloat.unpack
  dsimp only
  rw [if_neg notTop, if_pos bottom, dif_pos empty]

end

section

variable {x : Float}

theorem mantissaAndPower_eq : mantissaAndPower x =
    if x.toBits.toNat / 2 ^ 52 % 2048 = 0 then (x.toBits.toNat % 2 ^ 52, -1074)
    else
      (x.toBits.toNat % 2 ^ 52 + 2 ^ 52, ((x.toBits.toNat / 2 ^ 52 % 2048 : Nat) : Int) - 1075) :=
  rfl

theorem mantissaAndPower_bounds (finite : x.isFinite = true) :
    (mantissaAndPower x).1 < 2 ^ 53 ∧ -1074 ≤ (mantissaAndPower x).2 ∧
      (mantissaAndPower x).2 ≤ 971 := by
  have exponent : x.toBits.toNat / 2 ^ 52 % 2048 < 2047 := exponent_of_isFinite finite
  have mantissa := Nat.mod_lt x.toBits.toNat (Nat.two_pow_pos 52)
  rw [mantissaAndPower_eq]
  split <;> dsimp only <;> omega

/-- Only zero has no mantissa. -/
theorem mantissa_pos (nonzero : (x == 0.0) = false) : 0 < (mantissaAndPower x).1 := by
  by_contra missing
  rw [mantissaAndPower_eq] at missing
  split at missing
  · rename_i exponent
    have mantissa : x.toBits.toNat % 2 ^ 52 = 0 := by
      dsimp only at missing
      omega
    have unpacked : x.toModel.unpack = .zero _ :=
      unpack_eq_zero x.toModel.toBits.toBitVec exponent mantissa
    have zero : (0.0 : Float).toModel.unpack = .zero .positive := by
      have bits : (0.0 : Float).toModel.toBits = 0 := by decide +kernel
      rw [Float.Model.unpack, bits]
      rfl
    change x.toModel.unpack.beq (0.0 : Float).toModel.unpack = false at nonzero
    rw [unpacked, zero] at nonzero
    cases nonzero
  · dsimp only at missing
    omega

/-- The grid nineteen below the one that the search of the longest mantissa starts with, by the
power of two of a quarter. -/
def finestGrid (power : Int) : Int :=
  (power + 55) * 30103 / 100000 + 1 - 19

/-- There, a step is no longer than a quarter of a last place. -/
theorem step_finestGrid {i : RoundingInterval} (least : -1076 ≤ i.power)
    (greatest : i.power ≤ 969) : i.step (finestGrid i.power) ≤ i.quarter (finestGrid i.power) := by
  have every : ∀ k < 2046,
      RoundingInterval.upward 10 (finestGrid (-1076 + (k : Nat))) *
          RoundingInterval.upward 2 (-(-1076 + (k : Nat))) ≤
        RoundingInterval.upward 2 (-1076 + (k : Nat)) *
          RoundingInterval.upward 10 (-finestGrid (-1076 + (k : Nat))) := by
    decide +kernel
  obtain ⟨k, same⟩ := Int.le.dest least
  have longest := every k (by omega)
  rw [same] at longest
  exact longest

/-- A shorter mantissa starts its search on a finer grid. -/
theorem step_lastGrid {i : RoundingInterval} {m : Nat} (short : m < 2 ^ 53)
    (least : -1076 ≤ i.power) (greatest : i.power ≤ 969) :
    i.step (((m.log2 : Int) + (i.power + 2) + 1) * 30103 / 100000 + 1 - 19) ≤
      i.quarter (((m.log2 : Int) + (i.power + 2) + 1) * 30103 / 100000 + 1 - 19) := by
  have bits : m.log2 < 53 := by
    by_cases zero : m = 0
    · rw [zero]
      decide
    · exact (Nat.log2_lt zero).2 short
  have finer : ((m.log2 : Int) + (i.power + 2) + 1) * 30103 / 100000 + 1 - 19 ≤
      finestGrid i.power := by
    unfold finestGrid
    omega
  have longest := step_finestGrid least greatest
  rw [← one_mul (i.step _), ← one_mul (i.quarter _),
    RoundingInterval.step_le_quarter_iff] at longest ⊢
  exact le_trans (mul_le_mul_of_nonneg_left (zpow_le_zpow_right₀ (by norm_num) finer) (by norm_num))
    longest

/-- The interval of a double reaches down by one or two quarters. -/
theorem low_ofDouble (x : Float) :
    4 * (mantissaAndPower x).1 - 2 ≤ (RoundingInterval.ofDouble x).low ∧
      (RoundingInterval.ofDouble x).low ≤ 4 * (mantissaAndPower x).1 - 1 := by
  have low : (RoundingInterval.ofDouble x).low =
      if (mantissaAndPower x).1 = Nat.pow 2 52 ∧ -1074 < (mantissaAndPower x).2 then
        4 * (mantissaAndPower x).1 - 1
      else 4 * (mantissaAndPower x).1 - 2 := rfl
  rw [low]
  split <;> omega

/-- **The shortest decimal stays inside the rounding interval.**  What is written for a finite
double above zero lies between the ends of the reals that round to it. -/
theorem shortest_mem (finite : x.isFinite = true) (nonzero : (x == 0.0) = false) :
    let i := RoundingInterval.ofDouble x
    i.low * 2 ^ i.power ≤ (shortest x).value ∧ (shortest x).value ≤ i.high * 2 ^ i.power := by
  intro i
  obtain ⟨short, least, greatest⟩ := mantissaAndPower_bounds finite
  have positive := mantissa_pos nonzero
  have low : i.low ≤ 4 * (mantissaAndPower x).1 - 1 := (low_ofDouble x).2
  have size : i.size = 4 * (mantissaAndPower x).1 := rfl
  have high : i.high = 4 * (mantissaAndPower x).1 + 2 := rfl
  have power : i.power = (mantissaAndPower x).2 - 2 := rfl
  have fine := step_lastGrid (i := i) short (by omega) (by omega)
  rw [power, sub_add_cancel] at fine
  have hit := RoundingInterval.nearest?_coarsest (by decide : 19 < 20)
    (RoundingInterval.isSome_nearest? (by omega) (by omega) fine)
  obtain ⟨lower, upper⟩ := RoundingInterval.bounds_of_holds
    (RoundingInterval.holds_of_nearest? hit)
  exact ⟨(RoundingInterval.quarter_le_step_iff _ _).1 lower,
    (RoundingInterval.step_le_quarter_iff _ _).1 upper⟩

theorem shortest_congr {y : Float} (same : mantissaAndPower x = mantissaAndPower y) :
    shortest x = shortest y := by
  unfold shortest RoundingInterval.ofDouble
  rw [same]

theorem shortest_digits_pos (finite : x.isFinite = true) (nonzero : (x == 0.0) = false) :
    0 < (shortest x).digits := by
  by_contra missing
  have empty : (shortest x).digits = 0 := Nat.eq_zero_of_not_pos missing
  obtain ⟨lower, _⟩ := shortest_mem finite nonzero
  have positive := mantissa_pos nonzero
  have low : 0 < (RoundingInterval.ofDouble x).low := by
    have := (low_ofDouble x).1
    omega
  have above : (0 : ℚ) < (RoundingInterval.ofDouble x).low *
      2 ^ (RoundingInterval.ofDouble x).power := by positivity
  rw [ScaledDigits.value, empty, Nat.cast_zero, zero_mul] at lower
  exact above.not_ge lower

end

end CampaignConsole.Text
