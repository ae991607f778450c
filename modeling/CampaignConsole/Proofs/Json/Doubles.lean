import CampaignConsole.Json.Members
import CampaignConsole.Proofs.Json.Integers
import Mathlib.Algebra.Order.Field.Power
import Mathlib.Tactic.Linarith
import Mathlib.Tactic.NormNum
import Mathlib.Tactic.Positivity
import Mathlib.Tactic.Ring

/-!
# How far a scaled integer is from the greatest double

A double is bounded through its unpacked form: `UpTo` says that it is zero, or has 53 bits and a
value up to a bound.  Rounding raises the bound by one part in 2^52 (`upTo_roundWithAccuracy`), and
packing keeps it below 2^1024.  So an integer times a power of ten is a double if the exact product
is three roundings away from 2^1024 (`isSome_scale?`).

For JSON, a number without exponent is a double if its whole part fits in 64 bits
(`Number.isSome_double?_of_lt`).  In particular an integer is one (`Number.isSome_double?`), so a
value that is kept whole may hold it.
-/

namespace CampaignConsole.Json

open Float.Model Float.Model.UnpackedFloat

/-! ## Bounds for unpacked doubles -/

/-- An unpacked double that is zero, or has 53 bits, no more than 52 of them after the point, and a
value up to a bound. -/
def UpTo (bound : ℚ) : UnpackedFloat → Prop
  | .zero _ => True
  | .finite _ m e _ => 2 ^ 52 ≤ m ∧ m < 2 ^ 53 ∧ -52 ≤ e ∧ (m : ℚ) * 2 ^ e ≤ bound
  | _ => False

/-- What one rounding may multiply a value by. -/
def slack : ℚ := (2 ^ 52 + 1) / 2 ^ 52

theorem one_le_slack : 1 ≤ slack := by
  unfold slack
  norm_num

theorem slack_nonneg : 0 ≤ slack :=
  zero_le_one.trans one_le_slack

/-- Roundings that are counted in natural numbers. -/
theorem mul_slack_pow_lt {a b : Nat} (k : Nat) (far : a * (2 ^ 52 + 1) ^ k < b * (2 ^ 52) ^ k) :
    (a : ℚ) * slack ^ k < b := by
  rw [slack, div_pow, ← mul_div_assoc, div_lt_iff₀ (by positivity)]
  exact_mod_cast far

theorem UpTo.isInf {bound : ℚ} {f : UnpackedFloat} (bounded : UpTo bound f) : f.isInf = false := by
  cases f with
  | infinity => exact bounded.elim
  | _ => rfl

/-! ### Rounding -/

/-- A shift to the right divides. -/
theorem mantissa_shiftRight (em : ExtendedMantissa) (k : Nat) :
    (em >>> k).mantissa = em.mantissa / 2 ^ k := by
  induction k with
  | zero => exact (Nat.div_one _).symm
  | succ k ih =>
      show (em >>> k).mantissa / 2 = _
      rw [ih, Nat.div_div_eq_div_mul, Nat.pow_succ]

theorem roundedMantissa_bounds (em : ExtendedMantissa) :
    em.mantissa ≤ em.roundedMantissa ∧ em.roundedMantissa ≤ em.mantissa + 1 := by
  obtain ⟨mantissa, round, sticky⟩ := em
  cases round <;> cases sticky <;>
    simp only [ExtendedMantissa.roundedMantissa, ExtendedMantissa.accuracy,
      Accuracy.roundToNearestEven] <;> omega

section

variable {m : Nat} {e : Int} {bound : ℚ}

/-- A long mantissa is shifted to 53 bits. -/
theorem shiftToTargetExponent_eq (long : 2 ^ 52 ≤ m) (large : 0 ≤ e + m.log2) :
    shiftToTargetExponent Format.binary64 m e .exact =
      ((⟨m, false, false⟩ : ExtendedMantissa) >>> (m.log2 - 52), e + (m.log2 - 52 : Nat)) := by
  have bits : 52 ≤ m.log2 := (Nat.le_log2 (by omega)).2 long
  have target : Format.binary64.targetExponent (totalExponent m e) - e = (m.log2 - 52 : Nat) := by
    show max (m.log2 + 1 + e - 53) (-1074 : Int) - e = _
    omega
  rw [shiftToTargetExponent, shiftToExponent, target]
  rfl

/-- What is left of a long mantissa has 53 bits and is no greater than before. -/
theorem div_log2_bounds (long : 2 ^ 52 ≤ m) :
    2 ^ 52 ≤ m / 2 ^ (m.log2 - 52) ∧ m / 2 ^ (m.log2 - 52) < 2 ^ 53 ∧
      ((m / 2 ^ (m.log2 - 52) : Nat) : ℚ) * 2 ^ (e + (m.log2 - 52 : Nat)) ≤ m * 2 ^ e := by
  have nonzero : m ≠ 0 := by omega
  have bits : 52 ≤ m.log2 := (Nat.le_log2 nonzero).2 long
  have split (k : Nat) (le : 52 ≤ k) : 2 ^ k * 2 ^ (m.log2 - 52) = 2 ^ (k + m.log2 - 52) := by
    rw [← Nat.pow_add]
    congr 1
    omega
  refine ⟨?_, ?_, ?_⟩
  · rw [Nat.le_div_iff_mul_le (Nat.two_pow_pos _), split 52 (by decide), Nat.add_sub_cancel_left]
    exact Nat.log2_self_le nonzero
  · rw [Nat.div_lt_iff_lt_mul (Nat.two_pow_pos _), split 53 (by decide)]
    have next : 53 + m.log2 - 52 = m.log2 + 1 := by omega
    rw [next]
    exact Nat.lt_log2_self
  · rw [zpow_add₀ two_ne_zero, zpow_natCast, mul_comm ((2 : ℚ) ^ e), ← mul_assoc]
    apply mul_le_mul_of_nonneg_right _ (by positivity)
    exact_mod_cast Nat.div_mul_le_self m _

/-- Rounding raises a bound by one part in 2^52. -/
theorem upTo_roundWithAccuracy (sign : Sign) (long : 2 ^ 52 ≤ m) (large : 0 ≤ e + m.log2)
    (value : (m : ℚ) * 2 ^ e ≤ bound) :
    UpTo (bound * slack) (roundWithAccuracy Format.binary64 sign m e .exact) := by
  obtain ⟨kept, short, smaller⟩ := div_log2_bounds (e := e) long
  have bits : 52 ≤ m.log2 := (Nat.le_log2 (by omega)).2 long
  have rounding := mantissa_shiftRight ⟨m, false, false⟩ (m.log2 - 52)
  obtain ⟨least, most⟩ := roundedMantissa_bounds ((⟨m, false, false⟩ : ExtendedMantissa) >>>
    (m.log2 - 52))
  unfold roundWithAccuracy
  rw [shiftToTargetExponent_eq long large]
  dsimp only at rounding ⊢
  rw [rounding] at least most
  generalize ((⟨m, false, false⟩ : ExtendedMantissa) >>> (m.log2 - 52)).roundedMantissa = rounded
    at least most ⊢
  generalize m / 2 ^ (m.log2 - 52) = q at *
  generalize first : e + ((m.log2 - 52 : Nat) : Int) = e₁ at *
  have stillLong : 2 ^ 52 ≤ rounded := by omega
  have atLeast : 52 ≤ rounded.log2 := (Nat.le_log2 (by omega)).2 stillLong
  rw [shiftToTargetExponent_eq stillLong (by omega)]
  dsimp only
  rw [mantissa_shiftRight]
  obtain ⟨kept', short', smaller'⟩ := div_log2_bounds (e := e₁) stillLong
  dsimp only
  rw [dif_neg (by omega)]
  refine ⟨kept', short', by omega, smaller'.trans ?_⟩
  have power : (0 : ℚ) < 2 ^ e₁ := by positivity
  have part : (rounded : ℚ) ≤ q * slack := by
    have most : (rounded : ℚ) ≤ q + 1 := by exact_mod_cast most
    have kept : (2 : ℚ) ^ 52 ≤ q := by exact_mod_cast kept
    rw [slack, ← mul_div_assoc, le_div_iff₀ (by positivity)]
    linarith
  calc (rounded : ℚ) * 2 ^ e₁ ≤ q * slack * 2 ^ e₁ := mul_le_mul_of_nonneg_right part power.le
    _ = q * 2 ^ e₁ * slack := by ring
    _ ≤ bound * slack := mul_le_mul_of_nonneg_right (smaller.trans value) slack_nonneg

end

/-! ### Packing -/

/-- What is unpacked has 53 bits, unless its exponent is the least or the greatest one. -/
theorem upTo_unpack {bits : BitVec Format.binary64.numBits} {bound : ℚ}
    (least : 1023 ≤ (unpackExponent bits).toNat) (finite : (unpackExponent bits).toNat < 2047)
    (value : ((2 ^ 52 + (unpackMantissa bits).toNat : Nat) : ℚ) *
      2 ^ (((unpackExponent bits).toNat : Int) - 1075) ≤ bound) :
    UpTo bound (UnpackedFloat.unpack Format.binary64 bits) := by
  have notTop : unpackExponent bits ≠ -1#11 := by
    intro top
    rw [top] at finite
    exact absurd finite (by decide)
  have notBottom : unpackExponent bits ≠ 0#11 := by
    intro bottom
    rw [bottom] at least
    exact absurd least (by decide)
  have joined : (1#1 ++ unpackMantissa bits).toNat = 2 ^ 52 + (unpackMantissa bits).toNat := by
    rw [BitVec.toNat_append, ← Nat.shiftLeft_add_eq_or_of_lt (unpackMantissa bits).isLt]
    rfl
  unfold UnpackedFloat.unpack
  dsimp only
  rw [if_neg notTop, if_neg notBottom]
  have short := (1#1 ++ unpackMantissa bits).isLt
  have normal : (-52 : Int) ≤ (unpackExponent bits).toNat - 1075 := by omega
  rw [← joined] at value
  have long : 2 ^ 52 ≤ (1#1 ++ unpackMantissa bits).toNat := by
    rw [joined]
    exact Nat.le_add_right _ _
  exact ⟨long, short, normal, value⟩

/-- Packing keeps what is less than 2^1024. -/
theorem upTo_unpack_pack {f : UnpackedFloat} {bound : ℚ} (bounded : UpTo bound f)
    (small : bound < 2 ^ 1024) : UpTo bound (Float.Model.pack f).unpack := by
  match f, bounded with
  | .zero sign, _ => cases sign <;> trivial
  | .finite sign m e positive, ⟨long, short, normal, value⟩ =>
      have low : e < 972 := by
        have power : (2 : ℚ) ^ (52 + e) < 2 ^ (1024 : Int) := by
          have long : (2 : ℚ) ^ 52 ≤ m := by exact_mod_cast long
          calc (2 : ℚ) ^ (52 + e) = 2 ^ 52 * 2 ^ e := by rw [zpow_add₀ two_ne_zero]; rfl
            _ ≤ m * 2 ^ e := mul_le_mul_of_nonneg_right long (by positivity)
            _ < 2 ^ (1024 : Int) := value.trans_lt small
        have := (zpow_lt_zpow_iff_right₀ one_lt_two).1 power
        omega
      have biased : (e + (Format.binary64.exponentBias : Int) +
          Format.binary64.mantissaBitsWithoutImplicit).toNat = (e + 1075).toNat := by
        have bias : (Format.binary64.exponentBias : Int) = 1023 := rfl
        have bits : (Format.binary64.mantissaBitsWithoutImplicit : Int) = 52 := rfl
        omega
      have limited : ¬ 2 ^ Format.binary64.exponentBits ≤ (e + 1075).toNat + 1 := by
        show ¬ 2 ^ 11 ≤ _
        omega
      have full : m.log2 + 1 = Format.binary64.mantissaBits := by
        rw [(Nat.log2_eq_iff (by omega)).2 ⟨long, short⟩]
        rfl
      have exponent : (BitVec.ofNat 11 (e + 1075).toNat).toNat = (e + 1075).toNat :=
        Nat.mod_eq_of_lt (by omega)
      have mantissa : 2 ^ 52 + (BitVec.ofNat 52 m).toNat = m := by
        rw [BitVec.toNat_ofNat]
        omega
      have unbiased : ((e + 1075).toNat : Int) - 1075 = e := by omega
      show UpTo bound (UnpackedFloat.unpack Format.binary64
        (UnpackedFloat.pack Format.binary64 (.finite sign m e positive)))
      unfold UnpackedFloat.pack
      dsimp only
      rw [biased, if_neg limited, if_pos full]
      apply upTo_unpack
      · rw [unpackExponent_packComponents, exponent]
        omega
      · rw [unpackExponent_packComponents, exponent]
        omega
      · rw [unpackExponent_packComponents, unpackMantissa_packComponents, exponent, mantissa,
          unbiased]
        exact value

/-! ### Integers, products and powers of ten -/

theorem upTo_ofNat (n : Nat) : UpTo (n * slack) (UnpackedFloat.ofNat Format.binary64 n) := by
  by_cases zero : n = 0
  · subst zero
    trivial
  have taken : UnpackedFloat.ofNat Format.binary64 n =
      UnpackedFloat.round Format.binary64 .positive n 0 := by
    have positive : compare (n : Int) 0 = .gt := by
      rw [Int.compare_eq_gt]
      omega
    rw [UnpackedFloat.ofNat, UnpackedFloat.ofInt, UnpackedFloat.normalize, positive]
    rfl
  have target : (0 - Format.binary64.targetExponent (totalExponent n 0)).toNat = 52 - n.log2 := by
    show (0 - max ((n.log2 : Int) + 1 + 0 - 53) (-1074)).toNat = _
    omega
  rw [taken, UnpackedFloat.round, decreaseExponent, target, Nat.shiftLeft_eq]
  generalize shifted : 52 - n.log2 = shift
  have log : 2 ^ n.log2 ≤ n := Nat.log2_self_le zero
  have long : 2 ^ 52 ≤ n * 2 ^ shift :=
    calc 2 ^ 52 ≤ 2 ^ (n.log2 + shift) := Nat.pow_le_pow_right (by decide) (by omega)
      _ = 2 ^ n.log2 * 2 ^ shift := Nat.pow_add ..
      _ ≤ n * 2 ^ shift := Nat.mul_le_mul_right _ log
  have bits : shift ≤ (n * 2 ^ shift).log2 :=
    (Nat.le_log2 (by omega)).2 (Nat.le_mul_of_pos_left _ (by omega))
  apply upTo_roundWithAccuracy .positive long (by omega)
  have unshifted : (2 : ℚ) ^ shift * 2 ^ ((0 : Int) - shift) = 1 := by
    rw [zero_sub, zpow_neg, zpow_natCast]
    exact mul_inv_cancel₀ (by positivity)
  push_cast
  rw [mul_assoc, unshifted, mul_one]

theorem upTo_mul {f g : UnpackedFloat} {b c : ℚ} (left : UpTo b f) (right : UpTo c g) :
    UpTo (b * c * slack) (UnpackedFloat.mul Format.binary64 f g) := by
  match f, g, left, right with
  | .zero _, .zero _, _, _ => trivial
  | .zero _, .finite .., _, _ => trivial
  | .finite .., .zero _, _, _ => trivial
  | .finite s m e _, .finite s' m' e' _, ⟨long, _, normal, value⟩, ⟨long', _, normal', value'⟩ =>
      have longer : 2 ^ 52 * 2 ^ 52 ≤ m * m' := Nat.mul_le_mul long long'
      have bits : 104 ≤ (m * m').log2 := (Nat.le_log2 (by omega)).2 longer
      apply upTo_roundWithAccuracy (s * s') (by omega) (by omega)
      calc ((m * m' : Nat) : ℚ) * 2 ^ (e + e') = (m * 2 ^ e) * (m' * 2 ^ e') := by
            rw [zpow_add₀ two_ne_zero]
            push_cast
            ring
        _ ≤ b * c := mul_le_mul value value' (by positivity) (value.trans' (by positivity))

/-- A power of ten that doubles can hold is the one of the model, also where a table has it. -/
theorem toModel_ofScientific (power : Nat) :
    (Float.ofScientific 1 false power).toModel = Float.Model.ofScientific 1 power := by
  by_cases small : power < 23
  · have tabled : ∀ p < 23,
        (Float.ofScientific 1 false p).toModel = Float.Model.ofScientific 1 p := by decide +kernel
    exact tabled power small
  · unfold Float.ofScientific
    rw [dif_neg (by omega)]
    rfl

theorem upTo_ofScientific {power : Nat} (small : power ≤ 308) :
    UpTo (10 ^ power * slack) (UnpackedFloat.ofScientific Format.binary64 1 power) := by
  have notHuge : ¬ (power : Int) > 2 ^ Format.binary64.exponentBits := by
    show ¬ (power : Int) > 2048
    omega
  have notTiny : ¬ (power : Int) <
      -((2 ^ Format.binary64.exponentBits : Int) + (1 : Nat).log2) := by
    show ¬ (power : Int) < -2048
    omega
  have positive : 1 ≤ 10 ^ power := Nat.pow_pos (by decide)
  have long : 2 ^ 53 ≤ 2 ^ 53 * 10 ^ power := Nat.le_mul_of_pos_right _ positive
  have bits : 53 ≤ (2 ^ 53 * 10 ^ power).log2 := (Nat.le_log2 (by omega)).2 long
  have value : ((2 ^ 53 * 10 ^ power : Nat) : ℚ) * 2 ^ (-53 + 0 : Int) ≤ 10 ^ power := by
    have shifted : (2 : ℚ) ^ 53 * 2 ^ (-53 + 0 : Int) = 1 := by norm_num
    rw [Nat.cast_mul, Nat.cast_pow, Nat.cast_pow, mul_right_comm, Nat.cast_ofNat, shifted, one_mul]
    exact le_refl _
  have shifted : 1 <<< Format.binary64.mantissaBits = 2 ^ 53 := by decide
  have bitsAfterPoint : (Format.binary64.mantissaBits : Int) = 53 := rfl
  unfold UnpackedFloat.ofScientific UnpackedFloat.mul
  rw [dif_neg (by decide), if_neg notHuge, if_neg notTiny, if_pos (by omega)]
  dsimp only
  rw [shifted, bitsAfterPoint, Int.toNat_natCast]
  exact upTo_roundWithAccuracy _ (by omega) (by omega) value

/-- The product of an integer and a power of ten is a finite double if it is less than 2^1024 by
more than three roundings. -/
theorem isInf_toFloat_mul_ofScientific (n : UInt64) {power : Nat} (small : power ≤ 308)
    (far : (n.toNat : ℚ) * 10 ^ power * slack ^ 3 < 2 ^ 1024) :
    (n.toFloat * Float.ofScientific 1 false power).isInf = false := by
  have top : ((2 ^ 1024 : Nat) : ℚ) = 2 ^ 1024 := Nat.cast_pow 2 1024
  have integer : UpTo (n.toNat * slack) n.toFloat.toModel.unpack := by
    have below : n.toNat * (2 ^ 52 + 1) ^ 1 < 2 ^ 1024 * (2 ^ 52) ^ 1 :=
      (Nat.mul_lt_mul_of_pos_right n.toNat_lt (by decide)).trans (by decide +kernel)
    have below := mul_slack_pow_lt 1 below
    rw [top, pow_one] at below
    exact upTo_unpack_pack (upTo_ofNat n.toNat) below
  have scale : UpTo (10 ^ power * slack) (Float.ofScientific 1 false power).toModel.unpack := by
    have below : ∀ p ≤ 308, 10 ^ p * (2 ^ 52 + 1) ^ 1 < 2 ^ 1024 * (2 ^ 52) ^ 1 := by
      decide +kernel
    have below := mul_slack_pow_lt 1 (below power small)
    rw [top, pow_one, Nat.cast_pow, Nat.cast_ofNat] at below
    rw [toModel_ofScientific]
    exact upTo_unpack_pack (upTo_ofScientific small) below
  have roundings : (n.toNat : ℚ) * slack * (10 ^ power * slack) * slack =
      n.toNat * 10 ^ power * slack ^ 3 := by
    ring
  rw [← roundings] at far
  exact (upTo_unpack_pack (upTo_mul integer scale) far).isInf

/-- Below 2^1024, a power of ten is small. -/
theorem power_lt_of_lt {n : Nat} {power : Int} (positive : 0 < n)
    (far : (n : ℚ) * 10 ^ power * slack ^ 3 < 2 ^ 1024) : power < 309 := by
  by_contra large
  have huge : (2 : ℚ) ^ 1024 ≤ 10 ^ (309 : Int) := by
    have huge : (((2 ^ 1024 : Nat) : ℚ)) ≤ ((10 ^ 309 : Nat) : ℚ) :=
      Nat.cast_le.2 (by decide +kernel)
    rw [Nat.cast_pow, Nat.cast_pow] at huge
    exact huge
  have grown : (10 : ℚ) ^ (309 : Int) ≤ 10 ^ power := zpow_le_zpow_right₀ (by norm_num) (by omega)
  have one : (1 : ℚ) ≤ n := by exact_mod_cast positive
  have rounded : (1 : ℚ) ≤ slack ^ 3 := one_le_pow₀ one_le_slack
  have product : (10 : ℚ) ^ power ≤ n * 10 ^ power * slack ^ 3 :=
    (le_mul_of_one_le_left (by positivity) one).trans
      (le_mul_of_one_le_right (by positivity) rounded)
  exact far.not_ge (huge.trans (grown.trans product))

/-- An integer times a power of ten is a double if it is less than 2^1024 by more than three
roundings. -/
theorem isSome_scale? {n : Nat} (fits : n < UInt64.size) {power : Int}
    (far : (n : ℚ) * 10 ^ power * slack ^ 3 < 2 ^ 1024) :
    (Number.scale? n.toUInt64.toFloat power).isSome := by
  have same : n.toUInt64.toNat = n := UInt64.toNat_ofNat_of_lt fits
  cases power with
  | negSucc power => rfl
  | ofNat power =>
      rw [Int.ofNat_eq_natCast] at far
      rw [Number.scale?, Number.scaleUp?]
      split
      · rename_i small
        rw [zpow_natCast, ← same] at far
        dsimp only
        rw [isInf_toFloat_mul_ofScientific n.toUInt64 small far]
        rfl
      · rename_i large
        have zero : n = 0 := by
          by_contra nonzero
          have := power_lt_of_lt (Nat.pos_of_ne_zero nonzero) far
          omega
        have equal : ((0 : Nat).toUInt64.toFloat == 0.0) = true := by decide +kernel
        rw [zero, if_pos equal]
        rfl

/-- An integer divided by a power of ten is a double. -/
theorem isSome_scale?_of_nonpos {n : Nat} (fits : n < UInt64.size) {power : Int}
    (down : power ≤ 0) : (Number.scale? n.toUInt64.toFloat power).isSome := by
  apply isSome_scale? fits
  have size : UInt64.size * (2 ^ 52 + 1) ^ 3 < 2 ^ 1024 * (2 ^ 52) ^ 3 := by decide +kernel
  have far := mul_slack_pow_lt 3 ((Nat.mul_lt_mul_of_pos_right fits (by decide)).trans size)
  rw [Nat.cast_pow, Nat.cast_ofNat] at far
  have less : (n : ℚ) * 10 ^ power ≤ n :=
    mul_le_of_le_one_right (Nat.cast_nonneg n) (zpow_le_one_of_nonpos₀ (by norm_num) down)
  exact (mul_le_mul_of_nonneg_right less (pow_nonneg slack_nonneg 3)).trans_lt far

/-! ## Numbers that are doubles -/

theorem le_foldl_digits (ds : List Nat) (n : Nat) :
    n * 10 ^ ds.length ≤ ds.foldl (fun n d => n * 10 + d) n := by
  induction ds generalizing n with
  | nil => exact (Nat.mul_one n).le
  | cons d ds ih =>
      have rest := ih (n * 10 + d)
      rw [List.foldl_cons, List.length_cons, Nat.pow_succ', ← Nat.mul_assoc]
      exact (Nat.mul_le_mul_right _ (Nat.le_add_right _ d)).trans rest

namespace Number

/-- Digits that fit in 64 bits are all taken. -/
theorem gather_of_lt {ds : List Nat} {n : Nat}
    (small : ds.foldl (fun n d => n * 10 + d) n < UInt64.size) :
    gather n ds = (ds.foldl (fun n d => n * 10 + d) n, []) := by
  induction ds generalizing n with
  | nil => rfl
  | cons d ds ih =>
      have least := le_foldl_digits ds (n * 10 + d)
      have tens : 0 < 10 ^ ds.length := Nat.pow_pos (by decide)
      have more := Nat.le_mul_of_pos_right (n * 10 + d) tens
      rw [List.foldl_cons] at small ⊢
      rw [gather, if_pos (by omega)]
      exact ih small

/-- What is taken of the digits fits in 64 bits, and the digits left over only raise it. -/
theorem gather_bounds (ds : List Nat) {n : Nat} (fits : n < UInt64.size) :
    (gather n ds).1 < UInt64.size ∧ (gather n ds).2.length ≤ ds.length ∧
      (gather n ds).1 * 10 ^ (gather n ds).2.length ≤ ds.foldl (fun n d => n * 10 + d) n := by
  induction ds generalizing n with
  | nil => exact ⟨fits, Nat.le_refl 0, (Nat.mul_one n).le⟩
  | cons d ds ih =>
      rw [gather]
      split
      · rename_i small
        obtain ⟨fits, shorter, least⟩ := ih small
        exact ⟨fits, Nat.le_succ_of_le shorter, least⟩
      · exact ⟨fits, Nat.le_refl _, le_foldl_digits (d :: ds) n⟩

/-- A number without exponent is a double if its whole part fits in 64 bits. -/
theorem isSome_double?_of_lt {n : Number} (plain : n.exponent = none)
    (small : digitsValue n.whole < UInt64.size) : n.double?.isSome := by
  have whole : gather 0 n.whole = (digitsValue n.whole, []) := gather_of_lt small
  obtain ⟨fits, shorter, _⟩ := gather_bounds n.fraction small
  unfold double? magnitude?
  rw [whole, plain, Option.isSome_map]
  dsimp only
  exact isSome_scale?_of_nonpos fits (by rw [List.length_nil]; omega)

/-- A number that is an integer is a double too. -/
theorem isSome_double? {m : Number} {n : Int} (integer : m.integer? = some n) :
    m.double?.isSome := by
  obtain ⟨⟨_, value, _, exponent⟩, least, greatest⟩ := integer?_eq_some_iff.1 integer
  have size : UInt64.size = 2 ^ 64 := rfl
  exact isSome_double?_of_lt exponent (by omega)

end Number

end CampaignConsole.Json
