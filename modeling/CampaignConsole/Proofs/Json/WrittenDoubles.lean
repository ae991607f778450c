import CampaignConsole.Proofs.Json.Doubles
import CampaignConsole.Proofs.Json.Rendering
import CampaignConsole.Proofs.Text.ShortestDigits

/-!
# What is written for a double is a double

`Number.written_ofDouble?`: the number that writes a finite double is read as a double again, so the
writer never leaves the range of the reader.  In positional form this is so because the whole part
is short.  In exponent form the number is the shortest decimal, which lies within half of a last
place of the double, and the reader rounds three times: only for the six greatest doubles is that
not enough to stay below 2^1024, and these are computed.
-/

namespace CampaignConsole.Json.Number

variable {digits : Nat} {power : Int} (negative : Bool)

/-! ## Positional form -/

theorem foldl_digits_lt {ds : List Nat} (decimal : ∀ d ∈ ds, d < 10) (n : Nat) :
    ds.foldl (fun n d => n * 10 + d) n < (n + 1) * 10 ^ ds.length := by
  induction ds generalizing n with
  | nil => exact (Nat.mul_one (n + 1)).symm ▸ Nat.lt_succ_self n
  | cons d ds ih =>
      obtain ⟨first, others⟩ := List.forall_mem_cons.1 decimal
      have tens : n * 10 + d + 1 ≤ (n + 1) * 10 := by omega
      rw [List.foldl_cons, List.length_cons, Nat.pow_succ', ← Nat.mul_assoc]
      exact (ih others _).trans_le (Nat.mul_le_mul_right _ tens)

/-- Nineteen digits fit in 64 bits. -/
theorem digitsValue_lt_of_length {ds : List Nat} (decimal : ∀ d ∈ ds, d < 10)
    (short : ds.length ≤ 19) : digitsValue ds < UInt64.size :=
  calc digitsValue ds < (0 + 1) * 10 ^ ds.length := foldl_digits_lt decimal 0
    _ ≤ (0 + 1) * 10 ^ 19 := Nat.mul_le_mul_left _ (Nat.pow_le_pow_right (by decide) short)
    _ < UInt64.size := by decide

/-! ## Exponent form -/

/-- The first digit of a number has the power of ten that its length tells. -/
theorem pow_length_digitsOf_le (positive : 0 < digits) :
    10 ^ ((digitsOf digits).length - 1) ≤ digits := by
  have length : (digitsOf digits).length = (Nat.toDigits 10 digits).length := List.length_map _
  by_cases single : (digitsOf digits).length - 1 = 0
  · rw [single]
    exact positive
  · have longer := (Nat.length_toDigits_le_iff (n := digits) (b := 10) (by decide)
      (Nat.pos_of_ne_zero single)).not.1 (by omega)
    exact Nat.le_of_not_lt longer

/-- A number in exponent form, by the digits that are taken and those left over. -/
theorem magnitude?_ofExponent {d : Nat} (digit : d < 10) (rest : List Nat) (power : Int) :
    (ofExponent negative (d :: rest) power).magnitude? =
      if exponentLimit < power.natAbs then
        if (gather d rest).1 ≠ 0 ∧ ¬ power < 0 then none else some 0.0
      else scale? (gather d rest).1.toUInt64.toFloat
        (power - rest.length + (gather d rest).2.length) := by
  have size : UInt64.size = 2 ^ 64 := rfl
  have first : gather 0 [d] = (d, []) := by
    rw [gather, if_pos (by omega), Nat.zero_mul, Nat.zero_add, gather]
  obtain ⟨_, shorter, _⟩ := gather_bounds rest (show d < UInt64.size by omega)
  unfold magnitude? ofExponent
  dsimp only [List.take, List.drop]
  rw [first, digitsValue_digitsOf]
  dsimp only
  simp only [decide_eq_true_eq, List.length_nil]
  have total : (if power < 0 then
        ((0 : Nat) : Int) - (rest.length - (gather d rest).2.length : Nat) - power.natAbs
      else ((0 : Nat) : Int) - (rest.length - (gather d rest).2.length : Nat) + power.natAbs) =
      power - rest.length + (gather d rest).2.length := by
    split <;> omega
  rw [total]

/-- Fewer of the digits are no greater. -/
theorem far_of_le (far : (digits : ℚ) * 10 ^ power * slack ^ 3 < 2 ^ 1024) {n k : Nat}
    (le : n * 10 ^ k ≤ digits) : (n : ℚ) * 10 ^ (power + k) * slack ^ 3 < 2 ^ 1024 := by
  have le : (n : ℚ) * 10 ^ k ≤ digits := by exact_mod_cast le
  have same : (n : ℚ) * 10 ^ (power + k) = n * 10 ^ k * 10 ^ power := by
    rw [zpow_add₀ (by norm_num), zpow_natCast]
    ring
  rw [same]
  exact (mul_le_mul_of_nonneg_right (mul_le_mul_of_nonneg_right le (by positivity))
    (pow_nonneg slack_nonneg 3)).trans_lt far

/-- In exponent form, digits times a power of ten are a double if they are less than 2^1024 by more
than three roundings. -/
theorem isSome_double?_ofExponent (far : (digits : ℚ) * 10 ^ power * slack ^ 3 < 2 ^ 1024) :
    (ofExponent negative (digitsOf digits)
      ((digitsOf digits).length + power - 1)).double?.isSome := by
  have value := digitsValue_digitsOf digits
  have decimal : ∀ d ∈ digitsOf digits, d < 10 := fun d => lt_ten_of_mem_digitsOf
  have first : 0 < digits → 10 ^ ((digitsOf digits).length - 1) ≤ digits := pow_length_digitsOf_le
  obtain ⟨d, rest, split⟩ := List.exists_cons_of_length_pos (length_digitsOf_pos digits)
  rw [split] at value decimal first ⊢
  have digit : d < 10 := decimal d List.mem_cons_self
  have size : UInt64.size = 2 ^ 64 := rfl
  obtain ⟨small, _, least⟩ := gather_bounds rest (show d < UInt64.size by omega)
  have started : rest.foldl (fun n d => n * 10 + d) d = digits := by
    rw [← value, digitsValue, List.foldl_cons, Nat.zero_mul, Nat.zero_add]
  rw [started] at least
  rw [double?, Option.isSome_map, magnitude?_ofExponent negative digit]
  have exponent : (d :: rest).length + power - 1 = power + rest.length := by
    rw [List.length_cons]
    omega
  rw [exponent, add_sub_cancel_right]
  split
  · rename_i huge
    rw [if_neg]
    · rfl
    · rintro ⟨nonzero, positive⟩
      have taken := Nat.mul_pos (Nat.pos_of_ne_zero nonzero)
        (Nat.pow_pos (n := (gather d rest).2.length) (by decide : 0 < 10))
      have leading := first (taken.trans_le least)
      rw [List.length_cons, Nat.add_sub_cancel, ← Nat.one_mul (10 ^ _)] at leading
      have small := power_lt_of_lt Nat.one_pos (far_of_le far leading)
      have limit : exponentLimit = 2147483647 := rfl
      omega
  · exact isSome_scale? small (far_of_le far least)

/-! ## Every double -/

theorem lt_ten_of_mem_replicate (k : Nat) : ∀ d ∈ List.replicate k 0, d < 10 := by
  intro d member
  rw [List.eq_of_mem_replicate member]
  decide

/-- Digits times a power of ten are written as a double if they are less than 2^1024 by more than
three roundings. -/
theorem isSome_double?_ofScaled {s : Text.ScaledDigits} (far : s.value * slack ^ 3 < 2 ^ 1024) :
    (ofScaled negative s).double?.isSome := by
  have decimal : ∀ d ∈ digitsOf s.digits, d < 10 := fun d => lt_ten_of_mem_digitsOf
  unfold ofScaled
  dsimp only
  split
  · exact isSome_double?_ofExponent negative far
  split
  · have zero : digitsValue [0] < UInt64.size := by decide
    exact isSome_double?_of_lt rfl zero
  split
  · apply isSome_double?_of_lt rfl
    apply digitsValue_lt_of_length
    · exact List.forall_mem_append.2 ⟨decimal, lt_ten_of_mem_replicate _⟩
    · dsimp only
      rw [List.length_append, List.length_replicate]
      omega
  · apply isSome_double?_of_lt rfl
    apply digitsValue_lt_of_length
    · exact fun d member => decimal d (List.mem_of_mem_take member)
    · dsimp only
      rw [List.length_take]
      omega

/-- A number in positional form is written without a needless zero in front, if its whole part is
one zero or begins with another digit. -/
theorem isWritten_plain {whole fraction : List Nat} (digits : ∀ d ∈ whole ++ fraction, d < 10)
    (leading : whole = [0] ∨ whole.head?.any (· ≠ 0) = true) :
    (⟨negative, whole, fraction, none⟩ : Number).IsWritten := by
  refine ⟨fun d member => digits d (List.mem_append_left _ member), ?_, ?_,
    fun d member => digits d (List.mem_append_right _ member), nofun⟩
  · rcases leading with rfl | other
    · exact List.cons_ne_nil 0 []
    · rintro rfl
      cases other
  · rcases leading with rfl | other
    · exact fun _ => Nat.le_refl 1
    · intro zero
      rw [zero] at other
      cases other

/-- Digits are written without a needless zero in front. -/
theorem isWritten_ofScaled {s : Text.ScaledDigits} (positive : 0 < s.digits) :
    (ofScaled negative s).IsWritten := by
  have decimal : ∀ d ∈ digitsOf s.digits, d < 10 := fun d => lt_ten_of_mem_digitsOf
  obtain ⟨first, rest, split, nonzero⟩ := exists_digitsOf_eq_cons positive
  unfold ofScaled
  dsimp only
  rw [split] at decimal ⊢
  obtain ⟨digit, others⟩ := List.forall_mem_cons.1 decimal
  split
  · exact {
      whole := List.forall_mem_singleton.2 digit
      nonempty := List.cons_ne_nil _ _
      leading := fun _ => Nat.le_refl 1
      fraction := others
      exponent := by
        intro e same
        obtain rfl := Option.some.inj same
        exact ⟨digitsOf_ne_nil _, fun d => lt_ten_of_mem_digitsOf⟩ }
  split
  · apply isWritten_plain negative _ (Or.inl rfl)
    rw [List.forall_mem_append, List.forall_mem_append]
    exact ⟨by decide, lt_ten_of_mem_replicate _, decimal⟩
  split
  · apply isWritten_plain negative _ (Or.inr (by simpa using nonzero))
    rw [List.forall_mem_append, List.forall_mem_append]
    exact ⟨⟨decimal, lt_ten_of_mem_replicate _⟩, by decide⟩
  · obtain ⟨k, length⟩ : ∃ k, (((first :: rest).length : Int) + s.power).toNat = k + 1 :=
      Nat.exists_eq_succ_of_ne_zero (by omega)
    apply isWritten_plain negative
    · rw [List.take_append_drop]
      exact decimal
    · right
      rw [length]
      simpa using nonzero

section

variable {x : Float}

/-- The six greatest doubles, which three roundings might raise too far, are read again. -/
theorem isSome_double?_greatest : ∀ negative : Bool, ∀ k < 7, 0 < k →
    let greatest := Float.ofBits (0x7ff0000000000000 - k.toUInt64)
    Text.mantissaAndPower greatest = (2 ^ 53 - k, 971) ∧
      (ofScaled negative (Text.shortest greatest)).double?.isSome := by
  decide +kernel

theorem mul_zpow_le {a b : Nat} {e f : Int} (le : a ≤ b) (lower : e ≤ f) :
    (a : ℚ) * 2 ^ e ≤ b * 2 ^ f :=
  mul_le_mul (Nat.cast_le.2 le) (zpow_le_zpow_right₀ one_le_two lower) (by positivity)
    (Nat.cast_nonneg b)

/-- The upper end of the interval of every other double. -/
theorem upperEnd_le {m : Nat} {e : Int} (short : m < 2 ^ 53) (greatest : e ≤ 971)
    (other : e ≤ 970 ∨ m ≤ 2 ^ 53 - 7) :
    ((4 * m + 2 : Nat) : ℚ) * 2 ^ (e - 2) ≤
      ((2 * (4 * (2 ^ 53 - 7) + 2) : Nat) : ℚ) * 2 ^ (968 : Int) := by
  by_cases lower : e ≤ 970
  · exact mul_zpow_le (by omega) (by omega)
  · have top : (2 : ℚ) ^ (e - 2) = 2 ^ (968 : Int) * 2 := by
      rw [← zpow_add_one₀ two_ne_zero]
      congr 1
      omega
    have doubled : ((4 * m + 2 : Nat) : ℚ) * 2 ^ (e - 2) =
        ((2 * (4 * m + 2) : Nat) : ℚ) * 2 ^ (968 : Int) := by
      rw [top, Nat.cast_mul 2, Nat.cast_ofNat]
      ring
    rw [doubled]
    exact mul_zpow_le (by omega) le_rfl

/-- It is three roundings away from 2^1024, and so is the decimal that is written. -/
theorem shortest_far (finite : x.isFinite = true) (nonzero : (x == 0.0) = false)
    (other : (Text.mantissaAndPower x).2 ≤ 970 ∨ (Text.mantissaAndPower x).1 ≤ 2 ^ 53 - 7) :
    (Text.shortest x).value * slack ^ 3 < 2 ^ 1024 := by
  obtain ⟨short, _, greatest⟩ := Text.mantissaAndPower_bounds finite
  obtain ⟨_, upper⟩ := Text.shortest_mem finite nonzero
  have high : (Text.RoundingInterval.ofDouble x).high = 4 * (Text.mantissaAndPower x).1 + 2 := rfl
  have power : (Text.RoundingInterval.ofDouble x).power = (Text.mantissaAndPower x).2 - 2 := rfl
  rw [high, power] at upper
  have least := upper.trans (upperEnd_le short greatest other)
  have far := mul_slack_pow_lt (a := 2 * (4 * (2 ^ 53 - 7) + 2) * 2 ^ 968) (b := 2 ^ 1024) 3
    (by decide +kernel)
  rw [Nat.cast_pow, Nat.cast_mul _ (2 ^ 968), Nat.cast_pow, Nat.cast_ofNat,
    ← zpow_natCast _ 968] at far
  exact (mul_le_mul_of_nonneg_right least (pow_nonneg slack_nonneg 3)).trans_lt far

/-- The number that writes a double can be written, and is a double. -/
theorem written_ofDouble? {n : Number} (written : ofDouble? x = some n) :
    n.IsWritten ∧ n.double?.isSome := by
  unfold ofDouble? at written
  split at written
  · rename_i finite
    dsimp only at written
    split at written
    · cases written
      have zero : digitsValue [0] < UInt64.size := by decide
      exact ⟨isWritten_plain _ (by decide) (Or.inl rfl), isSome_double?_of_lt rfl zero⟩
    · rename_i nonzero
      cases written
      rw [Bool.not_eq_true] at nonzero
      refine ⟨isWritten_ofScaled _ (Text.shortest_digits_pos finite nonzero), ?_⟩
      by_cases other : (Text.mantissaAndPower x).2 ≤ 970 ∨ (Text.mantissaAndPower x).1 ≤ 2 ^ 53 - 7
      · exact isSome_double?_ofScaled _ (shortest_far finite nonzero other)
      · obtain ⟨short, _, greatest⟩ := Text.mantissaAndPower_bounds finite
        obtain ⟨same, isSome⟩ := isSome_double?_greatest (x.toBits.toNat / Nat.pow 2 63 == 1)
          (2 ^ 53 - (Text.mantissaAndPower x).1) (by omega) (by omega)
        rw [Text.shortest_congr]
        · exact isSome
        rw [same]
        apply Prod.ext <;> dsimp only <;> omega
  · cases written

end

end CampaignConsole.Json.Number
