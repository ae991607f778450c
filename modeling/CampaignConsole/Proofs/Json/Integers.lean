import CampaignConsole.Proofs.Json.Numbers
import Mathlib.Algebra.Order.Ring.Int

/-!
# How an integer is written

`Number.ofInt` is the number that writes an integer.  Its text is the integer in decimal
(`text_ofInt`), which is scanned as this number (`scanNumber_toString`) and read as this integer
(`integer?_ofInt`).  There is no other way to write it: a number that was scanned and is read as an
integer is the one that writes it (`eq_ofInt_of_scanNumber`).
-/

namespace CampaignConsole.Json

namespace Number

/-! ## The number that writes an integer -/

/-- The number that writes an integer. -/
def ofInt (n : Int) : Number :=
  ⟨n < 0, digitsOf n.natAbs, [], none⟩

/-- The integers of 64 bits, with or without a sign, are the ones that are read. -/
theorem integer?_eq_some_iff {m : Number} {n : Int} :
    m.integer? = some n ↔
      (m.negative = decide (n < 0) ∧ digitsValue m.whole = n.natAbs ∧ m.fraction = [] ∧
        m.exponent = none) ∧ -2 ^ 63 ≤ n ∧ n < 2 ^ 64 := by
  obtain ⟨negative, whole, fraction, exponent⟩ := m
  have size : UInt64.size = 2 ^ 64 := rfl
  unfold integer?
  split
  · rename_i notIntegral
    constructor
    · exact nofun
    · intro ⟨⟨_, _, noFraction, noExponent⟩, _⟩
      subst noFraction noExponent
      exact absurd notIntegral Bool.false_ne_true
  · rename_i integral
    simp only [isIntegral, Bool.not_eq_true, Bool.not_eq_false', Bool.and_eq_true,
      List.isEmpty_iff, Option.isNone_iff_eq_none] at integral
    obtain ⟨rfl, rfl⟩ := integral
    have power : Nat.pow 2 63 = 9223372036854775808 := rfl
    simp only [size, power]
    cases negative with
    | true =>
        rw [if_pos rfl, Option.ite_none_right_eq_some, Option.some.injEq, eq_comm (a := true),
          decide_eq_true_iff]
        simp only [and_true]
        omega
    | false =>
        rw [if_neg Bool.false_ne_true, Option.ite_none_right_eq_some, Option.some.injEq,
          eq_comm (a := false), decide_eq_false_iff_not]
        simp only [and_true]
        omega

theorem toList_toString_of_neg {n : Int} (negative : n < 0) :
    (toString n).toList = '-' :: Nat.toDigits 10 n.natAbs := by
  have abs : (-n).toNat = n.natAbs := by omega
  rw [Int.toString_eq_repr, Int.repr_eq_if, if_neg (by omega), abs, String.toList_append,
    Nat.toList_repr]
  rfl

theorem toList_toString_of_nonneg {n : Int} (positive : 0 ≤ n) :
    (toString n).toList = Nat.toDigits 10 n.natAbs := by
  have abs : n.toNat = n.natAbs := by omega
  rw [Int.toString_eq_repr, Int.repr_eq_if, if_pos positive, abs, Nat.toList_repr]

/-- The text of an integer is its decimal representation. -/
theorem text_ofInt (n : Int) : (ofInt n).text = (toString n).toList := by
  have digits := digitsText_digitsOf n.natAbs
  by_cases negative : n < 0
  · rw [toList_toString_of_neg negative]
    simp [text, ofInt, digits, negative]
  · rw [toList_toString_of_nonneg (by omega)]
    simp [text, ofInt, digits, negative]

theorem integer?_ofInt {n : Int} (least : -2 ^ 63 ≤ n) (greatest : n < 2 ^ 64) :
    (ofInt n).integer? = some n :=
  integer?_eq_some_iff.2 ⟨⟨rfl, digitsValue_digitsOf _, rfl, rfl⟩, least, greatest⟩

theorem integer?_ofNat {n : Nat} (small : n < 2 ^ 64) : (ofNat n).integer? = some (n : Int) := by
  have writes : ofNat n = ofInt n := by
    rw [ofNat, ofInt, decide_eq_false (by omega), Int.natAbs_natCast]
  rw [writes, integer?_ofInt (by omega) (by omega)]

theorem ofInt_injective {m n : Int} (same : ofInt m = ofInt n) : m = n := by
  have sign : decide (m < 0) = decide (n < 0) := congrArg negative same
  have digits : digitsOf m.natAbs = digitsOf n.natAbs := congrArg whole same
  have abs : m.natAbs = n.natAbs := by
    rw [← digitsValue_digitsOf m.natAbs, digits, digitsValue_digitsOf]
  have signs := decide_eq_decide.1 sign
  omega

end Number

/-! ## Scanning -/

theorem lt_ten_of_digit? {c : Char} {d : Nat} (digit : digit? c = some d) : d < 10 := by
  unfold digit? at digit
  split at digit
  · rename_i bounds
    cases digit
    have high : c.toNat ≤ '9'.toNat := bounds.2
    have nine : '9'.toNat = 57 := rfl
    omega
  · cases digit

theorem lt_ten_of_mem_scanDigits {cs : List Place} {d : Nat} (member : d ∈ (scanDigits cs).1) :
    d < 10 := by
  induction cs with
  | nil => cases member
  | cons p cs ih =>
      unfold scanDigits at member
      split at member
      · rename_i c rest here
        cases here
        split at member
        · rename_i first found
          rcases List.mem_cons.1 member with rfl | later
          · exact lt_ten_of_digit? found
          · exact ih later
        · cases member
      · cases member

/-- The digits of a number that was scanned: at least one, and no needless zero in front. -/
theorem digitsOf_of_scanWhole {cs rest : List Place} {whole : List Nat}
    (scanned : scanWhole cs = some (whole, rest)) :
    Number.digitsOf (digitsValue whole) = whole := by
  unfold scanWhole at scanned
  dsimp only at scanned
  split at scanned
  · cases scanned
  · rename_i kept
    cases scanned
    simp only [Bool.or_eq_true, List.isEmpty_iff, Bool.and_eq_true, beq_iff_eq, decide_eq_true_eq,
      not_or, not_and, Nat.not_lt] at kept
    exact Number.digitsOf_digitsValue (fun d => lt_ten_of_mem_scanDigits) kept.1 kept.2

/-- An integer is scanned back. -/
theorem scanNumber_toString (n : Int) {rest : List Place} (ends : EndsNumber rest) :
    scanNumber ((toString n).toList.map some ++ rest) = some (.ofInt n, rest) := by
  rw [← Number.text_ofInt]
  exact Number.scanNumber_text (Number.isWritten_digitsOf _ _) ends

/-- There is one number that writes an integer: without point and exponent, and without a needless
zero in front. -/
theorem eq_ofInt_of_scanNumber {cs rest : List Place} {m : Number} {n : Int}
    (scanned : scanNumber cs = some (m, rest)) (integer : m.integer? = some n) :
    m = .ofInt n := by
  obtain ⟨⟨negative, value, fraction, exponent⟩, _⟩ := Number.integer?_eq_some_iff.1 integer
  simp only [scanNumber, Option.bind_eq_bind, Option.bind_eq_some_iff, Option.pure_def,
    Option.some.injEq, Prod.mk.injEq, Prod.exists] at scanned
  obtain ⟨whole, _, scannedWhole, _, _, _, _, _, _, rfl, _⟩ := scanned
  have digits := digitsOf_of_scanWhole scannedWhole
  simp only at negative value fraction exponent
  rw [Number.ofInt, ← negative, ← value, digits, fraction, exponent]

/-- Different integers have different decimal representations. -/
theorem toString_int_injective {m n : Int} (same : toString m = toString n) : m = n := by
  have first := scanNumber_toString m EndsNumber.nil
  rw [same, scanNumber_toString n EndsNumber.nil] at first
  exact Number.ofInt_injective (Prod.mk.inj (Option.some.inj first)).1.symm

/-- The decimal representation of an integer writes its number. -/
theorem Node.parse?_toString (n : Int) :
    Node.parse? ((toString n).toList.map some) = some (.number (.ofInt n)) := by
  have scanned := Token.scan_of_scanNumber (scanNumber_toString n EndsNumber.nil)
  rw [List.append_nil] at scanned
  rw [Node.parse?, scanned, Token.scan]
  rfl

end CampaignConsole.Json
