import CampaignConsole.Proofs.Json.Scanning
import CampaignConsole.Json.Number
import Mathlib.Tactic.IntervalCases

/-!
# How a number is written

`Number.digitsOf` and `digitsValue` are inverse to one another (`Number.digitsValue_digitsOf`,
`Number.digitsOf_digitsValue`).  A number of decimal digits, without a needless zero in front, can
be written (`Number.IsWritten`), and its text is scanned back as this number, whatever follows that
does not belong to a number (`Number.scanNumber_text`).
-/

namespace CampaignConsole.Json

namespace Number

/-! ## Decimal digits -/

theorem toNat_of_mem_toDigits {n : Nat} {c : Char} (member : c ∈ Nat.toDigits 10 n) :
    48 ≤ c.toNat ∧ c.toNat ≤ 57 :=
  Char.isDigit_iff_toNat.1 (Nat.isDigit_of_mem_toDigits (by omega) (by omega) member)

theorem lt_ten_of_mem_digitsOf {n d : Nat} (member : d ∈ digitsOf n) : d < 10 := by
  obtain ⟨c, digit, rfl⟩ := List.mem_map.1 member
  have bounds := toNat_of_mem_toDigits digit
  omega

/-- The text of the digits of a number is its decimal representation. -/
theorem digitsText_digitsOf (n : Nat) : digitsText (digitsOf n) = Nat.toDigits 10 n := by
  rw [digitsText, digitsOf, List.map_map]
  refine (List.map_congr_left fun c member => ?_).trans (List.map_id _)
  have bounds := toNat_of_mem_toDigits member
  apply Char.toNat_inj.1
  show (Nat.digitChar (c.toNat - 48)).toNat = c.toNat
  rw [Nat.toNat_digitChar_of_lt_ten (by omega)]
  omega

theorem digitsValue_digitsOf (n : Nat) : digitsValue (digitsOf n) = n := by
  have read : Nat.ofDigitChars 10 (Nat.toDigits 10 n) 0 = n := Nat.ofDigitChars_ten_toDigits
  simp only [Nat.ofDigitChars_eq_foldl, Nat.mul_comm 10] at read
  rw [digitsValue, digitsOf, List.foldl_map]
  exact read

theorem digitsOf_of_lt {d : Nat} (digit : d < 10) : digitsOf d = [d] := by
  rw [digitsOf, Nat.toDigits_of_lt_base digit, List.map_singleton,
    Nat.toNat_digitChar_sub_48_of_lt_ten digit]

theorem digitsOf_mul_ten_add {n d : Nat} (positive : 0 < n) (digit : d < 10) :
    digitsOf (n * 10 + d) = digitsOf n ++ [d] := by
  rw [Nat.mul_comm, digitsOf, ← Nat.toDigits_append_toDigits (by omega) positive digit,
    List.map_append, ← digitsOf, ← digitsOf, digitsOf_of_lt digit]

/-- Digits that follow those of a positive number are kept as they are. -/
theorem digitsOf_foldl {ds : List Nat} (digits : ∀ d ∈ ds, d < 10) {n : Nat} (positive : 0 < n) :
    digitsOf (ds.foldl (fun n d => n * 10 + d) n) = digitsOf n ++ ds := by
  induction ds generalizing n with
  | nil => rw [List.foldl_nil, List.append_nil]
  | cons d ds ih =>
      have first : d < 10 := digits d List.mem_cons_self
      rw [List.foldl_cons, ih (fun d member => digits d (List.mem_cons_of_mem _ member)) (by omega),
        digitsOf_mul_ten_add positive first, List.append_assoc, List.singleton_append]

/-- Without a needless zero in front, digits are those of the number they write. -/
theorem digitsOf_digitsValue {ds : List Nat} (digits : ∀ d ∈ ds, d < 10) (written : ds ≠ [])
    (short : ds.head? = some 0 → ds.length ≤ 1) : digitsOf (digitsValue ds) = ds := by
  cases ds with
  | nil => exact absurd rfl written
  | cons d ds =>
      have first : d < 10 := digits d List.mem_cons_self
      have value : digitsValue (d :: ds) = ds.foldl (fun n d => n * 10 + d) d := by
        rw [digitsValue, List.foldl_cons, Nat.zero_mul, Nat.zero_add]
      by_cases zero : d = 0
      · have single : ds = [] := by
          have := short (by rw [zero]; rfl)
          exact List.eq_nil_of_length_eq_zero (by simpa using this)
        rw [single] at value ⊢
        rw [value]
        exact digitsOf_of_lt first
      · rw [value, digitsOf_foldl (fun d member => digits d (List.mem_cons_of_mem _ member))
          (by omega), digitsOf_of_lt first, List.singleton_append]

/-- A positive number begins with another digit than zero. -/
theorem exists_digitsOf_eq_cons {n : Nat} (positive : 0 < n) :
    ∃ d ds, digitsOf n = d :: ds ∧ d ≠ 0 := by
  induction n using Nat.strongRecOn with
  | ind n ih =>
      by_cases small : n < 10
      · exact ⟨n, [], digitsOf_of_lt small, by omega⟩
      · obtain ⟨d, ds, split, nonzero⟩ := ih (n / 10) (by omega) (by omega)
        refine ⟨d, ds ++ [n % 10], ?_, nonzero⟩
        have parts : n / 10 * 10 + n % 10 = n := Nat.div_add_mod' n 10
        rw [← List.cons_append, ← split,
          ← digitsOf_mul_ten_add (by omega) (Nat.mod_lt n (by omega)), parts]

theorem length_digitsOf_pos (n : Nat) : 0 < (digitsOf n).length := by
  rw [digitsOf, List.length_map]
  exact Nat.length_toDigits_pos

theorem digitsOf_ne_nil (n : Nat) : digitsOf n ≠ [] :=
  List.ne_nil_of_length_pos (length_digitsOf_pos n)

theorem head?_digitsOf {n : Nat} (positive : 0 < n) : (digitsOf n).head? ≠ some 0 := by
  obtain ⟨d, ds, split, nonzero⟩ := exists_digitsOf_eq_cons positive
  rw [split, List.head?_cons]
  exact fun zero => nonzero (Option.some.inj zero)

end Number

/-! ## Scanning digits -/

/-- What follows a number and does not belong to it. -/
structure EndsNumber (rest : List Place) : Prop where
  digits : scanDigits rest = ([], rest)
  fraction : scanFraction rest = some ([], rest)
  exponent : scanExponent rest = some (none, rest)

theorem EndsNumber.nil : EndsNumber [] :=
  ⟨rfl, rfl, rfl⟩

/-- The characters that may stand after a value inside an array or an object. -/
def valueEnds : List Char :=
  [',', ']', '}', ' ', '\t', '\n', '\r']

theorem EndsNumber.of_mem_valueEnds {c : Char} (mark : c ∈ valueEnds) (rest : List Place) :
    EndsNumber (some c :: rest) := by
  simp only [valueEnds, List.mem_cons, List.not_mem_nil, or_false] at mark
  rcases mark with rfl | rfl | rfl | rfl | rfl | rfl | rfl <;> exact ⟨rfl, rfl, rfl⟩

theorem digit?_digitChar {d : Nat} (digit : d < 10) : digit? (Nat.digitChar d) = some d := by
  have digits : ∀ d < 10, digit? (Nat.digitChar d) = some d := by decide
  exact digits d digit

theorem scanDigits_digitsText {ds : List Nat} (digits : ∀ d ∈ ds, d < 10) {rest : List Place}
    (ended : scanDigits rest = ([], rest)) :
    scanDigits ((Number.digitsText ds).map some ++ rest) = (ds, rest) := by
  induction ds with
  | nil => exact ended
  | cons d ds ih =>
      have first := digit?_digitChar (digits d List.mem_cons_self)
      have others := ih fun d member => digits d (List.mem_cons_of_mem _ member)
      rw [Number.digitsText, List.map_cons, List.map_cons, List.cons_append, scanDigits, first,
        ← Number.digitsText, others]

/-! ## Scanning a number -/

namespace Number

/-- A number that can be written: decimal digits, at least one before the point and in an exponent,
and no needless zero in front. -/
structure IsWritten (n : Number) : Prop where
  whole : ∀ d ∈ n.whole, d < 10
  nonempty : n.whole ≠ []
  leading : n.whole.head? = some 0 → n.whole.length ≤ 1
  fraction : ∀ d ∈ n.fraction, d < 10
  exponent : ∀ e, n.exponent = some e → e.digits ≠ [] ∧ ∀ d ∈ e.digits, d < 10

/-- Digits of a natural number are written without a needless zero in front. -/
theorem isWritten_digitsOf (negative : Bool) (n : Nat) :
    (⟨negative, digitsOf n, [], none⟩ : Number).IsWritten where
  whole _ := lt_ten_of_mem_digitsOf
  nonempty := digitsOf_ne_nil n
  leading zero := by
    by_cases positive : 0 < n
    · exact absurd zero (head?_digitsOf positive)
    · show (digitsOf n).length ≤ 1
      rw [Nat.eq_zero_of_not_pos positive]
      decide
  fraction := nofun
  exponent := nofun

/-- The text of a point and the digits after it. -/
def fractionText (digits : List Nat) : List Char :=
  if digits.isEmpty then [] else '.' :: digitsText digits

/-- The text of a power of ten. -/
def exponentText : Option Exponent → List Char
  | none => []
  | some e => 'e' :: (if e.negative then ['-'] else []) ++ digitsText e.digits

theorem text_eq (n : Number) : n.text =
    (if n.negative then ['-'] else []) ++ digitsText n.whole ++ fractionText n.fraction ++
      exponentText n.exponent :=
  rfl

variable {rest : List Place}

/-- Digits begin with no sign. -/
theorem scanSigns_digitsText {ds : List Nat} (nonempty : ds ≠ []) (digits : ∀ d ∈ ds, d < 10)
    (rest : List Place) :
    scanSign ((digitsText ds).map some ++ rest) = (false, (digitsText ds).map some ++ rest) ∧
      scanExponentSign ((digitsText ds).map some ++ rest) =
        (false, (digitsText ds).map some ++ rest) := by
  obtain ⟨d, ds, rfl⟩ := List.exists_cons_of_ne_nil nonempty
  have first : d < 10 := digits d List.mem_cons_self
  rw [digitsText, List.map_cons, List.map_cons, List.cons_append]
  interval_cases d <;> exact ⟨rfl, rfl⟩

/-- The digits of an exponent are scanned back with their sign. -/
theorem scanExponentDigits_text (negative : Bool) {ds : List Nat} (nonempty : ds ≠ [])
    (digits : ∀ d ∈ ds, d < 10) (ended : scanDigits rest = ([], rest)) :
    scanExponentDigits ((if negative then [some '-'] else []) ++ (digitsText ds).map some ++ rest) =
      some (some ⟨negative, ds⟩, rest) := by
  have sign : scanExponentSign ((if negative then [some '-'] else []) ++
      (digitsText ds).map some ++ rest) = (negative, (digitsText ds).map some ++ rest) := by
    cases negative with
    | true => rfl
    | false => exact (scanSigns_digitsText nonempty digits rest).2
  have written : ds.isEmpty = false := List.isEmpty_eq_false_iff.2 nonempty
  rw [scanExponentDigits, sign]
  dsimp only
  rw [scanDigits_digitsText digits ended]
  dsimp only
  rw [written]
  rfl

/-- The text of an exponent, and what may follow a number, ends a number without exponent. -/
theorem exponentText_follows (exponent : Option Exponent) (ends : EndsNumber rest) :
    scanDigits ((exponentText exponent).map some ++ rest) =
        ([], (exponentText exponent).map some ++ rest) ∧
      scanFraction ((exponentText exponent).map some ++ rest) =
        some ([], (exponentText exponent).map some ++ rest) := by
  cases exponent with
  | none => exact ⟨ends.digits, ends.fraction⟩
  | some e => exact ⟨rfl, rfl⟩

/-- An exponent is scanned back. -/
theorem scanExponent_exponentText {exponent : Option Exponent}
    (written : ∀ e, exponent = some e → e.digits ≠ [] ∧ ∀ d ∈ e.digits, d < 10)
    (ends : EndsNumber rest) :
    scanExponent ((exponentText exponent).map some ++ rest) = some (exponent, rest) := by
  rcases exponent with _ | ⟨negative, ds⟩
  · exact ends.exponent
  obtain ⟨nonempty, digits⟩ := written _ rfl
  have taken := scanExponentDigits_text negative nonempty digits ends.digits
  rw [← taken]
  cases negative <;> rfl

/-- A fraction is scanned back, and ends the digits before it. -/
theorem scanFraction_fractionText {ds : List Nat} (digits : ∀ d ∈ ds, d < 10)
    (ended : scanDigits rest = ([], rest)) (noPoint : scanFraction rest = some ([], rest)) :
    scanFraction ((fractionText ds).map some ++ rest) = some (ds, rest) ∧
      scanDigits ((fractionText ds).map some ++ rest) =
        ([], (fractionText ds).map some ++ rest) := by
  cases ds with
  | nil => exact ⟨noPoint, ended⟩
  | cons d ds =>
      refine ⟨?_, rfl⟩
      show scanFraction (some '.' :: ((digitsText (d :: ds)).map some ++ rest)) = _
      rw [scanFraction, scanDigits_digitsText digits ended]
      rfl

/-- A number that can be written is scanned back. -/
theorem scanNumber_text {n : Number} (written : n.IsWritten) (ends : EndsNumber rest) :
    scanNumber (n.text.map some ++ rest) = some (n, rest) := by
  obtain ⟨whole, nonempty, leading, fraction, exponent⟩ := written
  obtain ⟨ended, noPoint⟩ := exponentText_follows n.exponent ends
  obtain ⟨fractionBack, endsWhole⟩ := scanFraction_fractionText fraction ended noPoint
  have wholeBack : scanWhole ((digitsText n.whole).map some ++
      ((fractionText n.fraction).map some ++ ((exponentText n.exponent).map some ++ rest))) =
      some (n.whole, (fractionText n.fraction).map some ++
        ((exponentText n.exponent).map some ++ rest)) := by
    rw [scanWhole, scanDigits_digitsText whole endsWhole]
    dsimp only
    rw [if_neg]
    simp only [Bool.or_eq_true, List.isEmpty_iff, Bool.and_eq_true, beq_iff_eq, decide_eq_true_eq,
      not_or, not_and, Nat.not_lt]
    exact ⟨nonempty, leading⟩
  have sign : scanSign (n.text.map some ++ rest) = (n.negative, (digitsText n.whole).map some ++
      ((fractionText n.fraction).map some ++ ((exponentText n.exponent).map some ++ rest))) := by
    rw [text_eq, List.map_append, List.map_append, List.map_append, List.append_assoc,
      List.append_assoc, List.append_assoc]
    cases n.negative with
    | true => rfl
    | false => exact (scanSigns_digitsText nonempty whole _).1
  rw [scanNumber, sign]
  dsimp only
  rw [wholeBack, Option.bind_eq_bind, Option.bind_some]
  dsimp only
  rw [fractionBack, Option.bind_some]
  dsimp only
  rw [scanExponent_exponentText exponent ends]
  rfl

end Number

/-- What begins with a number is cut into this number and the tokens of the rest. -/
theorem Token.scan_of_scanNumber {cs rest : List Place} {m : Number}
    (scanned : scanNumber cs = some (m, rest)) :
    Token.scan cs = (Token.scan rest).map (.number m :: ·) := by
  match cs with
  | [] => cases scanned
  | none :: _ => cases scanned
  | some c :: cs =>
      have noMark : ∀ mark ∈ ['{', '}', '[', ']', ',', ':', 'n', 't', 'f', '"', ' ', '\t', '\n',
          '\r'], c ≠ mark := by
        intro mark member same
        rw [same] at scanned
        simp only [List.mem_cons, List.not_mem_nil, or_false] at member
        rcases member with rfl | rfl | rfl | rfl | rfl | rfl | rfl | rfl | rfl | rfl | rfl | rfl |
          rfl | rfl <;> cases scanned
      have noSpace : isSpace c = false := by
        simp only [List.forall_mem_cons] at noMark
        simp [isSpace, noMark]
      rw [Token.scan, if_neg (Bool.eq_false_iff.1 noSpace)]
      · split
        · rename_i m' rest' found
          rw [scanned] at found
          cases found
          rfl
        · rename_i refused
          rw [scanned] at refused
          cases refused
      all_goals simp_all

end CampaignConsole.Json
