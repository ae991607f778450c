/-!
The words of a JSON text.

`Token.scan` cuts a text into tokens by RFC 8259 and nothing else: a string keeps its escapes as
pieces and a number keeps its digits, so a value that nobody asks for is checked for syntax only.
What a string or a number stands for is decided where it is used (`Json.textOf?`,
`Json.Number.integer?`, `Json.Number.double?`).
-/

namespace CampaignConsole.Json

/-- A place of a received text: a character, or `none` for bytes that belong to no character. -/
abbrev Place := Option Char

/-- One piece of a string: a character, a `\uXXXX` unit of UTF-16, or bytes that
belong to no character. -/
inductive Piece where
  | char (c : Char)
  | unit (code : Nat)
  | broken
  deriving DecidableEq, Repr

/-- The power of ten of a number, as written. -/
structure Exponent where
  negative : Bool
  digits : List Nat
  deriving DecidableEq, Repr

/-- A number, as written: its sign, its digits before and after the point, and its power of ten. -/
structure Number where
  negative : Bool
  whole : List Nat
  fraction : List Nat
  exponent : Option Exponent
  deriving DecidableEq, Repr

/-- The words of JSON. -/
inductive Token where
  | openBrace | closeBrace | openBracket | closeBracket | comma | colon
  | null
  | bool (b : Bool)
  | number (n : Number)
  | string (s : List Piece)
  deriving DecidableEq, Repr

/-- The white space of JSON. -/
def isSpace (c : Char) : Bool :=
  c == ' ' || c == '\t' || c == '\n' || c == '\r'

/-! ## Numbers -/

/-- The value of a decimal digit. -/
def digit? (c : Char) : Option Nat :=
  if '0' ≤ c ∧ c ≤ '9' then some (c.toNat - 48) else none

/-- The value of a hexadecimal digit of either case. -/
def hexDigit? (c : Char) : Option Nat :=
  if '0' ≤ c ∧ c ≤ '9' then some (c.toNat - 48)
  else if 'a' ≤ c ∧ c ≤ 'f' then some (c.toNat - 87)
  else if 'A' ≤ c ∧ c ≤ 'F' then some (c.toNat - 55)
  else none

/-- The decimal digits at the start of a text, and the rest of it. -/
def scanDigits : List Place → List Nat × List Place
  | some c :: rest =>
      match digit? c with
      | some d => (d :: (scanDigits rest).1, (scanDigits rest).2)
      | none => ([], some c :: rest)
  | cs => ([], cs)

/-- The digits after a point, if there is one; a point needs at least one. -/
def scanFraction : List Place → Option (List Nat × List Place)
  | some '.' :: rest =>
      let (digits, rest) := scanDigits rest
      if digits.isEmpty then none else some (digits, rest)
  | cs => some ([], cs)

/-- A sign in front of the digits of an exponent. -/
def scanExponentSign : List Place → Bool × List Place
  | some '-' :: rest => (true, rest)
  | some '+' :: rest => (false, rest)
  | cs => (false, cs)

/-- The sign and the digits of an exponent; there is at least one digit. -/
def scanExponentDigits (cs : List Place) : Option (Option Exponent × List Place) :=
  let (negative, cs) := scanExponentSign cs
  let (digits, cs) := scanDigits cs
  if digits.isEmpty then none else some (some ⟨negative, digits⟩, cs)

/-- The power of ten, if there is one. -/
def scanExponent : List Place → Option (Option Exponent × List Place)
  | some 'e' :: rest => scanExponentDigits rest
  | some 'E' :: rest => scanExponentDigits rest
  | cs => some (none, cs)

/-- The minus sign of a number, if there is one. -/
def scanSign : List Place → Bool × List Place
  | some '-' :: rest => (true, rest)
  | cs => (false, cs)

/-- The digits before the point: at least one, and no needless zero in front. -/
def scanWhole (cs : List Place) : Option (List Nat × List Place) :=
  let (digits, cs) := scanDigits cs
  if digits.isEmpty || (digits.head? == some 0 && 1 < digits.length) then none
  else some (digits, cs)

/-- A number at the start of a text. -/
def scanNumber (cs : List Place) : Option (Number × List Place) := do
  let (negative, cs) := scanSign cs
  let (whole, cs) ← scanWhole cs
  let (fraction, cs) ← scanFraction cs
  let (exponent, cs) ← scanExponent cs
  return (⟨negative, whole, fraction, exponent⟩, cs)

/-! ## Strings -/

/-- The character that a one-letter escape stands for. -/
def escaped? : Char → Option Char
  | '"' => some '"'
  | '\\' => some '\\'
  | '/' => some '/'
  | 'b' => some '\x08'
  | 'f' => some '\x0c'
  | 'n' => some '\n'
  | 'r' => some '\r'
  | 't' => some '\t'
  | _ => none

/-- The UTF-16 unit that four hexadecimal digits name. -/
def unit? (a b c d : Place) : Option Nat := do
  let a ← hexDigit? (← a)
  let b ← hexDigit? (← b)
  let c ← hexDigit? (← c)
  let d ← hexDigit? (← d)
  return ((a * 16 + b) * 16 + c) * 16 + d

/-- The pieces of a string up to its closing quote, and the text after it. -/
def scanString : List Place → Option (List Piece × List Place)
  | [] => none
  | none :: rest => (scanString rest).map fun (s, r) => (.broken :: s, r)
  | some '"' :: rest => some ([], rest)
  | some '\\' :: some 'u' :: a :: b :: c :: d :: rest =>
      match unit? a b c d with
      | some code => (scanString rest).map fun (s, r) => (.unit code :: s, r)
      | none => none
  | some '\\' :: some e :: rest =>
      match escaped? e with
      | some c => (scanString rest).map fun (s, r) => (.char c :: s, r)
      | none => none
  | some '\\' :: _ => none
  | some c :: rest =>
      if c.toNat < 0x20 then none
      else (scanString rest).map fun (s, r) => (.char c :: s, r)

/-! ## What a scanner leaves is shorter -/

theorem scanDigits_length (cs : List Place) :
    (scanDigits cs).1.length + (scanDigits cs).2.length = cs.length := by
  induction cs with
  | nil => simp [scanDigits]
  | cons p rest ih =>
      cases p with
      | none => simp [scanDigits]
      | some c =>
          unfold scanDigits
          split
          · simp only [List.length_cons]; omega
          · simp

theorem scanSign_length (cs : List Place) : (scanSign cs).2.length ≤ cs.length := by
  unfold scanSign
  split <;> simp

theorem scanExponentSign_length (cs : List Place) :
    (scanExponentSign cs).2.length ≤ cs.length := by
  unfold scanExponentSign
  split <;> simp

theorem scanWhole_length {cs : List Place} {ds : List Nat} {r : List Place}
    (h : scanWhole cs = some (ds, r)) : r.length < cs.length := by
  have total := scanDigits_length cs
  simp only [scanWhole] at h
  split at h
  · cases h
  · rename_i ne
    cases h
    simp only [Bool.or_eq_true, not_or, List.isEmpty_iff] at ne
    have := List.length_pos_iff.2 ne.1
    omega

theorem scanFraction_length {cs : List Place} {ds : List Nat} {r : List Place}
    (h : scanFraction cs = some (ds, r)) : r.length ≤ cs.length := by
  unfold scanFraction at h
  split at h
  · rename_i rest
    have := scanDigits_length rest
    dsimp only at h
    split at h
    · cases h
    · cases h
      simp only [List.length_cons]; omega
  · cases h; exact Nat.le_refl _

theorem scanExponentDigits_length {cs : List Place} {e : Option Exponent} {r : List Place}
    (h : scanExponentDigits cs = some (e, r)) : r.length ≤ cs.length := by
  have sign := scanExponentSign_length cs
  have total := scanDigits_length (scanExponentSign cs).2
  simp only [scanExponentDigits] at h
  split at h
  · cases h
  · cases h; omega

theorem scanExponent_length {cs : List Place} {e : Option Exponent} {r : List Place}
    (h : scanExponent cs = some (e, r)) : r.length ≤ cs.length := by
  unfold scanExponent at h
  split at h
  · have := scanExponentDigits_length h
    simp only [List.length_cons]; omega
  · have := scanExponentDigits_length h
    simp only [List.length_cons]; omega
  · cases h; exact Nat.le_refl _

/-- A number takes at least one place. -/
theorem scanNumber_length {cs : List Place} {n : Number} {r : List Place}
    (h : scanNumber cs = some (n, r)) : r.length < cs.length := by
  simp only [scanNumber, Option.bind_eq_bind, Option.bind_eq_some_iff, Option.pure_def,
    Option.some.injEq, Prod.mk.injEq, Prod.exists] at h
  obtain ⟨_, _, whole, _, _, fraction, _, _, exponent, _, rfl⟩ := h
  have := scanSign_length cs
  have := scanWhole_length whole
  have := scanFraction_length fraction
  have := scanExponent_length exponent
  omega

/-- A string takes at least its closing quote. -/
theorem scanString_length {cs : List Place} {s : List Piece} {r : List Place}
    (h : scanString cs = some (s, r)) : r.length < cs.length := by
  fun_induction scanString cs generalizing s r with
  | case1 => cases h
  | case2 rest ih =>
      obtain ⟨⟨_, _⟩, found, eq⟩ := Option.map_eq_some_iff.1 h
      cases eq
      have := ih found
      simp only [List.length_cons]; omega
  | case3 => cases h; simp
  | case4 a b c d rest code _ ih =>
      obtain ⟨⟨_, _⟩, found, eq⟩ := Option.map_eq_some_iff.1 h
      cases eq
      have := ih found
      simp only [List.length_cons]; omega
  | case5 => cases h
  | case6 e rest _ c _ ih =>
      obtain ⟨⟨_, _⟩, found, eq⟩ := Option.map_eq_some_iff.1 h
      cases eq
      have := ih found
      simp only [List.length_cons]; omega
  | case7 => cases h
  | case8 => cases h
  | case9 => cases h
  | case10 c rest _ _ _ _ _ ih =>
      obtain ⟨⟨_, _⟩, found, eq⟩ := Option.map_eq_some_iff.1 h
      cases eq
      have := ih found
      simp only [List.length_cons]; omega

/-! ## Tokens -/

/-- The tokens of a text, or `none` if it holds anything else than words of JSON. -/
def Token.scan (cs : List Place) : Option (List Token) :=
  match cs with
  | [] => some []
  | some '{' :: rest => (Token.scan rest).map (.openBrace :: ·)
  | some '}' :: rest => (Token.scan rest).map (.closeBrace :: ·)
  | some '[' :: rest => (Token.scan rest).map (.openBracket :: ·)
  | some ']' :: rest => (Token.scan rest).map (.closeBracket :: ·)
  | some ',' :: rest => (Token.scan rest).map (.comma :: ·)
  | some ':' :: rest => (Token.scan rest).map (.colon :: ·)
  | some 'n' :: some 'u' :: some 'l' :: some 'l' :: rest => (Token.scan rest).map (.null :: ·)
  | some 't' :: some 'r' :: some 'u' :: some 'e' :: rest => (Token.scan rest).map (.bool true :: ·)
  | some 'f' :: some 'a' :: some 'l' :: some 's' :: some 'e' :: rest =>
      (Token.scan rest).map (.bool false :: ·)
  | some '"' :: rest =>
      match _taken : scanString rest with
      | some (s, after) => (Token.scan after).map (.string s :: ·)
      | none => none
  | some c :: rest =>
      if isSpace c then Token.scan rest
      else
        match _taken : scanNumber (some c :: rest) with
        | some (n, after) => (Token.scan after).map (.number n :: ·)
        | none => none
  | none :: _ => none
termination_by cs.length
decreasing_by
  all_goals first
    | exact scanNumber_length _taken
    | exact Nat.lt_succ_of_lt (scanString_length _taken)
    | (simp only [List.length_cons]; omega)

end CampaignConsole.Json
