/-!
Punycode, the writing of host labels in ASCII.

A label is written as its ASCII characters, then a hyphen, then for each other character, in
increasing order, how far to count until it is inserted.  Counts are written in base 36 with digits
whose thresholds adapt to the counts before.
-/

namespace CampaignConsole.Url.Punycode

/-- The threshold that the next count starts with, after a count `delta` with
`points` characters in place. -/
def adapt (delta points : Nat) (first : Bool) : Nat :=
  let delta := if first then delta / 700 else delta / 2
  reduce (delta + delta / points) 0
where
  /-- Divides until the count is small. -/
  reduce (delta k : Nat) : Nat :=
    if 455 < delta then reduce (delta / 35) (k + 36) else k + 36 * delta / (delta + 38)
  termination_by delta
  decreasing_by omega

/-- The threshold of a digit. -/
def threshold (k bias : Nat) : Nat :=
  if k ≤ bias then 1 else if bias + 26 ≤ k then 26 else k - bias

/-- A digit of base 36. -/
def digit (n : Nat) : Char :=
  if n < 26 then Char.ofNat (97 + n) else Char.ofNat (22 + n)

/-- The value of a digit of base 36. -/
def digit? (c : Char) : Option Nat :=
  if 'a' ≤ c ∧ c ≤ 'z' then some (c.toNat - 97)
  else if 'A' ≤ c ∧ c ≤ 'Z' then some (c.toNat - 65)
  else if '0' ≤ c ∧ c ≤ '9' then some (c.toNat - 22)
  else none

theorem threshold_range (k bias : Nat) : 1 ≤ threshold k bias ∧ threshold k bias ≤ 26 := by
  unfold threshold
  split
  · decide
  · split
    · decide
    · omega

/-- The digits of a count. -/
def countDigits (q k bias : Nat) : List Char :=
  let t := threshold k bias
  if q < t then [digit q]
  else digit (t + (q - t) % (36 - t)) :: countDigits ((q - t) / (36 - t)) (k + 36) bias
termination_by q
decreasing_by
  have := threshold_range k bias
  exact Nat.lt_of_le_of_lt (Nat.div_le_self _ _) (by omega)

/-- Where the encoder stands: the count so far, the threshold, and the characters in place. -/
structure State where
  delta : Nat
  bias : Nat
  placed : Nat
  output : List Char

/-- Counts one character of the label while characters up to `n` are being placed. -/
def count (basic : Nat) (n : Nat) (s : State) (c : Char) : State :=
  if c.toNat < n then { s with delta := s.delta + 1 }
  else if c.toNat = n then
    { delta := 0
      bias := adapt s.delta (s.placed + 1) (s.placed == basic)
      placed := s.placed + 1
      output := s.output ++ countDigits s.delta 36 s.bias }
  else s

/-- A label in ASCII. -/
def encode (label : List Char) : List Char :=
  let basic := label.filter (·.toNat < 0x80)
  let others := (label.filter (0x80 ≤ ·.toNat)).map Char.toNat
  let points := (others.mergeSort (· ≤ ·)).eraseDups
  let start : State := ⟨0, 72, basic.length, if basic.isEmpty then [] else basic ++ ['-']⟩
  let place (acc : State × Nat) (n : Nat) : State × Nat :=
    let s := { acc.1 with delta := acc.1.delta + (n - acc.2) * (acc.1.placed + 1) }
    let s := label.foldl (count basic.length n) s
    ({ s with delta := s.delta + 1 }, n + 1)
  (points.foldl place (start, 0x80)).1.output

/-- The count that digits write, and the digits after it. -/
def countOf? (bias : Nat) : (k weight : Nat) → List Char → Option (Nat × List Char)
  | _, _, [] => none
  | k, weight, c :: rest => do
      let d ← digit? c
      let t := threshold k bias
      if d < t then return (d * weight, rest)
      else
        let (more, rest) ← countOf? bias (k + 36) (weight * (36 - t)) rest
        return (d * weight + more, rest)

theorem countOf?_length {bias k weight : Nat} {cs rest : List Char} {q : Nat}
    (h : countOf? bias k weight cs = some (q, rest)) : rest.length < cs.length := by
  induction cs generalizing k weight q with
  | nil => simp [countOf?] at h
  | cons c cs ih =>
      simp only [countOf?, Option.bind_eq_bind, Option.bind_eq_some_iff] at h
      obtain ⟨d, _, h⟩ := h
      split at h
      · cases h; simp
      · simp only [Option.bind_eq_some_iff] at h
        obtain ⟨⟨more, r⟩, found, h⟩ := h
        simp only [Option.pure_def, Option.some.injEq, Prod.mk.injEq] at h
        obtain ⟨_, rfl⟩ := h
        have := ih found
        simp only [List.length_cons]; omega

/-- Inserts the counted characters into a label. -/
def insertAll (label : List Char) (n i bias : Nat) (digits : List Char) : Option (List Char) :=
  if digits.isEmpty then some label
  else
    match _counted : countOf? bias 36 1 digits with
    | none => none
    | some (delta, rest) =>
        let i := i + delta
        let size := label.length + 1
        let n := n + i / size
        if 0x10FFFF < n || (0xD800 ≤ n && n ≤ 0xDFFF) then none
        else
          let place := i % size
          insertAll (label.take place ++ Char.ofNat n :: label.drop place) n (place + 1)
            (adapt delta size (label.all (·.toNat < 0x80))) rest
termination_by digits.length
decreasing_by exact countOf?_length _counted

/-- The label that an ASCII text writes. -/
def decode? (cs : List Char) : Option (List Char) :=
  let tail := (cs.reverse.takeWhile (· != '-')).reverse
  let head := cs.take (cs.length - tail.length)
  if head.any (0x80 ≤ ·.toNat) then none
  else insertAll head.dropLast 0x80 0 72 tail

end CampaignConsole.Url.Punycode
