import CampaignConsole.Url.FormEncoding

/-!
Numeric addresses of hosts.

A host whose last part is a number is an IPv4 address, given in up to four parts of which the last
one fills the bytes left over; parts may be octal or hexadecimal.  An IPv6 address has eight pieces
of 16 bits, and the longest run of zero pieces is left out where it is written.
-/

namespace CampaignConsole.Url

/-! ## IPv4 -/

/-- The value of a digit of any base up to 16. -/
def digitBelow? (base : Nat) (c : Char) : Option Nat :=
  (hexValue? c).filter (· < base)

/-- The number that digits of a base write. -/
def numberIn? (base : Nat) (cs : List Char) : Option Nat :=
  cs.foldlM (fun n c => (digitBelow? base c).map (n * base + ·)) 0

/-- One part of an IPv4 address; `0x` makes it hexadecimal and a zero in front octal. -/
def ipv4Part? : List Char → Option Nat
  | [] => none
  | '0' :: 'x' :: rest | '0' :: 'X' :: rest => numberIn? 16 rest
  | '0' :: c :: rest => numberIn? 8 (c :: rest)
  | cs => numberIn? 10 cs

/-- The parts of a host between dots, without an empty part at the end. -/
def hostParts (cs : List Char) : List (List Char) :=
  let parts := splitOnChar '.' cs
  if 1 < parts.length && parts.getLast? == some [] then parts.dropLast else parts

/-- Whether the last part of a host is a number, which makes it an IPv4 address. -/
def endsInNumber (cs : List Char) : Bool :=
  match (hostParts cs).getLast? with
  | none | some [] => false
  | some last => last.all Char.isDigit || (ipv4Part? last).isSome

/-- The IPv4 address that a host ending in a number is. -/
def ipv4? (cs : List Char) : Option Nat := do
  let numbers ← (hostParts cs).mapM ipv4Part?
  let last ← numbers.getLast?
  let leading := numbers.dropLast
  if 3 < leading.length || leading.any (255 < ·) || Nat.pow 256 (4 - leading.length) ≤ last then
    none
  else
    return leading.zipIdx.foldl (fun sum (n, i) => sum + n * Nat.pow 256 (3 - i)) last

/-- The text of an IPv4 address. -/
def ipv4Text (address : Nat) : List Char :=
  (".".intercalate
    ([3, 2, 1, 0].map fun i => toString (address / Nat.pow 256 i % 256))).toList

/-! ## IPv6 -/

/-- The four bytes of an IPv4 address at the end of an IPv6 address, as two pieces. -/
def embeddedIpv4? (cs : List Char) : Option (List Nat) := do
  let parts := splitOnChar '.' cs
  let numbers ← parts.mapM fun part =>
    if part.isEmpty || (1 < part.length && part.head? == some '0') then none
    else (numberIn? 10 part).filter (· < 256)
  match numbers with
  | [a, b, c, d] => some [a * 256 + b, c * 256 + d]
  | _ => none

/-- The pieces between colons; only the last one may be an IPv4 address. -/
def ipv6Pieces? : List (List Char) → Option (List Nat)
  | [] => some []
  | [last] =>
      if last.contains '.' then embeddedIpv4? last
      else if last.isEmpty || 4 < last.length then none
      else (numberIn? 16 last).map ([·])
  | piece :: rest =>
      if piece.isEmpty || 4 < piece.length then none
      else do return (← numberIn? 16 piece) :: (← ipv6Pieces? rest)

/-- The texts before and after the first `::`, if there is one. -/
def splitAtGap? : List Char → Option (List Char × List Char)
  | [] => none
  | ':' :: ':' :: rest => some ([], rest)
  | c :: rest => (splitAtGap? rest).map fun (before, after) => (c :: before, after)

/-- The pieces of a text that may be empty. -/
def ipv6Side? (cs : List Char) : Option (List Nat) :=
  if cs.isEmpty then some [] else ipv6Pieces? (splitOnChar ':' cs)

/-- The eight pieces of an IPv6 address. -/
def ipv6? (cs : List Char) : Option (List Nat) := do
  match splitAtGap? cs with
  | some (before, after) =>
      if before.contains '.' then none
      else
        let left ← ipv6Side? before
        let right ← ipv6Side? after
        if left.length + right.length < 8 then
          return left ++ List.replicate (8 - left.length - right.length) 0 ++ right
        else none
  | none =>
      let pieces ← ipv6Side? cs
      if pieces.length = 8 then some pieces else none

/-- The number of zeros at the start of a list. -/
def leadingZeros (pieces : List Nat) : Nat :=
  (pieces.takeWhile (· == 0)).length

/-- The first of the longest runs of at least two zeros: where it starts and how long it is. -/
def longestZeros? (pieces : List Nat) : Option (Nat × Nat) :=
  let runs := (List.range pieces.length).map fun i => (i, leadingZeros (pieces.drop i))
  let longest := (runs.map (·.2)).foldl max 0
  if longest < 2 then none else runs.find? (·.2 == longest)

/-- Pieces with colons between them. -/
def piecesText (pieces : List Nat) : List Char :=
  [':'].intercalate (pieces.map (Nat.toDigits 16))

/-- The text of an IPv6 address, in brackets. -/
def ipv6Text (pieces : List Nat) : List Char :=
  let inside := match longestZeros? pieces with
    | none => piecesText pieces
    | some (start, length) =>
        piecesText (pieces.take start) ++ [':', ':'] ++ piecesText (pieces.drop (start + length))
  '[' :: inside ++ [']']

end CampaignConsole.Url
