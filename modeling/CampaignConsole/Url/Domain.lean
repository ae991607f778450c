import CampaignConsole.Url.Basic
import CampaignConsole.Url.HostFold
import CampaignConsole.Url.Punycode

/-!
Reading hosts.

A host of a special scheme is an IPv6 address in brackets, an IPv4 address where its last part is a
number, or a domain name; the labels of a name that hold other characters than ASCII are written in
Punycode.  Other schemes take a host as it is.
-/

namespace CampaignConsole.Url

/-- The ASCII characters that no domain name may hold. -/
def refusedInDomain (c : Char) : Bool :=
  c.toNat ≤ 0x20 || c.toNat == 0x7F ||
    c ∈ ['%', '#', '/', ':', '<', '>', '?', '@', '[', '\\', ']', '^', '|']

/-- Whether a label may be written in Punycode: it holds a character outside ASCII
and is already folded. -/
def isFoldedLabel (label : List Char) : Bool :=
  label.any (0x80 ≤ ·.toNat) && label.all fun c => foldHostChar? c == some [c]

/-- A label of a domain name in ASCII. -/
def asciiLabel? (label : List Char) : Option (List Char) :=
  match label with
  | 'x' :: 'n' :: '-' :: '-' :: coded =>
      match Punycode.decode? coded with
      | some decoded => if isFoldedLabel decoded then some label else none
      | none => none
  | _ =>
      if label.all (·.toNat < 0x80) then some label
      else some (['x', 'n', '-', '-'] ++ Punycode.encode label)

/-- A domain name in ASCII. -/
def domain? (cs : List Char) : Option (List Char) := do
  let decoded ← (Text.Utf8.places ⟨(percentDecode cs).toArray⟩).mapM id
  let folded := (← decoded.mapM foldHostChar?).flatten
  if folded.any refusedInDomain then none
  else return ['.'].intercalate (← (splitOnChar '.' folded).mapM asciiLabel?)

/-- The characters that no host may hold. -/
def refusedInHost (c : Char) : Bool :=
  c ∈ ['\x00', '\t', '\n', '\r', ' ', '#', '/', ':', '<', '>', '?', '@', '[', '\\', ']', '^', '|']

/-- The IPv6 address that a text in brackets is. -/
def bracketed? (cs : List Char) : Except UrlError Host :=
  if cs.getLast? == some ']' then
    match ipv6? cs.dropLast with
    | some pieces => .ok (.ipv6 pieces)
    | none => .error .badIpv6
  else .error .badIpv6

/-- Reads the host of a special scheme. -/
def specialHost (cs : List Char) : Except UrlError Host :=
  match cs with
  | '[' :: rest => bracketed? rest
  | _ =>
      match domain? cs with
      | none => .error .badDomain
      | some [] => .error .emptyHost
      | some name =>
          if endsInNumber name then
            match ipv4? name with
            | some address => .ok (.ipv4 address)
            | none => .error .badIpv4
          else .ok (.name name)

/-- Reads the host of any other scheme. -/
def plainHost (cs : List Char) : Except UrlError Host :=
  match cs with
  | '[' :: rest => bracketed? rest
  | _ =>
      if cs.any refusedInHost then .error .badDomainCharacter
      else .ok (.name (percentEncode escapeControl cs))

end CampaignConsole.Url
