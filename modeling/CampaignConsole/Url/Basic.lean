import CampaignConsole.Url.Address

/-!
URLs.

A `Url` is a URL in its normal form: the scheme and the host in small letters, the path without dot
segments, the port only where it is not the usual one, and every part encoded as its place asks for.
-/

namespace CampaignConsole

/-- Why a text is no URL. -/
inductive UrlError where
  | emptyHost
  | badDomain
  | badDomainCharacter
  | badPort
  | badIpv4
  | badIpv6
  | relativeWithoutBase
  | relativeToOpaqueBase
  deriving DecidableEq, Repr

/-- The wording of an error. -/
def UrlError.message : UrlError → String
  | .emptyHost => "empty host"
  | .badDomain => "invalid international domain name"
  | .badDomainCharacter => "invalid domain character"
  | .badPort => "invalid port number"
  | .badIpv4 => "invalid IPv4 address"
  | .badIpv6 => "invalid IPv6 address"
  | .relativeWithoutBase => "relative URL without a base"
  | .relativeToOpaqueBase => "relative URL with a cannot-be-a-base base"

namespace Url

/-- A host. -/
inductive Host where
  | name (n : List Char)
  | ipv4 (address : Nat)
  | ipv6 (pieces : List Nat)
  deriving DecidableEq, Repr

/-- The text of a host. -/
def Host.text : Host → List Char
  | .name n => n
  | .ipv4 address => ipv4Text address
  | .ipv6 pieces => ipv6Text pieces

/-- A path: text without structure, or segments, each after a slash. -/
inductive Path where
  | plain (text : List Char)
  | segments (names : List (List Char))
  deriving DecidableEq, Repr

/-- The text of a path. -/
def Path.text : Path → List Char
  | .plain text => text
  | .segments names => names.flatMap ('/' :: ·)

/-- The port that a scheme uses where none is given. -/
def defaultPort? (scheme : List Char) : Option Nat :=
  match String.ofList scheme with
  | "http" | "ws" => some 80
  | "https" | "wss" => some 443
  | "ftp" => some 21
  | _ => none

/-- Whether a scheme is one of those that always have a host and a path. -/
def isSpecialScheme (scheme : List Char) : Bool :=
  (defaultPort? scheme).isSome || scheme == ['f', 'i', 'l', 'e']

end Url

/-- A URL in its normal form. -/
structure Url where
  scheme : List Char
  username : List Char := []
  password : Option (List Char) := none
  /-- Missing where the URL has no `//`; it may be empty. -/
  host : Option Url.Host := none
  port : Option Nat := none
  path : Url.Path := .segments []
  query : Option (List Char) := none
  fragment : Option (List Char) := none
  deriving DecidableEq, Repr

namespace Url

/-- Whether the scheme is special. -/
def isSpecial (u : Url) : Bool :=
  isSpecialScheme u.scheme

/-- Whether the scheme is `file`. -/
def isFile (u : Url) : Bool :=
  u.scheme == ['f', 'i', 'l', 'e']

/-- Whether the URL names a host. -/
def hasHost (u : Url) : Bool :=
  match u.host with
  | none | some (.name []) => false
  | some _ => true

/-- User name and password, as they stand before the host. -/
def userInfoText (u : Url) : List Char :=
  let password := match u.password with
    | none => []
    | some p => ':' :: p
  let both := u.username ++ password
  if both.isEmpty then [] else both ++ ['@']

/-- Everything between the scheme and the path. -/
def authorityText (u : Url) : List Char :=
  match u.host with
  | none =>
      match u.path with
      | .segments ([] :: _ :: _) => ['/', '.']
      | _ => []
  | some host =>
      ['/', '/'] ++ u.userInfoText ++ host.text ++
        match u.port with
        | none => []
        | some port => ':' :: (toString port).toList

/-- The text of a URL up to its path. -/
def textToPath (u : Url) : List Char :=
  u.scheme ++ ':' :: u.authorityText ++ u.path.text

/-- The text of a URL without its fragment. -/
def textToQuery (u : Url) : List Char :=
  u.textToPath ++ match u.query with
    | none => []
    | some q => '?' :: q

/-- The text of a URL. -/
def text (u : Url) : String :=
  String.ofList <| u.textToQuery ++ match u.fragment with
    | none => []
    | some f => '#' :: f

/-- The URL with a named value added to its query. -/
def addQuery (u : Url) (name value : String) : Url :=
  let pair := formPair (name, value)
  { u with query := some (match u.query with
      | none | some [] => pair
      | some q => q ++ '&' :: pair) }

/-- The URL without user name and password. -/
def withoutUserInfo (u : Url) : Url :=
  { u with username := [], password := none }

end Url

end CampaignConsole
