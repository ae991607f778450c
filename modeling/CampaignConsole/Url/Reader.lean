import CampaignConsole.Url.Domain

/-!
Reading URLs.

`Url.parse` reads a text as a URL, by itself or relative to a base.  The text is first cleared of
blanks around it and of tabs and line ends in it; then comes the scheme, and what follows it decides
what the rest is: a host with a path, a path relative to that of the base, or text without
structure.
-/

namespace CampaignConsole.Url

/-! ## Cutting -/

/-- The text without controls and spaces at both ends, and without tabs and line ends. -/
def cleared (cs : List Char) : List Char :=
  let isEdge (c : Char) : Bool := c.toNat ≤ 0x20
  let inner := ((cs.dropWhile isEdge).reverse.dropWhile isEdge).reverse
  inner.filter fun c => c != '\t' && c != '\n' && c != '\r'

/-- Whether a character may stand in a scheme after its first letter. -/
def isSchemeChar (c : Char) : Bool :=
  c.isAlphanum || c == '+' || c == '-' || c == '.'

/-- The scheme of a text in small letters, and the text after its colon. -/
def scheme? (cs : List Char) : Option (List Char × List Char) :=
  match cs with
  | [] => none
  | c :: _ =>
      if c.isAlpha then
        match cs.dropWhile isSchemeChar with
        | ':' :: rest => some ((cs.takeWhile isSchemeChar).map Char.toLower, rest)
        | _ => none
      else none

/-- Whether a character parts segments: a slash, and for special schemes a backslash. -/
def isSlash (special : Bool) (c : Char) : Bool :=
  c == '/' || (special && c == '\\')

/-- Whether a character ends a path. -/
def endsPath (c : Char) : Bool :=
  c == '?' || c == '#'

/-! ## Paths -/

/-- Whether a segment stays where it is. -/
def isSingleDot (segment : List Char) : Bool :=
  String.ofList (segment.map Char.toLower) ∈ [".", "%2e"]

/-- Whether a segment goes up. -/
def isDoubleDot (segment : List Char) : Bool :=
  String.ofList (segment.map Char.toLower) ∈ ["..", ".%2e", "%2e.", "%2e%2e"]

/-- Whether a segment is a drive of a file system, as it was given. -/
def isDrive (segment : List Char) : Bool :=
  match segment with
  | [letter, sign] => letter.isAlpha && (sign == ':' || sign == '|')
  | _ => false

/-- Goes up from a path, given last segment first; the drive of a file is not left. -/
def goUp (file : Bool) : List (List Char) → List (List Char)
  | [] => []
  | [first] => if file && isDrive first then [first] else []
  | _ :: rest => rest

/-- A segment as a path holds it; the drive at the start of a file's path has a colon. -/
def segmentText (file : Bool) (above : List (List Char)) (segment : List Char) : List Char :=
  match segment with
  | [letter, _] =>
      if file && above.isEmpty && isDrive segment then [letter, ':']
      else percentEncode escapePath segment
  | _ => percentEncode escapePath segment

/-- Walks along segments from a path, given last segment first. -/
def walk (file : Bool) (above : List (List Char)) : List (List Char) → List (List Char)
  | [] => above
  | [last] =>
      if isDoubleDot last then [] :: goUp file above
      else if isSingleDot last then [] :: above
      else segmentText file above last :: above
  | segment :: rest =>
      if isDoubleDot segment then walk file (goUp file above) rest
      else if isSingleDot segment then walk file above rest
      else walk file (segmentText file above segment :: above) rest

/-- The segments of a text. -/
def splitSegments (special : Bool) (cs : List Char) : List (List Char) :=
  splitOnChar '/' (cs.map fun c => if isSlash special c then '/' else c)

/-- The URL with a path that a text leads to from the path `above`, then query and fragment. -/
def finishPath (u : Url) (above : List (List Char)) (cs : List Char) : Url × List Char :=
  let text := cs.takeWhile (!endsPath ·)
  let names := (walk u.isFile above.reverse (splitSegments u.isSpecial text)).reverse
  ({ u with path := .segments names }, cs.dropWhile (!endsPath ·))

/-- The URL with the query and the fragment that a text gives. -/
def finishQuery (u : Url) (cs : List Char) : Url :=
  let withFragment (u : Url) (cs : List Char) : Url :=
    match cs with
    | '#' :: f => { u with fragment := some (percentEncode escapeFragment f) }
    | _ => u
  match cs with
  | '?' :: rest =>
      let escape := if u.isSpecial then escapeSpecialQuery else escapeQuery
      withFragment { u with query := some (percentEncode escape (rest.takeWhile (· != '#'))) }
        (rest.dropWhile (· != '#'))
  | cs => withFragment u cs

/-- The URL with path, query and fragment, the path relative to `above`. -/
def finish (u : Url) (above : List (List Char)) (cs : List Char) : Url :=
  let (u, rest) := u.finishPath above cs
  u.finishQuery rest

/-- The URL with the path, query and fragment that follow its host. -/
def afterHost (u : Url) (cs : List Char) : Url :=
  match cs with
  | c :: rest => if isSlash u.isSpecial c then u.finish [] rest
      else if u.isSpecial then u.finish [] cs
      else if endsPath c then u.finishQuery cs
      else u.finish [] cs
  | [] => if u.isSpecial then u.finish [] [] else u

/-! ## Hosts -/

/-- The user name and the password before the last `@`. -/
def withUserInfo (u : Url) (info : List Char) : Url :=
  let encode := percentEncode escapeUserInfo
  match info.dropWhile (· != ':') with
  | [] => { u with username := encode info }
  | _ :: password =>
      { u with
        username := encode (info.takeWhile (· != ':'))
        password := if password.isEmpty then none else some (encode password) }

/-- Takes user name and password from the front of what stands before a path. -/
def takeUserInfo (u : Url) (authority : List Char) : Except UrlError (Url × List Char) :=
  let hostPart := (authority.reverse.takeWhile (· != '@')).reverse
  let info := authority.take (authority.length - hostPart.length)
  if info.isEmpty then .ok (u, hostPart)
  else if hostPart.isEmpty then .error .emptyHost
  else .ok (u.withUserInfo info.dropLast, hostPart)

/-- The characters of a host before its port: a colon ends it outside brackets. -/
def hostChars (inBrackets : Bool) : List Char → List Char
  | [] => []
  | c :: rest =>
      if c == ':' && !inBrackets then []
      else c :: hostChars (if c == '[' then true else if c == ']' then false else inBrackets) rest

/-- Reads a port; the usual port of the scheme is left out. -/
def readPort (scheme cs : List Char) : Except UrlError (Option Nat) :=
  if cs.isEmpty then .ok none
  else if !cs.all Char.isDigit then .error .badPort
  else
    match numberIn? 10 cs with
    | some port =>
        if 65535 < port then .error .badPort
        else .ok (if defaultPort? scheme == some port then none else some port)
    | none => .error .badPort

/-- Reads host and port. -/
def readHost (u : Url) (cs : List Char) : Except UrlError Url := do
  let name := hostChars false cs
  let rest := cs.drop name.length
  if name.isEmpty && (u.isSpecial || !rest.isEmpty) then throw .emptyHost
  let host ← if u.isSpecial then specialHost name else plainHost name
  return { u with host := some host, port := ← readPort u.scheme (rest.drop 1) }

/-- The URL that follows `//`. -/
def afterSlashes (u : Url) (cs : List Char) : Except UrlError Url := do
  let endsAuthority (c : Char) : Bool := isSlash u.isSpecial c || endsPath c
  let authority := cs.takeWhile (!endsAuthority ·)
  let (u, hostPart) ← u.takeUserInfo authority
  return (← u.readHost hostPart).afterHost (cs.dropWhile (!endsAuthority ·))

/-! ## Files -/

/-- Whether a text starts with a drive. -/
def startsWithDrive (cs : List Char) : Bool :=
  isDrive (cs.take 2) &&
    match cs.drop 2 with
    | [] => true
    | c :: _ => c ∈ ['/', '\\', '?', '#']

/-- The host of a file: none for an empty name and for `localhost`. -/
def fileHost (name : List Char) : Except UrlError Host := do
  if name.isEmpty then return .name []
  let host ← specialHost name
  return if host == .name "localhost".toList then .name [] else host

/-- Reads what follows the scheme `file`, relative to a file where there is one. -/
def readFile (base : Option Url) (cs : List Char) : Except UrlError Url := do
  let empty : Url := { scheme := ['f', 'i', 'l', 'e'], host := some (.name []) }
  let isSep := isSlash true
  match cs with
  | a :: b :: rest =>
      if isSep a && isSep b then
        let endsHost (c : Char) : Bool := isSep c || endsPath c
        let name := rest.takeWhile (!endsHost ·)
        if isDrive name then return empty.finish [] rest
        return { empty with host := some (← fileHost name) }.afterHost
          (rest.dropWhile (!endsHost ·))
  | _ => pure ()
  match base, cs with
  | some base, c :: rest =>
      let here := { base with fragment := none }
      let names := match base.path with
        | .segments names => names
        | .plain _ => []
      if isSep c then
        let drive := names.take 1 |>.filter isDrive
        return { empty with host := base.host }.finish
          (if startsWithDrive rest then [] else drive) rest
      else if c == '?' then return { here with query := none }.finishQuery cs
      else if c == '#' then return here.finishQuery cs
      else if startsWithDrive cs then return empty.finish [] cs
      else return { here with query := none }.finish (goUp true names.reverse).reverse cs
  | some base, [] => return { base with fragment := none }
  | none, _ => return empty.afterHost cs

/-! ## URLs -/

/-- Reads a text without a scheme relative to a base that has segments. -/
def readRelative (base : Url) (names : List (List Char)) (cs : List Char) : Except UrlError Url :=
  let here := { base with fragment := none }
  let bare := { here with query := none }
  let isSep := isSlash base.isSpecial
  match cs with
  | [] => .ok here
  | '?' :: _ => .ok (bare.finishQuery cs)
  | '#' :: _ => .ok (here.finishQuery cs)
  | a :: rest =>
      if isSep a then
        match rest with
        | b :: rest' =>
            if isSep b then
              let after := if base.isSpecial then rest'.dropWhile isSep else rest'
              afterSlashes { scheme := base.scheme } after
            else .ok (bare.finish [] rest)
        | [] => .ok (bare.finish [] rest)
      else .ok (bare.finish names.dropLast cs)

/-- Reads what follows a scheme that is not special. -/
def readPlain (scheme cs : List Char) : Except UrlError Url :=
  let u : Url := { scheme }
  match cs with
  | '/' :: '/' :: rest => u.afterSlashes rest
  | '/' :: rest => .ok (u.finish [] rest)
  | _ =>
      let text := cs.takeWhile (!endsPath ·)
      .ok ({ u with path := .plain (percentEncode escapeControl text) }.finishQuery
        (cs.dropWhile (!endsPath ·)))

/-- Reads what follows a special scheme other than `file`. -/
def readSpecial (base : Option Url) (scheme cs : List Char) : Except UrlError Url :=
  let slashes := cs.takeWhile (isSlash true)
  let direct := afterSlashes { scheme } (cs.dropWhile (isSlash true))
  match base with
  | some base =>
      match base.path with
      | .segments names =>
          if slashes.length < 2 && base.scheme == scheme then readRelative base names cs else direct
      | .plain _ => direct
  | none => direct

/-- Reads a URL, relative to a base where there is one. -/
def parse (base : Option Url) (text : String) : Except UrlError Url :=
  let cs := cleared text.toList
  match scheme? cs with
  | some (scheme, rest) =>
      if scheme == ['f', 'i', 'l', 'e'] then readFile (base.filter Url.isFile) rest
      else if isSpecialScheme scheme then readSpecial base scheme rest
      else readPlain scheme rest
  | none =>
      match base with
      | none => .error .relativeWithoutBase
      | some base =>
          match base.path, cs with
          | _, '#' :: _ => .ok ({ base with fragment := none }.finishQuery cs)
          | .plain _, _ => .error .relativeToOpaqueBase
          | .segments names, _ =>
              if base.isFile then readFile (some base) cs else readRelative base names cs

end CampaignConsole.Url
