import CampaignConsole.Page.Request
import CampaignConsole.Text.Base64
import CampaignConsole.Text.Blank

/-!
Requests and replies as bytes, by HTTP/1.1.

Each request has a connection of its own.  `Request.bytes` is what goes out, and `Reply.ofBytes?`
reads what came back until the page closed the connection; a body that is shorter than announced
makes no reply.
-/

namespace CampaignConsole

/-! ## Requests -/

/-- The value of the header that tells who asks. -/
def Credentials.headerText (c : Credentials) : String :=
  "Basic " ++ String.ofList (Text.base64 (c.user ++ ":" ++ c.password.getD "").toUTF8.toList)

namespace Request

/-- The host of a request, with the port where it is not the usual one. -/
def hostText (r : Request) : String :=
  let host := String.ofList ((r.url.host.map (·.text)).getD [])
  match r.url.port with
  | none => host
  | some port => host ++ ":" ++ toString port

/-- The port that a request goes to. -/
def port (r : Request) : Nat :=
  r.url.port.getD ((Url.defaultPort? r.url.scheme).getD 80)

/-- The path of a request, with its query. -/
def pathText (r : Request) : String :=
  String.ofList <| r.url.path.text ++ match r.url.query with
    | none => []
    | some query => '?' :: query

/-- The headers of a request. -/
def headers (r : Request) : List (String × String) :=
  let credentials := match r.credentials with
    | none => []
    | some c => [("authorization", c.headerText)]
  let form := match r.form with
    | none => []
    | some form =>
        [("content-type", formContentType), ("content-length", toString form.utf8ByteSize)]
  [("host", r.hostText), ("accept", "*/*"), ("connection", "close")] ++ credentials ++ form

/-- The bytes of a request. -/
def bytes (r : Request) : ByteArray :=
  let lines := (r.method.text ++ " " ++ r.pathText ++ " HTTP/1.1") ::
    r.headers.map fun (name, value) => name ++ ": " ++ value
  (String.join (lines.map (· ++ "\r\n")) ++ "\r\n" ++ r.form.getD "").toUTF8

end Request

/-! ## Replies -/

namespace Wire

/-- The characters before the next line end, and the bytes after it. -/
def line? : List UInt8 → Option (List Char × List UInt8)
  | [] => none
  | 10 :: rest => some ([], rest)
  | 13 :: 10 :: rest => some ([], rest)
  | b :: rest => (line? rest).map fun (cs, after) => (Char.ofNat b.toNat :: cs, after)

theorem line?_length {bytes after : List UInt8} {cs : List Char}
    (h : line? bytes = some (cs, after)) : after.length < bytes.length := by
  fun_induction line? bytes generalizing cs with
  | case1 => cases h
  | case2 => cases h; simp
  | case3 => cases h; simp only [List.length_cons]; omega
  | case4 b rest _ _ ih =>
      obtain ⟨⟨_, _⟩, found, eq⟩ := Option.map_eq_some_iff.1 h
      cases eq
      have := ih found
      simp only [List.length_cons]; omega

/-- The code in the first line of a reply. -/
def code? (line : List Char) : Option Nat :=
  match line with
  | 'H' :: 'T' :: 'T' :: 'P' :: '/' :: '1' :: '.' :: rest =>
      let digits := ((rest.dropWhile (· != ' ')).drop 1).takeWhile Char.isDigit
      if digits.length = 3 then Url.numberIn? 10 digits else none
  | _ => none

/-- A header: its name in small letters, and its value without blanks around it. -/
def header? (line : List Char) : Option (String × String) :=
  (Text.splitCharsAtFirst ':' line).map fun (name, value) =>
    (String.ofList (name.map Char.toLower), String.ofList (Text.trimChars value))

/-- The headers up to an empty line, and the bytes after it. -/
def headers? (bytes : List UInt8) : Option (List (String × String) × List UInt8) :=
  match _taken : line? bytes with
  | none => none
  | some ([], rest) => some ([], rest)
  | some (line, rest) =>
      match header? line, headers? rest with
      | some header, some (headers, rest) => some (header :: headers, rest)
      | _, _ => none
termination_by bytes.length
decreasing_by exact line?_length _taken

theorem headers?_length {bytes after : List UInt8} {headers : List (String × String)}
    (h : headers? bytes = some (headers, after)) : after.length < bytes.length := by
  fun_induction headers? bytes generalizing headers with
  | case1 => cases h
  | case2 bytes rest taken => cases h; exact line?_length taken
  | case3 bytes line rest _ taken header headers' rest' found _ ih =>
      cases h
      exact Nat.lt_trans (ih found) (line?_length taken)
  | case4 => cases h

/-- The code and the headers of a reply, and the bytes after them. -/
def head? (bytes : List UInt8) : Option (Nat × List (String × String) × List UInt8) := do
  let (line, rest) ← line? bytes
  let code ← code? line
  let (headers, rest) ← headers? rest
  return (code, headers, rest)

theorem head?_length {bytes after : List UInt8} {code : Nat} {headers : List (String × String)}
    (h : head? bytes = some (code, headers, after)) : after.length < bytes.length := by
  simp only [head?, Option.bind_eq_bind, Option.bind_eq_some_iff, Option.pure_def,
    Option.some.injEq, Prod.mk.injEq, Prod.exists] at h
  obtain ⟨line, rest, first, _, _, _, _, second, rfl, rfl, rfl⟩ := h
  exact Nat.lt_trans (headers?_length second) (line?_length first)

/-- The size that the line before a chunk tells; what follows the digits is skipped. -/
def size? (line : List Char) : Option Nat :=
  let digits := line.takeWhile fun c => (Url.hexValue? c).isSome
  if digits.isEmpty then none else Url.numberIn? 16 digits

/-- One chunk of a body: as many bytes as the line before them tells, and the bytes after the line
end that follows. -/
def chunk? (bytes : List UInt8) : Option (List UInt8 × List UInt8) := do
  let (line, rest) ← line? bytes
  let size ← size? line
  if rest.length < size then none
  else
    let (_, after) ← line? (rest.drop size)
    return (rest.take size, after)

theorem chunk?_length {bytes chunk after : List UInt8} (h : chunk? bytes = some (chunk, after)) :
    after.length < bytes.length := by
  simp only [chunk?, Option.bind_eq_bind, Option.bind_eq_some_iff, Prod.exists] at h
  obtain ⟨line, rest, first, size, _, h⟩ := h
  split at h
  · cases h
  · simp only [Option.bind_eq_some_iff, Option.pure_def, Option.some.injEq, Prod.mk.injEq,
      Prod.exists] at h
    obtain ⟨_, _, second, _, rfl⟩ := h
    have := line?_length first
    have := line?_length second
    simp only [List.length_drop] at this
    omega

/-- The bytes of a body that comes in chunks, up to an empty chunk. -/
def chunks? (bytes : List UInt8) : Option (List UInt8) :=
  match _taken : chunk? bytes with
  | none => none
  | some ([], _) => some []
  | some (chunk, rest) => (chunks? rest).map (chunk ++ ·)
termination_by bytes.length
decreasing_by exact chunk?_length _taken

/-- The body that follows the headers of a reply. -/
def body? (headers : List (String × String)) (rest : List UInt8) : Option (List UInt8) :=
  if ((headers.lookup "transfer-encoding").map (·.toLower)) == some "chunked" then chunks? rest
  else
    match headers.lookup "content-length" with
    | none => some rest
    | some size => do
        let size ← Url.numberIn? 10 size.toList
        if rest.length < size then none else some (rest.take size)

end Wire

/-- The reply that a page sent, after any replies that only announce it; the codes
204 and 304 have no body. -/
def Reply.ofBytes? (bytes : List UInt8) : Option Reply :=
  match _taken : Wire.head? bytes with
  | none => none
  | some (code, headers, rest) =>
      if code < 200 then Reply.ofBytes? rest
      else if code = 204 ∨ code = 304 then some { code, body := .empty }
      else (Wire.body? headers rest).map fun body => { code, body := ⟨body.toArray⟩ }
termination_by bytes.length
decreasing_by exact Wire.head?_length _taken

end CampaignConsole
