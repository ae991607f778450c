import CampaignConsole.Page.Form
import CampaignConsole.Url.Reader

/-!
Requests to a campaign page, and what comes back.

`Request.get?` and `Request.post?` make a request from an address; an address without a host, or of
another scheme than `http` and `https`, makes none.  User name and password leave the address and
become the credentials of the request.
-/

namespace CampaignConsole

/-- Asking for data, or posting a form. -/
inductive Method where
  | get | post
  deriving DecidableEq, Repr

/-- The name of a method. -/
def Method.text : Method → String
  | .get => "GET"
  | .post => "POST"

/-- Who asks: a user name, and a password that may be missing. -/
structure Credentials where
  user : String
  password : Option String
  deriving DecidableEq, Repr

/-- A request to a page. -/
structure Request where
  method : Method
  url : Url
  credentials : Option Credentials := none
  /-- The form posted, as text. -/
  form : Option String := none
  deriving DecidableEq, Repr

/-- The kind of text that a form is sent as. -/
def formContentType : String := "application/x-www-form-urlencoded"

/-- The address that a request goes to: without fragment. -/
def Request.target (r : Request) : String :=
  String.ofList r.url.textToQuery

/-- A reply of a page. -/
structure Reply where
  code : Nat
  body : ByteArray

/-- Why there is no connection to a page. -/
inductive ConnectFault where
  /-- Nothing listens at the address. -/
  | refused
  /-- No network leads to the address. -/
  | noNetwork
  /-- The host has no address. -/
  | unknownHost
  /-- The scheme asks for an encrypted connection, and there are only plain ones. -/
  | encrypted
  /-- The time for the request was over. -/
  | timedOut
  deriving DecidableEq, Repr

/-- The messages of a fault, from the outermost to its root. -/
def ConnectFault.messages : ConnectFault → List String
  | .refused => ["client error (Connect)", "tcp connect error", "Connection refused (os error 111)"]
  | .noNetwork =>
      ["client error (Connect)", "tcp connect error", "Network is unreachable (os error 101)"]
  | .unknownHost =>
      ["client error (Connect)", "dns error",
        "failed to lookup address information: Name or service not known"]
  | .encrypted => ["client error (Connect)", "invalid URL, scheme is not http"]
  | .timedOut => ["operation timed out"]

/-- What comes of sending a request. -/
inductive Arrival where
  | reply (r : Reply)
  /-- The connection ended without a reply. -/
  | dropped
  /-- There was no connection. -/
  | unreachable (fault : ConnectFault)

/-- Why a request got no reply. -/
inductive TransportError where
  /-- The address is no URL. -/
  | notUrl (cause : UrlError)
  /-- The URL has no host, or another scheme than `http` and `https`. -/
  | badScheme (url : Url)
  /-- The host of the URL holds a character that no request can hold. -/
  | badAuthority (url : Url)
  | dropped (url : Url)
  | unreachable (url : Url) (fault : ConnectFault)
  deriving DecidableEq, Repr

namespace TransportError

/-- The messages of an error: what failed, then why. -/
def messages : TransportError → List String
  | .notUrl cause => ["builder error", cause.message]
  | .badScheme url =>
      ["builder error for url (" ++ url.text ++ ")", "URL scheme is not allowed"]
  | .badAuthority url =>
      ["builder error for url (" ++ url.text ++ ")", "Parsed Url is not a valid Uri"]
  | .dropped url =>
      ["error sending request for url (" ++ url.text ++ ")", "client error (SendRequest)",
        "connection closed before message completed"]
  | .unreachable url fault =>
      ("error sending request for url (" ++ url.text ++ ")") :: fault.messages

/-- What failed. -/
def message (e : TransportError) : String :=
  e.messages.head?.getD ""

end TransportError

namespace Request

/-- The characters that a host name may hold and a request may not. -/
def refusedInAuthority (c : Char) : Bool :=
  c ∈ ['"', '\x60', '{', '}']

/-- The text that a part of a URL stands for, if its bytes are one. -/
def readable? (part : List Char) : Option String :=
  String.fromUTF8? ⟨(Url.percentDecode part).toArray⟩

/-- The credentials in a URL; a user name that is no text is left where it is. -/
def credentialsOf (url : Url) : Option Credentials := do
  let user ← readable? url.username
  let password := url.password.bind readable?
  if user.isEmpty && password.isNone then none else some { user, password }

/-- The URL that a request is sent to. -/
def sendable (url : Url) : Except TransportError Url :=
  if !url.hasHost then .error (.badScheme url)
  else
    let url := if (credentialsOf url).isSome then url.withoutUserInfo else url
    if String.ofList url.scheme ∉ ["http", "https"] then .error (.badScheme url)
    else if (url.host.map (·.text.any refusedInAuthority)).getD false then
      .error (.badAuthority url)
    else .ok url

/-- Asks for the data of an address, with a named value added to its query. -/
def get? (address name value : String) : Except TransportError Request :=
  match Url.parse none address with
  | .error e => .error (.notUrl e)
  | .ok url => do
      let url := if url.hasHost then url.addQuery name value else url
      return { method := .get, url := ← sendable url, credentials := credentialsOf url }

/-- Posts a form to a URL. -/
def postTo (url : Url) (form : FormValues) : Except TransportError Request := do
  return {
    method := .post
    url := ← sendable url
    credentials := credentialsOf url
    form := some (String.ofList (Url.formEncode form)) }

/-- Posts a form to an address. -/
def post? (address : String) (form : FormValues) : Except TransportError Request :=
  match Url.parse none address with
  | .error e => .error (.notUrl e)
  | .ok url => postTo url form

/-- The error for a request that brought no reply. -/
def received (r : Request) : Arrival → Except TransportError Reply
  | .reply reply => .ok reply
  | .dropped => .error (.dropped r.url)
  | .unreachable fault => .error (.unreachable r.url fault)

end Request

end CampaignConsole
