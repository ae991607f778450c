import CampaignConsole.Page.Envelope
import CampaignConsole.Page.Request
import CampaignConsole.Settings
import CampaignConsole.Text.Quoted
import CampaignConsole.Text.Utf8

/-!
Talking to a campaign page.

Every JSON reply stands in an envelope.  `Reply.data` reads one that must carry data, and
`Reply.accepted` reads the reply to a posted form, which may be anything but a refusal.  Each call
of a `CampaignPage` sends at most one request.
-/

namespace CampaignConsole

open Json

/-- Why a reply is not what was asked for. -/
inductive ReplyFault where
  | notJson
  | noData
  deriving DecidableEq, Repr

/-- The wording of a fault. -/
def ReplyFault.message : ReplyFault → String
  | .notJson => "Failed to parse JSON response: error decoding response body"
  | .noData => "Response carried no data"

/-- Why a request was not sent. -/
inductive InvalidRequest where
  | blankGroup
  | badPageUrl (cause : UrlError)
  | badAction (link : String) (cause : UrlError)
  deriving DecidableEq, Repr

/-- The wording of a reason. -/
def InvalidRequest.message : InvalidRequest → String
  | .blankGroup => "group name cannot be empty"
  | .badPageUrl cause => "Invalid page URL: " ++ cause.message
  | .badAction link cause => "Invalid action " ++ Text.quoted link ++ ": " ++ cause.message

/-- Why a call of a page failed. -/
inductive ClientError where
  /-- There was no reply. -/
  | transport (error : TransportError)
  /-- The page answered with another code than success. -/
  | answered (code : Nat) (body : String)
  /-- The reply is not what was asked for. -/
  | unexpected (fault : ReplyFault)
  /-- The page refused the request. -/
  | rejected (reason : String)
  /-- No request was sent. -/
  | invalid (reason : InvalidRequest)
  deriving DecidableEq, Repr

namespace ClientError

/-- The wording of an error. -/
def message : ClientError → String
  | .transport error => "Could not reach the page: " ++ error.message
  | .answered code body => "Page answered " ++ toString code ++ ": " ++ body
  | .unexpected fault => "Unexpected reply: " ++ fault.message
  | .rejected reason => "Request rejected: " ++ reason
  | .invalid reason => "Invalid request: " ++ reason.message

/-- The messages of an error and its causes. -/
def messages (e : ClientError) : List String :=
  e.message :: match e with
    | .transport error => error.messages
    | _ => []

/-- Whether the page or list does not exist. -/
def isNotFound : ClientError → Bool
  | .answered 404 _ => true
  | _ => false

/-- Whether the page blames the request. -/
def isClientError : ClientError → Bool
  | .answered code _ => 400 ≤ code && code < 500
  | _ => false

/-- Whether the page blames itself. -/
def isServerError : ClientError → Bool
  | .answered code _ => 500 ≤ code
  | _ => false

end ClientError

/-! ## Reading replies -/

namespace Reply

/-- Whether a code tells success. -/
def isSuccess (r : Reply) : Bool :=
  200 ≤ r.code && r.code < 300

/-- The body of a reply with a code of success. -/
def checked (r : Reply) : Except ClientError ByteArray :=
  if r.isSuccess then .ok r.body
  else .error (.answered r.code (Text.Utf8.lossy r.body))

/-- The data that an envelope carries. -/
def dataOf {α : Type} (e : Envelope α) : Except ClientError α :=
  if !e.status then .error (.rejected e.refusalText)
  else
    match e.data with
    | some data => .ok data
    | none => .error (.unexpected .noData)

/-- Reads a reply that must carry data. -/
def data {α : Type} (read : Node → Option (Envelope α)) (r : Reply) : Except ClientError α := do
  let body ← r.checked
  match Node.parse? (Text.Utf8.places body) >>= read with
  | some e => dataOf e
  | none => .error (.unexpected .notJson)

/-- Reads the text of a reply to a form: only an envelope that tells a refusal is one. -/
def readAction (text : String) : Except ClientError Unit :=
  if Text.isBlankText text then .ok ()
  else
    match Node.parse? (text.toList.map some) >>= Envelope.ofAnyNode? with
    | some e => if e.status then .ok () else .error (.rejected e.refusalText)
    | none => .ok ()

/-- Reads the reply to a posted form. -/
def accepted (r : Reply) : Except ClientError Unit := do
  readAction (Text.Utf8.lossy (← r.checked))

end Reply

/-! ## Calls -/

/-- Sending requests. -/
class Web (m : Type → Type) where
  exchange : Request → m Arrival

/-- A campaign page, by its address without slashes at the end. -/
structure CampaignPage where
  url : String
  deriving DecidableEq, Repr

namespace CampaignPage

/-- The page at an address. -/
def ofAddress (address : String) : CampaignPage :=
  ⟨String.ofList (trimSlashes address.toList)⟩

/-- The URL that a link on the page leads to. -/
def resolve (page : CampaignPage) (link : String) : Except ClientError Url :=
  match Url.parse none page.url with
  | .error e => .error (.invalid (.badPageUrl e))
  | .ok base =>
      match Url.parse (some base) link with
      | .error e => .error (.invalid (.badAction link e))
      | .ok url => .ok url

variable {m : Type → Type} [Monad m] [Web m]

/-- Sends a request that could be made, and reads its reply. -/
def send {α : Type} (request : Except TransportError Request)
    (read : Reply → Except ClientError α) : m (Except ClientError α) := do
  match request with
  | .error e => return .error (.transport e)
  | .ok request =>
      match request.received (← Web.exchange request) with
      | .error e => return .error (.transport e)
      | .ok reply => return read reply

/-- Asks how far the send job has come. -/
def fetchStatus (page : CampaignPage) : m (Except ClientError SendJob) :=
  send (Request.get? page.url "status" "true") (Reply.data Envelope.ofJobNode?)

/-- Asks the page to start sending. -/
def startSend (page : CampaignPage) : m (Except ClientError Unit) :=
  send (Request.post? page.url ({} : SendForm).values) Reply.accepted

/-- Adds a recipient group to the campaign or removes it. -/
def setGroup (page : CampaignPage) (group : String) (isRecipient : Bool) :
    m (Except ClientError Unit) :=
  let group := Text.trim group
  if group.isEmpty then return .error (.invalid .blankGroup)
  else send (Request.post? page.url (GroupForm.values { group, isRecipient })) Reply.accepted

/-- Creates a campaign job by posting a form to a link of the page. -/
def createJob (page : CampaignPage) (action : String) (fields : FormValues) :
    m (Except ClientError Unit) :=
  match page.resolve action with
  | .error e => return .error e
  | .ok url => send (Request.postTo url fields) Reply.accepted

/-- Asks for the campaigns of a list. -/
def listCampaigns (listUrl : String) : m (Except ClientError (List Campaign)) :=
  send (Request.get? listUrl "list" "true") (Reply.data Envelope.ofCampaignsNode?)

end CampaignPage

end CampaignConsole
