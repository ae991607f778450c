import CampaignConsole.Proofs.Page.FormPosts

/-!
# What an inquiry reports when the page refuses it

An `Inquiry` is a call that asks a page for data.  `run_eq` splits it into making a request and
reading the reply, for both kinds of data at once.

An envelope is read together with its data, before its status is looked at.  So for an object that
tells a refusal (`Envelope.TellsRefusal`) it depends on the data whether the reason is seen:
`run_refused` says that it is reported if the data are missing, null or of the kind that was asked
for, and that the reply counts as none otherwise.  Data that are a truth value, a number or a string
are of neither kind (`readData_plain`).
-/

namespace CampaignConsole

open Json

/-- A truth value, a number or a string. -/
def Json.Node.isPlain : Node → Bool
  | .bool _ | .number _ | .string _ => true
  | _ => false

/-! ## Objects that tell a refusal -/

namespace Envelope

variable {α : Type} {read : Node → Option α} {members : List (List Piece × Node)}

/-- The members of an object tell a refusal, whatever the data are: the one status is false, the
link and the messages are null or can be read if they are there, and no known member occurs
twice. -/
structure TellsRefusal (members : List (List Piece × Node)) : Prop where
  status : Node.valuesOf "status" members = [.bool false]
  once : ∀ name ∈ ["nextHref", "messages", "data"], (Node.valuesOf name members).length ≤ 1
  nextHref : ∀ value ∈ Node.valuesOf "nextHref" members, value = .null ∨ value.text?.isSome
  messages : ∀ value ∈ Node.valuesOf "messages" members,
    value = .null ∨ (value.list? Node.text?).isSome

/-- Every name in an object is a text, and its data are missing, null or of the kind that `read`
reads. -/
structure HasData (read : Node → Option α) (members : List (List Piece × Node)) : Prop where
  names : ∀ member ∈ members, (textOf? member.1).isSome
  data : ∀ value ∈ Node.valuesOf "data" members, value = .null ∨ (read value).isSome

/-- A refusal with messages that can be read, and without a link. -/
theorem TellsRefusal.of_told (said : Node)
    (status : Node.valuesOf "status" members = [.bool false])
    (once : ∀ name ∈ ["nextHref", "messages", "data"], (Node.valuesOf name members).length ≤ 1)
    (unlinked : Node.valuesOf "nextHref" members = [])
    (told : Node.valuesOf "messages" members = [said])
    (legible : (said.list? Node.text?).isSome) : TellsRefusal members where
  status := status
  once := once
  nextHref value member := by
    rw [unlinked] at member
    cases member
  messages value member := by
    rw [told] at member
    rw [List.mem_singleton.1 member]
    exact Or.inr legible

theorem TellsRefusal.legible_iff (refusal : TellsRefusal members) :
    Legible read members ↔ HasData read members :=
  ⟨fun legible => ⟨legible.names, legible.data⟩, fun hasData =>
    ⟨hasData.names, refusal.once, refusal.nextHref, refusal.messages, hasData.data⟩⟩

end Envelope

namespace Reply

variable {α : Type} {read : Node → Option α} {r : Reply} {members : List (List Piece × Node)}

theorem envelope?_of_parse? {readEnvelope : Node → Option (Envelope α)} {value : Node}
    (isValue : Node.parse? (Text.Utf8.places r.body) = some value) :
    r.envelope? readEnvelope = readEnvelope value := by
  rw [envelope?, isValue]
  rfl

/-- A refusal around data of the kind asked for is reported with its messages. -/
theorem data_of_hasData (success : r.isSuccess = true)
    (isObject : Node.parse? (Text.Utf8.places r.body) = some (.object members))
    (refusal : Envelope.TellsRefusal members) (hasData : Envelope.HasData read members) :
    data (Envelope.ofNode? read) r =
      .error (.rejected (Envelope.reasonOf (Envelope.messagesOf members))) := by
  have legible := refusal.legible_iff.2 hasData
  obtain ⟨e, found⟩ := (Envelope.exists_ofNode?_iff_legible refusal.status).2 legible
  obtain ⟨status, messages⟩ := Envelope.refusal_of_ofNode? refusal.status found
  rw [data_eq success, envelope?_of_parse? isObject, found, ← messages]
  dsimp only [dataOf]
  rw [status]
  rfl

/-- A refusal around other data is no reply. -/
theorem data_of_not_hasData (success : r.isSuccess = true)
    (isObject : Node.parse? (Text.Utf8.places r.body) = some (.object members))
    (refusal : Envelope.TellsRefusal members) (otherData : ¬Envelope.HasData read members) :
    data (Envelope.ofNode? read) r = .error (.unexpected .notJson) := by
  have unknown : Envelope.ofNode? read (.object members) = none := by
    rcases found : Envelope.ofNode? read (.object members) with _ | e
    · rfl
    · have legible := (Envelope.exists_ofNode?_iff_legible refusal.status).1 ⟨e, found⟩
      exact absurd (refusal.legible_iff.1 legible) otherData
  rw [data_eq success, envelope?_of_parse? isObject, unknown]

end Reply

/-! ## Inquiries -/

/-- A call that asks a page for data. -/
inductive Inquiry where
  | status
  | campaigns (listUrl : String)

namespace Inquiry

/-- The data that an inquiry asks for. -/
def Data : Inquiry → Type
  | .status => SendJob
  | .campaigns _ => List Campaign

/-- Reads the data of an inquiry, inside their envelope. -/
def readData : (inquiry : Inquiry) → Node → Option inquiry.Data
  | .status => SendJob.ofNode? 1
  | .campaigns _ => Campaign.listOfNode?

/-- Makes the call. -/
def run {m : Type → Type} [Monad m] [Web m] (page : CampaignPage) :
    (inquiry : Inquiry) → m (Except ClientError inquiry.Data)
  | .status => page.fetchStatus
  | .campaigns listUrl => CampaignPage.listCampaigns listUrl

/-- The request of a call. -/
def request? (page : CampaignPage) : Inquiry → Except TransportError Request
  | .status => Request.get? page.url "status" "true"
  | .campaigns listUrl => Request.get? listUrl "list" "true"

/-- A call makes its request and reads an envelope around its data. -/
theorem run_eq {m : Type → Type} [Monad m] [Web m] (page : CampaignPage) (inquiry : Inquiry) :
    (inquiry.run page : m _) =
      CampaignPage.send (inquiry.request? page)
        (Reply.data (Envelope.ofNode? inquiry.readData)) := by
  cases inquiry <;> rfl

/-- Truth values, numbers and strings are data of no inquiry. -/
theorem readData_plain (inquiry : Inquiry) {value : Node} (plain : value.isPlain = true) :
    inquiry.readData value = none := by
  cases value with
  | null | array | object => cases plain
  | bool | number | string => cases inquiry <;> rfl

section

variable {page : CampaignPage} {inquiry : Inquiry} {request : Request} {s : Session} {r : Reply}
  {rest : List Reaction} {members : List (List Piece × Node)}

theorem exists_request (sent : (inquiry.request? page).isOk = true) :
    ∃ request, inquiry.request? page = .ok request := by
  rcases made : inquiry.request? page with e | request
  · rw [made] at sent
    cases sent
  · exact ⟨request, rfl⟩

/-- A call whose request is answered ends with what is read from the reply. -/
theorem run_answered (made : inquiry.request? page = .ok request)
    (answered : s.page.reactions = .reply r :: rest) :
    (inquiry.run page : Session.Run _) s = .ok (Reply.data (Envelope.ofNode? inquiry.readData) r)
      { s with page := { s.page with reactions := rest }, requests := request :: s.requests } := by
  rw [run_eq, made]
  exact CampaignPage.send_answered _ answered

/-- **What an inquiry reports when the page refuses it.**  Let the page answer a call with a code of
success and an object that tells a refusal.  The call fails with the messages of the reply exactly
if every name in the object is a text and the data are missing, null or of the kind that was asked
for.  Otherwise it fails as if the reply were no JSON, and the reason is lost: so it is with all
data that are a truth value, a number or a string. -/
theorem run_refused (made : inquiry.request? page = .ok request)
    (answered : s.page.reactions = .reply r :: rest) (success : r.isSuccess = true)
    (isObject : Node.parse? (Text.Utf8.places r.body) = some (.object members))
    (refusal : Envelope.TellsRefusal members) :
    ∃ error after, (inquiry.run page : Session.Run _) s = .ok (.error error) after ∧
      after.requests = request :: s.requests ∧
      (error = .rejected (Envelope.reasonOf (Envelope.messagesOf members)) ↔
        Envelope.HasData inquiry.readData members) ∧
      (error = .unexpected .notJson ↔ ¬Envelope.HasData inquiry.readData members) ∧
      ((∃ value ∈ Node.valuesOf "data" members, value.isPlain) →
        error = .unexpected .notJson) := by
  have ran := run_answered made answered
  by_cases hasData : Envelope.HasData inquiry.readData members
  · rw [Reply.data_of_hasData success isObject refusal hasData] at ran
    refine ⟨_, _, ran, rfl, iff_of_true rfl hasData, iff_of_false nofun (not_not_intro hasData), ?_⟩
    rintro ⟨value, member, plain⟩
    rcases hasData.data value member with rfl | kept
    · cases plain
    · rw [readData_plain inquiry plain] at kept
      cases kept
  · rw [Reply.data_of_not_hasData success isObject refusal hasData] at ran
    exact ⟨_, _, ran, rfl, iff_of_false nofun hasData, iff_of_true rfl hasData, fun _ => rfl⟩

/-- A list of campaigns that the page refuses with two messages: there are data of the kind asked
for, and a member that nobody asks for. -/
theorem run_refused_closed :
    let text := "\x7b\"messages\":[\"closed\",\"try later\"]," ++
      "\"data\":[\x7b\"name\":\"spring\"\x7d],\"since\":1e400,\"status\":false\x7d"
    let members : List (List Piece × Node) := [
      (spell "messages", .array [.string (spell "closed"), .string (spell "try later")]),
      (spell "data", .array [.object [(spell "name", .string (spell "spring"))]]),
      (spell "since", .number ⟨false, [1], [], some ⟨false, [4, 0, 0]⟩⟩),
      (spell "status", .bool false)]
    let inquiry := campaigns "http://h"
    let s : Session := { page := { reactions := [.reply ⟨200, text.toUTF8⟩] } }
    (inquiry.request? ⟨"http://h/a"⟩).isOk = true ∧
      Node.parse? (Text.Utf8.places text.toUTF8) = some (.object members) ∧
      Envelope.TellsRefusal members ∧ Envelope.HasData inquiry.readData members ∧
      ∃ after, (inquiry.run ⟨"http://h/a"⟩ : Session.Run _) s =
        .ok (.error (.rejected "closed; try later")) after := by
  intro text members inquiry s
  have sent : (inquiry.request? ⟨"http://h/a"⟩).isOk = true := by decide +kernel
  obtain ⟨request, made⟩ := exists_request sent
  have scanned : Token.scan (text.toList.map some) = some (Node.object members).tokens := by
    decide +kernel
  have isObject : Node.parse? (Text.Utf8.places text.toUTF8) = some (.object members) := by
    rw [Text.Utf8.places_toUTF8, Node.parse?, scanned]
    exact ofTokens?_tokens (.object members)
  have refusal : Envelope.TellsRefusal members :=
    .of_told (.array [.string (spell "closed"), .string (spell "try later")]) rfl (by decide) rfl
      rfl rfl
  have hasData : Envelope.HasData inquiry.readData members := by
    refine ⟨by decide, ?_⟩
    intro value member
    rw [List.mem_singleton.1 member]
    exact Or.inr rfl
  obtain ⟨error, after, ran, _, told, _⟩ := run_refused (s := s) made rfl rfl isObject refusal
  exact ⟨sent, isObject, refusal, hasData, after, by rw [ran, told.2 hasData]; rfl⟩

/-- A list of campaigns that the page refuses with a message and an empty object: the message is
lost. -/
theorem run_campaigns_refused_with_object :
    let text := "\x7b\"status\":false,\"messages\":[\"not allowed\"],\"data\":\x7b\x7d\x7d"
    let members : List (List Piece × Node) := [(spell "status", .bool false),
      (spell "messages", .array [.string (spell "not allowed")]), (spell "data", .object [])]
    let s : Session := { page := { reactions := [.reply ⟨200, text.toUTF8⟩] } }
    Node.parse? (Text.Utf8.places text.toUTF8) = some (.object members) ∧
      Envelope.TellsRefusal members ∧ Envelope.messagesOf members = ["not allowed"] ∧
      ∃ after, ((campaigns "http://h").run ⟨"http://h/a"⟩ : Session.Run _) s =
        .ok (.error (.unexpected .notJson)) after := by
  intro text members s
  obtain ⟨request, made⟩ :
      ∃ request, (campaigns "http://h").request? ⟨"http://h/a"⟩ = .ok request :=
    exists_request (by decide +kernel)
  have scanned : Token.scan (text.toList.map some) = some (Node.object members).tokens := by
    decide +kernel
  have isObject : Node.parse? (Text.Utf8.places text.toUTF8) = some (.object members) := by
    rw [Text.Utf8.places_toUTF8, Node.parse?, scanned]
    exact ofTokens?_tokens (.object members)
  have refusal : Envelope.TellsRefusal members :=
    .of_told (.array [.string (spell "not allowed")]) rfl (by decide) rfl rfl rfl
  have otherData : ¬Envelope.HasData (campaigns "http://h").readData members := by
    intro hasData
    rcases hasData.data (.object []) (List.mem_singleton.2 rfl) with null | kept
    · cases null
    · cases kept
  refine ⟨isObject, refusal, rfl, ?_⟩
  rw [← Reply.data_of_not_hasData (r := ⟨200, text.toUTF8⟩) rfl isObject refusal otherData]
  exact ⟨_, run_answered made rfl⟩

end

end Inquiry

end CampaignConsole
