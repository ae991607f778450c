import CampaignConsole.Command.Session
import CampaignConsole.Proofs.Page.Readings

/-!
# What a posted form reports

A `FormPost` is a call that posts a form.  `run_eq` splits it into making a request and sending it,
and `run_answered` gives its outcome in a session where the page answers.

`run_of_refusal` is about the replies that tell a refusal: the refusal is reported if the other
members of the reply are those of an envelope, and the post counts as done if one of them is not.
-/

namespace CampaignConsole

open Json

/-- A request that the page answers brings what is read from the reply. -/
theorem CampaignPage.send_answered {α : Type} {request : Request} {s : Session} {r : Reply}
    {rest : List Reaction} (read : Reply → Except ClientError α)
    (answered : s.page.reactions = .reply r :: rest) :
    (CampaignPage.send (.ok request) read : Session.Run _) s = .ok (read r)
      { s with page := { s.page with reactions := rest }, requests := request :: s.requests } := by
  have arrived : Session.exchange request s = .ok (.reply r)
      { s with page := { s.page with reactions := rest }, requests := request :: s.requests } := by
    obtain ⟨⟨reactions, afterwards⟩, disk, requests, printed, clock⟩ := s
    obtain rfl : reactions = .reply r :: rest := answered
    rfl
  show EStateM.bind (Session.exchange request) _ s = _
  rw [EStateM.bind, arrived]
  rfl

/-- A call that posts a form to a page. -/
inductive FormPost where
  | startSend
  | setGroup (group : String) (isRecipient : Bool)
  | createJob (action : String) (fields : FormValues)

namespace FormPost

/-- Makes the call. -/
def run {m : Type → Type} [Monad m] [Web m] (page : CampaignPage) :
    FormPost → m (Except ClientError Unit)
  | .startSend => page.startSend
  | .setGroup group isRecipient => page.setGroup group isRecipient
  | .createJob action fields => page.createJob action fields

/-- The request of a call.  A blank group makes none, nor does a link that leads nowhere. -/
def request? (page : CampaignPage) : FormPost → Except ClientError Request
  | .startSend => (Request.post? page.url ({} : SendForm).values).mapError .transport
  | .setGroup group isRecipient =>
      let group := Text.trim group
      if group.isEmpty then .error (.invalid .blankGroup)
      else (Request.post? page.url (GroupForm.values { group, isRecipient })).mapError .transport
  | .createJob action fields =>
      match page.resolve action with
      | .error e => .error e
      | .ok url => (Request.postTo url fields).mapError .transport

theorem send_eq {m : Type → Type} [Monad m] [Web m] {α : Type}
    (made : Except TransportError Request) (read : Reply → Except ClientError α) :
    (CampaignPage.send made read : m _) =
      match made.mapError ClientError.transport with
      | .ok request => CampaignPage.send (.ok request) read
      | .error e => pure (.error e) := by
  cases made <;> rfl

/-- A call makes its request and sends it. -/
theorem run_eq {m : Type → Type} [Monad m] [Web m] (page : CampaignPage) (post : FormPost) :
    (post.run page : m _) =
      match post.request? page with
      | .ok request => CampaignPage.send (.ok request) Reply.accepted
      | .error e => pure (.error e) := by
  cases post with
  | startSend => exact send_eq _ _
  | setGroup group isRecipient =>
      simp only [run, request?, CampaignPage.setGroup]
      split_ifs
      · rfl
      · exact send_eq _ _
  | createJob action fields =>
      simp only [run, request?, CampaignPage.createJob]
      cases page.resolve action with
      | error e => rfl
      | ok url => exact send_eq _ _

section

variable {page : CampaignPage} {post : FormPost} {request : Request} {s : Session} {r : Reply}
  {rest : List Reaction}

theorem exists_request (sent : (post.request? page).isOk = true) :
    ∃ request, post.request? page = .ok request := by
  rcases made : post.request? page with e | request
  · rw [made] at sent
    cases sent
  · exact ⟨request, rfl⟩

/-- A call whose request is answered ends with what the reply says. -/
theorem run_answered (made : post.request? page = .ok request)
    (answered : s.page.reactions = .reply r :: rest) :
    (post.run page : Session.Run _) s = .ok r.accepted
      { s with page := { s.page with reactions := rest }, requests := request :: s.requests } := by
  rw [run_eq, made]
  exact CampaignPage.send_answered Reply.accepted answered

end

end FormPost

/-! ## Replies that tell a refusal -/

/-- The members of an object can be read as those of an envelope around any data. -/
def Envelope.LegibleAny (members : List (List Piece × Node)) : Prop :=
  Legible (fun data => if data.canKeep 1 then some data else none) members

section

variable {r : Reply} {members : List (List Piece × Node)}

/-- A legible refusal is reported with its messages. -/
theorem Reply.accepted_of_legible (success : r.isSuccess = true)
    (isObject : Node.parse? ((Text.Utf8.lossy r.body).toList.map some) = some (.object members))
    (refused : Node.valuesOf "status" members = [.bool false])
    (legible : Envelope.LegibleAny members) :
    r.accepted = .error (.rejected (Envelope.reasonOf (Envelope.messagesOf members))) := by
  rcases (Envelope.exists_ofNode?_iff_legible refused).2 legible with ⟨e, found⟩
  have known : Envelope.ofAnyNode? (.object members) = some e := found
  rcases Envelope.refusal_of_ofNode? refused found with ⟨status, messages⟩
  rw [Reply.accepted_eq success, Reply.formEnvelope?_of_parse? isObject, known, ← messages]
  dsimp only
  rw [status]
  rfl

/-- A refusal that is not legible is taken for a reply in another form. -/
theorem Reply.accepted_of_not_legible (success : r.isSuccess = true)
    (isObject : Node.parse? ((Text.Utf8.lossy r.body).toList.map some) = some (.object members))
    (refused : Node.valuesOf "status" members = [.bool false])
    (illegible : ¬Envelope.LegibleAny members) : r.accepted = .ok () := by
  have unknown : Envelope.ofAnyNode? (.object members) = none := by
    rcases found : Envelope.ofAnyNode? (.object members) with _ | e
    · rfl
    · exact absurd ((Envelope.exists_ofNode?_iff_legible refused).1 ⟨e, found⟩) illegible
  rw [Reply.accepted_eq success, Reply.formEnvelope?_of_parse? isObject, unknown]

end

namespace FormPost

/-- **What a post reports when the page refuses it.**  Let the page answer a call with a code of
success and an object that has one status, which is false.  If the other members are those of an
envelope, the call fails with the messages of the reply.  It succeeds if one of them is not. -/
theorem run_of_refusal {page : CampaignPage} {post : FormPost} {request : Request} {s : Session}
    {r : Reply} {rest : List Reaction} {members : List (List Piece × Node)}
    (made : post.request? page = .ok request)
    (answered : s.page.reactions = .reply r :: rest) (success : r.isSuccess = true)
    (isObject : Node.parse? ((Text.Utf8.lossy r.body).toList.map some) = some (.object members))
    (refused : Node.valuesOf "status" members = [.bool false]) :
    ∃ outcome after, (post.run page : Session.Run _) s = .ok outcome after ∧
      after.requests = request :: s.requests ∧
      (Envelope.LegibleAny members → outcome =
        .error (.rejected (Envelope.reasonOf (Envelope.messagesOf members)))) ∧
      (outcome = .ok () ↔ ¬Envelope.LegibleAny members) := by
  have ran := run_answered made answered
  refine ⟨r.accepted, _, ran, rfl, ?_, ?_⟩
  · exact Reply.accepted_of_legible success isObject refused
  · constructor
    · intro done legible
      rw [Reply.accepted_of_legible success isObject refused legible] at done
      cases done
    · exact Reply.accepted_of_not_legible success isObject refused

/-- A group that the page refuses with two messages. -/
theorem run_of_refusal_twice_told :
    let text := "\x7b\"status\":false,\"messages\":[\"full\",\"closed\"]\x7d"
    let members : List (List Piece × Node) := [(spell "status", .bool false),
      (spell "messages", .array [.string (spell "full"), .string (spell "closed")])]
    let post := setGroup " staff " true
    let s : Session := { page := { reactions := [.reply ⟨200, text.toUTF8⟩] } }
    (post.request? ⟨"http://h"⟩).isOk = true ∧
      Node.parse? ((Text.Utf8.lossy text.toUTF8).toList.map some) = some (.object members) ∧
      Node.valuesOf "status" members = [.bool false] ∧ Envelope.LegibleAny members ∧
      ∃ after, (post.run ⟨"http://h"⟩ : Session.Run _) s =
        .ok (.error (.rejected "full; closed")) after := by
  intro text members post s
  have sent : (post.request? ⟨"http://h"⟩).isOk = true := by decide +kernel
  obtain ⟨request, made⟩ := exists_request sent
  have scanned : Token.scan (text.toList.map some) = some [.openBrace,
      .string (spell "status"), .colon, .bool false, .comma,
      .string (spell "messages"), .colon, .openBracket, .string (spell "full"), .comma,
      .string (spell "closed"), .closeBracket, .closeBrace] := by decide +kernel
  have isObject : Node.parse? ((Text.Utf8.lossy text.toUTF8).toList.map some) =
      some (.object members) := by
    rw [Text.Utf8.lossy_toUTF8 (by decide), Node.parse?, scanned]
    rfl
  have legible : Envelope.LegibleAny members := by
    constructor
    case names => decide
    case once => decide
    case nextHref =>
      intro value member
      cases member
    case messages =>
      intro value member
      rw [List.mem_singleton.1 member]
      exact Or.inr rfl
    case data =>
      intro value member
      cases member
  obtain ⟨outcome, after, ran, _, told, _⟩ := run_of_refusal (s := s) made rfl rfl isObject rfl
  exact ⟨sent, isObject, rfl, legible, after, by rw [ran, told legible]; rfl⟩

/-- A start that the page refuses counts as done where the data hold half of a character. -/
theorem run_startSend_half_character :
    let text :=
      "\x7b\"status\":false,\"messages\":[\"no recipients\"],\"data\":\"\\ud83d\"\x7d"
    let members : List (List Piece × Node) := [(spell "status", .bool false),
      (spell "messages", .array [.string (spell "no recipients")]),
      (spell "data", .string [.unit 0xd83d])]
    let s : Session := { page := { reactions := [.reply ⟨200, text.toUTF8⟩] } }
    Node.parse? ((Text.Utf8.lossy text.toUTF8).toList.map some) = some (.object members) ∧
      Node.valuesOf "status" members = [.bool false] ∧
      ∃ after, (startSend.run ⟨"http://h"⟩ : Session.Run _) s = .ok (.ok ()) after := by
  intro text members s
  obtain ⟨request, made⟩ : ∃ request, startSend.request? ⟨"http://h"⟩ = .ok request :=
    exists_request (by decide +kernel)
  have scanned : Token.scan (text.toList.map some) = some [.openBrace,
      .string (spell "status"), .colon, .bool false, .comma,
      .string (spell "messages"), .colon, .openBracket, .string (spell "no recipients"),
      .closeBracket, .comma,
      .string (spell "data"), .colon, .string [.unit 0xd83d], .closeBrace] := by decide +kernel
  have isObject : Node.parse? ((Text.Utf8.lossy text.toUTF8).toList.map some) =
      some (.object members) := by
    rw [Text.Utf8.lossy_toUTF8 (by decide), Node.parse?, scanned]
    rfl
  have illegible : ¬Envelope.LegibleAny members := by
    intro legible
    have data := legible.data (.string [.unit 0xd83d]) (List.mem_singleton.2 rfl)
    rcases data with null | kept
    · cases null
    · exact absurd kept (by decide)
  have done : Reply.accepted ⟨200, text.toUTF8⟩ = .ok () :=
    Reply.accepted_of_not_legible rfl isObject rfl illegible
  refine ⟨isObject, rfl, ?_⟩
  rw [← done]
  exact ⟨_, run_answered made rfl⟩

end FormPost

end CampaignConsole
