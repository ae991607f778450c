import CampaignConsole.Page.Client
import CampaignConsole.Proofs.Json.Scanning
import CampaignConsole.Proofs.Page.EnvelopeLaws
import CampaignConsole.Proofs.Text.Decoding

/-!
# The two readings of a reply

A reply is read as data, or as the answer to a form.  `envelope?` and `formEnvelope?` are the
envelopes that the two readings find, and `data_eq` and `accepted_eq` say what they make of them.

`AgreeOn` is what the readings have in common on one reply.  `agreeOn_ofNode?` has it for every kind
of data, and `readings_agree` for the kinds that a page is asked for.
-/

namespace CampaignConsole.Reply

open Json

variable {α : Type} {read : Node → Option (Envelope α)} {r : Reply}

/-- The envelope that a reply is read as, around data of one kind. -/
def envelope? (read : Node → Option (Envelope α)) (r : Reply) : Option (Envelope α) :=
  Node.parse? (Text.Utf8.places r.body) >>= read

/-- The envelope that the reply to a form is read as, around any data. -/
def formEnvelope? (r : Reply) : Option (Envelope Node) :=
  Node.parse? ((Text.Utf8.lossy r.body).toList.map some) >>= Envelope.ofAnyNode?

theorem formEnvelope?_of_parse? {value : Node}
    (isValue : Node.parse? ((Text.Utf8.lossy r.body).toList.map some) = some value) :
    r.formEnvelope? = Envelope.ofAnyNode? value := by
  rw [formEnvelope?, isValue]
  rfl

theorem checked_of_success (success : r.isSuccess = true) : r.checked = .ok r.body := by
  rw [checked, if_pos success]

theorem checked_of_failure (failure : r.isSuccess = false) :
    r.checked = .error (.answered r.code (Text.Utf8.lossy r.body)) := by
  rw [checked, if_neg (Bool.eq_false_iff.1 failure)]

theorem data_of_failure (failure : r.isSuccess = false) :
    data read r = .error (.answered r.code (Text.Utf8.lossy r.body)) := by
  rw [data, checked_of_failure failure]
  rfl

theorem accepted_of_failure (failure : r.isSuccess = false) :
    accepted r = .error (.answered r.code (Text.Utf8.lossy r.body)) := by
  rw [accepted, checked_of_failure failure]
  rfl

/-- What is made of a reply that must carry data. -/
theorem data_eq (success : r.isSuccess = true) :
    data read r =
      match r.envelope? read with
      | some e => dataOf e
      | none => .error (.unexpected .notJson) := by
  rw [data, checked_of_success success]
  rfl

/-- What is made of the reply to a form. -/
theorem accepted_eq (success : r.isSuccess = true) :
    accepted r =
      match r.formEnvelope? with
      | some e => if e.status then .ok () else .error (.rejected e.refusalText)
      | none => .ok () := by
  rw [accepted, checked_of_success success]
  show readAction (Text.Utf8.lossy r.body) = _
  -- A blank text is no value, so its branch gives what the reading of a value would give.
  by_cases blank : Text.isBlankText (Text.Utf8.lossy r.body) = true
  · have noValue := Node.parse?_blank blank
    rw [readAction, if_pos blank, formEnvelope?, noValue]
    rfl
  · rw [readAction, if_neg blank]
    rfl

/-! ## What a reading says about the envelope -/

/-- Data come from an envelope that tells no refusal. -/
theorem envelope?_of_data {x : α} (found : data read r = .ok x) :
    r.isSuccess = true ∧ ∃ e, r.envelope? read = some e ∧ e.status = true := by
  rcases success : r.isSuccess with _ | _
  · rw [data_of_failure success] at found
    cases found
  · rw [data_eq success] at found
    rcases typed : r.envelope? read with _ | e
    · rw [typed] at found
      cases found
    · refine ⟨rfl, e, rfl, ?_⟩
      rw [typed] at found
      rcases status : e.status with _ | _
      · simp [dataOf, status] at found
      · rfl

/-- A refusal of a request for data is told by an envelope. -/
theorem envelope?_of_rejected {reason : String}
    (refused : data read r = .error (.rejected reason)) :
    ∃ e, r.envelope? read = some e ∧ reason = Envelope.reasonOf e.messages := by
  rcases success : r.isSuccess with _ | _
  · rw [data_of_failure success] at refused
    cases refused
  · rw [data_eq success] at refused
    rcases typed : r.envelope? read with _ | e
    · rw [typed] at refused
      cases refused
    · refine ⟨e, rfl, ?_⟩
      rw [typed] at refused
      dsimp only [dataOf] at refused
      split at refused
      · cases refused
        rfl
      · split at refused <;> cases refused

/-- A refusal of a form is told by an envelope. -/
theorem formEnvelope?_of_rejected {reason : String}
    (refused : accepted r = .error (.rejected reason)) :
    ∃ e, r.formEnvelope? = some e ∧ e.status = false ∧
      reason = Envelope.reasonOf e.messages := by
  rcases success : r.isSuccess with _ | _
  · rw [accepted_of_failure success] at refused
    cases refused
  · rw [accepted_eq success] at refused
    rcases posted : r.formEnvelope? with _ | e
    · rw [posted] at refused
      cases refused
    · rw [posted] at refused
      dsimp only at refused
      split at refused
      · cases refused
      · rename_i status
        cases refused
        exact ⟨e, rfl, Bool.eq_false_iff.2 status, rfl⟩

/-- A form that is answered with success is done or refused. -/
theorem accepted_cases (success : r.isSuccess = true) :
    accepted r = .ok () ∨ ∃ reason, accepted r = .error (.rejected reason) := by
  rw [accepted_eq success]
  split
  · split
    · exact Or.inl rfl
    · exact Or.inr ⟨_, rfl⟩
  · exact Or.inl rfl

/-! ## Both readings -/

/-- What the readings of a reply have in common, given the text of its body.  Without a code of
success both fail alike.  Two envelopes differ in their data alone.  A form is done if there are
data, and both readings give one reason for a refusal. -/
structure AgreeOn (read : Node → Option (Envelope α)) (text : String) (r : Reply) : Prop where
  failure : r.code < 200 ∨ 300 ≤ r.code →
    data read r = .error (.answered r.code text) ∧ accepted r = .error (.answered r.code text)
  envelope : ∀ typed posted, r.envelope? read = some typed → r.formEnvelope? = some posted →
    typed.status = posted.status ∧ typed.nextHref = posted.nextHref ∧
      typed.messages = posted.messages
  done : ∀ x, data read r = .ok x → accepted r = .ok ()
  reason : ∀ one other, data read r = .error (.rejected one) →
    accepted r = .error (.rejected other) → one = other

section

variable {code : Nat} {text : String}

/-- The readings take one value from the bytes of a text. -/
theorem envelope?_toUTF8 (read : Node → Option (Envelope α)) (code : Nat) (text : String) :
    envelope? read ⟨code, text.toUTF8⟩ = Node.parse? (text.toList.map some) >>= read := by
  rw [envelope?, Text.Utf8.places_toUTF8]

theorem formEnvelope?_toUTF8 (unmarked : text.toList.head? ≠ some '\uFEFF') (code : Nat) :
    formEnvelope? ⟨code, text.toUTF8⟩ =
      Node.parse? (text.toList.map some) >>= Envelope.ofAnyNode? := by
  rw [formEnvelope?, Text.Utf8.lossy_toUTF8 unmarked]

/-- The envelopes of the two readings differ in their data alone. -/
theorem envelope_eq_of_readings {readData : Node → Option α}
    (unmarked : text.toList.head? ≠ some '\uFEFF') {typed : Envelope α} {posted : Envelope Node}
    (one : envelope? (Envelope.ofNode? readData) ⟨code, text.toUTF8⟩ = some typed)
    (other : formEnvelope? ⟨code, text.toUTF8⟩ = some posted) :
    typed.status = posted.status ∧ typed.nextHref = posted.nextHref ∧
      typed.messages = posted.messages := by
  rw [envelope?_toUTF8] at one
  rw [formEnvelope?_toUTF8 unmarked] at other
  rcases Option.bind_eq_some_iff.1 one with ⟨value, isValue, readTyped⟩
  rcases Option.bind_eq_some_iff.1 other with ⟨value', isValue', readPosted⟩
  obtain rfl : value = value' := Option.some.inj (isValue.symm.trans isValue')
  exact Envelope.eq_of_ofNode? readTyped readPosted

/-- The readings of a text agree, whatever kind of data is asked for. -/
theorem agreeOn_ofNode? (readData : Node → Option α)
    (unmarked : text.toList.head? ≠ some '\uFEFF') (code : Nat) :
    AgreeOn (Envelope.ofNode? readData) text ⟨code, text.toUTF8⟩ := by
  constructor
  case failure =>
    intro outside
    have failure : isSuccess ⟨code, text.toUTF8⟩ = false := by
      have : ¬(200 ≤ code ∧ code < 300) := by
        dsimp only at outside
        omega
      simpa [isSuccess] using this
    rw [data_of_failure failure, accepted_of_failure failure, Text.Utf8.lossy_toUTF8 unmarked]
    exact ⟨rfl, rfl⟩
  case envelope =>
    intro typed posted one other
    exact envelope_eq_of_readings unmarked one other
  case done =>
    intro x found
    rcases envelope?_of_data found with ⟨success, typed, isTyped, kept⟩
    rcases accepted_cases success with done | ⟨reason, refused⟩
    · exact done
    · -- The envelope of the data and the one of the refusal would have different statuses.
      rcases formEnvelope?_of_rejected refused with ⟨posted, isPosted, status, _⟩
      have same := (envelope_eq_of_readings unmarked isTyped isPosted).1
      rw [kept, status] at same
      cases same
  case reason =>
    intro one other refused formRefused
    rcases envelope?_of_rejected refused with ⟨typed, isTyped, rfl⟩
    rcases formEnvelope?_of_rejected formRefused with ⟨posted, isPosted, _, rfl⟩
    rw [(envelope_eq_of_readings unmarked isTyped isPosted).2.2]

/-- **The readings of a reply never contradict each other**, whatever its code, if its body is a
text without a byte order mark: neither where a send job is asked for nor where campaigns are. -/
theorem readings_agree (unmarked : text.toList.head? ≠ some '\uFEFF') (code : Nat) :
    AgreeOn Envelope.ofJobNode? text ⟨code, text.toUTF8⟩ ∧
      AgreeOn Envelope.ofCampaignsNode? text ⟨code, text.toUTF8⟩ :=
  ⟨agreeOn_ofNode? (SendJob.ofNode? 1) unmarked code,
    agreeOn_ofNode? Campaign.listOfNode? unmarked code⟩

/-- A refusal with two messages and data. -/
theorem readings_agree_twice_told :
    let text := "\x7b\"messages\":[\"full\",\"closed\"],\"data\":[],\"status\":false\x7d"
    let r : Reply := ⟨200, text.toUTF8⟩
    text.toList.head? ≠ some '\uFEFF' ∧
      data Envelope.ofCampaignsNode? r = .error (.rejected "full; closed") ∧
      accepted r = .error (.rejected "full; closed") ∧
      AgreeOn Envelope.ofJobNode? text r ∧ AgreeOn Envelope.ofCampaignsNode? text r := by
  intro text r
  have unmarked : text.toList.head? ≠ some '\uFEFF' := by decide
  have scanned : Token.scan (text.toList.map some) = some [.openBrace,
      .string (spell "messages"), .colon, .openBracket, .string (spell "full"), .comma,
      .string (spell "closed"), .closeBracket, .comma,
      .string (spell "data"), .colon, .openBracket, .closeBracket, .comma,
      .string (spell "status"), .colon, .bool false, .closeBrace] := by decide +kernel
  have value : Node.parse? (text.toList.map some) = some (.object [
      (spell "messages", .array [.string (spell "full"), .string (spell "closed")]),
      (spell "data", .array []), (spell "status", .bool false)]) := by
    rw [Node.parse?, scanned]
    rfl
  refine ⟨unmarked, ?_, ?_, readings_agree unmarked 200⟩
  · rw [data_eq rfl, envelope?_toUTF8, value]
    rfl
  · rw [accepted_eq rfl, formEnvelope?_toUTF8 unmarked, value]
    rfl

end

end CampaignConsole.Reply
