import CampaignConsole.Proofs.Page.FormPosts
import CampaignConsole.Proofs.Url.Queries
import Mathlib.Data.List.TakeWhile

/-!
# The requests of the calls

`Request.Gets` and `Request.Posts` tell what a request is: its method, the address that it goes to
and the form that it carries.  `Request.AsksFor` tells which request asks for the data of an
address, with which flag in the query, and `FormPost.Fits` which one posts the form of a call.  Both
hold for the request that is sent and for no other (`get?_eq_ok_iff`, `fits_iff`).
-/

namespace CampaignConsole

theorem Except.mapError_eq_ok_iff {ε ε' α : Type} {f : ε → ε'} {x : Except ε α} {a : α} :
    x.mapError f = .ok a ↔ x = .ok a := by
  cases x with
  | error e => exact ⟨nofun, nofun⟩
  | ok b => simp [Except.mapError]

/-- Trimming leaves nothing of a blank text, and of no other. -/
theorem Text.trimChars_eq_nil_iff {cs : List Char} : trimChars cs = [] ↔ cs.all isBlank = true := by
  constructor
  · intro trimmed
    rw [trimChars, dropEndWhile, List.reverse_eq_nil_iff, List.dropWhile_eq_nil_iff] at trimmed
    rw [List.all_eq_true, ← List.dropWhile_eq_nil_iff]
    cases rest : cs.dropWhile isBlank with
    | nil => rfl
    | cons c _ =>
        have blank : isBlank c = true := trimmed c (by simp [rest])
        have first := List.head?_dropWhile_not isBlank cs
        rw [rest, List.head?_cons] at first
        exact absurd blank (by simp [first])
  · intro blank
    rw [List.all_eq_true] at blank
    rw [trimChars, List.dropWhile_eq_nil_iff.2 blank]
    rfl

theorem Text.isEmpty_trim (s : String) : (trim s).isEmpty = isBlankText s := by
  rw [Bool.eq_iff_iff, String.isEmpty_iff, trim, String.ofList_eq_empty_iff, trimChars_eq_nil_iff,
    isBlankText]

namespace Request

/-- Whether a request goes to an address, with the credentials that stand in it. -/
structure GoesTo (r : Request) (address : Url) : Prop where
  sendable : sendable address = .ok r.url
  /-- Only user name and password may be missing. -/
  place : { r.url with username := address.username, password := address.password } = address
  credentials : r.credentials = credentialsOf address

/-- Whether a request asks for the data at an address. -/
structure Gets (r : Request) (address : Url) : Prop where
  method : r.method = .get
  goes : r.GoesTo address
  form : r.form = none

/-- Whether a request posts a form to an address. -/
structure Posts (r : Request) (address : Url) (values : FormValues) : Prop where
  method : r.method = .post
  goes : r.GoesTo address
  form : r.form = some (String.ofList (Url.formEncode values))

/-- Whether a request asks for the data of an address, with a flag added to its query. -/
def AsksFor (address name value : String) (r : Request) : Prop :=
  ∃ url asked, Url.parse none address = .ok url ∧ url.AddsFlag name value asked ∧ r.Gets asked

section

variable {r : Request} {url sent : Url}

/-- What is sent differs from the address in user name and password at most. -/
theorem place_of_sendable (sends : sendable url = .ok sent) :
    { sent with username := url.username, password := url.password } = url := by
  unfold sendable at sends
  dsimp only at sends
  split at sends
  · cases sends
  · split_ifs at sends <;> cases sends <;> rfl

theorem hasHost_of_sendable (sends : sendable url = .ok sent) : url.hasHost = true := by
  cases host : url.hasHost with
  | true => rfl
  | false =>
      rw [sendable, host] at sends
      cases sends

/-- A request is made with what is sent, and with nothing if nothing can be. -/
theorem made_eq_ok_iff (method : Method) (form : Option String) :
    (sendable url).bind (fun sent =>
        .ok { method, url := sent, credentials := credentialsOf url, form }) =
      (.ok r : Except TransportError Request) ↔
      r.method = method ∧ r.GoesTo url ∧ r.form = form := by
  constructor
  · intro made
    cases sends : sendable url with
    | error e =>
        rw [sends] at made
        cases made
    | ok sent =>
        rw [sends] at made
        cases made
        exact ⟨rfl, ⟨sends, place_of_sendable sends, rfl⟩, rfl⟩
  · rintro ⟨rfl, goes, rfl⟩
    rw [goes.sendable, ← goes.credentials]
    rfl

theorem postTo_eq_ok_iff (values : FormValues) :
    postTo url values = .ok r ↔ r.Posts url values := by
  refine (made_eq_ok_iff _ _).trans ⟨?_, ?_⟩
  · rintro ⟨method, goes, form⟩
    exact ⟨method, goes, form⟩
  · rintro ⟨method, goes, form⟩
    exact ⟨method, goes, form⟩

theorem post?_eq_ok_iff (address : String) (values : FormValues) :
    post? address values = .ok r ↔
      ∃ url, Url.parse none address = .ok url ∧ r.Posts url values := by
  unfold post?
  cases Url.parse none address with
  | error e => simp
  | ok url => simp [postTo_eq_ok_iff]

theorem AsksFor.method {address name value : String} (asks : r.AsksFor address name value) :
    r.method = .get := by
  rcases asks with ⟨_, _, _, _, gets⟩
  exact gets.method

theorem AsksFor.form {address name value : String} (asks : r.AsksFor address name value) :
    r.form = none := by
  rcases asks with ⟨_, _, _, _, gets⟩
  exact gets.form

theorem get?_eq_ok_iff (address : String) {name value : String}
    (plainName : Url.isPlain name = true) (plainValue : Url.isPlain value = true) :
    get? address name value = .ok r ↔ r.AsksFor address name value := by
  unfold get? AsksFor
  cases Url.parse none address with
  | error e => simp
  | ok url =>
      have adds {asked : Url} : url.AddsFlag name value asked ↔ asked = url.addQuery name value :=
        Url.addsFlag_iff plainName plainValue
      -- a query changes nothing about the host, so an address without one is refused either way
      let asked := if url.hasHost then url.addQuery name value else url
      have asks : (sendable asked).bind (fun sent =>
          .ok { method := .get, url := sent, credentials := credentialsOf asked }) =
            (.ok r : Except TransportError Request) ↔ r.Gets (url.addQuery name value) := by
        refine (made_eq_ok_iff .get none).trans ⟨?_, ?_⟩
        · rintro ⟨method, goes, form⟩
          change r.GoesTo (if url.hasHost then url.addQuery name value else url) at goes
          split_ifs at goes with host
          · exact ⟨method, goes, form⟩
          · exact absurd (hasHost_of_sendable goes.sendable) host
        · rintro ⟨method, goes, form⟩
          have host : (url.addQuery name value).hasHost = true := hasHost_of_sendable goes.sendable
          change url.hasHost = true at host
          have whole : asked = url.addQuery name value := if_pos host
          rw [whole]
          exact ⟨method, goes, form⟩
      refine asks.trans ⟨fun gets => ⟨url, _, rfl, adds.2 rfl, gets⟩, ?_⟩
      rintro ⟨_, asked, ⟨⟩, added, gets⟩
      rw [← adds.1 added]
      exact gets

end

end Request

namespace FormPost

/-- Whether a request posts the form of a call at a page.  None does for a blank group. -/
def Fits (page : CampaignPage) : FormPost → Request → Prop
  | .startSend, r => ∃ url, Url.parse none page.url = .ok url ∧ r.Posts url [("sendMail", "true")]
  | .setGroup group isRecipient, r =>
      Text.isBlankText group = false ∧ ∃ url, Url.parse none page.url = .ok url ∧
        r.Posts url
          [("group", Text.trim group), ("isRecip", if isRecipient then "true" else "false")]
  | .createJob action fields, r => ∃ url, page.resolve action = .ok url ∧ r.Posts url fields

section

variable {page : CampaignPage} {r : Request}

/-- The request that fits is the one that the call sends. -/
theorem fits_iff {post : FormPost} : post.Fits page r ↔ post.request? page = .ok r := by
  cases post with
  | startSend =>
      rw [request?, Except.mapError_eq_ok_iff, Request.post?_eq_ok_iff]
      rfl
  | setGroup group isRecipient =>
      simp only [request?, Text.isEmpty_trim, Fits]
      cases Text.isBlankText group with
      | true => simp
      | false =>
          rw [if_neg Bool.false_ne_true, Except.mapError_eq_ok_iff, Request.post?_eq_ok_iff]
          exact and_iff_right rfl
  | createJob action fields =>
      rw [request?, Fits]
      cases page.resolve action with
      | error e => simp
      | ok url => simp [Except.mapError_eq_ok_iff, Request.postTo_eq_ok_iff]

theorem not_fits_of_error {post : FormPost} {e : ClientError}
    (unmade : post.request? page = .error e) : ¬post.Fits page r := by
  intro fit
  rw [fits_iff.1 fit] at unmade
  cases unmade

theorem Fits.method {post : FormPost} (fit : post.Fits page r) : r.method = .post := by
  cases post with
  | startSend =>
      rcases fit with ⟨_, _, posts⟩
      exact posts.method
  | setGroup =>
      rcases fit with ⟨_, _, _, posts⟩
      exact posts.method
  | createJob =>
      rcases fit with ⟨_, _, posts⟩
      exact posts.method

end

end FormPost

end CampaignConsole
