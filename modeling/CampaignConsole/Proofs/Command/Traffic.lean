import CampaignConsole.Proofs.Command.Transcript
import CampaignConsole.Proofs.Page.Requests
import Mathlib.Data.List.Nodup

/-!
# Forms of traffic

`Asks`, `PostThen` and `Watches` are the forms that traffic takes: a request for data, a posted form
with what follows it, and the cycles of a watch.  `FormPost.tells_then` and `CampaignPage.sends_get`
say that the calls of a page keep to them.  `Unrepeated` says that no turn uses a method twice and
that one form is posted at most.
-/

namespace CampaignConsole

/-- Whether the page accepted a posted form. -/
def Arrival.Accepted (a : Arrival) : Prop :=
  ∃ r, a = .reply r ∧ r.accepted = .ok ()

namespace Traffic

/-- A request that fits is issued, if any fits. -/
inductive Asks (fits : Request → Prop) : Traffic → Prop
  | unmade (unfit : ∀ r, ¬fits r) : Asks fits [[]]
  | issued {e : Exchange} (fit : fits e.request) : Asks fits [[e]]

/-- A form that fits is posted, if any fits; where the page accepts it, `next` tells
what follows. -/
inductive PostThen (fits : Request → Prop) (next : Traffic → Prop) : Traffic → Prop
  | unmade (unfit : ∀ r, ¬fits r) : PostThen fits next [[]]
  | refused {e : Exchange} (fit : fits e.request) (refused : ¬e.arrival.Accepted) :
      PostThen fits next [[e]]
  | accepted {e : Exchange} {turn : List Exchange} {turns : Traffic} (fit : fits e.request)
      (accepted : e.arrival.Accepted) (follows : next (turn :: turns)) :
      PostThen fits next ((e :: turn) :: turns)

/-- In each turn a request that fits is issued, if any fits, and nothing after the last wait. -/
inductive Watches (fits : Request → Prop) : Traffic → Prop
  | ended : Watches fits [[]]
  | cycle {turn : List Exchange} {turns : Traffic} (asked : Asks fits [turn])
      (later : Watches fits turns) : Watches fits (turn :: turns)

/-- No request. -/
def Ends (traffic : Traffic) : Prop :=
  traffic = [[]]

/-- The page accepted a form that was posted. -/
def Accepted (traffic : Traffic) : Prop :=
  ∃ e ∈ traffic.flatten, e.request.method = .post ∧ e.arrival.Accepted

/-- No turn uses a method twice, and one form is posted at most. -/
structure Unrepeated (traffic : Traffic) : Prop where
  methods : ∀ turn ∈ traffic, (turn.map (·.request.method)).Nodup
  posted : traffic.flatten.countP (·.request.method = .post) ≤ 1

section

variable {fits : Request → Prop} {next : Traffic → Prop} {traffic later : Traffic}

theorem Asks.append_watches (asked : Asks fits traffic) (watches : Watches fits later) :
    Watches fits (traffic ++ later) := by
  cases asked with
  | unmade unfit => exact .cycle (.unmade unfit) watches
  | issued fit => exact .cycle (.issued fit) watches

theorem PostThen.of_accepted {e : Exchange} {t : Transcript} (fit : fits e.request)
    (accepted : e.arrival.Accepted) (follows : next t.traffic) :
    PostThen fits next (Transcript.traffic (.asked e :: t)) := by
  show PostThen fits next (t.traffic.modifyHead (e :: ·))
  cases traffic : t.traffic with
  | nil => exact absurd traffic t.traffic_ne_nil
  | cons turn turns => exact .accepted fit accepted (traffic ▸ follows)

theorem PostThen.ends_of_unfit (posted : PostThen fits next traffic) (unfit : ∀ r, ¬fits r) :
    Ends traffic := by
  cases posted with
  | unmade => rfl
  | refused fit => exact absurd fit (unfit _)
  | accepted fit => exact absurd fit (unfit _)

theorem accepted_asked {e : Exchange} {t : Transcript} (posts : e.request.method = .post)
    (accepted : e.arrival.Accepted) : Accepted (Transcript.traffic (.asked e :: t)) := by
  refine ⟨e, ?_, posts, accepted⟩
  show e ∈ (t.traffic.modifyHead (e :: ·)).flatten
  cases traffic : t.traffic with
  | nil => exact absurd traffic t.traffic_ne_nil
  | cons turn turns => exact List.mem_cons_self

/-! ## Nothing is repeated -/

/-- Each turn asks for data once at most, and no form is posted. -/
def Reads (traffic : Traffic) : Prop :=
  ∀ turn ∈ traffic, turn = [] ∨ ∃ e : Exchange, turn = [e] ∧ e.request.method = .get

theorem reads_nil : Reads [[]] := by
  intro turn member
  exact .inl (List.mem_singleton.1 member)

theorem Asks.reads (gets : ∀ r, fits r → r.method = .get) (asked : Asks fits traffic) :
    Reads traffic := by
  cases asked with
  | unmade => exact reads_nil
  | issued fit =>
      intro turn member
      exact .inr ⟨_, List.mem_singleton.1 member, gets _ fit⟩

theorem Watches.reads (gets : ∀ r, fits r → r.method = .get) (watches : Watches fits traffic) :
    Reads traffic := by
  induction watches with
  | ended => exact reads_nil
  | cycle asked later ih =>
      intro turn member
      rcases List.mem_cons.1 member with rfl | member
      · exact asked.reads gets turn (List.mem_singleton.2 rfl)
      · exact ih turn member

theorem Reads.posted (reads : Reads traffic) :
    traffic.flatten.countP (·.request.method = .post) = 0 := by
  rw [List.countP_eq_zero]
  intro e member
  rcases List.mem_flatten.1 member with ⟨turn, inside, member⟩
  rcases reads turn inside with rfl | ⟨e', rfl, gets⟩
  · cases member
  · rw [List.mem_singleton.1 member, gets]
    decide

theorem Reads.unrepeated (reads : Reads traffic) : Unrepeated traffic := by
  constructor
  case methods =>
    intro turn member
    rcases reads turn member with rfl | ⟨e, rfl, _⟩
    · exact List.nodup_nil
    · exact List.nodup_singleton _
  case posted =>
    rw [reads.posted]
    exact Nat.zero_le 1

/-- A posted form goes before requests for data. -/
theorem unrepeated_post {e : Exchange} {turn : List Exchange} {turns : Traffic}
    (posts : e.request.method = .post) (reads : Reads (turn :: turns)) :
    Unrepeated ((e :: turn) :: turns) := by
  constructor
  case methods =>
    intro other member
    rcases List.mem_cons.1 member with rfl | member
    · rcases reads turn List.mem_cons_self with rfl | ⟨e', rfl, gets⟩
      · exact List.nodup_singleton _
      · simp [posts, gets]
    · exact reads.unrepeated.methods other (List.mem_cons_of_mem _ member)
  case posted =>
    rw [List.flatten_cons, List.cons_append, ← List.flatten_cons, List.countP_cons, reads.posted,
      Nat.zero_add]
    split <;> decide

theorem PostThen.unrepeated (posts : ∀ r, fits r → r.method = .post)
    (reads : ∀ traffic, next traffic → Reads traffic) (posted : PostThen fits next traffic) :
    Unrepeated traffic := by
  cases posted with
  | unmade => exact reads_nil.unrepeated
  | refused fit => exact unrepeated_post (posts _ fit) reads_nil
  | accepted fit _ follows => exact unrepeated_post (posts _ fit) (reads _ follows)

end

end Traffic

open Traffic

/-! ## One call of a page -/

/-- A call that posts a form issues the request that fits, and succeeds where the
page accepts it. -/
theorem FormPost.tells_run (page : CampaignPage) (post : FormPost) :
    Tells (post.run page : Recorded _) fun outcome t =>
      (t = [] ∧ (∀ r, ¬post.Fits page r) ∧ outcome ≠ .ok ()) ∨
        ∃ e : Exchange, t = [.asked e] ∧ post.Fits page e.request ∧
          (outcome = .ok () ↔ e.arrival.Accepted) := by
  rw [run_eq]
  cases made : post.request? page with
  | error e =>
      refine .pure (.inl ⟨rfl, fun _ => not_fits_of_error made, ?_⟩)
      exact nofun
  | ok request =>
      refine (Tells.consult (fun around before => around.answer before request) _).bind ?_
      rintro arrival _ rfl
      cases arrival with
      | reply reply =>
        refine .pure (.inr ⟨⟨request, .reply reply⟩, rfl, fits_iff.2 made, ?_⟩)
        constructor
        · intro accepted
          exact ⟨reply, rfl, accepted⟩
        · rintro ⟨_, ⟨⟩, accepted⟩
          exact accepted
      | dropped =>
        refine .pure (.inr ⟨⟨request, .dropped⟩, rfl, fits_iff.2 made, ?_⟩)
        exact ⟨nofun, nofun⟩
      | unreachable fault =>
        refine .pure (.inr ⟨⟨request, .unreachable fault⟩, rfl, fits_iff.2 made, ?_⟩)
        exact ⟨nofun, nofun⟩

/-- What follows a posted form: it goes on after the page accepted the form, and fails otherwise. -/
theorem FormPost.tells_then {β : Type} {page : CampaignPage} {post : FormPost}
    {next : Except ClientError Unit → Recorded β} {last : β → Transcript → Prop}
    (unmade : (∀ r, ¬post.Fits page r) → ∀ error, Tells (next (.error error)) last)
    (refused : ∀ e : Exchange, post.Fits page e.request → ¬e.arrival.Accepted → ∀ error,
      Tells (next (.error error)) fun b t => last b (.asked e :: t))
    (accepted : ∀ e : Exchange, post.Fits page e.request → e.arrival.Accepted →
      Tells (next (.ok ())) fun b t => last b (.asked e :: t)) :
    Tells (post.run page >>= next) last := by
  refine (tells_run page post).bind ?_
  rintro outcome t (⟨rfl, unfit, failed⟩ | ⟨e, rfl, fit, answer⟩)
  · cases outcome with
    | ok => exact absurd rfl failed
    | error error => exact unmade unfit error
  · cases outcome with
    | ok => exact accepted e fit (answer.1 rfl)
    | error error =>
        have denied : ¬e.arrival.Accepted := by
          rw [← answer]
          exact nofun
        exact refused e fit denied error

/-- A call that asks for data issues the request that fits. -/
theorem CampaignPage.sends_get {α : Type} (address : String) {name value : String}
    (plainName : Url.isPlain name = true) (plainValue : Url.isPlain value = true)
    (read : Reply → Except ClientError α) :
    Sends (send (Request.get? address name value) read : Recorded _) (fun _ => True)
      (Asks (Request.AsksFor address name value)) := by
  have asks {r : Request} :
      Request.get? address name value = .ok r ↔ r.AsksFor address name value :=
    Request.get?_eq_ok_iff address plainName plainValue
  cases made : Request.get? address name value with
  | error e =>
      refine .pure ⟨trivial, .unmade fun r fit => ?_⟩
      rw [asks.2 fit] at made
      cases made
  | ok request =>
      have fit : request.AsksFor address name value := asks.1 made
      refine (Tells.consult (fun around before => around.answer before request) _).bind ?_
      rintro arrival _ rfl
      cases arrival <;> exact .pure ⟨trivial, .issued fit⟩

end CampaignConsole
