import CampaignConsole.Command.Session

/-!
# What a run in a session ensures

`Ensures` says what holds where a run ends and where the script stops it.  It goes along with the
steps of a run (`Ensures.bind`), so a command is judged by judging what it is made of.  Talking to
the page leaves all alone but the script and the requests (`keeps_send`), and printing leaves the
disk alone (`keepsDisk_printLines`).
-/

namespace CampaignConsole.Session

variable {α β : Type}

/-- A run from a session ends as `post` tells, or is stopped as `stopped` tells. -/
structure Ensures (x : Run α) (s : Session) (post : α → Session → Prop)
    (stopped : Session → Prop) : Prop where
  holds : match x s with
    | .ok a s' => post a s'
    | .error () s' => stopped s'

/-- The condition follows the steps of a run. -/
theorem Ensures.bind {x : Run α} {next : α → Run β} {s : Session} {mid : α → Session → Prop}
    {post : β → Session → Prop} {stopped : Session → Prop} (first : Ensures x s mid stopped)
    (rest : ∀ a s', mid a s' → Ensures (next a) s' post stopped) :
    Ensures (x >>= next) s post stopped := by
  obtain ⟨first⟩ := first
  constructor
  show match EStateM.bind x next s with
    | .ok b s' => post b s'
    | .error () s' => stopped s'
  unfold EStateM.bind
  cases ran : x s with
  | ok a s' =>
      rw [ran] at first
      exact (rest a s' first).holds
  | error e s' =>
      rw [ran] at first
      exact first

/-- A run of two steps that is not stopped went through both. -/
theorem bind_eq_ok {x : Run α} {next : α → Run β} {s s' : Session} {b : β}
    (ran : (x >>= next) s = .ok b s') : ∃ a s₁, x s = .ok a s₁ ∧ next a s₁ = .ok b s' := by
  have unfolded : EStateM.bind x next s = .ok b s' := ran
  unfold EStateM.bind at unfolded
  cases first : x s with
  | ok a s₁ =>
      rw [first] at unfolded
      exact ⟨a, s₁, rfl, unfolded⟩
  | error e s₁ =>
      rw [first] at unfolded
      cases unfolded

/-! ## Runs that leave a part of the session alone -/

section

variable {γ : Type} {view : Session → γ}

/-- A run leaves what a view shows of the session as it is, also where it is stopped. -/
def Keeps (view : Session → γ) (x : Run α) : Prop :=
  ∀ s, Ensures x s (fun _ s' => view s' = view s) fun s' => view s' = view s

theorem Keeps.ensures {x : Run α} (keeps : Keeps view x) {s : Session} {shown : γ}
    (before : view s = shown) :
    Ensures x s (fun _ s' => view s' = shown) fun s' => view s' = shown :=
  before ▸ keeps s

theorem Keeps.eq_of_ok {x : Run α} (keeps : Keeps view x) {s s' : Session} {a : α}
    (ran : x s = .ok a s') : view s' = view s := by
  have kept := (keeps s).holds
  rwa [ran] at kept

theorem keeps_pure (a : α) : Keeps view (pure a : Run α) :=
  fun _ => ⟨rfl⟩

theorem Keeps.bind {x : Run α} {next : α → Run β} (first : Keeps view x)
    (rest : ∀ a, Keeps view (next a)) : Keeps view (x >>= next) :=
  fun s => (first s).bind fun a _ same => (rest a).ensures same

/-- An exchange moves the script on and counts the request, and touches nothing else. -/
theorem keeps_exchange (blind : ∀ s page requests, view { s with page, requests } = view s)
    (r : Request) : Keeps view (exchange r) := by
  intro s
  obtain ⟨⟨reactions, afterwards⟩, disk, requests, printed, clock⟩ := s
  cases reactions with
  | cons reaction rest => cases reaction <;> exact ⟨blind _ _ _⟩
  | nil =>
      cases afterwards with
      | unavailable => exact ⟨blind ⟨⟨[], _⟩, disk, requests, printed, clock⟩ _ _⟩
      | stop => exact ⟨rfl⟩
      | unreachable => exact ⟨rfl⟩

theorem keeps_send (blind : ∀ s page requests, view { s with page, requests } = view s)
    (request : Except TransportError Request) (read : Reply → Except ClientError α) :
    Keeps view (CampaignPage.send request read : Run (Except ClientError α)) := by
  unfold CampaignPage.send
  cases request with
  | error e => exact keeps_pure _
  | ok request =>
      refine (keeps_exchange blind request).bind fun arrival => ?_
      cases request.received arrival with
      | error e => exact keeps_pure _
      | ok reply => exact keeps_pure _

end

/-! ## Runs that leave the disk alone -/

/-- A run leaves the disk as it is, also where it is stopped. -/
def KeepsDisk (x : Run α) : Prop :=
  ∀ s, Ensures x s (fun _ s' => s'.disk = s.disk) fun s' => s'.disk = s.disk

theorem KeepsDisk.ensures {x : Run α} (keeps : KeepsDisk x) {s : Session} {d : Files.Disk}
    (before : s.disk = d) : Ensures x s (fun _ s' => s'.disk = d) fun s' => s'.disk = d :=
  Keeps.ensures keeps before

theorem keepsDisk_printLines (terminal : Terminal.Settings) (lines : List Terminal.Line) :
    KeepsDisk (Command.printLines terminal lines : Run Unit) :=
  fun _ => ⟨rfl⟩

/-- Sending a request leaves the disk alone, whatever the page answers. -/
theorem keepsDisk_send (request : Except TransportError Request)
    (read : Reply → Except ClientError α) :
    KeepsDisk (CampaignPage.send request read : Run (Except ClientError α)) :=
  keeps_send (fun _ _ _ => rfl) request read

theorem keepsDisk_listCampaigns (listUrl : String) :
    KeepsDisk (CampaignPage.listCampaigns listUrl : Run _) :=
  keepsDisk_send _ _

theorem keepsDisk_createJob (page : CampaignPage) (action : String) (fields : FormValues) :
    KeepsDisk (page.createJob action fields : Run _) := by
  unfold CampaignPage.createJob
  cases page.resolve action with
  | error e => exact keeps_pure _
  | ok url => exact keepsDisk_send _ _

end CampaignConsole.Session
