import CampaignConsole.Command.Run

/-!
# Transcripts of runs

`Surroundings` are a page, a file system and a clock that answer as they like, by all that happened
before.  A `Recorded` program runs in them and writes down what it asked for and what came of it.

`Tells` says what a program adds to the transcript, whatever is around it.  It goes along with the
steps of a program (`Tells.bind`).  `Transcript.traffic` is what a transcript holds of requests, in
the turns between its waits; `Sends` and `Quiet` are what a program tells of that.
-/

namespace CampaignConsole

open Files

/-- A request that was issued, and what came of it. -/
structure Exchange where
  request : Request
  arrival : Arrival

/-- One thing that a program did, and what came of it. -/
inductive Happening where
  | asked (exchange : Exchange)
  | found (path : Path) (text : Except FileError String)
  | replaced (path : Path) (text : String) (outcome : Except ReplaceError Unit)
  | printed (text : String)
  | timed (clock : String)
  | waited (milliseconds : Nat)

/-- All that a program did, in order. -/
abbrev Transcript := List Happening

/-- The exchanges of a run, in turns with a wait between one and the next. -/
abbrev Traffic := List (List Exchange)

namespace Transcript

/-- The exchanges in a transcript, in the turns between its waits. -/
def traffic : Transcript → Traffic
  | [] => [[]]
  | .asked exchange :: t => (traffic t).modifyHead (exchange :: ·)
  | .waited _ :: t => [] :: traffic t
  | .found _ _ :: t | .replaced _ _ _ :: t | .printed _ :: t | .timed _ :: t => traffic t

/-- The texts printed, in order. -/
def texts (t : Transcript) : List String :=
  t.filterMap fun
    | .printed text => some text
    | _ => none

theorem traffic_ne_nil (t : Transcript) : t.traffic ≠ [] := by
  induction t with
  | nil => exact List.cons_ne_nil _ _
  | cons h t ih =>
      cases h with
      | asked exchange => simpa [traffic, List.modifyHead_eq_nil_iff] using ih
      | waited => exact List.cons_ne_nil _ _
      | found | replaced | printed | timed => exact ih

/-- What happens later counts by its traffic only. -/
theorem traffic_append_congr (t : Transcript) {later later' : Transcript}
    (same : later.traffic = later'.traffic) : (t ++ later).traffic = (t ++ later').traffic := by
  induction t with
  | nil => exact same
  | cons h t ih => cases h <;> simp [traffic, ih]

/-- A wait ends a turn. -/
theorem traffic_append_waited (t later : Transcript) (milliseconds : Nat) :
    (t ++ .waited milliseconds :: later).traffic = t.traffic ++ later.traffic := by
  induction t with
  | nil => rfl
  | cons h t ih =>
      cases h with
      | asked exchange =>
          cases first : traffic t with
          | nil => exact absurd first (traffic_ne_nil t)
          | cons turn turns => simp [traffic, ih, first]
      | waited => simp [traffic, ih]
      | found | replaced | printed | timed => exact ih

/-- Nothing in a transcript is a request or a wait. -/
def Silent (t : Transcript) : Prop :=
  ∀ later : Transcript, (t ++ later).traffic = later.traffic

theorem Silent.nil : Silent [] :=
  fun _ => rfl

theorem Silent.append {t t' : Transcript} (first : Silent t) (second : Silent t') :
    Silent (t ++ t') := by
  intro later
  rw [List.append_assoc, first, second]

theorem Silent.traffic {t : Transcript} (silent : Silent t) : t.traffic = [[]] := by
  have alone := silent []
  rwa [List.append_nil] at alone

theorem traffic_append_silent (t : Transcript) {later : Transcript} (silent : Silent later) :
    (t ++ later).traffic = t.traffic := by
  have same : later.traffic = traffic [] := silent.traffic
  rw [traffic_append_congr t same, List.append_nil]

end Transcript

/-- A page, a file system and a clock; they answer by all that happened before. -/
structure Surroundings where
  answer : Transcript → Request → Arrival
  read : Transcript → Path → Except FileError String
  replace : Transcript → Path → String → Except ReplaceError Unit
  time : Transcript → String

/-- A program in surroundings, with a transcript of what it does. -/
abbrev Recorded := ReaderT Surroundings (StateM Transcript)

namespace Recorded

/-- Asks for something, and writes down what came of it. -/
def consult {α : Type} (answer : Surroundings → Transcript → α) (written : α → Happening) :
    Recorded α := fun around before =>
  let a := answer around before
  (a, before ++ [written a])

instance : Console Recorded where
  exchange r :=
    consult (fun around before => around.answer before r) fun arrival => .asked ⟨r, arrival⟩
  read path := consult (fun around before => around.read before path) (.found path)
  replace path text :=
    consult (fun around before => around.replace before path text) (.replaced path text)
  print text := consult (fun _ _ => ()) fun _ => .printed text
  time := consult (fun around before => around.time before) .timed
  wait milliseconds := consult (fun _ _ => ()) fun _ => .waited milliseconds

/-- The result of a program and its transcript. -/
def record {α : Type} (x : Recorded α) (around : Surroundings) : α × Transcript :=
  (x around).run []

end Recorded

/-! ## What a program tells -/

section

variable {α β : Type}

/-- Whatever is around a program and happened before, it adds to the transcript what
`post` tells. -/
structure Tells (x : Recorded α) (post : α → Transcript → Prop) : Prop where
  holds : ∀ around before, ∃ a t, x around before = (a, before ++ t) ∧ post a t

namespace Tells

variable {x : Recorded α} {next : α → Recorded β} {post mid : α → Transcript → Prop}
  {last : β → Transcript → Prop}

theorem record (tells : Tells x post) (around : Surroundings) :
    post (x.record around).1 (x.record around).2 := by
  rcases tells.holds around [] with ⟨a, t, ran, told⟩
  have recorded : x.record around = (a, t) := ran
  rw [recorded]
  exact told

theorem mono (tells : Tells x mid) (weaker : ∀ a t, mid a t → post a t) : Tells x post := by
  refine ⟨fun around before => ?_⟩
  rcases tells.holds around before with ⟨a, t, ran, told⟩
  exact ⟨a, t, ran, weaker a t told⟩

theorem pure {a : α} (told : post a []) : Tells (Pure.pure a : Recorded α) post :=
  ⟨fun _ before => ⟨a, [], by rw [List.append_nil]; rfl, told⟩⟩

/-- What a program tells follows its steps. -/
theorem bind (first : Tells x mid)
    (rest : ∀ a t, mid a t → Tells (next a) fun b t' => last b (t ++ t')) :
    Tells (x >>= next) last := by
  refine ⟨fun around before => ?_⟩
  rcases first.holds around before with ⟨a, t, ran, told⟩
  rcases (rest a t told).holds around (before ++ t) with ⟨b, t', onwards, retold⟩
  refine ⟨b, t ++ t', ?_, retold⟩
  show (match x around before with | (a, now) => next a around now) = _
  rw [ran, ← List.append_assoc]
  exact onwards

theorem consult (answer : Surroundings → Transcript → α) (written : α → Happening) :
    Tells (Recorded.consult answer written) fun a t => t = [written a] :=
  ⟨fun _ _ => ⟨_, _, rfl, rfl⟩⟩

end Tells

end

/-! ## The traffic of steps -/

/-- Whatever is around a program, its result and its traffic are as told. -/
def Sends {α : Type} (x : Recorded α) (result : α → Prop) (sent : Traffic → Prop) : Prop :=
  Tells x fun a t => result a ∧ sent t.traffic

/-- Whatever is around a program, it issues no request, does not wait, and its result is as told. -/
def Quiet {α : Type} (x : Recorded α) (result : α → Prop) : Prop :=
  Tells x fun a t => result a ∧ t.Silent

section

variable {α β : Type} {x : Recorded α} {next : α → Recorded β} {mid : α → Prop}
  {result : β → Prop} {sent : Traffic → Prop}

theorem quiet_pure {b : β} (told : result b) : Quiet (pure b) result :=
  .pure ⟨told, .nil⟩

theorem Quiet.bind (first : Quiet x mid) (rest : ∀ a, Quiet (next a) result) :
    Quiet (x >>= next) result := by
  refine Tells.bind first ?_
  rintro a t ⟨_, silent⟩
  refine (rest a).mono ?_
  rintro b t' ⟨told, later⟩
  exact ⟨told, silent.append later⟩

/-- What follows quietly adds nothing to the traffic. -/
theorem Sends.then_quiet (first : Sends x mid sent) (rest : ∀ a, Quiet (next a) result) :
    Sends (x >>= next) result sent := by
  refine Tells.bind first ?_
  rintro a t ⟨_, traffic⟩
  refine (rest a).mono ?_
  rintro b t' ⟨told, silent⟩
  rw [Transcript.traffic_append_silent t silent]
  exact ⟨told, traffic⟩

/-- What goes before quietly adds nothing to the traffic. -/
theorem Quiet.then_sends (first : Quiet x mid) (rest : ∀ a, mid a → Sends (next a) result sent) :
    Sends (x >>= next) result sent := by
  refine Tells.bind first ?_
  rintro a t ⟨told, silent⟩
  refine (rest a told).mono fun b t' told => ?_
  rwa [silent t']

theorem quiet_consult (answer : Surroundings → Transcript → α) (written : α → Happening)
    (silent : ∀ a, Transcript.Silent [written a]) :
    Quiet (Recorded.consult answer written) fun _ => True :=
  (Tells.consult answer written).mono fun a _ told => ⟨trivial, told ▸ silent a⟩

end

theorem quiet_print (text : String) : Quiet (Printer.print text : Recorded _) fun _ => True :=
  quiet_consult (fun _ _ => ()) (fun _ => .printed text) fun _ _ => rfl

theorem quiet_time : Quiet (Clock.time : Recorded _) fun _ => True :=
  quiet_consult (fun around before => around.time before) .timed fun _ _ => rfl

theorem quiet_replace (path : Files.Path) (text : String) :
    Quiet (FileSystem.replace path text : Recorded _) fun _ => True :=
  quiet_consult (fun around before => around.replace before path text) (.replaced path text)
    fun _ _ => rfl

end CampaignConsole
