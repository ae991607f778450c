import CampaignConsole.Proofs.Command.Traffic

/-!
# Which requests a command issues

`Command.Issues` tells the requests of a command: which ones it issues, in which order, and which of
them wait for the answer to another.  `Command.runFor_keeps_discipline` says that every run keeps to
it, whatever the page, the file system and the clock answer.

* `Reports` tells what the commands that post a form to the page do, `Sends` and `Quiet` what the
  commands about the campaign list do, step by step.
* `sends_watch` is about the cycles of a watch, by induction on the time that is left.
* `Disciplined` puts them together for a command with the watch that it asks for.
-/

namespace CampaignConsole

open Traffic

namespace Settings

/-- Whether a request asks for the campaign list. -/
def AsksList (settings : Settings) : Request → Prop :=
  Request.AsksFor settings.listUrl "list" "true"

/-- Whether a request asks the page how far its send job has come. -/
def AsksStatus (settings : Settings) : Request → Prop :=
  Request.AsksFor (CampaignPage.ofAddress settings.pageUrl).url "status" "true"

/-- Whether a request posts the form of a call to the page. -/
def Posts (settings : Settings) (post : FormPost) : Request → Prop :=
  post.Fits (.ofAddress settings.pageUrl)

end Settings

/-- The traffic of a command about the campaign list, once its store is open. -/
def CampaignCommand.Issues (settings : Settings) : CampaignCommand → Traffic → Prop
  | .list _ _ _ | .sort _ => Asks settings.AsksList
  | .create action fields =>
      PostThen (settings.Posts (.createJob (action.getD settings.listUrl) fields))
        (Asks settings.AsksList)

/-- The requests in the transcript of a command. -/
def Command.Issues (settings : Settings) (t : Transcript) : Command → Prop
  | .watch => Watches settings.AsksStatus t.traffic
  | .send follow =>
      PostThen (settings.Posts .startSend)
        (if follow then Watches settings.AsksStatus else Ends) t.traffic
  | .group name isRecipient => PostThen (settings.Posts (.setGroup name isRecipient)) Ends t.traffic
  | .campaign command =>
      ∃ found rest, t = .found ⟨settings.statePath⟩ found :: rest ∧
        match StateStore.ofRead ⟨settings.statePath⟩ found with
        | .error _ => rest = []
        | .ok _ => command.Issues settings (Transcript.traffic rest)

/-- A command that starts the send job or changes the recipients. -/
def Command.Mutates : Command → Prop
  | .send _ | .group _ _ => True
  | .watch | .campaign _ => False

/-- A command ends well exactly if the page accepted its form, and prints nothing where it fails. -/
structure Reported (ended : Except CommandError Ending) (t : Transcript) : Prop where
  accepted : ended.isOk = true ↔ t.traffic.Accepted
  failed : ended.isOk = false → t.texts = []

/-- Runs a command and, where it asks for a watch, watches for a span of time. -/
def Command.runFor {m : Type → Type} [Console m] (settings : Settings)
    (terminal : Terminal.Settings) (command : Command) (span : Nat) :
    m (Except CommandError Ending) := do
  match ← Command.run settings terminal command with
  | .ok .watch =>
      let actions := Command.watchActions settings terminal
      let _ ← ({} : Watch).runFor actions settings.pollInterval span
      return .ok .watch
  | ended => return ended

namespace CampaignDesk

theorem quiet_userSort (desk : CampaignDesk) (choice : SortChoice) :
    Quiet (desk.userSort choice : Recorded _) fun _ => True := by
  have flushed : Quiet ((desk.store.insert sortKey choice.encode).flush : Recorded _)
      fun _ => True :=
    (quiet_replace _ _).bind fun _ => quiet_pure trivial
  have stored : Quiet (desk.store.set sortKey choice.encode : Recorded _) fun _ => True :=
    flushed.bind fun _ => quiet_pure trivial
  exact stored.bind fun _ => quiet_pure trivial

theorem quiet_activate (desk : CampaignDesk) (field : SortField) :
    Quiet (desk.activate field : Recorded _) fun _ => True :=
  (desk.quiet_userSort _).bind fun _ => quiet_pure trivial

end CampaignDesk

namespace Command

variable {settings : Settings} {terminal : Terminal.Settings}

/-! ## Commands that post a form to the page -/

/-- A form was posted and the command ends with `ending` after the page accepted it; or the command
fails, and has done nothing else. -/
inductive Reports (fits : Request → Prop) (ending : Ending) :
    Except CommandError Ending → Transcript → Prop
  | unmade {error : CommandError} (unfit : ∀ r, ¬fits r) : Reports fits ending (.error error) []
  | refused {e : Exchange} {error : CommandError} (fit : fits e.request)
      (refused : ¬e.arrival.Accepted) : Reports fits ending (.error error) [.asked e]
  | done {e : Exchange} {shown : Transcript} (fit : fits e.request) (accepted : e.arrival.Accepted)
      (silent : shown.Silent) : Reports fits ending (.ok ending) (.asked e :: shown)

theorem tells_report {page : CampaignPage} (post : FormPost) {ending : Ending}
    {fail : ClientError → CommandError} {done : Recorded (Except CommandError Ending)}
    (quiet : Quiet done (· = .ok ending)) :
    Tells (do
      match ← post.run page with
      | .error e => return .error (fail e)
      | .ok () => done) (Reports (post.Fits page) ending) := by
  refine FormPost.tells_then ?_ ?_ ?_
  · intro unfit error
    exact .pure (.unmade unfit)
  · intro e fit refused error
    exact .pure (.refused fit refused)
  · intro e fit accepted
    refine quiet.mono ?_
    rintro _ shown ⟨rfl, silent⟩
    exact .done fit accepted silent

theorem tells_runSend (follow : Bool) :
    Tells (runSend settings terminal follow : Recorded _)
      (Reports (settings.Posts .startSend) (if follow then .watch else .done)) := by
  have printed : Quiet _ _ := quiet_print (Terminal.renderLines terminal.colors
    [[.colored .green "✓ Send has been initiated"]])
  refine tells_report .startSend (printed.bind fun _ => ?_)
  cases follow with
  | true => exact quiet_pure rfl
  | false => exact (quiet_print _).bind fun _ => quiet_pure rfl

theorem tells_runGroup (name : String) (isRecipient : Bool) :
    Tells (runGroup settings terminal name isRecipient : Recorded _)
      (Reports (settings.Posts (.setGroup name isRecipient)) .done) :=
  tells_report (.setGroup name isRecipient)
    ((quiet_print _).bind fun _ => quiet_pure rfl)

/-! ## Commands about the campaign list -/

section

variable {store : StateStore}

/-- A command is done or has failed; it does not ask for a watch. -/
def Finished (ended : Except CommandError Ending) : Prop :=
  ended ≠ .ok .watch

theorem finished_error (e : CommandError) : Finished (.error e) :=
  nofun

theorem finished_done : Finished (.ok .done) :=
  nofun

theorem sends_loadDesk : Sends (loadDesk settings store : Recorded _) (fun _ => True)
    (Asks settings.AsksList) := by
  have asking : Sends (CampaignPage.listCampaigns settings.listUrl : Recorded _) (fun _ => True)
      (Asks settings.AsksList) :=
    CampaignPage.sends_get settings.listUrl (by decide) (by decide) _
  refine asking.then_quiet fun answer => ?_
  cases answer <;> exact quiet_pure trivial

theorem quiet_printDesk (desk : CampaignDesk) :
    Quiet (do printDesk terminal desk; return .ok .done : Recorded _) Finished :=
  (quiet_print _).bind fun _ => quiet_pure finished_done

theorem sends_runList (choice : Option SortChoice) (names : List String) :
    Sends (runList settings terminal store choice names : Recorded _) Finished
      (Asks settings.AsksList) := by
  refine sends_loadDesk.then_quiet fun loaded => ?_
  cases loaded with
  | error e => exact quiet_pure (finished_error _)
  | ok desk =>
      have unsorted : Quiet (return (desk, .ok ()) : Recorded (_ × Except StoreError Unit))
          fun _ => True := quiet_pure trivial
      cases choice with
      | none =>
          refine unsorted.bind ?_
          rintro ⟨sorted, e | _⟩
          · exact quiet_pure (finished_error _)
          · exact (quiet_print _).bind fun _ => quiet_printDesk _
      | some choice =>
          refine (desk.quiet_userSort choice).bind ?_
          rintro ⟨sorted, e | _⟩
          · exact quiet_pure (finished_error _)
          · exact (quiet_print _).bind fun _ => quiet_printDesk _

theorem sends_runSort (field : SortField) :
    Sends (runSort settings terminal store field : Recorded _) Finished
      (Asks settings.AsksList) := by
  refine sends_loadDesk.then_quiet fun loaded => ?_
  cases loaded with
  | error e => exact quiet_pure (finished_error _)
  | ok desk =>
      refine (desk.quiet_activate field).bind fun activated => ?_
      rcases activated with ⟨sorted, e | choice⟩
      · exact quiet_pure (finished_error _)
      · exact (quiet_print _).bind fun _ => quiet_printDesk sorted

theorem sends_runCreate (action : Option String) (fields : FormValues) :
    Sends (runCreate settings terminal store action fields : Recorded _) Finished
      ((CampaignCommand.create action fields).Issues settings) := by
  show Tells ((FormPost.createJob (action.getD settings.listUrl) fields).run
    (.ofAddress settings.pageUrl) >>= _) _
  refine FormPost.tells_then ?_ ?_ ?_
  · intro unfit error
    exact .pure ⟨finished_error _, .unmade unfit⟩
  · intro e fit refused error
    exact .pure ⟨finished_error _, .refused fit refused⟩
  · intro e fit accepted
    refine Tells.mono (show Sends _ Finished (Asks settings.AsksList) from ?_)
      fun ended t told => ⟨told.1, .of_accepted fit accepted told.2⟩
    refine (quiet_print _).then_sends fun _ _ => ?_
    refine sends_loadDesk.then_quiet fun loaded => ?_
    cases loaded with
    | error e => exact quiet_pure (finished_error _)
    | ok desk => exact quiet_printDesk desk

/-- A command about the campaign list opens the store first, and does nothing more if that fails. -/
theorem tells_runCampaign (command : CampaignCommand) :
    Tells (runCampaign settings terminal command : Recorded _) fun ended t =>
      Finished ended ∧ (Command.campaign command).Issues settings t := by
  have opening : Tells (StateStore.openAt ⟨settings.statePath⟩ : Recorded _) fun opened t =>
      ∃ found, t = [.found ⟨settings.statePath⟩ found] ∧
        opened = StateStore.ofRead ⟨settings.statePath⟩ found := by
    refine (Tells.consult (fun around before => around.read before ⟨settings.statePath⟩) _).bind ?_
    rintro found _ rfl
    exact .pure ⟨found, rfl, rfl⟩
  refine opening.bind ?_
  rintro opened _ ⟨found, rfl, rfl⟩
  cases opened : StateStore.ofRead ⟨settings.statePath⟩ found with
  | error e =>
      refine .pure ⟨finished_error _, found, [], rfl, ?_⟩
      rw [opened]
  | ok store =>
      have opens {x : Recorded _} (later : Sends x Finished (command.Issues settings)) :
          Tells x fun ended rest => Finished ended ∧ (Command.campaign command).Issues settings
            (.found ⟨settings.statePath⟩ found :: rest) := by
        refine later.mono ?_
        rintro ended rest ⟨finished, issued⟩
        refine ⟨finished, found, rest, rfl, ?_⟩
        rw [opened]
        exact issued
      cases command with
      | list sort descending names =>
          let choice : Option SortChoice :=
            sort.map fun field => ⟨field, .ofAscending (!descending)⟩
          exact opens (sends_runList choice names)
      | sort field => exact opens (sends_runSort field)
      | create action fields => exact opens (sends_runCreate action fields)

end

/-! ## The cycles of a watch -/

theorem sends_poll (w : Watch) :
    Sends (w.poll (watchActions settings terminal) : Recorded _) (fun _ => True)
      (Asks settings.AsksStatus) := by
  have visible : Quiet ((watchActions settings terminal).visible : Recorded _) (· = true) :=
    quiet_pure rfl
  have fetching : Sends ((watchActions settings terminal).fetch : Recorded _) (fun _ => True)
      (Asks settings.AsksStatus) :=
    (CampaignPage.sends_get _ (by decide) (by decide) _).then_quiet fun _ => quiet_pure trivial
  unfold Watch.poll
  refine visible.then_sends ?_
  rintro _ rfl
  refine fetching.then_quiet fun answer => ?_
  cases answer with
  | none => exact quiet_pure trivial
  | some job => exact quiet_time.bind fun _ => (quiet_print _).bind fun _ => quiet_pure trivial

/-- A watch asks once in each cycle, and waits after it. -/
theorem sends_watch (interval remaining : Nat) (w : Watch) :
    Sends (w.runFor (watchActions settings terminal) interval remaining : Recorded _)
      (fun _ => True) (Watches settings.AsksStatus) := by
  induction remaining using Nat.strongRecOn generalizing w with
  | ind remaining ih =>
      rw [Watch.runFor]
      split_ifs with spent
      · exact .pure ⟨trivial, .ended⟩
      · refine Tells.bind (sends_poll w) ?_
        rintro polled t ⟨_, asked⟩
        have waiting (pause : Nat) :
            Tells ((watchActions settings terminal).wait pause : Recorded _)
              fun _ t => t = [.waited pause] := .consult (fun _ _ => ()) fun _ => .waited pause
        refine (waiting (min (max 1 interval) remaining)).bind ?_
        rintro _ _ rfl
        refine (ih (remaining - max 1 interval) (by omega) polled.1).mono ?_
        rintro _ later ⟨_, watches⟩
        refine ⟨trivial, ?_⟩
        rw [List.singleton_append, Transcript.traffic_append_waited]
        exact asked.append_watches watches

/-! ## Whole runs -/

section

variable {fits : Request → Prop} {ending : Ending} {ended : Except CommandError Ending}
  {t : Transcript}

theorem Reports.finished (reports : Reports fits .done ended t) : Finished ended := by
  cases reports with
  | unmade | refused => exact finished_error _
  | done => exact finished_done

theorem Reports.postThen (reports : Reports fits ending ended t) :
    PostThen fits Ends t.traffic := by
  cases reports with
  | unmade unfit => exact .unmade unfit
  | refused fit refused => exact .refused fit refused
  | done fit accepted silent => exact .of_accepted fit accepted silent.traffic

theorem reported_ok (accepted : t.traffic.Accepted) : Reported (.ok ending) t :=
  ⟨⟨fun _ => accepted, fun _ => rfl⟩, nofun⟩

theorem Reports.reported (posts : ∀ r, fits r → r.method = .post)
    (reports : Reports fits ending ended t) : Reported ended t := by
  cases reports with
  | unmade =>
      refine ⟨⟨nofun, ?_⟩, fun _ => rfl⟩
      rintro ⟨e, member, _⟩
      cases member
  | refused fit refused =>
      refine ⟨⟨nofun, ?_⟩, fun _ => rfl⟩
      rintro ⟨e, member, _, accepted⟩
      rw [List.mem_singleton.1 member] at accepted
      exact absurd accepted refused
  | done fit accepted =>
      exact reported_ok (accepted_asked (posts _ fit) accepted)

end

/-- What a run of a command keeps to. -/
structure Disciplined (settings : Settings) (command : Command)
    (ended : Except CommandError Ending) (t : Transcript) : Prop where
  issues : command.Issues settings t
  reported : command.Mutates → Reported ended t

/-- A command that does not ask for a watch is all that is run. -/
theorem tells_runFor_of_finished {command : Command} {span : Nat}
    {post : Except CommandError Ending → Transcript → Prop}
    (ran : Tells (run settings terminal command : Recorded _) fun ended t =>
      Finished ended ∧ post ended t) :
    Tells (runFor settings terminal command span : Recorded _) post := by
  refine ran.bind ?_
  rintro ended t ⟨finished, told⟩
  rw [← List.append_nil t] at told
  rcases ended with e | (_ | _)
  · exact .pure told
  · exact .pure told
  · exact absurd rfl finished

theorem sends_watchThen (span : Nat) :
    Sends (do
      let actions := watchActions settings terminal
      let _ ← ({} : Watch).runFor actions settings.pollInterval span
      return .ok .watch : Recorded (Except CommandError Ending)) (· = .ok .watch)
      (Watches settings.AsksStatus) :=
  (sends_watch _ _ _).then_quiet fun _ => quiet_pure rfl

theorem disciplined_send (follow : Bool) (span : Nat) :
    Tells (runFor settings terminal (.send follow) span : Recorded _)
      (Disciplined settings (.send follow)) := by
  have posts (r : Request) (fit : settings.Posts .startSend r) : r.method = .post := fit.method
  have sending : Tells (runSend settings terminal follow : Recorded _) _ := tells_runSend follow
  cases follow with
  | false =>
      refine tells_runFor_of_finished (sending.mono fun ended t reports => ?_)
      exact ⟨reports.finished, reports.postThen, fun _ => reports.reported posts⟩
  | true =>
      refine sending.bind fun ended t reports => ?_
      have reported : Reported ended t := reports.reported posts
      cases reports with
      | unmade unfit => exact .pure ⟨.unmade unfit, fun _ => reported⟩
      | refused fit refused => exact .pure ⟨.refused fit refused, fun _ => reported⟩
      | done fit accepted silent =>
          refine (sends_watchThen span).mono ?_
          rintro _ watched ⟨rfl, watches⟩
          have onwards := silent watched
          refine ⟨.of_accepted fit accepted ?_,
            fun _ => reported_ok (accepted_asked (posts _ fit) accepted)⟩
          show Watches settings.AsksStatus (Transcript.traffic (_ ++ watched))
          rw [onwards]
          exact watches

theorem disciplined_runFor (settings : Settings) (terminal : Terminal.Settings) (command : Command)
    (span : Nat) :
    Tells (runFor settings terminal command span : Recorded _) (Disciplined settings command) := by
  cases command with
  | watch =>
      have ran : Tells (run settings terminal .watch : Recorded _) fun ended t =>
          ended = .ok .watch ∧ t = [] := .pure ⟨rfl, rfl⟩
      refine ran.bind ?_
      rintro _ _ ⟨rfl, rfl⟩
      refine (sends_watchThen span).mono ?_
      rintro _ watched ⟨rfl, watches⟩
      exact ⟨watches, nofun⟩
  | send follow => exact disciplined_send follow span
  | group name isRecipient =>
      refine tells_runFor_of_finished ?_
      refine (tells_runGroup name isRecipient).mono fun ended t reports => ?_
      have posts (r : Request) (fit : settings.Posts (.setGroup name isRecipient) r) :
          r.method = .post := fit.method
      exact ⟨reports.finished, reports.postThen, fun _ => reports.reported posts⟩
  | campaign command =>
      refine tells_runFor_of_finished ((tells_runCampaign command).mono ?_)
      rintro ended t ⟨finished, issues⟩
      exact ⟨finished, issues, nofun⟩

theorem Issues.unrepeated {command : Command} {t : Transcript}
    (issues : command.Issues settings t) : t.traffic.Unrepeated := by
  have asksList (r : Request) (fit : settings.AsksList r) : r.method = .get := fit.method
  have asksStatus (r : Request) (fit : settings.AsksStatus r) : r.method = .get := fit.method
  have ends (traffic : Traffic) (ends : Ends traffic) : Reads traffic := by
    rw [ends]
    exact reads_nil
  cases command with
  | watch => exact (Watches.reads asksStatus issues).unrepeated
  | send follow =>
      refine PostThen.unrepeated (fun _ fit => FormPost.Fits.method fit) ?_ issues
      cases follow with
      | true => exact fun _ watches => Watches.reads asksStatus watches
      | false => exact ends
  | group name isRecipient =>
      exact PostThen.unrepeated (fun _ fit => FormPost.Fits.method fit) ends issues
  | campaign command =>
      rcases issues with ⟨found, rest, rfl, opened⟩
      show (Transcript.traffic rest).Unrepeated
      split at opened
      · rw [opened]
        exact reads_nil.unrepeated
      · cases command with
        | list | sort => exact (Asks.reads asksList opened).unrepeated
        | create action fields =>
            exact PostThen.unrepeated (fun _ fit => FormPost.Fits.method fit)
              (fun _ asked => Asks.reads asksList asked) opened

/-- **The request discipline of the commands.**  Whatever a page, a file system and a clock answer,
a run of a command issues the requests that `Issues` tells and no others: a form that waits for
nothing, what waits for the form to be accepted after it, and one request for the status in each
cycle of a watch.  The list and the status are asked for with their flag behind the query of the
address, which is otherwise left as it is.  A command about the campaign list opens its store first
and ends there if that fails.  No turn between two waits uses a method twice, and a run posts one
form at most.  A command that starts the send job or changes the recipients ends well only if the
page accepted its form, and prints nothing where it fails.  A blank group and an action that leads
nowhere make no request at all. -/
theorem runFor_keeps_discipline (settings : Settings) (terminal : Terminal.Settings)
    (command : Command) (span : Nat) (around : Surroundings) :
    let ran := Recorded.record (runFor settings terminal command span) around
    command.Issues settings ran.2 ∧ ran.2.traffic.Unrepeated ∧
    (command.Mutates → Reported ran.1 ran.2) ∧
    (∀ name isRecipient, command = .group name isRecipient → Text.isBlankText name = true →
      ran.2.traffic = [[]]) ∧
    (∀ action fields e, command = .campaign (.create action fields) →
      (CampaignPage.ofAddress settings.pageUrl).resolve (action.getD settings.listUrl) = .error e →
      ran.2.traffic = [[]]) := by
  intro ran
  have disciplined := (disciplined_runFor settings terminal command span).record around
  refine ⟨disciplined.issues, disciplined.issues.unrepeated, disciplined.reported, ?_, ?_⟩
  · rintro name isRecipient rfl blank
    refine PostThen.ends_of_unfit disciplined.issues ?_
    rintro r ⟨legible, _⟩
    rw [blank] at legible
    cases legible
  · rintro action fields e rfl astray
    rcases disciplined.issues with ⟨found, rest, told, opened⟩
    have silent : Transcript.traffic rest = [[]] := by
      split at opened
      · rw [opened]
        rfl
      · refine PostThen.ends_of_unfit opened ?_
        rintro r ⟨url, leads, _⟩
        rw [astray] at leads
        cases leads
    show Transcript.traffic (Recorded.record (runFor settings terminal _ span) around).2 = [[]]
    rw [told]
    exact silent

/-- A page that answers its requests in order and then drops them, beside files that
are not there. -/
def answering (arrivals : List Arrival) : Surroundings where
  answer before _ := (arrivals[before.traffic.flatten.length]?).getD .dropped
  read _ _ := .error .notFound
  replace _ _ _ := .ok ()
  time _ := ""

/-- A page and a list that have an address with credentials, a query and a fragment.  The requests
of a send job with its watch, of a sort and of a new job are shown with what they ask for. -/
theorem runFor_keeps_discipline_spring :
    let settings : Settings := {
      pageUrl := "http://h/emails/spring/"
      explicitListUrl := some "http://u:p@h:80/mails?page=2#top" }
    let terminal : Terminal.Settings := { colors := false, redraw := false }
    let accepting : List Arrival := [.reply ⟨200, .empty⟩]
    let run (command : Command) (arrivals : List Arrival) :=
      Recorded.record (runFor settings terminal command 5000) (answering arrivals)
    let lines (t : Transcript) : List (List String) :=
      t.traffic.map (·.map fun e => e.request.method.text ++ " " ++ e.request.target)
    let started := run (.send true) accepting
    let refused := run (.send true) []
    let sorted := run (.campaign (.sort .name)) accepting
    let created := run (.campaign (.create (some "new") [])) accepting
    (lines started.2 = [
        ["POST http://h/emails/spring", "GET http://h/emails/spring?status=true"],
        ["GET http://h/emails/spring?status=true"],
        ["GET http://h/emails/spring?status=true"], []] ∧
      started.1.isOk = true ∧ started.2.traffic.Unrepeated ∧ started.2.traffic.Accepted) ∧
    (lines refused.2 = [["POST http://h/emails/spring"]] ∧ refused.1.isOk = false ∧
      refused.2.texts = []) ∧
    (lines sorted.2 = [["GET http://h/mails?page=2&list=true"]] ∧
      Command.Issues settings sorted.2 (.campaign (.sort .name))) ∧
    (lines created.2 = [["POST http://h/emails/new", "GET http://h/mails?page=2&list=true"]] ∧
      Command.Issues settings created.2 (.campaign (.create (some "new") []))) ∧
    (Text.isBlankText " \t" = true ∧ (run (.group " \t" true) accepting).2.traffic = [[]]) ∧
    ∃ e, (CampaignPage.ofAddress settings.pageUrl).resolve "http://[" = .error e ∧
      (run (.campaign (.create (some "http://[") [])) accepting).2.traffic = [[]] := by
  intro settings terminal accepting run lines started refused sorted created
  have keeps (command : Command) (arrivals : List Arrival) :=
    runFor_keeps_discipline settings terminal command 5000 (answering arrivals)
  have done : started.1.isOk = true := by decide +kernel
  have failed : refused.1.isOk = false := by decide +kernel
  have ofStarted := keeps (.send true) accepting
  have ofRefused := keeps (.send true) []
  have ofAstray := keeps (.campaign (.create (some "http://[") [])) accepting
  refine ⟨⟨by decide +kernel, done, ofStarted.2.1, ?_⟩, ⟨by decide +kernel, failed, ?_⟩,
    ⟨by decide +kernel, (keeps _ _).1⟩, ⟨by decide +kernel, (keeps _ _).1⟩, ⟨by decide, ?_⟩, ?_⟩
  · exact (ofStarted.2.2.1 trivial).accepted.1 done
  · exact (ofRefused.2.2.1 trivial).failed failed
  · exact (keeps (.group " \t" true) accepting).2.2.2.1 " \t" true rfl (by decide)
  · rcases leads : (CampaignPage.ofAddress settings.pageUrl).resolve "http://[" with e | url
    · exact ⟨e, rfl, ofAstray.2.2.2.2 (some "http://[") [] e rfl leads⟩
    · have astray : ((CampaignPage.ofAddress settings.pageUrl).resolve "http://[").isOk = false :=
        by decide +kernel
      rw [leads] at astray
      cases astray

end Command

end CampaignConsole
