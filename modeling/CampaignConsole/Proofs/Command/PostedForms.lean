import CampaignConsole.Proofs.Command.FieldArguments
import CampaignConsole.Proofs.Command.RequestDiscipline
import CampaignConsole.Proofs.Url.FormReading

/-!
# What the posted forms say

`Traffic.forms` are the forms that went out in a run, as they are read by the rules for such texts.
`forms_runGroup` and `forms_runCreate` say which forms a command posts and when, and
`posted_forms_read_back` that these are the values that the user gave, whatever characters they
hold.
-/

namespace CampaignConsole

/-- Whether a form can be sent to a URL. -/
def Request.canReach (url : Url) : Bool :=
  (sendable url).isOk

/-- Whether a form can be posted to a page. -/
def CampaignPage.isPostable (page : CampaignPage) : Bool :=
  (Url.parse none page.url).toOption.any Request.canReach

/-- Whether a form can be posted to what a link on a page leads to. -/
def CampaignPage.leadsOn (page : CampaignPage) (link : String) : Bool :=
  (page.resolve link).toOption.any Request.canReach

/-- Whether the store of the campaign commands opens. -/
def Settings.opensStore (settings : Settings) (around : Surroundings) : Bool :=
  (StateStore.ofRead ⟨settings.statePath⟩ (around.read [] ⟨settings.statePath⟩)).isOk

namespace Request

theorem exists_posts_iff {url : Url} {values : FormValues} :
    (∃ r : Request, r.Posts url values) ↔ canReach url = true := by
  simp only [← postTo_eq_ok_iff, postTo, canReach]
  cases sendable url with
  | error e => simp [bind, Except.bind, Except.isOk, Except.toBool]
  | ok sent => simp [bind, Except.bind, pure, Except.pure, Except.isOk, Except.toBool]

theorem exists_posts_found_iff {ε : Type} {found : Except ε Url} {values : FormValues} :
    (∃ r : Request, ∃ url, found = .ok url ∧ r.Posts url values) ↔
      found.toOption.any canReach = true := by
  cases found with
  | error e => simp [Except.toOption]
  | ok url =>
      show _ ↔ canReach url = true
      rw [← exists_posts_iff]
      constructor
      · intro ⟨r, _, same, posts⟩
        cases same
        exact ⟨r, posts⟩
      · intro ⟨r, posts⟩
        exact ⟨r, url, rfl, posts⟩

end Request

namespace FormPost

variable {page : CampaignPage}

/-- The form of a group that has a name goes out where the page is, whatever the name. -/
theorem exists_fits_setGroup {group : String} (named : Text.isBlankText group = false)
    (isRecipient : Bool) :
    (∃ r, (setGroup group isRecipient).Fits page r) ↔ page.isPostable = true := by
  simp only [Fits, named, true_and]
  exact Request.exists_posts_found_iff

/-- The form of a job goes out where its link leads, whatever the fields. -/
theorem exists_fits_createJob (link : String) (fields : FormValues) :
    (∃ r, (createJob link fields).Fits page r) ↔ page.leadsOn link = true :=
  Request.exists_posts_found_iff

end FormPost

namespace Traffic

/-- The forms posted, as they are read, in order. -/
def forms (traffic : Traffic) : List FormValues :=
  traffic.flatten.filterMap fun e => e.request.form.map fun text => Url.formDecode text.toList

section

variable {fits : Request → Prop} {next : Traffic → Prop} {traffic : Traffic} {values : FormValues}

theorem Asks.forms (gets : ∀ r, fits r → r.form = none) (asked : Asks fits traffic) :
    traffic.forms = [] := by
  cases asked with
  | unmade => rfl
  | issued fit => simp [Traffic.forms, gets _ fit]

theorem Ends.forms (ends : Ends traffic) : traffic.forms = [] := by
  rw [ends]
  rfl

/-- What is posted is read as the values of the form. -/
theorem PostThen.forms {goesOut : Bool}
    (posts : ∀ r, fits r → r.form = some (String.ofList (Url.formEncode values)))
    (later : ∀ t, next t → t.forms = []) (sent : (∃ r, fits r) ↔ goesOut = true)
    (posted : PostThen fits next traffic) :
    traffic.forms = if goesOut then [values] else [] := by
  have read (e : Exchange) (fit : fits e.request) :
      (e.request.form.map fun text => Url.formDecode text.toList) = some values := by
    rw [posts _ fit, Option.map_some, String.toList_ofList, Url.formDecode_formEncode]
  cases posted with
  | unmade unfit =>
      rw [if_neg fun out => (sent.2 out).elim unfit]
      rfl
  | refused fit =>
      rw [if_pos (sent.1 ⟨_, fit⟩)]
      simp [Traffic.forms, read _ fit]
  | @accepted e turn turns fit _ follows =>
      have rest : Traffic.forms (turn :: turns) = [] := later _ follows
      rw [if_pos (sent.1 ⟨_, fit⟩)]
      show List.filterMap _ (e :: (turn :: turns).flatten) = [values]
      rw [List.filterMap_cons, read e fit]
      show values :: Traffic.forms (turn :: turns) = [values]
      rw [rest]

end

end Traffic

namespace Command

variable {settings : Settings} {terminal : Terminal.Settings}

/-- What a command posts, read by the rules for forms. -/
def postedForms (settings : Settings) (terminal : Terminal.Settings) (around : Surroundings)
    (command : Command) : List FormValues :=
  (Recorded.record (run settings terminal command) around).2.traffic.forms

theorem forms_runGroup {name : String} (named : Text.isBlankText name = false) (isRecipient : Bool)
    (around : Surroundings) :
    postedForms settings terminal around (.group name isRecipient) =
      if (CampaignPage.ofAddress settings.pageUrl).isPostable then
        [[("group", Text.trim name), ("isRecip", if isRecipient then "true" else "false")]]
      else [] := by
  have told : Tells (runGroup settings terminal name isRecipient : Recorded _)
      (Reports (settings.Posts (.setGroup name isRecipient)) .done) :=
    tells_runGroup name isRecipient
  refine (told.record around).postThen.forms ?_ (fun _ ends => ends.forms)
    (FormPost.exists_fits_setGroup named _)
  intro r fit
  obtain ⟨_, _, _, posts⟩ := fit
  exact posts.form

/-- The store is read before anything else. -/
theorem runCampaign_create (action : Option String) (fields : FormValues) (around : Surroundings) :
    (runCampaign settings terminal (.create action fields) : Recorded _) around [] =
      (match StateStore.ofRead ⟨settings.statePath⟩ (around.read [] ⟨settings.statePath⟩) with
        | .error e => pure (.error (.store e))
        | .ok store => runCreate settings terminal store action fields : Recorded (Except _ Ending))
      around [.found ⟨settings.statePath⟩ (around.read [] ⟨settings.statePath⟩)] :=
  rfl

theorem forms_runCreate (action : Option String) (fields : FormValues) (around : Surroundings) :
    postedForms settings terminal around (.campaign (.create action fields)) =
      if settings.opensStore around &&
        (CampaignPage.ofAddress settings.pageUrl).leadsOn (action.getD settings.listUrl) then
        [fields]
      else [] := by
  have gets (r : Request) (fit : settings.AsksList r) : r.form = none := fit.form
  have posts (r : Request)
      (fit : settings.Posts (.createJob (action.getD settings.listUrl) fields) r) :
      r.form = some (String.ofList (Url.formEncode fields)) := by
    obtain ⟨_, _, posts⟩ := fit
    exact posts.form
  show (Transcript.traffic ((runCampaign settings terminal (.create action fields) : Recorded _)
    around []).2).forms = _
  rw [runCampaign_create, Settings.opensStore]
  cases StateStore.ofRead ⟨settings.statePath⟩ (around.read [] ⟨settings.statePath⟩) with
  | error e => rfl
  | ok store =>
      have sends : Sends (runCreate settings terminal store action fields : Recorded _) Finished
          ((CampaignCommand.create action fields).Issues settings) := sends_runCreate action fields
      obtain ⟨ended, t, ran, _, issued⟩ := sends.holds around
        [.found ⟨settings.statePath⟩ (around.read [] ⟨settings.statePath⟩)]
      have read := issued.forms posts (fun _ asked => asked.forms gets)
        (FormPost.exists_fits_createJob _ _)
      have opens : (Except.ok store : Except StoreError StateStore).isOk = true := rfl
      dsimp only
      rw [ran, opens, Bool.true_and]
      exact read

open CommandLine

/-- **Posted forms are read back as they were given.**  Whatever is around a run:

* A group that has a name is posted as two named values, the name without the blanks around it and
  whether it is added, wherever the page takes a form at all.
* Arguments that are fields make a command that posts exactly these fields, in their order, wherever
  its link leads on; the first argument that is none makes no command at all.
* A text is no field exactly if it has no `=`, or nothing but blanks before the first one. -/
theorem posted_forms_read_back (settings : Settings) (terminal : Terminal.Settings)
    (around : Surroundings) :
    let page := CampaignPage.ofAddress settings.pageUrl
    let posted := postedForms settings terminal around
    (∀ name isRecipient, Text.isBlankText name = false →
      posted (.group name isRecipient) =
        if page.isPostable then
          [[("group", Text.trim name), ("isRecip", if isRecipient then "true" else "false")]]
        else []) ∧
    (∀ action texts spelled, List.Forall₂ FieldWords texts spelled →
      let read := command ("campaign" :: "create" :: (actionWords action ++ spelled.flatten))
      (∀ fields, List.Forall₂ (fun text field => parseField text = .ok field) texts fields →
        read = .ok (.campaign (.create action fields)) ∧ List.Forall₂ IsField texts fields ∧
        posted (.campaign (.create action fields)) =
          if settings.opensStore around && page.leadsOn (action.getD settings.listUrl) then
            [fields]
          else []) ∧
      ∀ before text after e, texts = before ++ text :: after →
        (∀ text ∈ before, ∃ field, parseField text = .ok field) → parseField text = .error e →
        read = .error (.invalidValue text "--field <KEY=VALUE>" (some e.message))) ∧
    ∀ text, (∃ e, parseField text = .error e) ↔
      '=' ∉ text.toList ∨ ∃ name value, '=' ∉ name.toList ∧ text = name ++ "=" ++ value ∧
        Text.isBlankText name = true := by
  intro page posted
  refine ⟨?groups, ?fields, fun text => parseField_eq_error_iff⟩
  case groups =>
    intro name isRecipient named
    exact forms_runGroup named isRecipient around
  case fields =>
    intro action texts spelled given read
    have reads : read = _ := command_create given action
    constructor
    · intro fields found
      have written : List.Forall₂ IsField texts fields :=
        found.imp fun _ _ read => parseField_eq_ok_iff.1 read
      rw [mapM_fieldOf_eq_ok_iff.2 written] at reads
      exact ⟨reads, written, forms_runCreate action fields around⟩
    · intro before text after e whole fit refused
      rw [whole, mapM_fieldOf_of_error fit refused] at reads
      exact reads

/-- A name and fields that are full of signs that separate names and values. -/
theorem posted_forms_read_back_separators :
    let settings : Settings := { pageUrl := "http://h/emails/spring" }
    let terminal : Terminal.Settings := { colors := false, redraw := false }
    let around := answering [.reply ⟨200, .empty⟩]
    let posted := postedForms settings terminal around
    let name := " staff&isRecip=true;\n100% Wählen+x\t"
    let texts := ["a&b=c=d&e=f", " k\n= +%3D; ", "k=", "k="]
    let spelled := [["--field=a&b=c=d&e=f"], ["-f", " k\n= +%3D; "], ["-fk="], ["-f=k="]]
    let fields := [("a&b", "c=d&e=f"), ("k", " +%3D; "), ("k", ""), ("k", "")]
    List.Forall₂ FieldWords texts spelled ∧
      List.Forall₂ (fun text field => parseField text = .ok field) texts fields ∧
      posted (.group name false) =
        [[("group", "staff&isRecip=true;\n100% Wählen+x"), ("isRecip", "false")]] ∧
      command ("campaign" :: "create" :: spelled.flatten) =
        .ok (.campaign (.create none fields)) ∧
      posted (.campaign (.create none fields)) = [fields] ∧
      command ["campaign", "create", "-f", "k=", "--field= =v"] =
        .error (.invalidValue " =v" "--field <KEY=VALUE>"
          (some (FieldError.emptyName " =v").message)) := by
  intro settings terminal around posted name texts spelled fields
  obtain ⟨groups, create, _⟩ := posted_forms_read_back settings terminal around
  have given : List.Forall₂ FieldWords texts spelled :=
    .cons .long (.cons (.shortApart (by decide)) (.cons (.shortJoined rfl (by decide))
      (.cons .short .nil)))
  have found : List.Forall₂ (fun text field => parseField text = .ok field) texts fields :=
    .cons (by decide +kernel) (.cons (by decide +kernel) (.cons (by decide +kernel)
      (.cons (by decide +kernel) .nil)))
  have isPostable : (CampaignPage.ofAddress settings.pageUrl).isPostable = true := by decide +kernel
  have goesOut : (settings.opensStore around && (CampaignPage.ofAddress settings.pageUrl).leadsOn
      ((none : Option String).getD settings.listUrl)) = true := by decide +kernel
  obtain ⟨made, _, sent⟩ := (create none texts spelled given).1 fields found
  rw [if_pos goesOut] at sent
  have trimmed : Text.trim name = "staff&isRecip=true;\n100% Wählen+x" := by decide +kernel
  have told := groups name false (by decide +kernel)
  rw [if_pos isPostable, trimmed, if_neg Bool.false_ne_true] at told
  have refused : List.Forall₂ FieldWords ["k=", " =v"] [["-f", "k="], ["--field= =v"]] :=
    .cons (.shortApart (by decide)) (.cons .long .nil)
  have first : ∀ text ∈ ["k="], ∃ field, parseField text = .ok field := by
    intro text member
    rw [List.mem_singleton.1 member]
    exact ⟨("k", ""), by decide +kernel⟩
  refine ⟨given, found, told, made, sent, ?_⟩
  exact (create none _ _ refused).2 ["k="] " =v" [] _ rfl first (by decide +kernel)

end Command

end CampaignConsole
