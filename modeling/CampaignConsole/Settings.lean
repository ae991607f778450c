/-!
The settings of the console: the campaign page, its list, the pace of a watch, and the state file.
-/

namespace CampaignConsole

/-- The settings of the console. -/
structure Settings where
  /-- The address of the campaign page. -/
  pageUrl : String
  /-- The address of the campaign list, where it is not the folder of the page. -/
  explicitListUrl : Option String := none
  /-- The milliseconds between two cycles of a watch. -/
  pollInterval : Nat := 2000
  /-- The milliseconds after which a request is given up. -/
  requestTimeout : Nat := 30000
  /-- The state file. -/
  statePath : String := ".mailwatch-state.json"
  deriving DecidableEq, Repr

/-- What is wrong with the settings. -/
inductive SettingsError where
  | emptyUrl (name : String)
  | badScheme (name : String)
  | zeroPollInterval
  | zeroRequestTimeout
  | emptyStatePath
  deriving DecidableEq, Repr

/-- The wording of an error. -/
def SettingsError.message : SettingsError → String
  | .emptyUrl name => name ++ " cannot be empty"
  | .badScheme name => name ++ " must start with http:// or https://"
  | .zeroPollInterval => "poll_interval must be greater than 0"
  | .zeroRequestTimeout => "request_timeout must be greater than 0"
  | .emptyStatePath => "state_path cannot be empty"

/-- A text without the slashes at its end. -/
def trimSlashes (cs : List Char) : List Char :=
  (cs.reverse.dropWhile (· == '/')).reverse

/-- The text before the last slash, if there is one. -/
def beforeLastSlash? (cs : List Char) : Option (List Char) :=
  match cs.reverse.dropWhile (· != '/') with
  | [] => none
  | _ :: before => some before.reverse

namespace Settings

/-- The folder of a page: the address up to its last slash, unless that slash belongs to `//`. -/
def folderOf (pageUrl : String) : String :=
  let page := trimSlashes pageUrl.toList
  match beforeLastSlash? page with
  | some folder =>
      String.ofList (if folder.getLast? == some '/' then page else folder)
  | none => String.ofList page

/-- The address of the campaign list. -/
def listUrl (s : Settings) : String :=
  s.explicitListUrl.getD (folderOf s.pageUrl)

/-- Checks an address by its start. -/
def checkUrl (name url : String) : Except SettingsError Unit :=
  if url.isEmpty then .error (.emptyUrl name)
  else if "http://".toList.isPrefixOf url.toList || "https://".toList.isPrefixOf url.toList then
    .ok ()
  else .error (.badScheme name)

/-- Checks the settings; the first thing that is wrong is told. -/
def check (s : Settings) : Except SettingsError Unit := do
  checkUrl "page_url" s.pageUrl
  match s.explicitListUrl with
  | some url => checkUrl "list_url" url
  | none => pure ()
  if s.pollInterval = 0 then throw .zeroPollInterval
  if s.requestTimeout = 0 then throw .zeroRequestTimeout
  if s.statePath.isEmpty then throw .emptyStatePath

end Settings

end CampaignConsole
