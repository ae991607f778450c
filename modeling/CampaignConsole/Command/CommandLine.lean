import CampaignConsole.Command.Arguments
import CampaignConsole.Command.Basic

/-!
The command line of the console.

`CommandLine.command` reads a command with its own arguments, and `CommandLine.parse` a whole
command line: the settings come first, from options or else from the environment.  A fault in the
command is told before a fault in a setting that is still to be checked.
-/

namespace CampaignConsole.CommandLine

/-! ## Values -/

/-- The reason why decimal digits that follow the number `n` make no number of 64
bits, if there is one. -/
def digitsFault? (n : Nat) : List Char → Option String
  | [] => none
  | c :: rest =>
      if !c.isDigit then some "invalid digit found in string"
      else
        let n := n * 10 + (c.toNat - 48)
        if UInt64.size ≤ n then some "number too large to fit in target type"
        else digitsFault? n rest

/-- The reason why a text is no natural number of 64 bits, if there is one; a plus
sign may stand in front. -/
def numberFault? (text : String) : Option String :=
  match text.toList with
  | [] => some "cannot parse integer from empty string"
  | ['+'] => some "invalid digit found in string"
  | '+' :: rest => digitsFault? 0 rest
  | cs => digitsFault? 0 cs

/-- The number that a text writes, with or without a plus sign. -/
def numberOf (text : String) : Nat :=
  (Url.numberIn? 10 (text.toList.filter (· != '+'))).getD 0

/-- Checks a number. -/
def checkNumber (shown text : String) : Except UsageError Unit :=
  match numberFault? text with
  | none => .ok ()
  | some reason => .error (.invalidValue text shown (some reason))

/-- Checks the name of a column. -/
def checkColumn (shown text : String) : Except UsageError Unit :=
  match SortField.ofText text with
  | .ok _ => .ok ()
  | .error _ => .error (if text.isEmpty then .misuse else .invalidValue text shown none)

/-- Checks a path. -/
def checkPath (text : String) : Except UsageError Unit :=
  if text.isEmpty then .error .misuse else .ok ()

/-- Why a text is no form field. -/
inductive FieldError where
  | noSeparator (text : String)
  | emptyName (text : String)
  deriving DecidableEq, Repr

/-- The wording of an error. -/
def FieldError.message : FieldError → String
  | .noSeparator text => "expected KEY=VALUE, got " ++ Text.quoted text
  | .emptyName text => "empty field name in " ++ Text.quoted text

/-- Reads a form field: the name without blanks around it before the first `=`, and
the value as it is after it. -/
def parseField (text : String) : Except FieldError (String × String) :=
  match Text.splitAtFirst '=' text with
  | none => .error (.noSeparator text)
  | some (name, value) =>
      let name := Text.trim name
      if name.isEmpty then .error (.emptyName text) else .ok (name, value)

/-- Checks a form field. -/
def checkField (shown text : String) : Except UsageError Unit :=
  match parseField text with
  | .ok _ => .ok ()
  | .error e => .error (.invalidValue text shown (some e.message))

/-! ## Commands -/

/-- The arguments of `send`. -/
def sendTable : ArgumentTable where
  options := [{ name := "watch", arity := .flag, short := some 'w', shown := "--watch" }]

/-- The arguments of `group add` and `group remove`. -/
def groupTable : ArgumentTable where
  positions := [{ name := "name", shown := "<NAME>" }]

/-- The arguments of `campaign list`. -/
def listTable : ArgumentTable where
  options := [
    { name := "sort", shown := "--sort <SORT>", check := checkColumn "--sort <SORT>" },
    { name := "desc", arity := .flag, shown := "--desc" },
    { name := "exclude", arity := .many, shown := "--exclude <NAME>" }]

/-- The arguments of `campaign sort`. -/
def sortTable : ArgumentTable where
  positions := [{ name := "field", shown := "<FIELD>", check := checkColumn "<FIELD>" }]

/-- The arguments of `campaign create`. -/
def createTable : ArgumentTable where
  options := [
    { name := "action", shown := "--action <ACTION>" },
    { name := "field", arity := .many, short := some 'f', shown := "--field <KEY=VALUE>"
      check := checkField "--field <KEY=VALUE>" }]

/-- Reads the arguments of a command without subcommands. -/
def leaf (table : ArgumentTable) (args : List String) : Except UsageError Given := do
  let (s, _) ← Scan.run table {} args
  finish s

/-- The names of the commands. -/
def commandNames : List String := ["watch", "send", "group", "campaign", "help"]

/-- The names of the subcommands of a command. -/
def subcommandsOf : String → List String
  | "group" => ["add", "remove", "help"]
  | "campaign" => ["list", "sort", "create", "help"]
  | _ => []

/-- What comes of asking for help on a subcommand of a subcommand and so on: help,
if they all exist. -/
def helpOn (names : List String) : List String → UsageError
  | [] => .help
  | name :: rest => if name ∈ names then helpOn (subcommandsOf name) rest else .misuse

/-- Reads the arguments of a level with subcommands, and the subcommand if one is named.  The
subcommand is read before the last value of the level is checked. -/
def branch? {α : Type} (table : ArgumentTable) (args : List String)
    (read : String → List String → Except UsageError α) : Except UsageError (Given × Option α) := do
  match ← Scan.run table {} args with
  | (s, none) => return (← finish s, none)
  | (s, some (name, rest)) =>
      let a ← if name = "help" then throw (helpOn table.subcommands rest) else read name rest
      return (← finish s, some a)

/-- Reads the arguments of a command that must name a subcommand. -/
def branch {α : Type} (subcommands : List String) (args : List String)
    (read : String → List String → Except UsageError α) : Except UsageError α := do
  match (← branch? { subcommands } args read).2 with
  | some a => return a
  | none => throw .misuse

/-- The column that a checked value names. -/
def column? (g : Given) (name : String) : Option SortField := do
  match SortField.ofText (← g.value? name) with
  | .ok field => some field
  | .error _ => none

/-- Reads what follows `group`. -/
def groupCommand (name : String) (args : List String) : Except UsageError Command := do
  let g ← leaf groupTable args
  match g.value? "name" with
  | some group => return .group group (name == "add")
  | none => throw .misuse

/-- Reads what follows `campaign`. -/
def campaignCommand (name : String) (args : List String) : Except UsageError Command :=
  match name with
  | "list" => do
      let g ← leaf listTable args
      if g.has "desc" && !g.has "sort" then throw .misuse
      return .campaign (.list (column? g "sort") (g.has "desc") (g.valuesOf "exclude"))
  | "sort" => do
      match column? (← leaf sortTable args) "field" with
      | some field => return .campaign (.sort field)
      | none => throw .misuse
  | _ => do
      let g ← leaf createTable args
      let fields := (g.valuesOf "field").filterMap fun text => (parseField text).toOption
      return .campaign (.create (g.value? "action") fields)

/-- Reads a command by its name. -/
def namedCommand (name : String) (args : List String) : Except UsageError Command :=
  match name with
  | "watch" => do
      let _ ← leaf {} args
      return .watch
  | "send" => do return .send ((← leaf sendTable args).has "watch")
  | "group" => branch (subcommandsOf name) args groupCommand
  | _ => branch (subcommandsOf name) args campaignCommand

/-- Reads a command with its arguments. -/
def command (args : List String) : Except UsageError Command :=
  branch commandNames args namedCommand

/-! ## The whole command line -/

/-- An option that sets a setting, with the variable of the environment that sets it otherwise. -/
structure SettingOption where
  argument : Argument
  fallback : String

/-- The name shown of the poll interval. -/
def pollShown : String := "--poll-interval-ms <POLL_INTERVAL_MS>"

/-- The name shown of the request timeout. -/
def timeoutShown : String := "--request-timeout <REQUEST_TIMEOUT>"

/-- The options that set settings, in the order in which the environment is asked. -/
def settingOptions : List SettingOption := [
  ⟨{ name := "page-url", shown := "--page-url <PAGE_URL>" }, "MAILWATCH_PAGE_URL"⟩,
  ⟨{ name := "list-url", shown := "--list-url <LIST_URL>" }, "MAILWATCH_LIST_URL"⟩,
  ⟨{ name := "poll-interval-ms", shown := pollShown, check := checkNumber pollShown },
    "MAILWATCH_POLL_INTERVAL_MS"⟩,
  ⟨{ name := "request-timeout", shown := timeoutShown, check := checkNumber timeoutShown },
    "MAILWATCH_REQUEST_TIMEOUT"⟩,
  ⟨{ name := "state-path", shown := "--state-path <STATE_PATH>", check := checkPath },
    "MAILWATCH_STATE_PATH"⟩]

/-- The arguments before the command. -/
def mainTable : ArgumentTable where
  options := settingOptions.map (·.argument)
  subcommands := commandNames

/-- Takes settings that were not given from the environment. -/
def addEnvironment (environment : String → Option String) (g : Given) : Except UsageError Given :=
  settingOptions.foldlM (fun g o =>
    match g.has o.argument.name, environment o.fallback with
    | false, some value => do
        o.argument.check value
        return g ++ [(o.argument.name, value)]
    | _, _ => .ok g) g

/-- The settings that the values give; the address of the page must be there. -/
def settingsOf (g : Given) : Except UsageError Settings := do
  match g.value? "page-url" with
  | none => throw .misuse
  | some pageUrl =>
      let base : Settings := { pageUrl }
      return { base with
        explicitListUrl := g.value? "list-url"
        pollInterval := ((g.value? "poll-interval-ms").map numberOf).getD base.pollInterval
        requestTimeout :=
          ((g.value? "request-timeout").map (numberOf · * 1000)).getD base.requestTimeout
        statePath := (g.value? "state-path").getD base.statePath }

/-- Reads a whole command line. -/
def parse (args : List String) (environment : String → Option String) :
    Except UsageError (Settings × Command) := do
  let (given, command) ← branch? mainTable args namedCommand
  let given ← addEnvironment environment given
  match command with
  | some command => return (← settingsOf given, command)
  | none => throw .misuse

end CampaignConsole.CommandLine
