/-!
How a terminal shows text, and what the environment says about it.
-/

namespace CampaignConsole.Terminal

/-- How a terminal shows text. -/
structure Settings where
  /-- Whether colours are shown. -/
  colors : Bool
  /-- Whether a panel replaces the one before it. -/
  redraw : Bool
  deriving DecidableEq, Repr

namespace Settings

/-- The settings for an output that is a terminal or is not.  `CLICOLOR_FORCE` turns colours on,
else `NO_COLOR` turns them off, else `CLICOLOR=0` does; without any of them a terminal has colours
and all other output has none. -/
def ofEnvironment (isTerminal : Bool) (environment : String → Option String) : Settings :=
  let isOn (name : String) : Option Bool := (environment name).map (· != "0")
  let colors :=
    if isOn "CLICOLOR_FORCE" == some true then true
    else if (isOn "NO_COLOR").isSome then false
    else isTerminal && (isOn "CLICOLOR").getD true
  { colors, redraw := isTerminal }

/-- The variables of the environment that say something about colours. -/
def environmentNames : List String := ["CLICOLOR_FORCE", "NO_COLOR", "CLICOLOR"]

end Settings

end CampaignConsole.Terminal
