/-!
Arguments of a command line.

An `ArgumentTable` says which options, positions and subcommands one level of a command line knows.
`scan` takes the arguments of that level: it collects the values given and stops at a subcommand,
whose own arguments are left over.  A value is checked when the next option is met or the level
ends, so an option that is not known is told before a bad value in front of it.
-/

namespace CampaignConsole.CommandLine

/-- Why a command line is refused. -/
inductive UsageError where
  /-- A value that an argument does not take, by the name of the argument, and the
  reason where there is one. -/
  | invalidValue (value argument : String) (reason : Option String)
  /-- Anything else: an argument that is unknown, missing, repeated or without its value. -/
  | misuse
  /-- The user asked for help. -/
  | help
  deriving DecidableEq, Repr

namespace UsageError

/-- The line that tells a bad value. -/
def message? : UsageError → Option String
  | .invalidValue value argument reason =>
      some ("error: invalid value '" ++ value ++ "' for '" ++ argument ++ "'" ++
        match reason with
        | none => ""
        | some reason => ": " ++ reason)
  | _ => none

end UsageError

/-- What an option takes. -/
inductive Arity where
  /-- Nothing. -/
  | flag
  /-- One value. -/
  | one
  /-- One value each time; it may be repeated. -/
  | many
  deriving DecidableEq, Repr

/-- An option or a position. -/
structure Argument where
  /-- The name by which its values are found. -/
  name : String
  arity : Arity := .one
  short : Option Char := none
  /-- The name shown in messages. -/
  shown : String
  /-- Checks a value. -/
  check : String → Except UsageError Unit := fun _ => .ok ()

/-- What one level of a command line knows. -/
structure ArgumentTable where
  options : List Argument := []
  positions : List Argument := []
  subcommands : List String := []

/-- The values given, in order; a flag has an empty one. -/
abbrev Given := List (String × String)

namespace Given

/-- The values of an argument. -/
def valuesOf (g : Given) (name : String) : List String :=
  (g.filter (·.1 == name)).map (·.2)

/-- The last value of an argument. -/
def value? (g : Given) (name : String) : Option String :=
  (g.valuesOf name).getLast?

/-- Whether an argument was given. -/
def has (g : Given) (name : String) : Bool :=
  g.any (·.1 == name)

end Given

/-- An argument whose value is still to be checked; it may still lack its value. -/
structure Pending where
  argument : Argument
  value : Option String

/-- Where the scan of a level stands. -/
structure Scan where
  given : Given := []
  pending : Option Pending := none
  /-- The positions filled. -/
  filled : Nat := 0
  /-- Whether `--` was met: all that follows fills positions. -/
  literal : Bool := false

namespace Scan

/-- Takes a checked value of an argument. -/
def take (s : Scan) (argument : Argument) (value : String) : Except UsageError Scan :=
  if argument.arity != .many && s.given.has argument.name then .error .misuse
  else do
    if argument.arity != .flag then argument.check value
    return { s with given := s.given ++ [(argument.name, value)] }

/-- Checks the argument that is still pending. -/
def settle (s : Scan) : Except UsageError Scan :=
  match s.pending with
  | none => .ok s
  | some { argument, value } =>
      match value with
      | none => .error .misuse
      | some value => { s with pending := none }.take argument value

/-- Takes an option, with the value attached to it if there is one. -/
def takeOption (s : Scan) (argument : Argument) (attached : Option String) :
    Except UsageError Scan := do
  let s ← s.settle
  match argument.arity, attached with
  | .flag, _ => s.take argument ""
  | _, some value => s.take argument value
  | _, none => return { s with pending := some { argument, value := none } }

/-- Whether an option waits for its value. -/
def wantsValue (s : Scan) : Bool :=
  match s.pending with
  | some { value := none, .. } => true
  | _ => false

/-- Takes a value: of the option that waits for one, else of the next position. -/
def takeValue (table : ArgumentTable) (s : Scan) (value : String) : Except UsageError Scan :=
  match s.pending with
  | some { argument, value := none } =>
      if s.literal then .error .misuse
      else .ok { s with pending := some { argument, value := some value } }
  | _ =>
      match table.positions[s.filled]? with
      | none => .error .misuse
      | some argument => do
          let s ← s.settle
          return { s with
            pending := some { argument, value := some value }
            filled := s.filled + 1 }

/-- Takes an argument `--name` or `--name=value`. -/
def takeLong (table : ArgumentTable) (s : Scan) (body : List Char) : Except UsageError Scan :=
  let name := String.ofList (body.takeWhile (· != '='))
  let attached := match body.dropWhile (· != '=') with
    | [] => none
    | _ :: value => some (String.ofList value)
  if name = "help" then .error .help
  else
    match table.options.find? (·.name == name) with
    | none => .error .misuse
    | some argument =>
        if argument.arity = .flag && attached.isSome then .error .misuse
        else s.takeOption argument attached

/-- Takes an argument of letters after one dash; the rest after a letter that takes
a value is the value. -/
def takeShort (table : ArgumentTable) (s : Scan) : List Char → Except UsageError Scan
  | [] => .ok s
  | c :: rest =>
      match table.options.find? (·.short == some c) with
      | none => .error (if c = 'h' then .help else .misuse)
      | some argument =>
          if argument.arity = .flag then do takeShort table (← s.takeOption argument none) rest
          else
            match rest with
            | [] => s.takeOption argument none
            | '=' :: value => s.takeOption argument (some (String.ofList value))
            | value => s.takeOption argument (some (String.ofList value))

/-- Takes the arguments of a level.  The answer is what they gave and, where a subcommand was met,
its name and the arguments after it. -/
def run (table : ArgumentTable) (s : Scan) :
    List String → Except UsageError (Scan × Option (String × List String))
  | [] => .ok (s, none)
  | argument :: rest =>
      let cs := argument.toList
      if s.literal then do run table (← s.takeValue table argument) rest
      else if !s.wantsValue && argument ∈ table.subcommands then .ok (s, some (argument, rest))
      else
        match cs with
        | ['-', '-'] => run table { s with literal := true } rest
        | '-' :: '-' :: body => do run table (← s.takeLong table body) rest
        | '-' :: c :: letters => do run table (← s.takeShort table (c :: letters)) rest
        | _ => do run table (← s.takeValue table argument) rest

end Scan

/-- Checks that a level without subcommands ends well, and gives its values. -/
def finish (s : Scan) : Except UsageError Given := do
  return (← s.settle).given

end CampaignConsole.CommandLine
