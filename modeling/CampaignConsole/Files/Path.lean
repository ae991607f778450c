/-!
Paths of files.

A path is a text with slashes between its parts.  `steps` are the parts as a walk through
directories takes them; `parent` is the path of the directory that holds the named file.
-/

namespace CampaignConsole.Files

/-- The parts of a text between slashes. -/
def splitSlashes : List Char → List (List Char)
  | [] => [[]]
  | c :: cs =>
      if c = '/' then [] :: splitSlashes cs
      else
        match splitSlashes cs with
        | [] => [[c]]
        | part :: parts => (c :: part) :: parts

/-- A path as it was given. -/
structure Path where
  text : String
  deriving DecidableEq, Repr

namespace Path

/-- Whether a path starts at the root. -/
def isAbsolute (p : Path) : Bool :=
  p.text.toList.head? == some '/'

/-- Whether a path ends in a slash, which asks for a directory. -/
def endsInSlash (p : Path) : Bool :=
  p.text.toList.getLast? == some '/'

/-- The steps of a walk along a path: its parts, without the empty ones. -/
def steps (p : Path) : List String :=
  ((splitSlashes p.text.toList).filter (!·.isEmpty)).map String.ofList

/-- The characters of a path up to its last part that is not `.`. -/
def trimEnd (reversed : List Char) : List Char :=
  match reversed with
  | '/' :: rest => if rest.isEmpty then ['/'] else trimEnd rest
  | '.' :: '/' :: rest => trimEnd ('/' :: rest)
  | cs => cs
termination_by reversed.length
decreasing_by all_goals simp_all

/-- The path of the directory that holds the named file; it is empty for a bare name, and an empty
path and the root have none. -/
def parent? (p : Path) : Option Path :=
  match trimEnd p.text.toList.reverse with
  | [] => none
  | ['/'] => none
  | cs => some ⟨String.ofList (trimEnd (cs.dropWhile (· != '/'))).reverse⟩

/-- The path of the directory that holds the named file, with `.` where none is written. -/
def directory (p : Path) : Path :=
  match p.parent? with
  | some parent => if parent.text.isEmpty then ⟨"."⟩ else parent
  | none => ⟨"."⟩

end Path

end CampaignConsole.Files
