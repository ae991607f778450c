/-!
Styled text for a terminal.

A `Span` is a stretch of text in one style, filled up with blanks to a width.  With colours on, the
codes of the style stand around the filled text; a reset inside the text is followed by the codes
again, so that the style goes on after it.  With colours off, only the filled text is left.
`stripCodes` deletes colour codes from a text.
-/

namespace CampaignConsole.Terminal

/-- The colours used. -/
inductive Color where
  | red | green | yellow | cyan
  deriving DecidableEq, Repr

/-- The code of a colour. -/
def Color.code : Color → List Char
  | .red => ['3', '1']
  | .green => ['3', '2']
  | .yellow => ['3', '3']
  | .cyan => ['3', '6']

/-- A style: bold or dimmed, and a colour. -/
structure Style where
  bold : Bool := false
  dimmed : Bool := false
  color : Option Color := none
  deriving DecidableEq, Repr

namespace Style

/-- The style of text without codes. -/
def plain : Style := {}

/-- The codes of a style: bold, dimmed, then the colour. -/
def codes (s : Style) : List (List Char) :=
  (if s.bold then [['1']] else []) ++ (if s.dimmed then [['2']] else []) ++
    (s.color.map Color.code).toList

/-- The sequence that turns a style on. -/
def start (s : Style) : List Char :=
  '\x1b' :: '[' :: [';'].intercalate s.codes ++ ['m']

end Style

/-- The sequence that turns every style off. -/
def reset : List Char :=
  ['\x1b', '[', '0', 'm']

/-- The text with `again` after each reset in it. -/
def restyle (again : List Char) : List Char → List Char
  | [] => []
  | '\x1b' :: '[' :: '0' :: 'm' :: rest => reset ++ again ++ restyle again rest
  | c :: rest => c :: restyle again rest

/-- The text with blanks after it up to a width. -/
def padRight (width : Nat) (cs : List Char) : List Char :=
  cs ++ List.replicate (width - cs.length) ' '

/-- The text with blanks before it up to a width. -/
def padLeft (width : Nat) (cs : List Char) : List Char :=
  List.replicate (width - cs.length) ' ' ++ cs

/-- A stretch of text in one style, at least `width` characters wide. -/
structure Span where
  text : String
  style : Style := .plain
  width : Nat := 0
  deriving DecidableEq, Repr

namespace Span

/-- Text without a style. -/
def plain (text : String) : Span := { text }

/-- Text in bold. -/
def bold (text : String) : Span :=
  { text, style := { bold := true } }

/-- Dimmed text. -/
def dimmed (text : String) : Span :=
  { text, style := { dimmed := true } }

/-- Text in a colour. -/
def colored (color : Color) (text : String) : Span :=
  { text, style := { color := some color } }

/-- A span filled up to a width. -/
def wide (width : Nat) (s : Span) : Span :=
  { s with width }

/-- The characters printed for a span. -/
def render (colors : Bool) (s : Span) : List Char :=
  if colors && s.style != .plain then
    s.style.start ++ padRight s.width (restyle s.style.start s.text.toList) ++ reset
  else padRight s.width s.text.toList

end Span

/-- The spans of one line. -/
abbrev Line := List Span

/-- The text of lines, each with its end. -/
def renderLines (colors : Bool) (lines : List Line) : String :=
  String.ofList (lines.flatMap fun line => line.flatMap (Span.render colors) ++ ['\n'])

/-! ## Colour codes in a text -/

/-- The text after the digits, semicolons and final `m` of a colour code, if they come next. -/
def afterCode? : List Char → Option (List Char)
  | [] => none
  | c :: rest =>
      if c = 'm' then some rest else if c.isDigit || c == ';' then afterCode? rest else none

theorem afterCode?_length {cs rest : List Char} (h : afterCode? cs = some rest) :
    rest.length < cs.length := by
  induction cs with
  | nil => cases h
  | cons c cs ih =>
      unfold afterCode? at h
      split at h
      · cases h; simp
      · split at h
        · have := ih h; simp only [List.length_cons]; omega
        · cases h

/-- The text without its colour codes. -/
def stripCodes (cs : List Char) : List Char :=
  match cs with
  | [] => []
  | '\x1b' :: '[' :: rest =>
      match _code : afterCode? rest with
      | some after => stripCodes after
      | none => '\x1b' :: stripCodes ('[' :: rest)
  | c :: rest => c :: stripCodes rest
termination_by cs.length
decreasing_by
  · have := afterCode?_length _code; simp only [List.length_cons]; omega
  · simp
  · simp

end CampaignConsole.Terminal
