import CampaignConsole.Terminal.Style
import Mathlib.Data.List.Basic

/-!
# Colour codes are all that colours add

An `UnescapedLine` has texts without an escape character.  What is printed for such lines with
colours on is what is printed with colours off, once `stripCodes` has deleted the codes
(`stripCodes_renderLines`): the codes of a style and the reset are deleted whole
(`stripCodes_start`, `stripCodes_reset`), and characters without an escape are left alone
(`stripCodes_append`).
-/

namespace CampaignConsole.Terminal

/-- A text without an escape character. -/
def Unescaped (text : String) : Prop :=
  '\x1b' ∉ text.toList

instance (text : String) : Decidable (Unescaped text) :=
  inferInstanceAs (Decidable ('\x1b' ∉ text.toList))

/-- A line whose texts are without an escape character. -/
def UnescapedLine (line : Line) : Prop :=
  ∀ span ∈ line, Unescaped span.text

instance (line : Line) : Decidable (UnescapedLine line) :=
  inferInstanceAs (Decidable (∀ span ∈ line, Unescaped span.text))

/-! ## Deleting codes -/

section

variable {cs rest : List Char}

theorem stripCodes_cons {c : Char} (other : c ≠ '\x1b') (rest : List Char) :
    stripCodes (c :: rest) = c :: stripCodes rest := by
  rw [stripCodes]
  intro _ escape
  exact absurd escape other

/-- Characters without an escape are left alone. -/
theorem stripCodes_append (clean : '\x1b' ∉ cs) (rest : List Char) :
    stripCodes (cs ++ rest) = cs ++ stripCodes rest := by
  induction cs with
  | nil => rfl
  | cons c cs ih =>
      obtain ⟨other, clean⟩ := not_or.1 (mt List.mem_cons.2 clean)
      rw [List.cons_append, stripCodes_cons (Ne.symm other), ih clean, List.cons_append]

/-- The characters of a colour code before its end. -/
def isCode (cs : List Char) : Bool :=
  cs.all fun c => c.isDigit || c == ';'

/-- A code is read up to its end. -/
theorem afterCode?_append (code : isCode cs = true) (rest : List Char) :
    afterCode? (cs ++ 'm' :: rest) = some rest := by
  induction cs with
  | nil => rfl
  | cons c cs ih =>
      rw [isCode, List.all_cons, Bool.and_eq_true] at code
      obtain ⟨first, later⟩ := code
      have other : c ≠ 'm' := by
        rintro rfl
        revert first
        decide
      rw [List.cons_append, afterCode?, if_neg other, if_pos first, ih later]

/-- A code is deleted whole. -/
theorem stripCodes_code (code : isCode cs = true) (rest : List Char) :
    stripCodes ('\x1b' :: '[' :: cs ++ 'm' :: rest) = stripCodes rest := by
  rw [List.cons_append, List.cons_append, stripCodes]
  split
  · rename_i after read
    rw [afterCode?_append code, Option.some.injEq] at read
    rw [read]
  · rename_i read
    rw [afterCode?_append code] at read
    cases read

theorem stripCodes_start (s : Style) (rest : List Char) :
    stripCodes (s.start ++ rest) = stripCodes rest := by
  have code : isCode ([';'].intercalate s.codes) = true := by
    obtain ⟨bold, dimmed, color⟩ := s
    cases bold <;> cases dimmed <;> rcases color with _ | _ | _ | _ | _ <;> decide
  have whole : s.start ++ rest = '\x1b' :: '[' :: [';'].intercalate s.codes ++ 'm' :: rest := by
    rw [Style.start, List.append_assoc, List.singleton_append]
  rw [whole, stripCodes_code code]

theorem stripCodes_reset (rest : List Char) : stripCodes (reset ++ rest) = stripCodes rest := by
  have code : isCode ['0'] = true := by decide
  exact stripCodes_code code rest

/-- What starts like a code and is none is left alone. -/
theorem stripCodes_of_no_code (other : afterCode? cs = none) :
    stripCodes ('\x1b' :: '[' :: cs) = '\x1b' :: '[' :: stripCodes cs := by
  rw [stripCodes]
  split
  · rename_i after read
    rw [other] at read
    cases read
  · rw [stripCodes_cons (by decide)]

/-- A text without an escape has no reset after which a style would start again. -/
theorem restyle_of_not_mem (again : List Char) (clean : '\x1b' ∉ cs) : restyle again cs = cs := by
  induction cs with
  | nil => rfl
  | cons c cs ih =>
      obtain ⟨other, clean⟩ := not_or.1 (mt List.mem_cons.2 clean)
      rw [restyle, ih clean]
      intro _ escape
      exact absurd escape.symm other

end

/-! ## Printed lines -/

theorem escape_not_mem_padRight {cs : List Char} (clean : '\x1b' ∉ cs) (width : Nat) :
    '\x1b' ∉ padRight width cs := by
  rw [padRight, List.mem_append, not_or]
  exact ⟨clean, fun member => absurd (List.eq_of_mem_replicate member) (by decide)⟩

/-- The codes around a stretch of text are all that colours add. -/
theorem stripCodes_render {s : Span} (clean : Unescaped s.text) (rest : List Char) :
    stripCodes (s.render true ++ rest) = s.render false ++ stripCodes rest := by
  have padded := escape_not_mem_padRight clean s.width
  have off : s.render false = padRight s.width s.text.toList := rfl
  rw [off, Span.render, restyle_of_not_mem _ clean]
  split_ifs
  · rw [List.append_assoc, List.append_assoc, stripCodes_start, stripCodes_append padded,
      stripCodes_reset]
  · rw [stripCodes_append padded]

theorem stripCodes_line {line : Line} (clean : UnescapedLine line) (rest : List Char) :
    stripCodes (line.flatMap (Span.render true) ++ '\n' :: rest) =
      line.flatMap (Span.render false) ++ '\n' :: stripCodes rest := by
  induction line with
  | nil => exact stripCodes_cons (by decide) rest
  | cons span line ih =>
      rw [List.flatMap_cons, List.append_assoc, stripCodes_render (clean span List.mem_cons_self),
        ih fun s member => clean s (List.mem_cons_of_mem span member), List.flatMap_cons,
        List.append_assoc]

/-- Without their codes, lines in colours are the lines without colours. -/
theorem stripCodes_renderLines {lines : List Line} (clean : ∀ line ∈ lines, UnescapedLine line) :
    stripCodes (renderLines true lines).toList = (renderLines false lines).toList := by
  rw [renderLines, renderLines, String.toList_ofList, String.toList_ofList]
  induction lines with
  | nil => rw [List.flatMap_nil, List.flatMap_nil, stripCodes]
  | cons line lines ih =>
      have later : ∀ l ∈ lines, UnescapedLine l := fun l member =>
        clean l (List.mem_cons_of_mem line member)
      rw [List.flatMap_cons, List.flatMap_cons, List.append_assoc, List.append_assoc,
        List.singleton_append, List.singleton_append,
        stripCodes_line (clean line List.mem_cons_self), ih later]

end CampaignConsole.Terminal
