import CampaignConsole.Json.Writer
import CampaignConsole.Proofs.Json.Numbers

/-!
# Reading a rendered value

The text of a value is read as this value (`Node.parse?_render`), if every string in it was spelled
from a text and every number is one that can be written (`Number.IsWritten`).  `Node.ReadsBack` says
so for a value whatever follows its text, as long as a number would end there; an array or an object
has the property if what it holds has it (`ReadsBack.array`, `ReadsBack.ofMembers`).
-/

namespace CampaignConsole.Json

/-! ## Tokens -/

namespace Token

/-- The text of tokens. -/
def written (tokens : List Token) : List Place :=
  (tokens.flatMap text).map some

theorem written_cons (t : Token) (tokens : List Token) (rest : List Place) :
    written (t :: tokens) ++ rest = t.text.map some ++ (written tokens ++ rest) := by
  rw [written, List.flatMap_cons, List.map_append, List.append_assoc]
  rfl

theorem written_append (front back : List Token) (rest : List Place) :
    written (front ++ back) ++ rest = written front ++ (written back ++ rest) := by
  rw [written, List.flatMap_append, List.map_append, List.append_assoc]
  rfl

/-- Whether a token has one text. -/
def isFixed : Token → Bool
  | number _ | string _ => false
  | _ => true

/-- A token with one text ends where its text ends. -/
theorem scan_fixed {t : Token} (fixed : t.isFixed = true) (rest : List Place) :
    scan (t.text.map some ++ rest) = (scan rest).map (t :: ·) := by
  cases t with
  | number | string => cases fixed
  | bool b => cases b <;> simp [text, scan]
  | _ => simp [text, scan]

theorem scan_number {n : Number} (isWritten : n.IsWritten) {rest : List Place}
    (ends : EndsNumber rest) :
    scan ((number n).text.map some ++ rest) = (scan rest).map (number n :: ·) :=
  scan_of_scanNumber (n.scanNumber_text isWritten ends)

end Token

/-! ## Values -/

namespace Node

open Token (written written_cons written_append)

/-- The text of a value is cut into its tokens, whatever follows that ends a number. -/
def ReadsBack (v : Node) : Prop :=
  ∀ rest, EndsNumber rest →
    Token.scan (written v.tokens ++ rest) = (Token.scan rest).map (v.tokens ++ ·)

/-- A value that is read back is the one that its text writes. -/
theorem parse?_render {v : Node} (back : v.ReadsBack) :
    parse? (v.render.toList.map some) = some v := by
  have scanned := back [] EndsNumber.nil
  rw [List.append_nil, Token.scan, Option.map_some, List.append_nil] at scanned
  rw [render, String.toList_ofList, parse?]
  show Token.scan (written v.tokens) >>= ofTokens? = _
  rw [scanned]
  exact ofTokens?_tokens v

/-- The members of an object, with their names spelled. -/
def spellNames (members : Members) : List (List Piece × Node) :=
  members.map fun member => (spell member.1, member.2)

theorem spellNames_cons (name : String) (value : Node) (members : Members) :
    spellNames ((name, value) :: members) = (spell name, value) :: spellNames members :=
  rfl

theorem ofMembers_eq (members : Members) : ofMembers members = .object (spellNames members) :=
  rfl

namespace ReadsBack

/-- A value of one token is read back if this token is. -/
theorem of_token {v : Node} {t : Token} (single : v.tokens = [t])
    (back : ∀ rest, EndsNumber rest →
      Token.scan (t.text.map some ++ rest) = (Token.scan rest).map (t :: ·)) : v.ReadsBack := by
  intro rest ends
  rw [single, written_cons]
  exact back rest ends

theorem null : Node.null.ReadsBack :=
  of_token rfl fun rest _ => Token.scan_fixed (t := .null) rfl rest

theorem number {n : Number} (isWritten : n.IsWritten) : (Node.number n).ReadsBack :=
  of_token rfl fun _ ends => Token.scan_number isWritten ends

theorem ofNat (n : Nat) : (ofNat n).ReadsBack :=
  number (Number.isWritten_digitsOf false n)

theorem ofText (s : String) : (ofText s).ReadsBack :=
  of_token rfl fun rest _ => Token.scan_quoted s rest

theorem ofText? : ∀ s : Option String, (ofText? s).ReadsBack
  | none => null
  | some s => ofText s

/-! ### Arrays and objects -/

section

variable {rest : List Place}

theorem scan_fixed_cons {t : Token} (fixed : t.isFixed = true) (tokens : List Token) :
    Token.scan (written (t :: tokens) ++ rest) =
      (Token.scan (written tokens ++ rest)).map (t :: ·) := by
  rw [written_cons, Token.scan_fixed fixed]

theorem scan_append {v : Node} (back : v.ReadsBack) {tokens : List Token}
    (ends : EndsNumber (written tokens ++ rest))
    (others : Token.scan (written tokens ++ rest) = (Token.scan rest).map (tokens ++ ·)) :
    Token.scan (written (v.tokens ++ tokens) ++ rest) =
      (Token.scan rest).map (v.tokens ++ tokens ++ ·) := by
  rw [written_append, back _ ends, others, Option.map_map]
  simp only [Function.comp_def, List.append_assoc]

theorem ends_itemTokens (items : List Node) : EndsNumber (written (itemTokens items) ++ rest) := by
  cases items with
  | nil => exact .of_mem_valueEnds (c := ']') (by decide) _
  | cons item items => exact .of_mem_valueEnds (c := ',') (by decide) _

/-- The tokens after an item are scanned back up to the end of the array. -/
theorem scan_itemTokens {items : List Node} (back : ∀ item ∈ items, item.ReadsBack) :
    Token.scan (written (itemTokens items) ++ rest) =
      (Token.scan rest).map (itemTokens items ++ ·) := by
  induction items with
  | nil => exact scan_fixed_cons (t := .closeBracket) rfl []
  | cons item items ih =>
      obtain ⟨first, others⟩ := List.forall_mem_cons.1 back
      rw [itemTokens, List.cons_append, scan_fixed_cons rfl,
        scan_append first (ends_itemTokens items) (ih others), Option.map_map]
      rfl

theorem array {items : List Node} (back : ∀ item ∈ items, item.ReadsBack) :
    (Node.array items).ReadsBack := by
  intro rest _
  cases items with
  | nil =>
      rw [tokens, scan_fixed_cons rfl, scan_fixed_cons rfl, Option.map_map]
      rfl
  | cons item items =>
      obtain ⟨first, others⟩ := List.forall_mem_cons.1 back
      rw [tokens, List.cons_append, scan_fixed_cons rfl,
        scan_append first (ends_itemTokens items) (scan_itemTokens others), Option.map_map]
      rfl

/-- The name of a member and its colon are scanned back. -/
theorem scan_name (name : String) (tokens : List Token) :
    Token.scan (written (.string (spell name) :: .colon :: tokens) ++ rest) =
      (Token.scan (written tokens ++ rest)).map (.string (spell name) :: .colon :: ·) := by
  rw [written_cons]
  show Token.scan ((stringText (spell name)).map some ++ _) = _
  rw [Token.scan_quoted, scan_fixed_cons rfl, Option.map_map]
  rfl

theorem ends_memberTokens (members : List (List Piece × Node)) :
    EndsNumber (written (memberTokens members) ++ rest) := by
  cases members with
  | nil => exact .of_mem_valueEnds (c := '}') (by decide) _
  | cons member members => exact .of_mem_valueEnds (c := ',') (by decide) _

/-- The tokens after a member are scanned back up to the end of the object. -/
theorem scan_memberTokens {members : Members} (back : ∀ member ∈ members, member.2.ReadsBack) :
    Token.scan (written (memberTokens (spellNames members)) ++ rest) =
      (Token.scan rest).map (memberTokens (spellNames members) ++ ·) := by
  induction members with
  | nil => exact scan_fixed_cons (t := .closeBrace) rfl []
  | cons member members ih =>
      obtain ⟨name, value⟩ := member
      obtain ⟨first, others⟩ := List.forall_mem_cons.1 back
      rw [spellNames_cons, memberTokens, List.cons_append, List.cons_append, List.cons_append,
        scan_fixed_cons rfl, scan_name, scan_append first (ends_memberTokens _) (ih others),
        Option.map_map, Option.map_map]
      rfl

theorem ofMembers {members : Members} (back : ∀ member ∈ members, member.2.ReadsBack) :
    (ofMembers members).ReadsBack := by
  intro rest _
  cases members with
  | nil =>
      show Token.scan (written [.openBrace, .closeBrace] ++ rest) = _
      rw [scan_fixed_cons rfl, scan_fixed_cons rfl, Option.map_map]
      rfl
  | cons member members =>
      obtain ⟨name, value⟩ := member
      obtain ⟨first, others⟩ := List.forall_mem_cons.1 back
      rw [ofMembers_eq, spellNames_cons, tokens, List.cons_append, List.cons_append,
        List.cons_append, scan_fixed_cons rfl, scan_name,
        scan_append first (ends_memberTokens _) (scan_memberTokens others), Option.map_map,
        Option.map_map]
      rfl

end

end ReadsBack

end Node

end CampaignConsole.Json
