import CampaignConsole.Text.Quoted

/-!
The sort of a campaign list.

A `SortChoice` is a column and a direction; `encode` writes it as `column#direction` to be
remembered, and `decode` reads it back (`decode_encode`).
-/

namespace CampaignConsole

/-- A column that a campaign list can be sorted by. -/
inductive SortField where
  | date | name | status
  deriving DecidableEq, Repr

/-- The direction of a sort. -/
inductive SortDirection where
  | ascending | descending
  deriving DecidableEq, Repr

/-- Why a text names no sort. -/
inductive SortError where
  /-- The text names no column. -/
  | unknownField (text : String)
  /-- The text has no `#` between column and direction. -/
  | malformed (text : String)
  deriving DecidableEq, Repr

/-- The wording of an error. -/
def SortError.message : SortError → String
  | .unknownField text => "unknown sort field: " ++ Text.quoted text
  | .malformed text => "malformed sort state: " ++ Text.quoted text

namespace SortField

/-- All columns, in the order in which controls show them. -/
def all : List SortField :=
  [.date, .name, .status]

/-- The name of a column. -/
def text : SortField → String
  | .date => "date"
  | .name => "name"
  | .status => "status"

/-- The column that a text names. -/
def ofText (text : String) : Except SortError SortField :=
  match text with
  | "date" => .ok .date
  | "name" => .ok .name
  | "status" => .ok .status
  | _ => .error (.unknownField text)

end SortField

namespace SortDirection

/-- The name of a direction. -/
def text : SortDirection → String
  | .ascending => "asc"
  | .descending => "desc"

/-- The opposite direction. -/
def flipped : SortDirection → SortDirection
  | .ascending => .descending
  | .descending => .ascending

/-- The direction that a flag asks for. -/
def ofAscending (ascending : Bool) : SortDirection :=
  if ascending then .ascending else .descending

/-- The direction that a text names: only `asc` ascends. -/
def ofText (text : String) : SortDirection :=
  ofAscending (text == "asc")

end SortDirection

/-- The sort that was last picked. -/
structure SortChoice where
  field : SortField
  direction : SortDirection
  deriving DecidableEq, Repr

namespace SortChoice

/-- The text that remembers a choice. -/
def encode (choice : SortChoice) : String :=
  choice.field.text ++ "#" ++ choice.direction.text

/-- The choice that a text remembers: column and direction are parted by the first `#`. -/
def decode (text : String) : Except SortError SortChoice :=
  match Text.splitAtFirst '#' text with
  | none => .error (.malformed text)
  | some (field, direction) => do
      return { field := ← SortField.ofText field, direction := SortDirection.ofText direction }

/-- A remembered choice is read back. -/
theorem decode_encode (choice : SortChoice) : decode choice.encode = .ok choice := by
  obtain ⟨field, direction⟩ := choice
  cases field <;> cases direction <;> rfl

end SortChoice

end CampaignConsole
