import CampaignConsole.Json.Node
import CampaignConsole.Json.Text
import CampaignConsole.Json.Number

/-!
Reading records from JSON values.

A record is an object that names its members, or an array that lists them in a fixed order.  A name
that the record does not know is skipped with its value, a known name must not occur twice, and in
an array the last members may be left out.  `Node.isSound` is the condition on a value that is kept
whole: every string in it stands for a text and every number in it for a double.
-/

namespace CampaignConsole.Json

/-- The members of a record with their names. -/
abbrev Members := List (String × Node)

namespace Node

/-- The text of a string. -/
def text? : Node → Option String
  | .string s => textOf? s
  | _ => none

/-- A truth value. -/
def bool? : Node → Option Bool
  | .bool b => some b
  | _ => none

/-- An integer from 0 to `bound - 1`. -/
def natBelow? (bound : Nat) : Node → Option Nat
  | .number n => n.natBelow? bound
  | _ => none

/-- A double. -/
def double? : Node → Option Float
  | .number n => n.double?
  | _ => none

/-- Whether a value is an array. -/
def isArray : Node → Bool
  | .array _ => true
  | _ => false

/-- A list of values that `read` reads. -/
def list? {α : Type} (read : Node → Option α) : Node → Option (List α)
  | .array items => items.mapM read
  | _ => none

/-- The names of an object's members as texts, with their values. -/
def namedMembers? (members : List (List Piece × Node)) : Option Members :=
  members.mapM fun (name, value) => do return (← textOf? name, value)

/-- Whether no known name occurs twice. -/
def knownOnce (known : List String) (members : Members) : Bool :=
  known.all fun name => (members.filter (·.1 == name)).length ≤ 1

/-- The members of a record that knows the names `known`, in the order in which an
array lists them. -/
def members? (known : List String) : Node → Option Members
  | .object members => do
      let members ← namedMembers? members
      if knownOnce known members then some members else none
  | .array items => if items.length ≤ known.length then some (known.zip items) else none
  | _ => none

/-! ## Values kept whole -/

mutual
/-- Whether every string in a value stands for a text and every number for a double. -/
def isSound : Node → Bool
  | .null => true
  | .bool _ => true
  | .number n => n.double?.isSome
  | .string s => (textOf? s).isSome
  | .array items => itemsSound items
  | .object members => membersSound members
/-- Whether the items of an array are sound. -/
def itemsSound : List Node → Bool
  | [] => true
  | item :: items => isSound item && itemsSound items
/-- Whether the names and values of an object are sound. -/
def membersSound : List (List Piece × Node) → Bool
  | [] => true
  | (name, value) :: members => (textOf? name).isSome && isSound value && membersSound members
end

/-- How many arrays and objects may lie inside one another where a value is kept whole. -/
def depthLimit : Nat := 127

/-- Whether a value `level` arrays and objects deep can be kept whole. -/
def canKeep (level : Nat) (n : Node) : Bool :=
  level + n.depth ≤ depthLimit && n.isSound

end Node

namespace Members

/-- A member that must be there. -/
def required {α : Type} (m : Members) (name : String) (read : Node → Option α) : Option α :=
  m.lookup name >>= read

/-- A member that is `default` where it is missing or null. -/
def getD {α : Type} (m : Members) (name : String) (read : Node → Option α) (default : α) :
    Option α :=
  match m.lookup name with
  | none | some .null => some default
  | some value => read value

/-- A member that may be missing or null. -/
def optional {α : Type} (m : Members) (name : String) (read : Node → Option α) :
    Option (Option α) :=
  m.getD name (fun value => (read value).map some) none

end Members

end CampaignConsole.Json
