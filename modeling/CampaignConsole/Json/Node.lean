import CampaignConsole.Json.Token

/-!
JSON values.

A `Node` is a JSON value whose strings and numbers are still as written.  `Node.ofTokens?` reads one
value from tokens with an explicit stack of the arrays and objects that are open, so one run over
the tokens decides; `Node.tokens` writes a value as tokens, and reading what was written gives the
value back (`ofTokens?_tokens`).
-/

namespace CampaignConsole.Json

/-- A JSON value; members of an object keep their order and may repeat a name. -/
inductive Node where
  | null
  | bool (b : Bool)
  | number (n : Number)
  | string (s : List Piece)
  | array (items : List Node)
  | object (members : List (List Piece × Node))

/-- An array or object that is still open, with what it holds so far, last first. -/
inductive Frame where
  | array (items : List Node)
  | object (members : List (List Piece × Node)) (name : List Piece)

/-- What the reader of a value has seen, by what may come next. -/
inductive Reader where
  /-- A value must come. -/
  | wantValue (stack : List Frame)
  /-- An array was opened: a value or its end must come. -/
  | wantItem (stack : List Frame)
  /-- An object was opened: a name or its end must come. -/
  | wantMember (stack : List Frame)
  /-- A name must come. -/
  | wantName (members : List (List Piece × Node)) (stack : List Frame)
  /-- The colon after a name must come. -/
  | wantColon (members : List (List Piece × Node)) (name : List Piece) (stack : List Frame)
  /-- A value has ended. -/
  | ended (value : Node) (stack : List Frame)

namespace Reader

/-- Begins a value. -/
def begin (stack : List Frame) : Token → Option Reader
  | .null => some (.ended .null stack)
  | .bool b => some (.ended (.bool b) stack)
  | .number n => some (.ended (.number n) stack)
  | .string s => some (.ended (.string s) stack)
  | .openBracket => some (.wantItem stack)
  | .openBrace => some (.wantMember stack)
  | _ => none

/-- Takes the token after a value into the array or object around it. -/
def resume (value : Node) : List Frame → Token → Option Reader
  | .array items :: stack, .comma => some (.wantValue (.array (value :: items) :: stack))
  | .array items :: stack, .closeBracket =>
      some (.ended (.array (value :: items).reverse) stack)
  | .object members name :: stack, .comma =>
      some (.wantName ((name, value) :: members) stack)
  | .object members name :: stack, .closeBrace =>
      some (.ended (.object ((name, value) :: members).reverse) stack)
  | _, _ => none

/-- Takes one token. -/
def step : Reader → Token → Option Reader
  | .wantValue stack, t => begin stack t
  | .wantItem stack, .closeBracket => some (.ended (.array []) stack)
  | .wantItem stack, t => begin (.array [] :: stack) t
  | .wantMember stack, .closeBrace => some (.ended (.object []) stack)
  | .wantMember stack, .string s => some (.wantColon [] s stack)
  | .wantName members stack, .string s => some (.wantColon members s stack)
  | .wantColon members name stack, .colon => some (.wantValue (.object members name :: stack))
  | .ended value stack, t => resume value stack t
  | _, _ => none

/-- The value read, once no array or object is open. -/
def result? : Reader → Option Node
  | .ended value [] => some value
  | _ => none

end Reader

namespace Node

/-- The value that a list of tokens writes. -/
def ofTokens? (tokens : List Token) : Option Node := do
  (← tokens.foldlM Reader.step (.wantValue [])).result?

/-- The value that a text writes, with white space around it and nothing else. -/
def parse? (text : List Place) : Option Node := do
  ofTokens? (← Token.scan text)

/-! ## Writing -/

mutual
/-- The tokens of a value. -/
def tokens : Node → List Token
  | .null => [.null]
  | .bool b => [.bool b]
  | .number n => [.number n]
  | .string s => [.string s]
  | .array [] => [.openBracket, .closeBracket]
  | .array (item :: items) => .openBracket :: tokens item ++ itemTokens items
  | .object [] => [.openBrace, .closeBrace]
  | .object ((name, value) :: members) =>
      .openBrace :: .string name :: .colon :: tokens value ++ memberTokens members
/-- The tokens after the first item of an array, up to its end. -/
def itemTokens : List Node → List Token
  | [] => [.closeBracket]
  | item :: items => .comma :: tokens item ++ itemTokens items
/-- The tokens after the first member of an object, up to its end. -/
def memberTokens : List (List Piece × Node) → List Token
  | [] => [.closeBrace]
  | (name, value) :: members =>
      .comma :: .string name :: .colon :: tokens value ++ memberTokens members
end

/-! ## Measures -/

mutual
/-- How many arrays and objects lie inside one another in a value. -/
def depth : Node → Nat
  | .array items => 1 + itemsDepth items
  | .object members => 1 + membersDepth members
  | _ => 0
/-- The greatest depth among the items of an array. -/
def itemsDepth : List Node → Nat
  | [] => 0
  | item :: items => max (depth item) (itemsDepth items)
/-- The greatest depth among the values of an object. -/
def membersDepth : List (List Piece × Node) → Nat
  | [] => 0
  | (_, value) :: members => max (depth value) (membersDepth members)
end

end Node

/-! ## Reading what was written -/

open Reader

/-- A value may come where an array was just opened. -/
theorem foldlM_tokens_wantItem (v : Node) (stack : List Frame) :
    (Node.tokens v).foldlM step (.wantItem stack) =
      (Node.tokens v).foldlM step (.wantValue (.array [] :: stack)) := by
  cases v with
  | array items => cases items <;> simp [Node.tokens, step, begin]
  | object members =>
      cases members with
      | nil => simp [Node.tokens, step, begin]
      | cons member members => obtain ⟨name, value⟩ := member; simp [Node.tokens, step, begin]
  | _ => simp [Node.tokens, step, begin]

mutual
/-- The tokens of a value take the reader past that value, whatever is open around it. -/
theorem foldlM_tokens (v : Node) (stack : List Frame) :
    (Node.tokens v).foldlM step (.wantValue stack) = some (.ended v stack) := by
  match v with
  | .null | .bool _ | .number _ | .string _ | .array [] | .object [] =>
      simp [Node.tokens, step, begin]
  | .array (item :: items) =>
      have inside := foldlM_tokens item (.array [] :: stack)
      have after := foldlM_itemTokens item items [] stack
      simp [Node.tokens, step, begin, foldlM_tokens_wantItem, inside, after]
  | .object ((name, value) :: members) =>
      have inside := foldlM_tokens value (.object [] name :: stack)
      have after := foldlM_memberTokens name value members [] stack
      simp [Node.tokens, step, begin, inside, after]
/-- The tokens after an item take the reader to the end of its array. -/
theorem foldlM_itemTokens (last : Node) (items done : List Node) (stack : List Frame) :
    (Node.itemTokens items).foldlM step (.ended last (.array done :: stack)) =
      some (.ended (.array (done.reverse ++ last :: items)) stack) := by
  match items with
  | [] => simp [Node.itemTokens, step, resume]
  | item :: items =>
      have inside := foldlM_tokens item (.array (last :: done) :: stack)
      have after := foldlM_itemTokens item items (last :: done) stack
      simp [Node.itemTokens, step, resume, inside, after]
/-- The tokens after a member take the reader to the end of its object. -/
theorem foldlM_memberTokens (name : List Piece) (last : Node)
    (members done : List (List Piece × Node)) (stack : List Frame) :
    (Node.memberTokens members).foldlM step (.ended last (.object done name :: stack)) =
      some (.ended (.object (done.reverse ++ (name, last) :: members)) stack) := by
  match members with
  | [] => simp [Node.memberTokens, step, resume]
  | (key, value) :: members =>
      have inside := foldlM_tokens value (.object ((name, last) :: done) key :: stack)
      have after := foldlM_memberTokens key value members ((name, last) :: done) stack
      simp [Node.memberTokens, step, resume, inside, after]
end

/-- Reading the tokens of a value gives the value back. -/
theorem ofTokens?_tokens (v : Node) : Node.ofTokens? v.tokens = some v := by
  simp [Node.ofTokens?, foldlM_tokens, result?]

end CampaignConsole.Json
