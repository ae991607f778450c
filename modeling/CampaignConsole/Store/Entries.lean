import CampaignConsole.Json.Writer

/-!
Remembered values by key, and their text.

`Entries` keeps its keys in increasing order, each once.  `Entries.text` writes them as a JSON
object with a line for each key, and `Entries.ofText?` reads any JSON object whose values are all
strings; of a repeated key the last value counts.
-/

namespace CampaignConsole

open Json

/-- Values by key, in increasing order of the keys. -/
structure Entries where
  pairs : List (String × String) := []
  deriving DecidableEq, Repr

namespace Entries

/-- No values. -/
def empty : Entries := {}

/-- The value of a key. -/
def get? (e : Entries) (key : String) : Option String :=
  e.pairs.lookup key

/-- Pairs in increasing order with the value of a key set. -/
def insertPair (key value : String) : List (String × String) → List (String × String)
  | [] => [(key, value)]
  | (k, v) :: rest =>
      if key < k then (key, value) :: (k, v) :: rest
      else if key = k then (key, value) :: rest
      else (k, v) :: insertPair key value rest

/-- The entries with the value of a key set. -/
def insert (e : Entries) (key value : String) : Entries :=
  ⟨insertPair key value e.pairs⟩

/-- The entries that pairs give, the last pair of a key counting. -/
def ofPairs (pairs : List (String × String)) : Entries :=
  pairs.foldl (fun e (key, value) => e.insert key value) empty

/-! ## Text -/

/-- A text in quotes, as JSON writes it. -/
def quotedChars (s : String) : List Char :=
  stringText (spell s)

/-- A key with its value. -/
def pairChars (pair : String × String) : List Char :=
  [' ', ' '] ++ quotedChars pair.1 ++ [':', ' '] ++ quotedChars pair.2

/-- The text of the entries: a JSON object with a line for each key. -/
def text (e : Entries) : String :=
  String.ofList <|
    if e.pairs.isEmpty then ['{', '}']
    else ['{', '\n'] ++ [',', '\n'].intercalate (e.pairs.map pairChars) ++ ['\n', '}']

/-- Reads the entries that a JSON value holds. -/
def ofNode? : Node → Option Entries
  | .object members => do
      let pairs ← members.mapM fun (name, value) => do
        return (← textOf? name, ← value.text?)
      return ofPairs pairs
  | _ => none

/-- Reads the entries that a text holds. -/
def ofText? (text : String) : Option Entries := do
  ofNode? (← Node.parse? (text.toList.map some))

/-! ## Looking up -/

theorem lookup_cons (k key value : String) (rest : List (String × String)) :
    List.lookup k ((key, value) :: rest) = if k = key then some value else rest.lookup k := by
  rw [List.lookup_cons]
  by_cases h : k = key
  · simp [h]
  · simp [h, beq_false_of_ne h]

theorem lookup_insertPair (key value k : String) (pairs : List (String × String)) :
    (insertPair key value pairs).lookup k = if k = key then some value else pairs.lookup k := by
  induction pairs with
  | nil => rw [insertPair, lookup_cons]
  | cons pair rest ih =>
      obtain ⟨k', v'⟩ := pair
      unfold insertPair
      split
      · rw [lookup_cons]
      · split
        · rename_i same
          subst same
          rw [lookup_cons, lookup_cons]
          by_cases h : k = key <;> simp [h]
        · rename_i different
          rw [lookup_cons, lookup_cons, ih]
          by_cases h : k = k'
          · subst h
            simp [Ne.symm different]
          · simp [h]

/-- A value that was set is found, and no other value changes. -/
theorem get?_insert (e : Entries) (key value k : String) :
    (e.insert key value).get? k = if k = key then some value else e.get? k :=
  lookup_insertPair key value k e.pairs

end Entries

end CampaignConsole
