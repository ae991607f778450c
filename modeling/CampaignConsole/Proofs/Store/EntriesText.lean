import CampaignConsole.Proofs.Json.Scanning
import CampaignConsole.Store.Entries
import Mathlib.Data.String.Basic

/-!
# Entries are read back from their text

Entries that were set key by key, or read from a text, have their keys in increasing order
(`Sorted.insert`, `sorted_ofText?`), and entries in that order are what their text is read as
(`Sorted.ofText?_text`).  So no value is lost and none is gained between one run and the next.
-/

namespace CampaignConsole.Entries

open Json

/-- The keys increase, so that each stands once. -/
def Sorted (e : Entries) : Prop :=
  e.pairs.Pairwise fun a b => a.1 < b.1

theorem sorted_empty : Sorted empty :=
  List.Pairwise.nil

/-! ## Setting a value -/

theorem mem_insertPair {key value : String} {pair : String × String}
    {pairs : List (String × String)} (member : pair ∈ insertPair key value pairs) :
    pair = (key, value) ∨ pair ∈ pairs := by
  induction pairs with
  | nil => exact Or.inl (List.mem_singleton.1 member)
  | cons first rest ih =>
      obtain ⟨k, v⟩ := first
      unfold insertPair at member
      split at member
      · exact List.mem_cons.1 member
      · split at member
        · rcases List.mem_cons.1 member with here | there
          · exact Or.inl here
          · exact Or.inr (List.mem_cons_of_mem _ there)
        · rcases List.mem_cons.1 member with here | there
          · exact Or.inr (here ▸ List.mem_cons_self)
          · exact (ih there).imp_right (List.mem_cons_of_mem _)

theorem Sorted.insert {e : Entries} (sorted : Sorted e) (key value : String) :
    Sorted (e.insert key value) := by
  obtain ⟨pairs⟩ := e
  show (insertPair key value pairs).Pairwise fun a b => a.1 < b.1
  induction pairs with
  | nil => exact List.pairwise_singleton _ _
  | cons first rest ih =>
      obtain ⟨k, v⟩ := first
      obtain ⟨above, tail⟩ := List.pairwise_cons.1 sorted
      unfold insertPair
      split
      · rename_i below
        refine List.pairwise_cons.2 ⟨?_, sorted⟩
        intro pair member
        rcases List.mem_cons.1 member with rfl | there
        · exact below
        · exact lt_trans below (above pair there)
      · rename_i notBelow
        split
        · rename_i same
          subst same
          exact List.pairwise_cons.2 ⟨above, tail⟩
        · rename_i different
          refine List.pairwise_cons.2 ⟨?_, ih tail⟩
          intro pair member
          rcases mem_insertPair member with rfl | there
          · exact lt_of_le_of_ne (not_lt.1 notBelow) (Ne.symm different)
          · exact above pair there

/-- A key above all others is set at the end. -/
theorem insertPair_of_above {key : String} (value : String) {pairs : List (String × String)}
    (above : ∀ pair ∈ pairs, pair.1 < key) :
    insertPair key value pairs = pairs ++ [(key, value)] := by
  induction pairs with
  | nil => rfl
  | cons first rest ih =>
      have below : first.1 < key := above first List.mem_cons_self
      rw [insertPair, if_neg (lt_asymm below), if_neg (ne_of_gt below), List.cons_append,
        ih fun pair member => above pair (List.mem_cons_of_mem _ member)]

theorem sorted_ofPairs (pairs : List (String × String)) : Sorted (ofPairs pairs) := by
  have carried (e : Entries) (sorted : Sorted e) :
      Sorted (pairs.foldl (fun e pair => e.insert pair.1 pair.2) e) := by
    induction pairs generalizing e with
    | nil => exact sorted
    | cons pair pairs ih => exact ih _ (sorted.insert pair.1 pair.2)
  exact carried empty sorted_empty

/-- Pairs in order are the entries that they give. -/
theorem Sorted.ofPairs_eq {e : Entries} (sorted : Sorted e) : ofPairs e.pairs = e := by
  have grown (front back : List (String × String))
      (sorted : (front ++ back).Pairwise fun a b => a.1 < b.1) :
      back.foldl (fun (e : Entries) pair => e.insert pair.1 pair.2) ⟨front⟩ = ⟨front ++ back⟩ := by
    induction back generalizing front with
    | nil => simp
    | cons pair back ih =>
        have above : ∀ other ∈ front, other.1 < pair.1 := fun other member =>
          (List.pairwise_append.1 sorted).2.2 other member pair List.mem_cons_self
        have longer : (front ++ [pair] ++ back).Pairwise fun a b => a.1 < b.1 := by
          rw [List.append_assoc]
          exact sorted
        have atEnd : Entries.insert ⟨front⟩ pair.1 pair.2 = ⟨front ++ [pair]⟩ :=
          congrArg Entries.mk (insertPair_of_above pair.2 above)
        have rest := ih _ longer
        rw [← atEnd, List.append_assoc] at rest
        exact rest
  exact grown [] e.pairs sorted

/-! ## The text -/

/-- A key with its value, as a member of a JSON object. -/
def member (pair : String × String) : List Piece × Node :=
  (spell pair.1, .string (spell pair.2))

/-- The JSON object of the entries. -/
def node (e : Entries) : Node :=
  .object (e.pairs.map member)

/-- Reads a key with its value. -/
def readMember (part : List Piece × Node) : Option (String × String) := do
  return (← textOf? part.1, ← part.2.text?)

theorem ofNode?_node (e : Entries) : ofNode? e.node = some (ofPairs e.pairs) := by
  have read (pairs : List (String × String)) : (pairs.map member).mapM readMember = some pairs := by
    induction pairs with
    | nil => rfl
    | cons pair pairs ih =>
        rw [List.map_cons, List.mapM_cons, ih]
        simp [readMember, member, Node.text?, textOf?_spell]
  show ((e.pairs.map member).mapM readMember).bind (fun pairs => some (ofPairs pairs)) = _
  rw [read, Option.bind_some]

/-- A key with its value is three tokens. -/
theorem scan_pairChars (pair : String × String) (rest : List Place) :
    Token.scan ((pairChars pair).map some ++ rest) = (Token.scan rest).map fun after =>
      .string (spell pair.1) :: .colon :: .string (spell pair.2) :: after := by
  simp only [pairChars, quotedChars, List.map_append, List.map_cons, List.append_assoc,
    List.cons_append, List.nil_append]
  rw [Token.scan_space rfl, Token.scan_space rfl, Token.scan_quoted, Token.scan,
    Token.scan_space rfl, Token.scan_quoted]
  simp only [Option.map_map]
  rfl

/-- Lines of keys with their values are the members of an object, up to its end. -/
theorem scan_pairs (pair : String × String) (pairs : List (String × String)) :
    Token.scan (([',', '\n'].intercalate ((pair :: pairs).map pairChars) ++ ['\n', '}']).map some) =
      some (.string (spell pair.1) :: .colon :: .string (spell pair.2) ::
        Node.memberTokens (pairs.map member)) := by
  induction pairs generalizing pair with
  | nil =>
      have ending : Token.scan [some '\n', some '}'] = some [.closeBrace] := by
        simp [Token.scan, isSpace]
      simp [List.intercalate, scan_pairChars, ending, Node.memberTokens]
  | cons next pairs ih =>
      have split : [',', '\n'].intercalate ((pair :: next :: pairs).map pairChars) ++ ['\n', '}'] =
          pairChars pair ++ ',' :: '\n' ::
            ([',', '\n'].intercalate ((next :: pairs).map pairChars) ++ ['\n', '}']) := by
        simp [List.intercalate]
      rw [split, List.map_append, scan_pairChars, List.map_cons, List.map_cons, Token.scan,
        Token.scan_space rfl, ih]
      simp [Node.memberTokens, Node.tokens, member]

theorem scan_text (e : Entries) : Token.scan (e.text.toList.map some) = some e.node.tokens := by
  obtain ⟨pairs⟩ := e
  cases pairs with
  | nil => simp [text, node, Node.tokens, Token.scan]
  | cons pair pairs =>
      have members := scan_pairs pair pairs
      simp only [text, List.isEmpty_cons, Bool.false_eq_true, if_false, String.toList_ofList,
        List.cons_append, List.nil_append, List.map_cons] at members ⊢
      rw [Token.scan, Token.scan_space rfl, members]
      rfl

/-- Entries in order are read back from their text. -/
theorem Sorted.ofText?_text {e : Entries} (sorted : Sorted e) : ofText? e.text = some e := by
  have parsed : Node.parse? (e.text.toList.map some) = some e.node := by
    rw [Node.parse?, scan_text]
    exact ofTokens?_tokens e.node
  rw [ofText?, parsed]
  show ofNode? e.node = some e
  rw [ofNode?_node, sorted.ofPairs_eq]

/-- What is read from a text is in order. -/
theorem sorted_ofText? {text : String} {e : Entries} (read : ofText? text = some e) :
    Sorted e := by
  obtain ⟨value, _, decoded⟩ := Option.bind_eq_some_iff.1 read
  cases value with
  | object members =>
      obtain ⟨pairs, _, given⟩ := Option.bind_eq_some_iff.1 decoded
      cases given
      exact sorted_ofPairs pairs
  | _ => cases decoded

end CampaignConsole.Entries
