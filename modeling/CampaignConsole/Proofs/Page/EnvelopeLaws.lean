import CampaignConsole.Page.Envelope
import CampaignConsole.Proofs.Json.NamedMembers

/-!
# When a value is an envelope

`ofNode?_eq_some_iff` takes the reading of an envelope apart, so that two readings of one value
differ in their data alone (`eq_of_ofNode?`).

`Legible` are the objects whose members can be read beside the status.  An object that tells a
refusal is an envelope exactly if it is legible (`exists_ofNode?_iff_legible`), and
`refusal_of_ofNode?` says what is read off it.
-/

namespace CampaignConsole.Envelope

open Json Node

variable {α β : Type} {read : Node → Option α}

/-- The reading of an envelope, member by member. -/
theorem ofNode?_eq_some_iff {n : Node} {e : Envelope α} :
    ofNode? read n = some e ↔ ∃ m, n.members? memberNames = some m ∧
      (n.isArray && (m.lookup "data").isNone) = false ∧
      m.required "status" Node.bool? = some e.status ∧
      m.optional "nextHref" Node.text? = some e.nextHref ∧
      m.getD "messages" (Node.list? Node.text?) [] = some e.messages ∧
      m.optional "data" read = some e.data := by
  obtain ⟨status, nextHref, messages, data⟩ := e
  simp only [ofNode?, Option.bind_eq_bind, Option.bind_eq_some_iff, Option.pure_def]
  constructor
  · intro found
    rcases found with ⟨m, members, rest⟩
    split_ifs at rest with incomplete
    rcases Option.bind_eq_some_iff.1 rest with ⟨_, isStatus, rest⟩
    rcases Option.bind_eq_some_iff.1 rest with ⟨_, isHref, rest⟩
    rcases Option.bind_eq_some_iff.1 rest with ⟨_, isMessages, rest⟩
    rcases Option.bind_eq_some_iff.1 rest with ⟨_, isData, same⟩
    cases same
    exact ⟨m, members, Bool.eq_false_iff.2 incomplete, isStatus, isHref, isMessages, isData⟩
  · intro found
    rcases found with ⟨m, members, complete, isStatus, isHref, isMessages, isData⟩
    refine ⟨m, members, ?_⟩
    rw [if_neg (Bool.eq_false_iff.1 complete), isStatus, isHref, isMessages, isData]
    rfl

/-- Two readings of one value give the same envelope, but for its data. -/
theorem eq_of_ofNode? {read' : Node → Option β} {n : Node} {e : Envelope α} {e' : Envelope β}
    (one : ofNode? read n = some e) (other : ofNode? read' n = some e') :
    e.status = e'.status ∧ e.nextHref = e'.nextHref ∧ e.messages = e'.messages := by
  obtain ⟨m, members, _, status, nextHref, messages, _⟩ := ofNode?_eq_some_iff.1 one
  obtain ⟨m', members', _, status', nextHref', messages', _⟩ := ofNode?_eq_some_iff.1 other
  obtain rfl : m = m' := Option.some.inj (members.symm.trans members')
  exact ⟨Option.some.inj (status.symm.trans status'),
    Option.some.inj (nextHref.symm.trans nextHref'),
    Option.some.inj (messages.symm.trans messages')⟩

/-- How the messages of a refusal are told. -/
def reasonOf (messages : List String) : String :=
  if messages.isEmpty then "no reason given" else "; ".intercalate messages

/-! ## Objects -/

/-- The members of an object can be read as those of an envelope, whatever its status: every name
is a text, no known member occurs twice, and each one that is there is null or can be read. -/
structure Legible (read : Node → Option α) (members : List (List Piece × Node)) : Prop where
  names : ∀ member ∈ members, (textOf? member.1).isSome
  once : ∀ name ∈ ["nextHref", "messages", "data"], (valuesOf name members).length ≤ 1
  nextHref : ∀ value ∈ valuesOf "nextHref" members, value = .null ∨ value.text?.isSome
  messages : ∀ value ∈ valuesOf "messages" members,
    value = .null ∨ (value.list? Node.text?).isSome
  data : ∀ value ∈ valuesOf "data" members, value = .null ∨ (read value).isSome

/-- The messages of an object; none where they are missing or null. -/
def messagesOf (members : List (List Piece × Node)) : List String :=
  ((valuesOf "messages" members).head?.bind (Node.list? Node.text?)).getD []

section

variable {members : List (List Piece × Node)} {m : Members} {name : String}

theorem eq_of_mem_valuesOf (once : (valuesOf name members).length ≤ 1) {value : Node}
    (member : value ∈ valuesOf name members) : valuesOf name members = [value] := by
  rcases values : valuesOf name members with _ | ⟨first, _ | ⟨second, more⟩⟩
  · rw [values] at member
    cases member
  · rw [values] at member
    rw [List.mem_singleton.1 member]
  · rw [values] at once
    simp at once

/-- A member that may be missing or null is read if what is there is null or can be read. -/
theorem exists_getD_iff (named : namedMembers? members = some m)
    (once : (valuesOf name members).length ≤ 1) {γ : Type} {readMember : Node → Option γ}
    {default : γ} :
    (∃ x, m.getD name readMember default = some x) ↔
      ∀ value ∈ valuesOf name members, value = .null ∨ (readMember value).isSome := by
  have found := lookup_of_namedMembers? named name
  unfold Members.getD
  rcases values : valuesOf name members with _ | ⟨first, more⟩
  · rw [values] at found
    simp [found]
  · have single := eq_of_mem_valuesOf once (values ▸ List.mem_cons_self)
    rw [values] at found single
    rw [found, single]
    cases first <;> simp [Option.isSome_iff_exists]

theorem exists_optional_iff (named : namedMembers? members = some m)
    (once : (valuesOf name members).length ≤ 1) {γ : Type} {readMember : Node → Option γ} :
    (∃ x, m.optional name readMember = some x) ↔
      ∀ value ∈ valuesOf name members, value = .null ∨ (readMember value).isSome := by
  rw [Members.optional, exists_getD_iff named once]
  simp only [Option.isSome_map]

/-- An object that tells a refusal is an envelope if it is legible, and not otherwise. -/
theorem exists_ofNode?_iff_legible (refused : valuesOf "status" members = [.bool false]) :
    (∃ e, ofNode? read (.object members) = some e) ↔ Legible read members := by
  constructor
  · intro found
    rcases found with ⟨e, found⟩
    rcases ofNode?_eq_some_iff.1 found with ⟨m, isRecord, _, _, nextHref, messages, data⟩
    rcases members?_object_eq_some_iff.1 isRecord with ⟨named, once⟩
    have hrefOnce := once "nextHref" (by simp [memberNames])
    have messagesOnce := once "messages" (by simp [memberNames])
    have dataOnce := once "data" (by simp [memberNames])
    refine ⟨exists_namedMembers?_iff.1 ⟨m, named⟩, ?_, ?_, ?_, ?_⟩
    · simp [hrefOnce, messagesOnce, dataOnce]
    · exact (exists_optional_iff named hrefOnce).1 ⟨_, nextHref⟩
    · exact (exists_getD_iff named messagesOnce).1 ⟨_, messages⟩
    · exact (exists_optional_iff named dataOnce).1 ⟨_, data⟩
  · intro legible
    rcases exists_namedMembers?_iff.2 legible.names with ⟨m, named⟩
    have hrefOnce := legible.once "nextHref" (by simp)
    have messagesOnce := legible.once "messages" (by simp)
    have dataOnce := legible.once "data" (by simp)
    have isRecord : members? memberNames (.object members) = some m := by
      refine members?_object_eq_some_iff.2 ⟨named, ?_⟩
      simp [memberNames, refused, hrefOnce, messagesOnce, dataOnce]
    have status : m.required "status" Node.bool? = some false := by
      rw [Members.required, lookup_of_namedMembers? named, refused]
      rfl
    rcases (exists_optional_iff named hrefOnce).2 legible.nextHref with ⟨href, nextHref⟩
    rcases (exists_getD_iff named messagesOnce).2 legible.messages with ⟨said, messages⟩
    rcases (exists_optional_iff named dataOnce).2 legible.data with ⟨content, data⟩
    exact ⟨⟨false, href, said, content⟩, ofNode?_eq_some_iff.2
      ⟨m, isRecord, rfl, status, nextHref, messages, data⟩⟩

/-- What an envelope takes from an object that tells a refusal. -/
theorem refusal_of_ofNode? (refused : valuesOf "status" members = [.bool false]) {e : Envelope α}
    (found : ofNode? read (.object members) = some e) :
    e.status = false ∧ e.messages = messagesOf members := by
  rcases ofNode?_eq_some_iff.1 found with ⟨m, isRecord, _, status, _, messages, _⟩
  have named := (members?_object_eq_some_iff.1 isRecord).1
  rw [Members.required, lookup_of_namedMembers? named, refused] at status
  rw [Members.getD, lookup_of_namedMembers? named] at messages
  refine ⟨(Option.some.inj status).symm, ?_⟩
  unfold messagesOf
  generalize (valuesOf "messages" members).head? = said at messages ⊢
  rcases said with _ | value
  · exact (Option.some.inj messages).symm
  · -- A null stands for no messages; any other value is read.
    cases value with
    | null => exact (Option.some.inj messages).symm
    | _ =>
        rw [Option.bind_some]
        exact (congrArg (Option.getD · []) messages).symm

end

end CampaignConsole.Envelope
