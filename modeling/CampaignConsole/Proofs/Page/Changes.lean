import CampaignConsole.Proofs.Page.Shapes
import Mathlib.Logic.Relation

/-!
# Changes of a text that no reader sees

A `Change` of a value of some shape moves the members of an object, adds a member that its record
does not know, adds a null for a member that may be left out, or is such a change further inside.
`Same` are the values that changes join, in both directions and at every level.

* `alikeRecords_object` and `alike_zip` say when two objects, or two arrays, are alike records.
* `Change.read_eq` is the step lemma: a change is not seen by the reader.  `Same.read_eq` carries it
  along any number of changes.
* `parse?_read_of_same` says it of the texts.
-/

namespace CampaignConsole

open Json Node

namespace Shape

/-- A change of a value that is read as a shape. -/
inductive Change : Shape → Node → Node → Prop
  /-- The members of an object change places. -/
  | permuted {shape : Shape} {members members' : List (List Piece × Node)} :
    members.Perm members' → Change shape (.object members) (.object members')
  /-- A member is added that the record does not know, with any value. -/
  | unknown {shape : Shape} {members : List (List Piece × Node)} {key : List Piece} {name : String}
    (value : Node) : textOf? key = some name → name ∉ shape.known →
    Change shape (.object members) (.object ((key, value) :: members))
  /-- A null is added for a member that may be left out and was. -/
  | null {shape : Shape} {members : List (List Piece × Node)} {key : List Piece} {name : String} :
    textOf? key = some name → name ∈ shape.optional → valuesOf name members = [] →
    Change shape (.object members) (.object ((key, .null) :: members))
  /-- A change inside a member that holds records. -/
  | inMember {shape inner : Shape} {members : List (List Piece × Node)} {key : List Piece}
    {name : String} {value value' : Node} : textOf? key = some name →
    shape.member name = some inner → Change inner value value' →
    Change shape (.object ((key, value) :: members)) (.object ((key, value') :: members))
  /-- A change inside an item of an array. -/
  | inItem {shape inner : Shape} {front back : List Node} {value value' : Node} :
    shape.item front.length = some inner → Change inner value value' →
    Change shape (.array (front ++ value :: back)) (.array (front ++ value' :: back))

/-- Two values that changes join. -/
def Same (shape : Shape) : Node → Node → Prop :=
  Relation.EqvGen (Change shape)

theorem Change.ne_null {shape : Shape} {n n' : Node} (change : Change shape n n') :
    n ≠ .null ∧ n' ≠ .null := by
  cases change with
  | permuted => exact ⟨nofun, nofun⟩
  | unknown => exact ⟨nofun, nofun⟩
  | null => exact ⟨nofun, nofun⟩
  | inMember => exact ⟨nofun, nofun⟩
  | inItem => exact ⟨nofun, nofun⟩

/-! ## Objects -/

section

variable {shape inner : Shape} {members members' : List (List Piece × Node)} {key : List Piece}
  {name : String} {value value' : Node}

/-- The values of two objects under a name are the same in some order, or there is nothing on one
side and null on the other, or the first ones are records that are read the same. -/
inductive AlikeValues (shape : Shape) (name : String) : List Node → List Node → Prop
  | permuted {values values' : List Node} : values.Perm values' →
    AlikeValues shape name values values'
  | null : name ∈ shape.optional → AlikeValues shape name [] [.null]
  | inside {inner : Shape} {value value' : Node} (rest : List Node) :
    shape.member name = some inner → value ≠ .null → value' ≠ .null →
    inner.read value = inner.read value' →
    AlikeValues shape name (value :: rest) (value' :: rest)

theorem AlikeValues.length_le_one {values values' : List Node}
    (alike : shape.AlikeValues name values values') :
    values.length ≤ 1 ↔ values'.length ≤ 1 := by
  cases alike with
  | permuted same => rw [same.length_eq]
  | null => simp
  | inside => simp

theorem AlikeValues.head? {values values' : List Node}
    (alike : shape.AlikeValues name values values') (once : values.length ≤ 1) :
    shape.Alike name values.head? values'.head? := by
  cases alike with
  | permuted same =>
      match values, once with
      | [], _ =>
          obtain rfl := List.nil_perm.1 same
          exact .same none
      | [value], _ =>
          obtain rfl := List.singleton_perm.1 same
          exact .same (some value)
  | null isOptional => exact .null isOptional
  | inside rest holds notNull notNull' same => exact .inside holds notNull notNull' same

/-- Objects of alike values are alike records. -/
theorem alikeRecords_object
    (names : (∀ member ∈ members, (textOf? member.1).isSome) ↔
      ∀ member ∈ members', (textOf? member.1).isSome)
    (values : ∀ name ∈ shape.known,
      shape.AlikeValues name (valuesOf name members) (valuesOf name members')) :
    shape.AlikeRecords (.object members) (.object members') := by
  refine ⟨rfl, ?_, ?_⟩
  · have once : (∀ name ∈ shape.known, (valuesOf name members).length ≤ 1) ↔
        ∀ name ∈ shape.known, (valuesOf name members').length ≤ 1 :=
      forall₂_congr fun name isKnown => (values name isKnown).length_le_one
    rw [← not_iff_not, ← ne_eq, ← ne_eq, Option.ne_none_iff_exists', Option.ne_none_iff_exists',
      exists_members?_object_iff, exists_members?_object_iff, names, once]
  · intro m m' left right name isKnown
    obtain ⟨named, once⟩ := members?_object_eq_some_iff.1 left
    obtain ⟨named', _⟩ := members?_object_eq_some_iff.1 right
    rw [lookup_of_namedMembers? named, lookup_of_namedMembers? named']
    exact ⟨(values name isKnown).head? (once name isKnown), fun isArray => by cases isArray⟩

theorem AlikeRecords.permuted (moved : members.Perm members') :
    shape.AlikeRecords (.object members) (.object members') := by
  refine alikeRecords_object ?_ fun name _ => .permuted (moved.filterMap _)
  simp only [moved.mem_iff]

theorem AlikeRecords.unknown (named : textOf? key = some name) (isUnknown : name ∉ shape.known) :
    shape.AlikeRecords (.object members) (.object ((key, value) :: members)) := by
  refine alikeRecords_object ?_ fun other isKnown => ?_
  · simp [named]
  · have ne : name ≠ other := fun same => isUnknown (same ▸ isKnown)
    rw [valuesOf_cons_of_ne named ne]
    exact .permuted (List.Perm.refl _)

theorem AlikeRecords.null (named : textOf? key = some name) (isOptional : name ∈ shape.optional)
    (absent : valuesOf name members = []) :
    shape.AlikeRecords (.object members) (.object ((key, .null) :: members)) := by
  refine alikeRecords_object ?_ fun other isKnown => ?_
  · simp [named]
  · by_cases same : name = other
    · subst same
      rw [valuesOf_cons_self named, absent]
      exact .null isOptional
    · rw [valuesOf_cons_of_ne named same]
      exact .permuted (List.Perm.refl _)

theorem AlikeRecords.inMember (named : textOf? key = some name)
    (holds : shape.member name = some inner) (notNull : value ≠ .null) (notNull' : value' ≠ .null)
    (same : inner.read value = inner.read value') :
    shape.AlikeRecords (.object ((key, value) :: members))
      (.object ((key, value') :: members)) := by
  refine alikeRecords_object ?_ fun other isKnown => ?_
  · simp
  · by_cases here : name = other
    · subst here
      rw [valuesOf_cons_self named, valuesOf_cons_self named]
      exact .inside _ holds notNull notNull' same
    · rw [valuesOf_cons_of_ne named here, valuesOf_cons_of_ne named here]
      exact .permuted (List.Perm.refl _)

/-! ## Arrays -/

/-- Where one item of a record is changed that holds records itself, the members are alike. -/
theorem alike_zip (front back : List Node) {known : List String}
    (holds : ∀ name, known[front.length]? = some name → shape.member name = some inner)
    (notNull : value ≠ .null) (notNull' : value' ≠ .null)
    (same : inner.read value = inner.read value') (name : String) :
    shape.Alike name ((known.zip (front ++ value :: back)).lookup name)
        ((known.zip (front ++ value' :: back)).lookup name) ∧
      ((known.zip (front ++ value :: back)).lookup name).isNone =
        ((known.zip (front ++ value' :: back)).lookup name).isNone := by
  induction front generalizing known with
  | nil =>
      cases known with
      | nil => exact ⟨.same none, rfl⟩
      | cons first known =>
          rw [List.nil_append, List.nil_append, List.zip_cons_cons, List.zip_cons_cons,
            List.lookup_cons, List.lookup_cons]
          by_cases here : name = first
          · subst here
            simp only [beq_self_eq_true]
            exact ⟨.inside (holds name rfl) notNull notNull' same, rfl⟩
          · rw [beq_false_of_ne here]
            exact ⟨.same _, rfl⟩
  | cons item front ih =>
      cases known with
      | nil => exact ⟨.same none, rfl⟩
      | cons first known =>
          rw [List.cons_append, List.cons_append, List.zip_cons_cons, List.zip_cons_cons,
            List.lookup_cons, List.lookup_cons]
          by_cases here : name = first
          · rw [beq_iff_eq.2 here]
            exact ⟨.same _, rfl⟩
          · rw [beq_false_of_ne here]
            exact ih holds

theorem AlikeRecords.inItem {front back : List Node}
    (holds : ∀ name, shape.known[front.length]? = some name → shape.member name = some inner)
    (notNull : value ≠ .null) (notNull' : value' ≠ .null)
    (same : inner.read value = inner.read value') :
    shape.AlikeRecords (.array (front ++ value :: back)) (.array (front ++ value' :: back)) := by
  have sameLength : (front ++ value :: back).length = (front ++ value' :: back).length := by simp
  refine ⟨rfl, ?_, ?_⟩
  · simp only [members?, sameLength]
    split_ifs <;> simp
  · intro m m' left right name _
    simp only [members?] at left right
    split_ifs at left right
    cases left
    cases right
    have alike := alike_zip front back holds notNull notNull' same name
    exact ⟨alike.1, fun _ => alike.2⟩

end

/-! ## Changes -/

variable {shape : Shape} {n n' : Node}

theorem read_object_of_alike {members members' : List (List Piece × Node)}
    (alike : shape.AlikeRecords (.object members) (.object members')) :
    shape.read (.object members) = shape.read (.object members') := by
  cases shape with
  | list => rfl
  | recipient => exact read_eq_of_alike nofun alike
  | job => exact read_eq_of_alike nofun alike
  | campaign => exact read_eq_of_alike nofun alike
  | envelope => exact read_eq_of_alike nofun alike

theorem read_list_of_item {inner : Shape} {front back : List Node} {value value' : Node}
    (same : inner.read value = inner.read value') :
    (list inner).read (.array (front ++ value :: back)) =
      (list inner).read (.array (front ++ value' :: back)) := by
  show (front ++ value :: back).mapM inner.read = (front ++ value' :: back).mapM inner.read
  rw [List.mapM_append, List.mapM_append, List.mapM_cons, List.mapM_cons, same]

/-- The step lemma: a change is not seen by the reader. -/
theorem Change.read_eq (change : Change shape n n') : shape.read n = shape.read n' := by
  induction change with
  | permuted moved => exact read_object_of_alike (.permuted moved)
  | unknown value named isUnknown => exact read_object_of_alike (.unknown named isUnknown)
  | null named isOptional absent => exact read_object_of_alike (.null named isOptional absent)
  | inMember named holds change ih =>
      obtain ⟨notNull, notNull'⟩ := change.ne_null
      exact read_object_of_alike (.inMember named holds notNull notNull' ih)
  | @inItem shape inner front back value value' holds change ih =>
      obtain ⟨notNull, notNull'⟩ := change.ne_null
      cases shape with
      | list item =>
          cases holds
          exact read_list_of_item ih
      | _ =>
          refine read_eq_of_alike nofun (.inItem (fun name placed => ?_) notNull notNull' ih)
          rwa [item, placed, Option.bind_some] at holds
          exact nofun

/-- Values that changes join are read the same, or both not at all. -/
theorem Same.read_eq (same : Same shape n n') : shape.read n = shape.read n' := by
  induction same with
  | rel n n' change => exact change.read_eq
  | refl n => rfl
  | symm n n' _ ih => exact ih.symm
  | trans n n' n'' _ _ first second => exact first.trans second

/-! ## Texts -/

/-- A text with the tokens of a value writes that value. -/
theorem parse?_of_scan {text : List Place} (writes : Token.scan text = some n.tokens) :
    parse? text = some n := by
  rw [parse?, writes]
  exact ofTokens?_tokens n

/-- **Only the members that are known and not null are read.**  Let a text write a value, and let
changes lead from that value to another one, in either direction, at any level and in any number:
members of an object change places, a member that is not known is added or dropped, with any value,
or a null for a member that may be left out.  Then every text with the tokens of the other value
writes it, and the two texts are read the same: to one recipient, job, list of campaigns or
envelope, or both not at all. -/
theorem parse?_read_of_same {text text' : List Place} (reads : parse? text = some n)
    (writes : Token.scan text' = some n'.tokens) (same : Same shape n n') :
    parse? text' = some n' ∧ (parse? text' >>= shape.read) = (parse? text >>= shape.read) := by
  have readsOther := parse?_of_scan writes
  refine ⟨readsOther, ?_⟩
  rw [reads, readsOther]
  exact same.read_eq.symm

/-- An answer about a job, with an email that failed. -/
def plainAnswer : String :=
  "\x7b\"status\":true," ++
    "\"data\":\x7b\"statusCode\":\"p\",\"failed\":[\x7b\"emailId\":\"a\"\x7d]\x7d\x7d"

/-- The same answer with its members in another order, with a new member and a null. -/
def changedAnswer : String :=
  "\x7b \"data\": \x7b\"sending\":null," ++
    "\"failed\":[\x7b\"tags\":[[\x7b\x7d]],\"emailId\":\"a\"\x7d]," ++
    "\"statusCode\":\"p\"\x7d, \"status\": true \x7d"

/-- A member under a name. -/
def memberOf (name : String) (value : Node) : List Piece × Node :=
  (spell name, value)

/-- What `plainAnswer` writes. -/
def plainValue : Node :=
  .object [memberOf "status" (.bool true), memberOf "data" (.object
    [memberOf "statusCode" (ofText "p"),
      memberOf "failed" (.array [.object [memberOf "emailId" (ofText "a")]])])]

/-- What `changedAnswer` writes. -/
def changedValue : Node :=
  .object [memberOf "data" (.object [memberOf "sending" .null,
    memberOf "failed" (.array [.object
      [memberOf "tags" (.array [.array [.object []]]), memberOf "emailId" (ofText "a")]]),
    memberOf "statusCode" (ofText "p")]), memberOf "status" (.bool true)]

theorem same_changedValue : Same (envelope (job 1)) plainValue changedValue := by
  -- The data come to the front, where they are changed: the emails that failed come to the front,
  -- one of them gets a new member, and the job gets a null.
  refine .trans _ _ _ (.rel _ _ (.permuted (List.Perm.swap _ _ _))) ?_
  refine .trans _ _ _ (.rel _ _ (.inMember (textOf?_spell "data") rfl
    (.permuted (List.Perm.swap _ _ _)))) ?_
  refine .trans _ _ _ (.rel _ _ (.inMember (textOf?_spell "data") rfl
    (.inMember (textOf?_spell "failed") rfl (@Change.inItem _ _ [] [] _ _ rfl
      (.unknown (.array [.array [.object []]]) (textOf?_spell "tags") ?_))))) ?_
  · simp [known, Recipient.memberNames]
  · refine .rel _ _ (.inMember (textOf?_spell "data") rfl (.null (textOf?_spell "sending") ?_ ?_))
    · simp [optional, SendJob.memberNames]
    · decide +kernel

theorem parse?_read_of_same_tagged :
    parse? (plainAnswer.toList.map some) = some plainValue ∧
      Token.scan (changedAnswer.toList.map some) = some changedValue.tokens ∧
      Same (envelope (job 1)) plainValue changedValue ∧
      parse? (changedAnswer.toList.map some) = some changedValue ∧
      (parse? (changedAnswer.toList.map some) >>= Envelope.ofJobNode?) =
        (parse? (plainAnswer.toList.map some) >>= Envelope.ofJobNode?) ∧
      (parse? (plainAnswer.toList.map some) >>= Envelope.ofJobNode?).isSome = true := by
  have plain : Token.scan (plainAnswer.toList.map some) = some plainValue.tokens := by
    decide +kernel
  have changed : Token.scan (changedAnswer.toList.map some) = some changedValue.tokens := by
    decide +kernel
  have reads := parse?_of_scan plain
  obtain ⟨readsOther, sameReading⟩ := parse?_read_of_same reads changed same_changedValue
  exact ⟨reads, changed, same_changedValue, readsOther, sameReading, by decide +kernel⟩

end Shape

end CampaignConsole
