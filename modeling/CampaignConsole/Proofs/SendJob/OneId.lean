import CampaignConsole.Proofs.SendJob.IdPlaces
import CampaignConsole.Proofs.Watch.TableLaws

/-!
# One id for every way to write it

An integer of 64 bits, with or without a sign, names an email as a number or as a string of its
decimal digits (`SpellsId`).  `EmailId.one_id_in_every_spelling` says that both are one id wherever
a job has ids, that the ids of different integers differ, and that a delivered entry is read in one
way only; so an entry that names an integer drops the row of this integer, however either was
written.
-/

namespace CampaignConsole

open Json Node

/-! ## The id of an integer -/

/-- The id that an integer names. -/
def EmailId.ofInt (n : Int) : EmailId :=
  ⟨toString n⟩

/-- The ways to write the id of an integer: the number, or a string that stands for its decimal
digits. -/
inductive SpellsId (n : Int) : Node → Prop
  | number : SpellsId n (.number (.ofInt n))
  | string {s : List Piece} : textOf? s = some (toString n) → SpellsId n (.string s)

theorem EmailId.ofInt_injective {m n : Int} (same : EmailId.ofInt m = EmailId.ofInt n) : m = n :=
  toString_int_injective (congrArg EmailId.text same)

theorem SpellsId.ofNode?_eq {n : Int} {v : Node} (spells : SpellsId n v) (least : -2 ^ 63 ≤ n)
    (greatest : n < 2 ^ 64) : EmailId.ofNode? v = some (.ofInt n) := by
  cases spells with
  | number =>
      rw [EmailId.ofNode?, Number.integer?_ofInt least greatest, Number.text_ofInt,
        String.ofList_toList]
      rfl
  | string stands =>
      rw [EmailId.ofNode?, stands]
      rfl

/-- The entries of the list of delivered emails that name an integer: its id alone, or a whole
recipient. -/
inductive NamesDelivered (n : Int) : Node → Prop
  | bare {v : Node} : SpellsId n v → NamesDelivered n v
  | record {v : Node} (recipient : Opening Recipient.memberNames "emailId") :
    SpellsId n v → NamesDelivered n (recipient.fill v)

theorem NamesDelivered.emailId_eq {n : Int} {entry : Node} (names : NamesDelivered n entry)
    (least : -2 ^ 63 ≤ n) (greatest : n < 2 ^ 64) {level : Nat} {d : Delivered}
    (found : Delivered.ofNode? level entry = some d) : d.emailId = .ofInt n := by
  cases names with
  | bare spells =>
      exact Option.some.inj ((Delivered.readsThrough_bare level).finds
        (spells.ofNode?_eq least greatest) found)
  | record recipient spells =>
      exact Option.some.inj ((Delivered.readsThrough_record level recipient).finds
        (spells.ofNode?_eq least greatest) found)

/-! ## Rows of delivered emails -/

namespace RecipientTable

theorem get?_mentionEach_of_delivered {t : RecipientTable} {x : EmailId}
    (delivered : x ∈ t.delivered) (ms : List Mention) :
    (t.mentionEach ms).get? x = t.get? x := by
  induction ms generalizing t with
  | nil => rfl
  | cons m ms ih =>
      have step : (t.mention m.label m.recipient).get? x = t.get? x := by
        rw [get?_mention, if_neg fun changed => changed.2 delivered]
      have still : x ∈ (t.mention m.label m.recipient).delivered := by
        rw [delivered_mention]
        exact delivered
      exact (ih still).trans step

/-- An answer that reports an email delivered leaves no row for it, whatever else it says. -/
theorem get?_apply_of_delivered (t : RecipientTable) {job : SendJob} {x : EmailId}
    (listed : x ∈ job.successful.map Delivered.emailId) : (t.apply job).get? x = none := by
  cases code : job.code with
  | none => rw [apply_of_no_code code, get?_clear]
  | some _ =>
      have delivered : x ∈ (t.deliverAll job.successful).delivered :=
        mem_delivered_deliverAll.2 (.inl listed)
      rw [apply_of_code (by simp [code]), get?_mentionEach_of_delivered delivered,
        get?_deliverAll, if_pos listed]

/-- A row that was got for a recipient has the id of this recipient, and delivering it drops this
row. -/
theorem deliver_getOrCreate {t : RecipientTable} {r : Recipient} {row : RecipientRow}
    (got : (t.getOrCreate r).2 = some row) :
    row.id = r.id ∧ ((t.getOrCreate r).1.deliver r.id).2 = true ∧
      ((t.getOrCreate r).1.deliver r.id).1.get? r.id = none := by
  have found : (t.ensure r).get? r.id = some row := got
  refine ⟨?_, ?_, ?_⟩
  · have named := List.find?_some found
    exact beq_iff_eq.1 named
  · show ((t.ensure r).get? r.id).isSome = true
    rw [found]
    rfl
  · show ((t.ensure r).markDelivered r.id).get? r.id = none
    rw [get?_markDelivered, if_pos rfl]

end RecipientTable

/-- A job lists an integer as delivered where it was filled in. -/
theorem IdPlace.mem_successful {place : IdPlace} (delivered : place.list = .successful)
    {job : SendJob} {id : EmailId} (found : place.idOf job = some id) :
    id ∈ job.successful.map Delivered.emailId := by
  rw [idOf, delivered] at found
  exact List.mem_of_getElem? found

namespace EmailId

/-- What it means that an integer is one id, however it is written. -/
structure IsOneId (n : Int) : Prop where
  /-- Its decimal digits are a value of their own, which is one number. -/
  alone : Node.parse? ((toString n).toList.map some) = some (.number (.ofInt n))
  /-- So they are in an array or an object, in front of what ends a value there. -/
  inside : ∀ c ∈ valueEnds, ∀ rest,
    scanNumber ((toString n).toList.map some ++ some c :: rest) = some (.ofInt n, some c :: rest)
  /-- No other number is this integer. -/
  number : ∀ cs rest m, scanNumber cs = some (m, rest) → m.integer? = some n → m = .ofInt n
  read : ∀ v, SpellsId n v → EmailId.ofNode? v = some (.ofInt n)
  /-- Wherever a job has an id, one way to write it can stand for another. -/
  exchange : ∀ v v', SpellsId n v → SpellsId n v' → ∀ (place : IdPlace) level,
    SendJob.ofNode? level (place.fill v) = SendJob.ofNode? level (place.fill v')
  found : ∀ v, SpellsId n v → ∀ (place : IdPlace) level job,
    SendJob.ofNode? level (place.fill v) = some job → place.idOf job = some (.ofInt n)
  /-- Whether the job is read at all does not depend on the id. -/
  complete : ∀ v, SpellsId n v → ∀ (place : IdPlace) level text,
    (SendJob.ofNode? level (place.fill v)).isSome =
      (SendJob.ofNode? level (place.fill (ofText text))).isSome
  different : ∀ m, m ≠ n → EmailId.ofInt m ≠ .ofInt n
  /-- A delivered entry that names the integer drops the row that was got for it. -/
  dropped : ∀ (t : RecipientTable) (recipient : Opening Recipient.memberNames "emailId") v r row,
    SpellsId n v → Recipient.ofNode? (recipient.fill v) = some r →
    (t.getOrCreate r).2 = some row → row.id = .ofInt n ∧
      ∀ level entry d, NamesDelivered n entry → Delivered.ofNode? level entry = some d →
        ((t.getOrCreate r).1.deliver d.emailId).2 = true ∧
        ((t.getOrCreate r).1.deliver d.emailId).1.get? (.ofInt n) = none
  /-- An answer that lists the integer as delivered leaves no row for it. -/
  rowless : ∀ (t : RecipientTable) (place : IdPlace) level v job, place.list = .successful →
    SpellsId n v → SendJob.ofNode? level (place.fill v) = some job →
    (t.apply job).get? (.ofInt n) = none

/-- What it means that a delivered entry is read in one way, where `n` is an integer. -/
structure DeliveredOneWay (n : Int) : Prop where
  /-- No value is both a recipient and an id. -/
  exclusive : ∀ entry, Recipient.ofNode? entry = none ∨ EmailId.ofNode? entry = none
  read : ∀ level entry d, Delivered.ofNode? level entry = some d →
    (∃ r, d = .recipient r ∧ Recipient.ofNode? entry = some r ∧ EmailId.ofNode? entry = none) ∨
    ∃ id, d = .id id ∧ Recipient.ofNode? entry = none ∧ EmailId.ofNode? entry = some id
  integer : ∀ level ≤ depthLimit, ∀ v, SpellsId n v →
    Delivered.ofNode? level v = some (.id (.ofInt n))
  string : ∀ level ≤ depthLimit, ∀ s text, textOf? s = some text →
    Delivered.ofNode? level (.string s) = some (.id ⟨text⟩)
  /-- With an entry that is neither, the whole job is not read. -/
  neither : ∀ level entry, Recipient.ofNode? entry = none → EmailId.ofNode? entry = none →
    ∀ (job : Opening SendJob.memberNames JobList.successful.name) before after,
      SendJob.ofNode? level (job.fill (.array (before ++ entry :: after))) = none

theorem deliveredOneWay {n : Int} (least : -2 ^ 63 ≤ n) (greatest : n < 2 ^ 64) :
    DeliveredOneWay n where
  exclusive := Recipient.ofNode?_eq_none_or
  read _ _ _ := Delivered.read_one_way
  integer _ shallow _ spells := Delivered.ofNode?_of_id (spells.ofNode?_eq least greatest) shallow
  string level shallow s text stands := by
    have isId : EmailId.ofNode? (.string s) = some ⟨text⟩ := by
      rw [EmailId.ofNode?, stands]
      rfl
    exact Delivered.ofNode?_of_id isId shallow
  neither _ _ noRecipient noId job before after :=
    SendJob.ofNode?_of_neither noRecipient noId job before after

/-- **One id, however it is written.**  Let an integer fit in 64 bits, with or without a sign.
There is one number that writes it, alone or inside an array or an object; this number and every
string of its decimal digits are its id, and they can stand for one another wherever a job has an
id: the id of a recipient in one of its lists, or a bare entry of the list of delivered emails.
There the job has the id of this integer, and whether it is read at all does not depend on the id.
Another integer has another id.

A delivered entry is read in one way: no value is both a recipient and an id, strings and the
integer are read as bare ids, and with an entry that is neither the whole job is not read.

So a row that was got for a recipient with this id is dropped by every delivered entry that names
the integer, and an answer that lists it as delivered leaves no row for it. -/
theorem one_id_in_every_spelling {n : Int} (least : -2 ^ 63 ≤ n) (greatest : n < 2 ^ 64) :
    IsOneId n ∧ DeliveredOneWay n := by
  have reads {v : Node} (spells : SpellsId n v) : EmailId.ofNode? v = some (.ofInt n) :=
    spells.ofNode?_eq least greatest
  refine ⟨?_, deliveredOneWay least greatest⟩
  exact {
    alone := Node.parse?_toString n
    inside := fun c mark rest => scanNumber_toString n (.of_mem_valueEnds mark rest)
    number := fun cs rest m => eq_ofInt_of_scanNumber
    read := fun v => reads
    exchange := fun v v' spells spells' place level =>
      (place.readsThrough level).same (reads spells) (reads spells')
    found := fun v spells place level job read =>
      (place.readsThrough level).finds (reads spells) read
    complete := fun v spells place level text =>
      (place.readsThrough level).complete (reads spells) (EmailId.ofNode?_ofText text)
    different := fun m different same => different (ofInt_injective same)
    dropped := by
      intro t recipient v r row spells found got
      have id : r.id = .ofInt n :=
        Option.some.inj ((Recipient.readsThrough recipient).finds (reads spells) found)
      obtain ⟨named, dropped, gone⟩ := RecipientTable.deliver_getOrCreate got
      rw [id] at named dropped gone
      refine ⟨named, fun level entry d names read => ?_⟩
      rw [names.emailId_eq least greatest read]
      exact ⟨dropped, gone⟩
    rowless := by
      intro t place level v job delivered spells found
      have here := (place.readsThrough level).finds (reads spells) found
      exact t.get?_apply_of_delivered (IdPlace.mem_successful delivered here) }

/-- A job under way of which one email failed, without the id of this email. -/
def onlyFailed : IdPlace :=
  .record .failed
    (.object [(spell "statusCode", ofText "p")] (spell "failed") [] (textOf?_spell "failed"))
    [] [] (.object [] (spell "emailId") [] (textOf?_spell "emailId"))

/-- A job under way of which one email was delivered, without the id of this email. -/
def onlyDelivered : IdPlace :=
  .bare (.array [ofText "p", .null, .null] [] rfl) [] []

theorem one_id_in_every_spelling_greatest :
    -2 ^ 63 ≤ (18446744073709551615 : Int) ∧ (18446744073709551615 : Int) < 2 ^ 64 ∧
      (∃ job, SendJob.ofNode? 1 (onlyFailed.fill (.number (.ofInt 18446744073709551615))) =
          some job ∧
        SendJob.ofNode? 1 (onlyFailed.fill (ofText "18446744073709551615")) = some job ∧
        onlyFailed.idOf job = some ⟨"18446744073709551615"⟩) ∧
      ∃ job, SendJob.ofNode? 1 (onlyDelivered.fill (.number (.ofInt 18446744073709551615))) =
          some job ∧
        ∀ t : RecipientTable, (t.apply job).get? ⟨"18446744073709551615"⟩ = none := by
  have least : -2 ^ 63 ≤ (18446744073709551615 : Int) := by omega
  have greatest : (18446744073709551615 : Int) < 2 ^ 64 := by omega
  obtain ⟨oneId, _⟩ := one_id_in_every_spelling least greatest
  have asNumber : SpellsId 18446744073709551615 (.number (.ofInt 18446744073709551615)) := .number
  have asText : SpellsId 18446744073709551615 (ofText "18446744073709551615") :=
    .string (textOf?_spell _)
  have readsText (place : IdPlace)
      (read : (SendJob.ofNode? 1 (place.fill (ofText "a"))).isSome = true) :
      ∃ job, SendJob.ofNode? 1 (place.fill (.number (.ofInt 18446744073709551615))) = some job :=
    Option.isSome_iff_exists.1 ((oneId.complete _ asNumber place 1 "a").trans read)
  refine ⟨least, greatest, ?_, ?_⟩
  · obtain ⟨job, read⟩ := readsText onlyFailed (by decide +kernel)
    exact ⟨job, read, (oneId.exchange _ _ asText asNumber onlyFailed 1).trans read,
      oneId.found _ asNumber onlyFailed 1 job read⟩
  · obtain ⟨job, read⟩ := readsText onlyDelivered (by decide +kernel)
    exact ⟨job, read, fun t => oneId.rowless t onlyDelivered 1 _ job rfl asNumber read⟩

end EmailId

end CampaignConsole
