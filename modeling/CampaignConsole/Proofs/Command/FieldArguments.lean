import CampaignConsole.Command.CommandLine
import CampaignConsole.Proofs.Page.Requests
import CampaignConsole.Proofs.Text.Splitting

/-!
# The form fields on a command line

`parseField_eq_ok_iff` and `parseField_eq_error_iff` say which texts are form fields, and what their
names and values are.  `FieldWords` are the ways to give one to `campaign create`: as an argument of
its own or together with the option, which has a long name and a short one.

The scan takes the fields one after another, whichever way they are given (`fieldsFrom_eq`), so
`command_create` reads a command line field by field, up to the first that is none.
-/

namespace CampaignConsole.CommandLine

/-! ## One field -/

/-- A text writes a field: the name, which is more than blanks, stands before the first `=`, and the
value is all that stands after it. -/
def IsField (text : String) (field : String × String) : Prop :=
  ∃ name, text = name ++ "=" ++ field.2 ∧ '=' ∉ name.toList ∧
    field.1 = Text.trim name ∧ field.1 ≠ ""

section

variable {text name : String} {field : String × String}

theorem parseField_of_absent (absent : '=' ∉ text.toList) :
    parseField text = .error (.noSeparator text) := by
  rw [parseField, Text.splitAtFirst_eq_none_iff.2 absent]

theorem parseField_append (absent : '=' ∉ name.toList) (value : String) :
    parseField (name ++ "=" ++ value) =
      if Text.isBlankText name then .error (.emptyName (name ++ "=" ++ value))
      else .ok (Text.trim name, value) := by
  have split : Text.splitAtFirst '=' (name ++ "=" ++ value) = some (name, value) :=
    Text.splitAtFirst_eq_some_iff.2 ⟨rfl, absent⟩
  simp only [parseField, split, Text.isEmpty_trim]

/-- A text has no `=`, or a first one. -/
theorem absent_or_first (text : String) :
    '=' ∉ text.toList ∨ ∃ name value, '=' ∉ name.toList ∧ text = name ++ "=" ++ value := by
  cases split : Text.splitAtFirst '=' text with
  | none => exact .inl (Text.splitAtFirst_eq_none_iff.1 split)
  | some parts =>
      obtain ⟨whole, absent⟩ := Text.splitAtFirst_eq_some_iff.1 split
      exact .inr ⟨parts.1, parts.2, absent, whole⟩

theorem trim_ne_empty_iff : Text.trim name ≠ "" ↔ Text.isBlankText name = false := by
  rw [← Text.isEmpty_trim, Ne, ← String.isEmpty_iff, Bool.not_eq_true]

theorem parseField_eq_ok_iff : parseField text = .ok field ↔ IsField text field := by
  constructor
  · intro read
    rcases absent_or_first text with absent | ⟨name, value, absent, rfl⟩
    · rw [parseField_of_absent absent] at read
      cases read
    · rw [parseField_append absent] at read
      split_ifs at read with blank
      cases read
      exact ⟨name, rfl, absent, rfl, trim_ne_empty_iff.2 (Bool.eq_false_of_not_eq_true blank)⟩
  · intro ⟨name, whole, absent, trimmed, named⟩
    rw [trimmed, trim_ne_empty_iff] at named
    rw [whole, parseField_append absent, named, ← trimmed]
    rfl

/-- A text is no field exactly if it has no `=`, or nothing but blanks before the first one. -/
theorem parseField_eq_error_iff :
    (∃ e, parseField text = .error e) ↔ '=' ∉ text.toList ∨
      ∃ name value, '=' ∉ name.toList ∧ text = name ++ "=" ++ value ∧
        Text.isBlankText name = true := by
  constructor
  · intro ⟨e, refused⟩
    rcases absent_or_first text with absent | ⟨name, value, absent, rfl⟩
    · exact .inl absent
    · rw [parseField_append absent] at refused
      split_ifs at refused with blank
      exact .inr ⟨name, value, absent, rfl, blank⟩
  · intro cases
    rcases cases with absent | ⟨name, value, absent, whole, blank⟩
    · exact ⟨_, parseField_of_absent absent⟩
    · rw [whole, parseField_append absent, blank]
      exact ⟨_, rfl⟩

end

/-! ## Fields among the arguments -/

/-- The option for a form field. -/
def fieldArgument : Argument :=
  { name := "field", arity := .many, short := some 'f', shown := "--field <KEY=VALUE>"
    check := checkField "--field <KEY=VALUE>" }

/-- The arguments that give a form field. -/
inductive FieldWords (text : String) : List String → Prop
  | long : FieldWords text ["--field=" ++ text]
  | longApart (undashed : text.toList.head? ≠ some '-') : FieldWords text ["--field", text]
  | short : FieldWords text ["-f=" ++ text]
  | shortJoined {c : Char} {cs : List Char} (letters : text.toList = c :: cs) (other : c ≠ '=') :
      FieldWords text ["-f" ++ text]
  | shortApart (undashed : text.toList.head? ≠ some '-') : FieldWords text ["-f", text]

/-- The values that a scan gives after some more arguments. -/
def fieldsFrom (s : Scan) (words : List String) : Except UsageError Given := do
  let (s, _) ← Scan.run createTable s words
  finish s

namespace Scan

/-- A scan that takes options: it has not met `--`, and no option waits for its value. -/
structure Ready (s : Scan) : Prop where
  options : s.literal = false
  complete : s.wantsValue = false

/-- A scan with nothing left to check. -/
structure Settled (s : Scan) : Prop where
  options : s.literal = false
  checked : s.pending = none

section

variable {s s' : Scan} {text argument : String} {rest : List String}

theorem Settled.ready (isSettled : s.Settled) : s.Ready :=
  ⟨isSettled.options, by rw [wantsValue, isSettled.checked]⟩

theorem Settled.settle (isSettled : s.Settled) : s.settle = .ok s := by
  rw [Scan.settle, isSettled.checked]

theorem take_fieldArgument (s : Scan) (text : String) :
    s.take fieldArgument text =
      (checkField "--field <KEY=VALUE>" text).map fun _ =>
        { s with given := s.given ++ [("field", text)] } := by
  show (checkField "--field <KEY=VALUE>" text >>= fun _ => _) = _
  cases checkField "--field <KEY=VALUE>" text <;> rfl

theorem given_of_take {argument : Argument} (taken : s.take argument text = .ok s') :
    ∃ given, s' = { s with given } := by
  rw [take] at taken
  split at taken
  · cases taken
  · split_ifs at taken
    · cases checked : argument.check text with
      | error e =>
          rw [checked] at taken
          cases taken
      | ok _ =>
          rw [checked] at taken
          cases taken
          exact ⟨_, rfl⟩
    · cases taken
      exact ⟨_, rfl⟩

theorem Settled.of_take {argument : Argument} (isSettled : s.Settled)
    (taken : s.take argument text = .ok s') : s'.Settled := by
  obtain ⟨given, rfl⟩ := given_of_take taken
  exact ⟨isSettled.options, isSettled.checked⟩

theorem Ready.settled (ready : s.Ready) (done : s.settle = .ok s') : s'.Settled := by
  rw [Scan.settle] at done
  split at done
  · rename_i checked
    cases done
    exact ⟨ready.options, checked⟩
  · split at done
    · cases done
    · obtain ⟨given, rfl⟩ := given_of_take done
      exact ⟨ready.options, rfl⟩

/-! ### One argument -/

theorem run_argument (options : s.literal = false) :
    run createTable s (argument :: rest) =
      match argument.toList with
      | ['-', '-'] => run createTable { s with literal := true } rest
      | '-' :: '-' :: body => do run createTable (← s.takeLong createTable body) rest
      | '-' :: c :: letters => do run createTable (← s.takeShort createTable (c :: letters)) rest
      | _ => (do run createTable (← s.takeValue createTable argument) rest) := by
  have none : ¬(!s.wantsValue && decide (argument ∈ createTable.subcommands)) = true := by
    simp [createTable]
  rw [run, options]
  exact (if_neg Bool.false_ne_true).trans (if_neg none)

theorem run_long {c : Char} {body : List Char} (options : s.literal = false)
    (written : argument.toList = '-' :: '-' :: c :: body) :
    run createTable s (argument :: rest) =
      (do run createTable (← s.takeLong createTable (c :: body)) rest) := by
  rw [run_argument options, written]
  rfl

theorem run_short {letters : List Char} (options : s.literal = false)
    (written : argument.toList = '-' :: 'f' :: letters) :
    run createTable s (argument :: rest) =
      (do run createTable (← s.takeShort createTable ('f' :: letters)) rest) := by
  rw [run_argument options, written]
  rfl

/-- An option that waits takes an argument that does not look like an option. -/
theorem run_value (options : s.literal = false) (undashed : text.toList.head? ≠ some '-') :
    run createTable { s with pending := some { argument := fieldArgument, value := none } }
        (text :: rest) =
      run createTable { s with pending := some { argument := fieldArgument, value := some text } }
        rest := by
  have waiting : Scan.literal
      { s with pending := some { argument := fieldArgument, value := none } } = false := options
  rw [run_argument waiting]
  split
  · rename_i same
    exact absurd (congrArg List.head? same) undashed
  · rename_i same
    exact absurd (congrArg List.head? same) undashed
  · rename_i same
    exact absurd (congrArg List.head? same) undashed
  · simp only [takeValue, options]
    rfl

/-! ### One field -/

theorem takeLong_field_text (s : Scan) (text : String) :
    s.takeLong createTable ('f' :: 'i' :: 'e' :: 'l' :: 'd' :: '=' :: text.toList) =
      s.takeOption fieldArgument (some text) := by
  rw [← String.ofList_toList (s := text), String.toList_ofList]
  rfl

theorem takeShort_field_text (s : Scan) (text : String) :
    s.takeShort createTable ('f' :: '=' :: text.toList) =
      s.takeOption fieldArgument (some text) := by
  rw [← String.ofList_toList (s := text), String.toList_ofList]
  rfl

theorem takeShort_field_joined {c : Char} {cs : List Char} (s : Scan)
    (letters : text.toList = c :: cs) (other : c ≠ '=') :
    s.takeShort createTable ('f' :: c :: cs) = s.takeOption fieldArgument (some text) := by
  have found : createTable.options.find? (·.short == some 'f') = some fieldArgument := rfl
  rw [takeShort, found]
  simp only [fieldArgument, reduceCtorEq, if_false]
  split
  · rename_i same
    cases same
  · rename_i same
    exact absurd (List.cons.inj same).1 other
  · rw [← letters, String.ofList_toList]

end

end Scan

open Scan

section

variable {s : Scan} {text argument : String} {words rest texts : List String}
  {spelled : List (List String)} {last : Scan → Except UsageError Given}

/-- A field in one argument with its option is taken once what is pending is settled. -/
theorem fieldsFrom_attached (ready : s.Ready)
    (later : ∀ s : Scan, s.Ready → fieldsFrom s rest = s.settle >>= last)
    (taken : run createTable s (argument :: rest) =
      (do run createTable (← s.takeOption fieldArgument (some text)) rest)) :
    fieldsFrom s (argument :: rest) = (do last (← (← s.settle).take fieldArgument text)) := by
  rw [fieldsFrom, taken, takeOption]
  cases settled : s.settle with
  | error e => rfl
  | ok s' =>
      have isSettled : s'.Settled := ready.settled settled
      show ((s'.take fieldArgument text >>= fun s => run createTable s rest) >>= _) =
        s'.take fieldArgument text >>= last
      cases taken : s'.take fieldArgument text with
      | error e => rfl
      | ok s'' =>
          have stillSettled : s''.Settled := isSettled.of_take taken
          show fieldsFrom s'' rest = last s''
          rw [later s'' stillSettled.ready, stillSettled.settle]
          rfl

/-- A field after its option is pending until the next option is met, and is taken then. -/
theorem fieldsFrom_apart (ready : s.Ready)
    (later : ∀ s : Scan, s.Ready → fieldsFrom s rest = s.settle >>= last)
    (undashed : text.toList.head? ≠ some '-')
    (taken : run createTable s (argument :: text :: rest) =
      (do run createTable (← s.takeOption fieldArgument none) (text :: rest))) :
    fieldsFrom s (argument :: text :: rest) =
      (do last (← (← s.settle).take fieldArgument text)) := by
  rw [fieldsFrom, taken, takeOption]
  cases settled : s.settle with
  | error e => rfl
  | ok s' =>
      have isSettled : s'.Settled := ready.settled settled
      let waiting : Scan := { s' with pending := some { argument := fieldArgument, value := none } }
      let filled : Scan :=
        { s' with pending := some { argument := fieldArgument, value := some text } }
      have isFilled : filled.Ready := ⟨isSettled.options, rfl⟩
      have settles : filled.settle = s'.take fieldArgument text := by
        show ({ filled with pending := none } : Scan).take fieldArgument text = _
        rw [← isSettled.checked]
      show (run createTable waiting (text :: rest) >>= _) = s'.take fieldArgument text >>= last
      rw [run_value isSettled.options undashed, ← settles]
      exact later filled isFilled

/-- However a field is given, it is taken once what is pending is settled. -/
theorem fieldsFrom_fieldWords (given : FieldWords text words) (ready : s.Ready)
    (later : ∀ s : Scan, s.Ready → fieldsFrom s rest = s.settle >>= last) :
    fieldsFrom s (words ++ rest) = (do last (← (← s.settle).take fieldArgument text)) := by
  have options := ready.options
  cases given with
  | long =>
      have written : ("--field=" ++ text).toList =
          '-' :: '-' :: 'f' :: 'i' :: 'e' :: 'l' :: 'd' :: '=' :: text.toList :=
        String.toList_append ..
      refine fieldsFrom_attached ready later ?_
      rw [run_long options written, takeLong_field_text]
  | longApart undashed =>
      refine fieldsFrom_apart ready later undashed ?_
      rw [run_long options rfl]
      rfl
  | short =>
      have written : ("-f=" ++ text).toList = '-' :: 'f' :: '=' :: text.toList :=
        String.toList_append ..
      refine fieldsFrom_attached ready later ?_
      rw [run_short options written, takeShort_field_text]
  | @shortJoined c cs letters other =>
      have written : ("-f" ++ text).toList = '-' :: 'f' :: c :: cs := by
        rw [String.toList_append, letters]
        rfl
      refine fieldsFrom_attached ready later ?_
      rw [run_short options written, takeShort_field_joined s letters other]
  | shortApart undashed =>
      refine fieldsFrom_apart ready later undashed ?_
      rw [run_short options rfl]
      rfl

/-- The fields are taken one after another, in their order. -/
theorem fieldsFrom_eq (given : List.Forall₂ FieldWords texts spelled) (ready : s.Ready) :
    fieldsFrom s spelled.flatten =
      (do
        return (← texts.foldlM (fun s text => s.take fieldArgument text) (← s.settle)).given) := by
  induction given generalizing s with
  | nil => rfl
  | cons first _ ih =>
      rw [List.flatten_cons, fieldsFrom_fieldWords first ready fun s ready => ih ready]
      simp only [List.foldlM_cons, bind_assoc]

end

/-! ## A whole command line -/

/-- Reads a field, or tells why it is refused. -/
def fieldOf (text : String) : Except UsageError (String × String) :=
  (parseField text).mapError fun e =>
    .invalidValue text "--field <KEY=VALUE>" (some e.message)

section

variable {texts : List String} {spelled : List (List String)} {fields : FormValues}

/-- Taking fields adds their texts to what is given, if all of them are fields. -/
theorem foldlM_take (texts : List String) (s : Scan) :
    texts.foldlM (fun s text => s.take fieldArgument text) s =
      (texts.mapM fieldOf).map fun _ => { s with given := s.given ++ texts.map ("field", ·) } := by
  induction texts generalizing s with
  | nil =>
      show Except.ok s = Except.ok { s with given := s.given ++ [] }
      rw [List.append_nil]
  | cons text texts ih =>
      have checked : checkField "--field <KEY=VALUE>" text = (fieldOf text).map fun _ => () := by
        rw [checkField, fieldOf]
        cases parseField text <;> rfl
      rw [List.foldlM_cons, List.mapM_cons, take_fieldArgument, checked]
      cases fieldOf text with
      | error e => rfl
      | ok field =>
          show texts.foldlM _ { s with given := s.given ++ [("field", text)] } = _
          rw [ih, List.append_assoc]
          show _ = Except.map _ (texts.mapM fieldOf >>= fun fields => pure (field :: fields))
          cases texts.mapM fieldOf <;> rfl

theorem mapM_fieldOf_eq_ok_iff :
    texts.mapM fieldOf = .ok fields ↔
      List.Forall₂ IsField texts fields := by
  have read (text : String) (field : String × String) :
      fieldOf text = .ok field ↔ IsField text field :=
    Except.mapError_eq_ok_iff.trans parseField_eq_ok_iff
  induction texts generalizing fields with
  | nil =>
      cases fields with
      | nil => exact ⟨fun _ => .nil, fun _ => rfl⟩
      | cons => exact ⟨nofun, nofun⟩
  | cons text texts ih =>
      rw [List.mapM_cons, List.forall₂_cons_left_iff]
      constructor
      · intro whole
        cases first : fieldOf text with
        | error e =>
            rw [first] at whole
            cases whole
        | ok field =>
            cases later : texts.mapM fieldOf with
            | error e =>
                rw [first, later] at whole
                cases whole
            | ok fields' =>
                rw [first, later] at whole
                cases whole
                exact ⟨field, fields', (read text field).1 first, ih.1 later, rfl⟩
      · intro ⟨field, fields', first, later, whole⟩
        rw [(read text field).2 first, ih.2 later, whole]
        rfl

/-- Where all texts are fields, all of them are read. -/
theorem exists_mapM_fieldOf (fit : ∀ text ∈ texts, ∃ field, parseField text = .ok field) :
    ∃ fields, texts.mapM fieldOf = .ok fields ∧ List.Forall₂ IsField texts fields := by
  have exists_fields : ∃ fields, List.Forall₂ IsField texts fields := by
    induction texts with
    | nil => exact ⟨[], .nil⟩
    | cons text texts ih =>
        obtain ⟨field, first⟩ := fit text List.mem_cons_self
        obtain ⟨fields, later⟩ := ih fun text member => fit text (List.mem_cons_of_mem _ member)
        exact ⟨field :: fields, .cons (parseField_eq_ok_iff.1 first) later⟩
  obtain ⟨fields, written⟩ := exists_fields
  exact ⟨fields, mapM_fieldOf_eq_ok_iff.2 written, written⟩

/-- The first text that is no field is refused. -/
theorem mapM_fieldOf_of_error {before after : List String} {text : String} {e : FieldError}
    (fit : ∀ text ∈ before, ∃ field, parseField text = .ok field)
    (refused : parseField text = .error e) :
    (before ++ text :: after).mapM fieldOf =
      .error (.invalidValue text "--field <KEY=VALUE>" (some e.message)) := by
  obtain ⟨fields, read, _⟩ := exists_mapM_fieldOf fit
  rw [List.mapM_append, read, List.mapM_cons, fieldOf, refused]
  rfl

theorem filterMap_parseField (read : List.Forall₂ IsField texts fields) :
    (texts.filterMap fun text => (parseField text).toOption) = fields := by
  induction read with
  | nil => rfl
  | cons first _ ih =>
      rw [List.filterMap_cons, parseField_eq_ok_iff.2 first, ih]
      rfl

/-- The arguments that name the link to post to, if one is named. -/
def actionWords (action : Option String) : List String :=
  (action.map ("--action=" ++ ·)).toList

theorem fieldsFrom_actionWords (action : Option String) (rest : List String) :
    fieldsFrom {} (actionWords action ++ rest) =
      fieldsFrom { given := (action.map (("action", ·))).toList } rest := by
  cases action with
  | none => rfl
  | some link =>
      have written : ("--action=" ++ link).toList =
          '-' :: '-' :: 'a' :: 'c' :: 't' :: 'i' :: 'o' :: 'n' :: '=' :: link.toList :=
        String.toList_append ..
      show fieldsFrom {} (("--action=" ++ link) :: rest) = _
      have taken : (({} : Scan).takeLong createTable
          ('a' :: 'c' :: 't' :: 'i' :: 'o' :: 'n' :: '=' :: link.toList)) =
          .ok { given := [("action", link)] } := by
        rw [← String.ofList_toList (s := link), String.toList_ofList]
        rfl
      rw [fieldsFrom, run_long rfl written, taken]
      rfl

/-- A subcommand reads what follows its name. -/
theorem branch_cons {α : Type} {subcommands : List String} {name : String}
    {read : String → List String → Except UsageError α} (known : name ∈ subcommands)
    (other : name ≠ "help") (rest : List String) :
    branch subcommands (name :: rest) read = read name rest := by
  have met : Scan.run { subcommands } {} (name :: rest) = .ok ({}, some (name, rest)) := by
    have wants : ({} : Scan).wantsValue = false := rfl
    simp only [run, wants, known, decide_true, Bool.not_false, Bool.and_true, Bool.false_eq_true,
      if_false, if_true]
  have later : branch? { subcommands } (name :: rest) read =
      (read name rest).map fun a => ([], some a) := by
    rw [branch?, met]
    show (if name = "help" then _ else read name rest >>= _) = _
    rw [if_neg other]
    cases read name rest <;> rfl
  rw [branch, later]
  cases read name rest <;> rfl

/-- **A command line with form fields.**  `campaign create` takes the fields in their order, however
they are given; where one of the texts is no field, the first such text is refused. -/
theorem command_create (given : List.Forall₂ FieldWords texts spelled) (action : Option String) :
    command ("campaign" :: "create" :: (actionWords action ++ spelled.flatten)) =
      (texts.mapM fieldOf).map fun fields => .campaign (.create action fields) := by
  let values : Given := (action.map (("action", ·))).toList ++ texts.map ("field", ·)
  have taken : leaf createTable (actionWords action ++ spelled.flatten) =
      (texts.mapM fieldOf).map fun _ => values := by
    have ready : ({ given := (action.map (("action", ·))).toList } : Scan).Ready := ⟨rfl, rfl⟩
    show fieldsFrom {} _ = _
    rw [fieldsFrom_actionWords, fieldsFrom_eq given ready]
    show (texts.foldlM (fun s text => Scan.take s fieldArgument text) _ >>= _) = _
    rw [foldlM_take]
    cases texts.mapM fieldOf <;> rfl
  have link : values.value? "action" = action := by
    have others : (texts.map ("field", ·)).filter (·.1 == "action") = [] := by
      simp [List.filter_eq_nil_iff]
    rw [Given.value?, Given.valuesOf, List.filter_append, others, List.append_nil]
    cases action <;> rfl
  have written : values.valuesOf "field" = texts := by
    have others : ((action.map (("action", ·))).toList).filter (·.1 == "field") = [] := by
      cases action <;> rfl
    have all : (texts.map ("field", ·)).filter (·.1 == "field") = texts.map ("field", ·) := by
      simp [List.filter_eq_self]
    rw [Given.valuesOf, List.filter_append, others, all, List.nil_append, List.map_map]
    exact List.map_id _
  rw [command, branch_cons (by decide) (by decide)]
  show branch _ _ campaignCommand = _
  rw [branch_cons (by decide) (by decide)]
  show (leaf createTable (actionWords action ++ spelled.flatten) >>= _) = _
  rw [taken]
  cases read : texts.mapM fieldOf with
  | error e => rfl
  | ok fields =>
      show Except.ok (Command.campaign (.create (values.value? "action")
        ((values.valuesOf "field").filterMap fun text => (parseField text).toOption))) = _
      rw [link, written, filterMap_parseField (mapM_fieldOf_eq_ok_iff.1 read)]
      rfl

end

end CampaignConsole.CommandLine
