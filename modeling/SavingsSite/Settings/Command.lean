import SavingsSite.Settings.Basic
import SavingsSite.Settings.Choice
import SavingsSite.Text.Quoted
import SavingsSite.Text.Small
import SavingsSite.Text.WordChar

set_option autoImplicit false

/-! Settings from the words of a command line. Each key has an option of its own name, whose value
is the next word or stands behind an equals sign; the last value of a key counts, and an empty one
counts as absent. -/

namespace SavingsSite.Settings

/-- How the option of a flag is written: with a value, as a pair of switches, or as one switch. -/
inductive FlagForm where
  | valued
  | paired
  | single
  deriving DecidableEq, Repr

structure CommandForm where
  /-- Whether options are told apart by the case of their letters. -/
  cased : Bool := true
  mark : Char := '-'
  lead : String := ""
  hyphens : Bool := false
  flags : FlagForm := .valued
  shortcuts : List (String × List String) := []
  nullWord : Option String := some "null"
  tolerant : Bool := false
  complete : Bool := false
  exits : Bool := true
  deriving DecidableEq, Repr

inductive CommandFault where
  | notWords (given : Json)
  | notWord (given : Json)
  | badLead (lead : String)
  | refused (reason : String)
  | ended (code : Nat)

def CommandFault.message : CommandFault → String
  | notWords given =>
      "cli_parse_args must be a list or tuple of strings, received <class '" ++
        given.sortName ++ "'>"
  | notWord given => "'" ++ given.sortName ++ "' object is not subscriptable"
  | badLead lead => "CLI settings source prefix is invalid: " ++ lead
  | refused reason => "error parsing CLI: " ++ reason
  | ended code => toString code

inductive OptionUse where
  | value (key : String)
  | switch (key : String) (on : Bool)
  | help
  deriving DecidableEq, Repr

structure CommandOption where
  name : List Char
  /-- All names of options with the same use, as messages list them. -/
  label : String
  purpose : OptionUse
  deriving DecidableEq, Repr

namespace CommandForm

def keyNames (form : CommandForm) (key : String) : List (List Char) :=
  let whole := form.lead.toList ++ (if form.cased then key else Text.lowered key).toList
  let name := if form.hyphens then whole.map fun c => if c = '_' then '-' else c else whole
  name :: ((form.shortcuts.lookup (String.ofList name)).getD []).map String.toList

def marked (form : CommandForm) (name : List Char) : List Char :=
  List.replicate (min 2 name.length) form.mark ++ name

def contrary (option : List Char) : List (List Char) :=
  if "--".toList.isPrefixOf option then ["--no-".toList ++ option.drop 2] else []

def isSwitch (form : CommandForm) (key : String) : Bool :=
  key = "DEBUG" && form.flags ≠ .valued

def keyOptionNames (form : CommandForm) (key : String) : List (List Char) :=
  let names := (form.keyNames key).map form.marked
  if form.isSwitch key && form.flags = .paired then
    names.flatMap fun name => name :: contrary name
  else names

def keyLabel (form : CommandForm) (key : String) : String :=
  "/".intercalate ((form.keyOptionNames key).map String.ofList)

def keyOptions (form : CommandForm) (key : String) : List CommandOption :=
  (form.keyOptionNames key).map fun name =>
    ⟨name, form.keyLabel key,
      if form.isSwitch key then .switch key (!"--no-".toList.isPrefixOf name) else .value key⟩

def options (form : CommandForm) : List CommandOption :=
  let short := [form.mark, 'h']
  let long := form.mark :: form.mark :: "help".toList
  let label := String.ofList (short ++ '/' :: long)
  [⟨short, label, .help⟩, ⟨long, label, .help⟩] ++ keys.flatMap form.keyOptions

/-- A word as it is compared: an option is in small letters, up to its equals sign, and then goes
on to the end of its line. -/
def word (form : CommandForm) (given : String) : String :=
  let ends := fun c => c = '=' || Text.isBlank c
  let start := given.toList.takeWhile (!ends ·)
  if form.cased || given.toList.head? ≠ some form.mark || start.length < 2 then given
  else
    Text.lowered (String.ofList start) ++
      String.ofList ((given.toList.drop start.length).takeWhile (· ≠ '\n'))

end CommandForm

inductive WordKind where
  | plain
  | option (found : CommandOption) (attached : Option (List Char))
  | letters (found : CommandOption) (more : List Char)
  | unknown

/-- Digits after a minus sign, with a point before the last of them or none. -/
def isNegativeNumber (word : List Char) : Bool :=
  let unended := if word.getLast? = some '\n' then word.dropLast else word
  match unended with
  | '-' :: rest =>
      let after := rest.dropWhile Text.isDecimalDigit
      match after with
      | [] => !rest.isEmpty
      | '.' :: places => !places.isEmpty && places.all Text.isDecimalDigit
      | _ => false
  | _ => false

/-- The kind of a word. One that starts like an option and is none counts as plain when it is a
negative number or has a space in it. -/
def CommandForm.kindOf (form : CommandForm) (word : List Char) : WordKind :=
  let find := fun name => form.options.find? (·.name = name)
  let before := word.takeWhile (· ≠ '=')
  let attached := word.drop (before.length + 1)
  match word with
  | [] => .plain
  | first :: rest =>
      if first ≠ form.mark then .plain
      else
        match find word with
        | some found => .option found none
        | none =>
            if rest.isEmpty then .plain
            else
              match if before.length < word.length then find before else none with
              | some found => .option found (some attached)
              | none =>
                  match if rest.head? = some form.mark then none else find (word.take 2) with
                  | some found => .letters found (word.drop 2)
                  | none =>
                      if isNegativeNumber word || word.contains ' ' then .plain else .unknown

def CommandForm.isPlain (form : CommandForm) (word : String) : Bool :=
  word ≠ "--" &&
    match form.kindOf word.toList with
    | .plain => true
    | _ => false

def CommandForm.refuse {α : Type} (form : CommandForm) (reason : String) : Except CommandFault α :=
  .error (if form.exits then .ended 2 else .refused reason)

/-- What is wrongly attached to an option of one letter, when more letters follow it: each of them
may be the same option again. -/
def CommandForm.misplaced? (form : CommandForm) (letter : Char) : List Char → Option (List Char)
  | [] => none
  | c :: rest =>
      if c = form.mark then some (c :: rest)
      else if c ≠ letter then none
      else
        match rest with
        | '=' :: attached => some attached
        | _ => form.misplaced? letter rest

def CommandForm.refuseOption {α : Type} (form : CommandForm) (found : CommandOption)
    (reason : String) : Except CommandFault α :=
  form.refuse ("argument " ++ found.label ++ ": " ++ reason)

def CommandForm.refuseAttached {α : Type} (form : CommandForm) (found : CommandOption)
    (attached : List Char) : Except CommandFault α :=
  form.refuseOption found
    ("ignored explicit argument " ++ Text.quoted (String.ofList attached))

/-- What words say: values of keys in order, and the words that nothing asked for. -/
structure Command where
  values : List (String × Json) := []
  others : List String := []

def Command.withValue (key : String) (value : Json) (command : Command) : Command :=
  { command with values := (key, value) :: command.values }

def Command.withOther (word : String) (command : Command) : Command :=
  { command with others := word :: command.others }

/-- The words of a command line in turn. After a word of two hyphens no option follows. -/
def CommandForm.readWords (form : CommandForm) : List String → Except CommandFault Command
  | [] => .ok {}
  | word :: rest =>
      if word = "--" then .ok { others := word :: rest }
      else
        match form.kindOf word.toList with
        | .plain => (form.readWords rest).map (.withOther word)
        | .unknown => (form.readWords rest).map (.withOther word)
        | .letters found more =>
            match found.purpose with
            | .value key =>
                (form.readWords rest).map (.withValue key (Json.ofString (String.ofList more)))
            | _ =>
                match form.misplaced? 'h' more with
                | some attached => form.refuseAttached found attached
                | none => .error (.ended 0)
        | .option found (some attached) =>
            match found.purpose with
            | .value key =>
                (form.readWords rest).map
                  (.withValue key (Json.ofString (String.ofList attached)))
            | _ => form.refuseAttached found attached
        | .option found none =>
            match found.purpose with
            | .help => .error (.ended 0)
            | .switch key on => (form.readWords rest).map (.withValue key (.flag on))
            | .value key =>
                match rest with
                | [] => form.refuseOption found "expected one argument"
                | next :: more =>
                    if form.isPlain next then
                      (form.readWords more).map (.withValue key (Json.ofString next))
                    else form.refuseOption found "expected one argument"

/-- The names of the required keys that no word gives a value, as messages list them. -/
def CommandForm.missing (form : CommandForm) (command : Command) : List String :=
  (keys.filter fun key =>
    kind.fields.requires key && !command.values.any (·.1 = key)).map form.keyLabel

def CommandForm.read (form : CommandForm) (words : List String) : Except CommandFault Command :=
  match form.readWords (words.map form.word) with
  | .error fault => .error fault
  | .ok command =>
      let missing := form.missing command
      if form.complete && !missing.isEmpty then
        form.refuse ("the following arguments are required: " ++ ", ".intercalate missing)
      else if !form.tolerant && !command.others.isEmpty then
        form.refuse ("unrecognized arguments: " ++ " ".intercalate command.others)
      else .ok command

def CommandForm.value? (form : CommandForm) (command : Command) (key : String) : Option Json :=
  match (command.values.filter (·.1 = key)).getLast? with
  | none => none
  | some (_, .text (.sound text)) =>
      if text = "" then none
      else if form.nullWord = some text then some .null
      else some (Json.ofString text)
  | some (_, value) => some value

/-- The text that means null on a command line: a given one, if it is not void, or the default. -/
def chosenNullWord (given : Json.Fields) : Option String :=
  let default : String :=
    match choice? given "_cli_avoid_json" with
    | some (.flag true) => "None"
    | _ => "null"
  match choice? given "_cli_parse_none_str" with
  | none => some default
  | some value =>
      if value.isVoid then some default
      else
        match value with
        | .text (.sound word) => some word
        | _ => none

def isLead (lead : String) : Bool :=
  let name := lead.toList.filter (· ≠ '.')
  lead.toList.head? ≠ some '.' && lead.toList.getLast? ≠ some '.' &&
    name.all Text.isWordChar && name.head?.any (!Text.isDecimalDigit ·)

def textsOf : Json → List String
  | .text (.sound text) => [text]
  | .list items =>
      items.filterMap fun
        | .text (.sound text) => some text
        | _ => none
  | _ => []

def chosenShortcuts (given : Json.Fields) : List (String × List String) :=
  match choice? given "_cli_shortcuts" with
  | some (.record fields) =>
      fields.filterMap fun (name, value) => name.sound?.map (·, textsOf value)
  | _ => []

def CommandForm.ofGiven (given : Json.Fields) : Except CommandFault CommandForm :=
  let lead := (chosenText? given "_cli_prefix").getD ""
  if lead ≠ "" && !isLead lead then .error (.badLead lead)
  else .ok {
    cased := isChosen given "_case_sensitive" true
    mark := (((chosenText? given "_cli_flag_prefix_char").getD "-").toList.head?).getD '-'
    lead := if lead = "" then "" else lead ++ "."
    hyphens :=
      match choice? given "_cli_kebab_case" with
      | some (.flag on) => on
      | some (.text (.sound word)) => word = "all" || word = "no_enums"
      | _ => false
    flags :=
      if chosenText? given "_cli_implicit_flags" = some "toggle" then .single
      else if isChosen given "_cli_implicit_flags" false then .paired
      else .valued
    shortcuts := chosenShortcuts given
    nullWord := chosenNullWord given
    tolerant := isChosen given "_cli_ignore_unknown_args" false
    complete := isChosen given "_cli_enforce_required" false
    exits := isChosen given "_cli_exit_on_error" true }

def wordsOf : List Json → Except CommandFault (List String)
  | [] => .ok []
  | .text (.sound word) :: rest => (wordsOf rest).map (word :: ·)
  | other :: _ => .error (.notWord other)

/-- The words that a value stands for: those of a list, those of the running command when it says
yes (which has none), and none to be read when it says no. -/
def givenWords? (value : Json) : Except CommandFault (Option (List String)) :=
  match value with
  | .flag true => .ok (some [])
  | .list items => (wordsOf items).map some
  | .flag false => .ok none
  | .whole n => if n = 0 then .ok none else .error (.notWords value)
  | .real x => if (Json.real x).isVoid then .ok none else .error (.notWords value)
  | _ => .error (.notWords value)

def commandFields (given : Json.Fields) : Except CommandFault Json.Fields :=
  match choice? given "_cli_parse_args" with
  | none => .ok []
  | some value => do
      let form ← CommandForm.ofGiven given
      match ← givenWords? value with
      | none => .ok []
      | some words =>
          let command ← form.read words
          .ok (keys.filterMap fun key => (form.value? command key).map (.sound key, ·))

end SavingsSite.Settings
