import ClassDiagram.Text.Terminal

/-! # Options of a command

An option has a long name, perhaps a letter, and perhaps a value.  Arguments are read from left to
right.  An option whose value stands in the next argument is *pending*: it is judged only when the
next option comes, or when the arguments end, so that a fault found in between is reported first. -/

namespace ClassDiagram.Command

/-- Which values an option takes. -/
inductive ValueRule where
  /-- Any text. -/
  | any
  /-- Any text that is not empty. -/
  | path
  | oneOf (words : List String)

/-- The value of an option: how usage lines name it, and what it may be. -/
structure ValueSpec where
  label : String
  rule : ValueRule

/-- What giving an option does, besides being noted. -/
inductive Effect where
  | none
  | version
  | help
  deriving DecidableEq

/-- An option and what it takes. -/
structure OptionSpec where
  long : String
  short : Option Char := .none
  /-- The option's value; a flag has none. -/
  value : Option ValueSpec := .none
  effect : Effect := .none

/-- How usage errors name an option. -/
def OptionSpec.display (o : OptionSpec) : String :=
  "--" ++ o.long ++ match o.value with
    | some v => " <" ++ v.label ++ ">"
    | none => ""

/-- What is wrong with the arguments. -/
inductive UsageError where
  | unexpectedArgument (argument : String)
  | unrecognizedSubcommand (argument : String)
  | repeated (option : String)
  | valueMissing (option : String)
  | invalidValue (value option : String)
  | unexpectedValue (value option : String)
  | subcommandMissing
  /-- There is nothing to be done. -/
  | nothingGiven
  deriving DecidableEq, Repr

/-- What the program is, in a line. -/
def about : String := "Render a program's type declarations as PlantUML class diagrams"

/-- The first line of a usage error.  Arguments are cited as a terminal shows them. -/
def UsageError.message : UsageError → String
  | .unexpectedArgument a => "error: unexpected argument '" ++ Text.shown a ++ "' found"
  | .unrecognizedSubcommand a => "error: unrecognized subcommand '" ++ Text.shown a ++ "'"
  | .repeated o => "error: the argument '" ++ o ++ "' cannot be used multiple times"
  | .valueMissing o => "error: a value is required for '" ++ o ++ "' but none was supplied"
  | .invalidValue v o => "error: invalid value '" ++ Text.shown v ++ "' for '" ++ o ++ "'"
  | .unexpectedValue v o =>
    "error: unexpected value '" ++ Text.shown v ++ "' for '" ++ o
      ++ "' found; no more were expected"
  | .subcommandMissing => "error: 'typeuml' requires a subcommand but one was not provided"
  | .nothingGiven => about

/-- Why reading the arguments stops early. -/
inductive Halt where
  | usage (error : UsageError)
  | version
  | help
  deriving DecidableEq, Repr

/-- An option that was named, and the value that followed it so far. -/
structure Pending where
  option : OptionSpec
  value : Option String

/-- What has been read of the arguments. -/
structure Given where
  /-- The options by their long names, with their values; a flag has the empty value. -/
  options : List (String × String) := []
  pending : Option Pending := none

namespace Given

/-- Whether an option was given. -/
def has (g : Given) (long : String) : Bool := g.options.any (·.1 == long)

/-- The value of an option that was given. -/
def value? (g : Given) (long : String) : Option String := g.options.lookup long

/-- Judges the value of an option. -/
def judge (o : OptionSpec) (spec : ValueSpec) (value : String) : Except Halt Unit :=
  match spec.rule with
  | .any => .ok ()
  | .path => if value.isEmpty then .error (.usage (.valueMissing o.display)) else .ok ()
  | .oneOf words =>
    if value.isEmpty then .error (.usage (.valueMissing o.display))
    else if words.contains value then .ok ()
    else .error (.usage (.invalidValue value o.display))

/-- Notes an option.  A missing value, a repetition and a bad value are refused, in this order. -/
def note (g : Given) (o : OptionSpec) (value : Option String) : Except Halt Given :=
  let noted (text : String) : Given := { g with options := (o.long, text) :: g.options }
  let repeated : Except Halt Given := .error (.usage (.repeated o.display))
  match o.value, value with
  | some spec, some text =>
    if g.has o.long then repeated
    else do
      judge o spec text
      return noted text
  | some _, none => .error (.usage (.valueMissing o.display))
  | none, _ => if g.has o.long then repeated else .ok (noted "")

/-- Notes the pending option. -/
def settle (g : Given) : Except Halt Given :=
  match g.pending with
  | some p => { g with pending := none }.note p.option p.value
  | none => .ok g

/-- Names an option, with the value that is attached to it. -/
def name (g : Given) (o : OptionSpec) (attached : Option String) : Except Halt Given := do
  let g ← g.settle
  match o.value, attached with
  | some _, none => return { g with pending := some ⟨o, none⟩ }
  | _, _ =>
    match o.effect with
    | .version => throw .version
    | .help => throw .help
    | .none => g.note o attached

/-- Whether the next argument can be the value of the pending option. -/
def awaitsValue (g : Given) : Bool :=
  match g.pending with
  | some p => p.value.isNone
  | none => false

/-- Gives the pending option its value. -/
def supply (g : Given) (value : String) : Given :=
  { g with pending := g.pending.map fun p => { p with value := some value } }

end Given

/-- An argument `--name` or `--name=value`, after its dashes. -/
def readLong (specs : List OptionSpec) (g : Given) (argument : List Char) : Except Halt Given :=
  let name := argument.takeWhile (· != '=')
  let attached :=
    if name.length < argument.length then some (String.ofList (argument.drop (name.length + 1)))
    else none
  match specs.find? (·.long == String.ofList name), attached with
  | none, _ => .error (.usage (.unexpectedArgument ("--" ++ String.ofList name)))
  | some o, some value =>
    if o.value.isNone then .error (.usage (.unexpectedValue value o.display))
    else g.name o (some value)
  | some o, none => g.name o none

/-- The letters of an argument `-abc`, after its dash.  The rest behind a letter that takes a value
is the value, also after an equals sign. -/
def readShort (specs : List OptionSpec) : Given → List Char → Except Halt Given
  | g, [] => .ok g
  | g, c :: rest =>
    match specs.find? (·.short == some c) with
    | none => .error (.usage (.unexpectedArgument ("-" ++ String.singleton c)))
    | some o =>
      match o.value, rest with
      | some _, [] => g.name o none
      | some _, '=' :: value => g.name o (some (String.ofList value))
      | some _, value => g.name o (some (String.ofList value))
      | none, rest => do
        let g ← g.name o none
        readShort specs g rest

/-- What arguments are given to. -/
structure Grammar where
  options : List OptionSpec
  subcommands : List String := []

/-- The refusal of an argument that is neither an option nor a value.  Where a subcommand can stand,
any other word is taken for an unknown one. -/
def Grammar.refusal (grammar : Grammar) (argument : String) : UsageError :=
  if grammar.subcommands.isEmpty ∨ grammar.subcommands.contains argument then
    .unexpectedArgument argument
  else .unrecognizedSubcommand argument

/-- Reads arguments up to their end, or up to a subcommand, which is returned with those after it.
Nothing but refusals comes after the argument `--`. -/
def readArguments (grammar : Grammar) :
    Given → List String → Except Halt (Given × Option (String × List String))
  | g, [] => .ok (g, none)
  | g, argument :: rest =>
    if grammar.subcommands.contains argument ∧ !g.awaitsValue then .ok (g, some (argument, rest))
    else
      match argument.toList with
      | ['-', '-'] =>
        match rest with
        | [] => .ok (g, none)
        | next :: _ => .error (.usage (grammar.refusal next))
      | '-' :: '-' :: long => do
        let g ← readLong grammar.options g long
        readArguments grammar g rest
      | '-' :: c :: letters => do
        let g ← readShort grammar.options g (c :: letters)
        readArguments grammar g rest
      | _ =>
        if g.awaitsValue then readArguments grammar (g.supply argument) rest
        else .error (.usage (grammar.refusal argument))

end ClassDiagram.Command
