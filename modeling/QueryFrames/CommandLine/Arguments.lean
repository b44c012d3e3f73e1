import QueryFrames.Dialect

/-!
Command-line arguments. A command has its own options, and one option goes with every command and may also stand
before it. An option takes its value from the same argument or from the next one, which must not look like an
option itself; after a double hyphen nothing is an option. Arguments are read in order, and the first mistake or
the first call for help decides.
-/

namespace QueryFrames.CommandLine

/-- What can be done with a query. -/
inductive Command where
  | compile
  | schema
  | count
  | head
deriving DecidableEq, Repr

/-- The options that take a value. -/
inductive Setting where
  | config
  | view
  | dialect
  | rows
deriving DecidableEq, Repr

/-- Why arguments cannot be understood. -/
inductive UsageError where
  | noCommand
  | unknownCommand (name : String)
  | unknownOption (argument : String)
  | unexpected (argument : String)
  | missingValue (option : String)
  | invalidValue (value option : String)
  | repeated (option : String)
  | missingFile
deriving DecidableEq, Repr

/-- The text shown for a mistake in the arguments. -/
def UsageError.message : UsageError → String
  | noCommand => "a command is required: compile, schema, count or head"
  | unknownCommand name => "unrecognized command '" ++ name ++ "'"
  | unknownOption argument | unexpected argument => "unexpected argument '" ++ argument ++ "'"
  | missingValue option => "a value is required for '" ++ option ++ "'"
  | invalidValue value option => "invalid value '" ++ value ++ "' for '" ++ option ++ "'"
  | repeated option => "the option '" ++ option ++ "' cannot be used multiple times"
  | missingFile => "a query file is required"

namespace Command

/-- All commands. -/
def all : List Command := [compile, schema, count, head]

/-- The name of a command. -/
def name : Command → String
  | compile => "compile"
  | schema => "schema"
  | count => "count"
  | head => "head"

/-- The command of exactly that name. -/
def ofName? (text : String) : Option Command :=
  all.find? (·.name = text)

/-- The options of a command. -/
def settings : Command → List Setting
  | compile => [.config, .view, .dialect]
  | schema | count => [.config, .view]
  | head => [.config, .view, .rows]

end Command

namespace Setting

/-- All options that take a value. -/
def all : List Setting := [config, view, dialect, rows]

/-- The name of an option, which follows two hyphens. -/
def name : Setting → String
  | config => "config"
  | view => "view"
  | dialect => "dialect"
  | rows => "rows"

/-- The letter of an option, which follows one hyphen. -/
def letter? : Setting → Option Char
  | dialect => some 'd'
  | rows => some 'n'
  | config | view => none

end Setting

/-! ### Arguments one by one -/

/-- What an argument looks like. -/
inductive Word where
  | separator
  | long (name : String) (value : Option String)
  | short (letter : Char) (rest : List Char)
  | plain (text : String)
deriving DecidableEq, Repr

/-- A text cut at its first equals sign. -/
def splitAtEquals (text : List Char) : String × Option String :=
  match text.dropWhile (· ≠ '=') with
  | [] => (String.ofList text, none)
  | _ :: value => (String.ofList (text.takeWhile (· ≠ '=')), some (String.ofList value))

/-- The look of an argument. -/
def Word.ofArgument (argument : String) : Word :=
  match argument.toList with
  | ['-', '-'] => .separator
  | '-' :: '-' :: text =>
    let (name, value) := splitAtEquals text
    .long name value
  | '-' :: letter :: rest => .short letter rest
  | _ => .plain argument

/-- Whether an argument looks like an option, so that it cannot be the value of one. -/
def looksLikeOption (argument : String) : Bool :=
  match Word.ofArgument argument with
  | .plain _ => false
  | _ => true

/-- A row count: decimal digits with an optional sign, within 64 bits. -/
def rowCount? (text : String) : Option Int :=
  let (negative, digits) :=
    match text.toList with
    | '-' :: digits => (true, digits)
    | '+' :: digits => (false, digits)
    | digits => (false, digits)
  if digits = [] || !digits.all Char.isDigit then none
  else
    let magnitude : Int := digits.foldl (fun value c => value * 10 + (c.toNat - 48)) 0
    let value := if negative then -magnitude else magnitude
    if -Int.pow 2 63 ≤ value ∧ value < Int.pow 2 63 then some value else none

/-! ### Reading -/

/-- What the arguments of one level have given so far. -/
structure Given where
  config : Option String
  views : List String
  dialect : Option Dialect
  rows : Option Int
  file : Option String
deriving DecidableEq, Repr

namespace Given

/-- Nothing given yet. -/
def nothing : Given := ⟨none, [], none, none, none⟩

/-- A value given to an option. -/
def set (given : Given) (setting : Setting) (value : String) : Except UsageError Given :=
  let invalid := .error (.invalidValue value ("--" ++ setting.name))
  let repeated := .error (.repeated ("--" ++ setting.name))
  match setting with
  | .view => .ok { given with views := given.views ++ [value] }
  | .config =>
    if given.config.isSome then repeated
    else if value = "" then invalid
    else .ok { given with config := some value }
  | .dialect =>
    if given.dialect.isSome then repeated
    else
      match Dialect.ofName? value with
      | some dialect => .ok { given with dialect := some dialect }
      | none => invalid
  | .rows =>
    if given.rows.isSome then repeated
    else
      match rowCount? value with
      | some rows => .ok { given with rows := some rows }
      | none => invalid

/-- A query file given. -/
def addFile (given : Given) (path : String) : Except UsageError Given :=
  if given.file.isSome then .error (.unexpected path)
  else if path = "" then .error (.invalidValue path "FILE")
  else .ok { given with file := some path }

end Given

/-- What a run is asked for. -/
structure Job where
  command : Command
  config : Option String
  views : List String
  file : String
  dialect : Option Dialect
  rows : Int
deriving DecidableEq, Repr

/-- What arguments ask for. -/
inductive Invocation where
  | run (job : Job)
  | version
  | help
deriving DecidableEq, Repr

/-- How many rows are shown unless arguments say otherwise. -/
def defaultRows : Int := 10

/-- The job that the arguments of a command amount to; its own `config` wins over one before the command. -/
def Given.job (given : Given) (outer : Given) (command : Command) : Except UsageError Invocation :=
  match given.file with
  | none => .error .missingFile
  | some file =>
    .ok (.run
      { command
        config := given.config.or outer.config
        views := given.views
        file
        dialect := given.dialect
        rows := given.rows.getD defaultRows })

/-- What an argument means among the options of a level. -/
inductive Meaning where
  | separator
  | help
  | version
  | setting (setting : Setting) (value : Option String)
  | unknown
  | plain (text : String)

/-- The meaning of an argument; only a level that has a version of its own shows it. -/
def Meaning.ofArgument (settings : List Setting) (versioned : Bool) (argument : String) : Meaning :=
  match Word.ofArgument argument with
  | .separator => .separator
  | .plain text => .plain text
  | .long name value =>
    if name = "help" then if value = none then .help else .unknown
    else if name = "version" ∧ versioned then if value = none then .version else .unknown
    else
      match settings.find? (·.name = name) with
      | some found => .setting found value
      | none => .unknown
  | .short letter rest =>
    if letter = 'h' then .help
    else if letter = 'V' ∧ versioned then .version
    else
      match settings.find? (·.letter? = some letter) with
      | none => .unknown
      | some found =>
        match rest with
        | [] => .setting found none
        | '=' :: value => .setting found (some (String.ofList value))
        | value => .setting found (some (String.ofList value))

/-- The arguments of a command. -/
def readCommand (command : Command) (outer : Given) : Given → List String → Except UsageError Invocation
  | given, [] => given.job outer command
  | given, argument :: arguments =>
    match Meaning.ofArgument command.settings false argument with
    | .help => .ok .help
    | .version | .unknown => .error (.unknownOption argument)
    | .plain path => do readCommand command outer (← given.addFile path) arguments
    | .separator => do (← arguments.foldlM Given.addFile given).job outer command
    | .setting setting (some value) => do readCommand command outer (← given.set setting value) arguments
    | .setting setting none =>
      match arguments with
      | [] => .error (.missingValue argument)
      | value :: arguments =>
        if looksLikeOption value then .error (.missingValue argument)
        else do readCommand command outer (← given.set setting value) arguments

/-- What a call for help is about: nothing more, or one command. -/
def readHelp : List String → Except UsageError Invocation
  | [] => .ok .help
  | [name] =>
    if name = "help" ∨ (Command.ofName? name).isSome then .ok .help else .error (.unknownCommand name)
  | _ :: name :: _ => .error (.unknownCommand name)

/-- All arguments, up to the command those that stand before it. -/
def readFrom : Given → List String → Except UsageError Invocation
  | _, [] => .error .noCommand
  | given, argument :: arguments =>
    match Meaning.ofArgument [.config] true argument with
    | .help => .ok .help
    | .version => .ok .version
    | .unknown => .error (.unknownOption argument)
    | .separator => .error .noCommand
    | .plain name =>
      if name = "help" then readHelp arguments
      else
        match Command.ofName? name with
        | some command => readCommand command given .nothing arguments
        | none => .error (.unknownCommand name)
    | .setting setting (some value) => do readFrom (← given.set setting value) arguments
    | .setting setting none =>
      match arguments with
      | [] => .error (.missingValue argument)
      | value :: arguments =>
        if looksLikeOption value then .error (.missingValue argument)
        else do readFrom (← given.set setting value) arguments

/-- What the arguments of a program ask for. -/
def Invocation.ofArguments (arguments : List String) : Except UsageError Invocation :=
  readFrom .nothing arguments

end QueryFrames.CommandLine
