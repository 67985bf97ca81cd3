/-!
# Reading a command line

A command line is read level by level. A level has options, each with one value; it ends where the
name of a command stands, and a level without commands takes one argument instead. A lone `--` makes
everything behind it an argument.

An option with its value behind an equals sign is taken at once. One whose value is the next
argument is taken only when the next option or argument is read, so faults are reported in the order
in which they become certain, and a fault of a value comes after one of the command behind it.
-/

namespace ChainExplorer.Cli

/-- Why a command line is not carried out. -/
inductive ArgumentFault where
  | help
  | version
  /-- Nothing at all is given. -/
  | nothingGiven
  | noCommand
  | unknownCommand
  | unknownArgument
  | noValue
  | badValue
  /-- An option takes no value. -/
  | uncalledValue
  | repeatedOption
  | noArgument
  deriving DecidableEq, Repr

/-- An option, and what its value does to the settings of type `α`. -/
structure Setting (α : Type) where
  name : String
  /-- The variable of the environment that stands in for the option. -/
  envName : Option String := none
  set : String → α → Option α

/-- A level of a command line. -/
structure Level (α : Type) where
  settings : List (Setting α)
  /-- The names that end the level; without any, it takes one argument. -/
  commands : List String := []
  hasVersion : Bool := false

/-- An option whose value has not been taken yet. -/
inductive Pending (α : Type) where
  | nothing
  | awaiting (setting : Setting α)
  | holding (setting : Setting α) (text : String)

/-- A level on its way. -/
structure Scan (α : Type) where
  settings : α
  /-- The names of the options that have been taken. -/
  given : List String := []
  argument : Option String := none
  pending : Pending α := .nothing
  /-- Whether a lone `--` has been read. -/
  trailing : Bool := false

/-- What an argument looks like. -/
inductive Shape where
  | separator
  | long (name : String) (value : Option String)
  | short (letter : Char)
  | plain
  deriving DecidableEq, Repr

/-- The shape of an argument. A lone `-` is an argument like any other. -/
def Shape.ofText (text : String) : Shape :=
  match text.toList with
  | ['-', '-'] => .separator
  | '-' :: '-' :: cs =>
    match cs.dropWhile (· ≠ '=') with
    | _ :: value => .long (String.ofList (cs.takeWhile (· ≠ '='))) (some (String.ofList value))
    | [] => .long (String.ofList cs) none
  | '-' :: c :: _ => .short c
  | _ => .plain

namespace Scan

variable {α : Type}

/-- Takes the value of an option, the first time only. -/
def take (scan : Scan α) (setting : Setting α) (text : String) : Except ArgumentFault (Scan α) :=
  if setting.name ∈ scan.given then .error .repeatedOption
  else match setting.set text scan.settings with
    | some settings =>
      .ok { scan with settings, given := setting.name :: scan.given, pending := .nothing }
    | none => .error .badValue

/-- Takes the value that is pending, if an option is. -/
def resolve (scan : Scan α) : Except ArgumentFault (Scan α) :=
  match scan.pending with
  | .nothing => .ok scan
  | .awaiting _ => .error .noValue
  | .holding setting text => scan.take setting text

/-- Shows something instead, once what is pending has been taken. -/
def display (scan : Scan α) (shown : ArgumentFault) : Except ArgumentFault (Scan α) :=
  scan.resolve.bind fun _ => .error shown

end Scan

namespace Level

variable {α : Type}

/-- What is shown under the name of a flag. -/
def flag? (level : Level α) (name : String) : Option ArgumentFault :=
  if name = "help" then some .help
  else if name = "version" ∧ level.hasVersion then some .version
  else none

/-- What is shown under the letter of a flag. -/
def letter? (level : Level α) (letter : Char) : Option ArgumentFault :=
  if letter = 'h' then some .help
  else if letter = 'V' ∧ level.hasVersion then some .version
  else none

/-- Reads an option. -/
def readLong (level : Level α) (scan : Scan α) (name : String) (value : Option String) :
    Except ArgumentFault (Scan α) :=
  match level.settings.find? (·.name = name), value with
  | some setting, some text => scan.resolve.bind (·.take setting text)
  | some setting, none => scan.resolve.map ({ · with pending := .awaiting setting })
  | none, value =>
    match level.flag? name with
    | none => .error .unknownArgument
    | some shown => if value.isSome then .error .uncalledValue else scan.display shown

/-- Reads an option of one letter. -/
def readShort (level : Level α) (scan : Scan α) (letter : Char) :
    Except ArgumentFault (Scan α) :=
  match level.letter? letter with
  | none => .error .unknownArgument
  | some shown => scan.display shown

/-- Reads an argument that is no option. -/
def readArgument (level : Level α) (scan : Scan α) (text : String) :
    Except ArgumentFault (Scan α) :=
  if !level.commands.isEmpty then
    .error (if scan.trailing && text ∈ level.commands then .unknownArgument else .unknownCommand)
  else if scan.argument.isSome then .error .unknownArgument
  else scan.resolve.map ({ · with argument := some text })

/-- Reads what is no option: the value that an option awaits, or an argument. -/
def readPlain (level : Level α) (scan : Scan α) (text : String) : Except ArgumentFault (Scan α) :=
  match scan.pending, scan.trailing with
  | .awaiting setting, false => .ok { scan with pending := .holding setting text }
  | _, _ => level.readArgument scan text

/-- Reads one argument. -/
def read (level : Level α) (scan : Scan α) (text : String) : Except ArgumentFault (Scan α) :=
  if scan.trailing then level.readPlain scan text
  else match Shape.ofText text with
    | .separator => .ok { scan with trailing := true }
    | .long name value => level.readLong scan name value
    | .short letter => level.readShort scan letter
    | .plain => level.readPlain scan text

/-- Whether an argument ends the level. -/
def endsAt (level : Level α) (scan : Scan α) (text : String) : Bool :=
  match scan.pending, scan.trailing with
  | .awaiting _, _ => false
  | _, true => false
  | _, false => text ∈ level.commands

/-- Reads a level; yields the command that ends it and the arguments behind that. -/
def scan (level : Level α) :
    Scan α → List String → Except ArgumentFault (Scan α × Option (String × List String))
  | scan, [] => .ok (scan, none)
  | scan, text :: rest =>
    if level.endsAt scan text then .ok (scan, some (text, rest))
    else (level.read scan text).bind fun after => level.scan after rest

/-- Reads the level of a command to its end; yields its settings and its argument. -/
def scanCommand (level : Level α) (settings : α) (args : List String) :
    Except ArgumentFault (α × String) := do
  let (scan, _) ← level.scan { settings } args
  let scan ← scan.resolve
  match scan.argument with
  | some argument => .ok (scan.settings, argument)
  | none => .error .noArgument

/-- Takes the variables of the environment for the options that are not given. -/
def takeVariables (environment : String → Option String) :
    List (Setting α) → Scan α → Except ArgumentFault (Scan α)
  | [], scan => .ok scan
  | setting :: rest, scan =>
    if setting.name ∈ scan.given then takeVariables environment rest scan
    else match setting.envName.bind environment with
      | none => takeVariables environment rest scan
      | some text => (scan.take setting text).bind (takeVariables environment rest)

end Level

end ChainExplorer.Cli
