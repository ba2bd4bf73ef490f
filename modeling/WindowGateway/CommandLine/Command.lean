import WindowGateway.Text.Integer

/-! Commands with flags, and how their arguments are read. A flag takes one value, attached with an
equals sign or as the next word, which then must not look like a flag itself. A value is read when
the next flag comes or the arguments end, so that an unknown flag is noticed before a bad value. -/

namespace WindowGateway.CommandLine

inductive ValueFault
  | integer (fault : Text.IntegerFault)
  | outOfRange (value : Int) (high : Nat)
  deriving DecidableEq, Repr

def ValueFault.message : ValueFault → String
  | integer fault => fault.message
  | outOfRange value high => s!"{value} is not in 0..={high}"

/-- A flag of a command whose settings are of the type `α`. -/
structure Flag (α : Type) where
  name : String
  help : String
  default : Option String := none
  set : String → α → Except ValueFault α

/-- A flag as it is written with a value, which has the flag's name in capital letters. -/
def Flag.form (f : Flag α) : String :=
  let value := String.ofList (f.name.toList.map fun c => if c = '-' then '_' else c.toUpper)
  s!"--{f.name} <{value}>"

/-- The commands that have a page of help. -/
inductive Page
  | gateway
  | send
  | help
  deriving DecidableEq, Repr

/-- Why arguments are not carried out: they ask for information, or they are wrong. -/
inductive UsageError
  | help (page : Page)
  | version
  | unknownArgument (argument : String)
  | unknownSubcommand (word : String)
  | missingValue (flag : String)
  | repeated (flag : String)
  | invalidValue (flag value : String) (fault : ValueFault)
  | unexpectedValue (flag value : String)
  deriving DecidableEq, Repr

/-- A command: its flags, and the words that lead to other commands. Every command has a flag for
help, and may have one for its version. -/
structure Command (α : Type) where
  page : Page
  flags : List (Flag α)
  hasVersion : Bool := false
  subcommands : List String := []

/-- What has been read: the settings, the names of the flags in them, and a flag whose value has not
been read yet or has not even come. -/
structure State (α : Type) where
  settings : α
  given : List String := []
  pending : Option (Flag α × Option String) := none

namespace State

variable {α : Type}

def store (s : State α) (f : Flag α) (value : String) : Except UsageError (State α) :=
  if s.given.contains f.name then .error (.repeated f.form)
  else match f.set value s.settings with
    | .error fault => .error (.invalidValue f.form value fault)
    | .ok settings => .ok { s with settings, given := f.name :: s.given }

def resolve (s : State α) : Except UsageError (State α) :=
  match s.pending with
  | none => .ok s
  | some (f, none) => .error (.missingValue f.form)
  | some (f, some value) => { s with pending := none }.store f value

def awaits (s : State α) : Bool :=
  match s.pending with
  | some (_, none) => true
  | _ => false

/-- Takes a word as the value that has yet to come. -/
def supply (s : State α) (word : String) : State α :=
  { s with pending := s.pending.map fun (f, _) => (f, some word) }

end State

/-- Where the arguments of a command end: at their end, or at the word of another command. -/
inductive Scan (α : Type)
  | finished (s : State α)
  | subcommand (name : String) (s : State α) (rest : List String)

namespace Command

variable {α : Type}

/-- A flag that takes no value and ends the reading, unless a value before it is bad. -/
def information (s : State α) (name : String) (attached : Option String) (e : UsageError) :
    Except UsageError (State α) :=
  match attached with
  | some value => .error (.unexpectedValue name value)
  | none => s.resolve.bind fun _ => .error e

/-- Reads a flag, given without its two dashes. -/
def readLong (c : Command α) (s : State α) (cs : List Char) : Except UsageError (State α) :=
  let name := String.ofList (cs.takeWhile (· ≠ '='))
  let attached := match cs.dropWhile (· ≠ '=') with
    | [] => none
    | _ :: value => some (String.ofList value)
  match c.flags.find? (·.name == name) with
  | some f => do
    let s ← s.resolve
    match attached with
    | some value => s.store f value
    | none => pure { s with pending := some (f, none) }
  | none =>
    if name = "help" then information s "--help" attached (.help c.page)
    else if c.hasVersion && name == "version" then information s "--version" attached .version
    else .error (.unknownArgument s!"--{name}")

/-- Reads a flag of one letter, given without its dash. -/
def readShort (c : Command α) (s : State α) (letter : Char) : Except UsageError (State α) :=
  if letter = 'h' then information s "-h" none (.help c.page)
  else if c.hasVersion && letter == 'V' then information s "-V" none .version
  else .error (.unknownArgument (String.ofList ['-', letter]))

/-- What is wrong with a word that is no value. After two dashes even the word of another command
has no meaning. -/
def strayWord (c : Command α) (afterDashes : Bool) (word : String) : UsageError :=
  if c.subcommands.isEmpty || (afterDashes && c.subcommands.contains word) then
    .unknownArgument word
  else .unknownSubcommand word

/-- Reads arguments; after two dashes there are no flags. -/
def scan (c : Command α) : Bool → State α → List String → Except UsageError (Scan α)
  | _, s, [] => .ok (.finished s)
  | true, _, word :: _ => .error (c.strayWord true word)
  | false, s, word :: rest =>
    if !s.awaits && c.subcommands.contains word then .ok (.subcommand word s rest)
    else match word.toList with
      | ['-', '-'] => scan c true s rest
      | '-' :: '-' :: cs => do scan c false (← c.readLong s cs) rest
      | '-' :: letter :: _ => do scan c false (← c.readShort s letter) rest
      | _ =>
        if s.awaits then scan c false (s.supply word) rest
        else .error (c.strayWord false word)

end Command

def UsageError.faultLine : UsageError → String
  | help _ | version => ""
  | unknownArgument argument => s!"unexpected argument '{argument}' found"
  | unknownSubcommand word => s!"unrecognized subcommand '{word}'"
  | missingValue flag => s!"a value is required for '{flag}' but none was supplied"
  | repeated flag => s!"the argument '{flag}' cannot be used multiple times"
  | invalidValue flag value fault => s!"invalid value '{value}' for '{flag}': {fault.message}"
  | unexpectedValue flag value =>
    s!"unexpected value '{value}' for '{flag}' found; no more were expected"

end WindowGateway.CommandLine
