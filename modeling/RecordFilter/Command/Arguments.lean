import RecordFilter.Command.Environment

/-!
# RecordFilter.Command.Arguments

The command line. Options may stand before or behind the name of a command. An option takes the rest
of its own word or the next word as its value; the value is checked when the next option comes or the
words end. What is not given may come from the environment.
-/

namespace RecordFilter
namespace Command

open Config (Overrides)

/-- Why the words are not a command line, or what they ask for instead of running. -/
inductive UsageError where
  | displayHelp
  | displayVersion
  | unknownArgument
  | invalidValue
  | valueValidation
  | argumentConflict
  | invalidSubcommand
  | tooManyValues
  | missingRequiredArgument
deriving DecidableEq, Repr

def UsageError.name : UsageError → String
  | .displayHelp => "DisplayHelp"
  | .displayVersion => "DisplayVersion"
  | .unknownArgument => "UnknownArgument"
  | .invalidValue => "InvalidValue"
  | .valueValidation => "ValueValidation"
  | .argumentConflict => "ArgumentConflict"
  | .invalidSubcommand => "InvalidSubcommand"
  | .tooManyValues => "TooManyValues"
  | .missingRequiredArgument => "MissingRequiredArgument"

/-! ## Options -/

inductive Setting where
  | host
  | port
  | config
  | dialect
  | orGroupErrors
  | seedPath
deriving DecidableEq, Repr

namespace Setting

def all : List Setting := [.host, .port, .config, .dialect, .orGroupErrors, .seedPath]

def longNames : List (String × Setting) :=
  [("host", .host), ("port", .port), ("config", .config), ("dialect", .dialect),
    ("or-group-errors", .orGroupErrors), ("seed-path", .seedPath)]

def shortNames : List (Char × Setting) := [('H', .host), ('p', .port), ('c', .config)]

def variableName : Setting → String
  | .host => "SIEVE_HOST"
  | .port => "SIEVE_PORT"
  | .config => "SIEVE_CONFIG"
  | .dialect => "SIEVE_SQL_DIALECT"
  | .orGroupErrors => "SIEVE_OR_GROUP_ERRORS"
  | .seedPath => "SIEVE_SEED_PATH"

def isGiven (o : Overrides) : Setting → Bool
  | .host => o.host.isSome
  | .port => o.port.isSome
  | .config => o.config.isSome
  | .dialect => o.dialect.isSome
  | .orGroupErrors => o.orGroupErrors.isSome
  | .seedPath => o.seedPath.isSome

def orGroupErrors? (value : String) : Option OrGroupErrors :=
  CompileOptions.orGroupErrorsNames.lookup (String.ofList (Unicode.lowercase value.toList))

def port? (value : String) : Option Nat :=
  (Number.readInteger? .bits64 value.toList).bind fun n =>
    if 0 ≤ n ∧ n < 65536 then some n.toNat else none

def checked {α : Type} : Option α → Except UsageError α
  | some a => .ok a
  | none => .error .valueValidation

/-- Paths may not be empty. -/
def path (value : String) : Except UsageError String :=
  if value.isEmpty then .error .invalidValue else .ok value

def set (o : Overrides) (value : String) : Setting → Except UsageError Overrides
  | .host => .ok { o with host := some value }
  | .port => (checked (port? value)).map fun port => { o with port := some port }
  | .config => (path value).map fun path => { o with config := some path }
  | .dialect =>
    (checked (Sql.Dialect.ofName? value)).map fun dialect => { o with dialect := some dialect }
  | .orGroupErrors =>
    (checked (orGroupErrors? value)).map fun mode => { o with orGroupErrors := some mode }
  | .seedPath => (path value).map fun path => { o with seedPath := some path }

end Setting

/-! ## Words -/

/-- What a word looks like by itself. -/
inductive Word where
  | escape
  | long (name : String) (value : Option String)
  | short (letters : List Char)
  | plain (text : String)

def Word.read (word : String) : Word :=
  match word.toList with
  | ['-', '-'] => .escape
  | '-' :: '-' :: rest =>
    match Text.splitFirst? '=' rest with
    | some (name, value) => .long (String.ofList name) (some (String.ofList value))
    | none => .long (String.ofList rest) none
  | ['-'] => .plain word
  | '-' :: letters => .short letters
  | _ => .plain word

/-- The program itself, or one of its commands. -/
inductive Level where
  | program
  | start
  | compile
deriving DecidableEq, Repr

namespace Level

def commands : Level → List (String × Option Level)
  | .program => [("start", some .start), ("compile", some .compile), ("help", none)]
  | _ => []

/-- How many plain words the level takes. -/
def places : Level → Nat
  | .compile => 2
  | _ => 0

end Level

/-- An option whose value is still to come, or still to be checked. -/
inductive Pending where
  | none
  | awaiting (setting : Setting)
  | filled (setting : Setting) (value : String)

structure State where
  given : Overrides
  pending : Pending
  plain : List String
  trailing : Bool

namespace State

def start : State := ⟨Overrides.none, .none, [], false⟩

/-- An option may be given once. -/
def assign (s : State) (setting : Setting) (value : String) : Except UsageError State :=
  if setting.isGiven s.given then .error .argumentConflict
  else (setting.set s.given value).map fun given => { s with given, pending := .none }

def resolve (s : State) : Except UsageError State :=
  match s.pending with
  | .none => .ok s
  | .awaiting _ => .error .invalidValue
  | .filled setting value => assign { s with pending := .none } setting value

def isAwaiting (s : State) : Bool :=
  match s.pending with
  | .awaiting _ => true
  | _ => false

/-- An option, with its value if that stands in the same word. -/
def option (s : State) (setting : Setting) (value : Option String) : Except UsageError State := do
  let s ← s.resolve
  match value with
  | some value => s.assign setting value
  | none => return { s with pending := .awaiting setting }

/-- A word that asks for something else ends the reading. -/
def leave (s : State) (reason : UsageError) : Except UsageError State := do
  let _ ← s.resolve
  .error reason

def long (level : Level) (s : State) (name : String) (value : Option String) :
    Except UsageError State :=
  match Setting.longNames.lookup name with
  | some setting => s.option setting value
  | none =>
    if name = "help" ∨ (name = "version" ∧ level = .program) then
      if value.isSome then .error .tooManyValues
      else s.leave (if name = "help" then .displayHelp else .displayVersion)
    else .error .unknownArgument

/-- Letters in one word; the first option takes the rest, without a `=` in front. -/
def short (level : Level) (s : State) : List Char → Except UsageError State
  | [] => .ok s
  | letter :: rest =>
    match Setting.shortNames.lookup letter with
    | some setting =>
      match rest with
      | [] => s.option setting none
      | '=' :: value => s.option setting (some (String.ofList value))
      | value => s.option setting (some (String.ofList value))
    | none =>
      if letter = 'h' then s.leave .displayHelp
      else if letter = 'V' ∧ level = .program then s.leave .displayVersion
      else .error .unknownArgument

/-- A plain word that is not a value. -/
def place (level : Level) (s : State) (word : String) : Except UsageError State :=
  if s.plain.length < level.places then
    s.resolve.map fun s => { s with plain := s.plain ++ [word] }
  else if level = .program ∧ !(s.trailing && (level.commands.lookup word).isSome) then
    .error .invalidSubcommand
  else .error .unknownArgument

def word (level : Level) (s : State) (word : String) : Except UsageError State :=
  if s.trailing then s.place level word
  else
    match Word.read word with
    | .escape => .ok { s with trailing := true }
    | .long name value => s.long level name value
    | .short letters => s.short level letters
    | .plain text =>
      match s.pending with
      | .awaiting setting => .ok { s with pending := .filled setting text }
      | _ => s.place level text

/-- The command that a word names here, if it can be one. -/
def command? (level : Level) (s : State) (word : String) : Option (Option Level) :=
  if s.trailing || s.isAwaiting then none else level.commands.lookup word

end State

/-- Reads words up to the name of a command; what follows is left over. -/
def scan (level : Level) (s : State) :
    List String → Except UsageError (State × Option (Option Level × List String))
  | [] => .ok (s, none)
  | word :: rest =>
    match s.command? level word with
    | some command => .ok (s, some (command, rest))
    | none =>
      match s.word level word with
      | .ok s => scan level s rest
      | .error error => .error error

/-! ## Environment -/

/-- The settings that come from the environment because they are not given. -/
def fromEnvironment (env : Environment) (given : Overrides) : Except UsageError Overrides :=
  Setting.all.foldlM
    (fun o setting =>
      match setting.isGiven given, env.lookup setting.variableName with
      | false, some value => setting.set o value
      | _, _ => .ok o)
    Overrides.none

/-! ## Command lines -/

inductive Action where
  | start
  | compile (record query : String)
deriving DecidableEq, Repr

structure CommandLine where
  action : Option Action
  overrides : Overrides

/-- The settings of `top`, and those of `base` that `top` does not make. -/
def stack (top base : Overrides) : Overrides :=
  { host := top.host.or base.host
    port := top.port.or base.port
    config := top.config.or base.config
    dialect := top.dialect.or base.dialect
    orGroupErrors := top.orGroupErrors.or base.orGroupErrors
    seedPath := top.seedPath.or base.seedPath }

/-- What a level ends with: the settings given at it, and those from the environment. -/
def close (env : Environment) (s : State) : Except UsageError (Overrides × Overrides) := do
  let s ← s.resolve
  return (s.given, ← fromEnvironment env s.given)

def action (level : Level) (plain : List String) : Except UsageError Action :=
  match level, plain with
  | .compile, record :: rest => .ok (.compile record (rest.head?.getD ""))
  | .compile, [] => .error .missingRequiredArgument
  | _, _ => .ok .start

/-- A command with its words; the command of the program follows from what it is called with. -/
def readCommand (env : Environment) (level : Level) (words : List String) :
    Except UsageError (Action × Overrides × Overrides) := do
  let (s, _) ← scan level State.start words
  let (given, environment) ← close env s
  return (← action level s.plain, given, environment)

/-- Help on a command, or on the commands of the program. -/
def help : List String → UsageError
  | [] => .displayHelp
  | [word] => if (Level.program.commands.lookup word).isSome then .displayHelp else .invalidSubcommand
  | _ => .invalidSubcommand

/-- What stands behind the command counts before what stands in front of it, and both before the
environment. -/
def CommandLine.read (env : Environment) (words : List String) : Except UsageError CommandLine := do
  match ← scan .program State.start words with
  | (s, none) =>
    let (given, environment) ← close env s
    return ⟨none, stack given environment⟩
  | (_, some (none, rest)) => .error (help rest)
  | (s, some (some level, rest)) =>
    let (action, inner, innerEnvironment) ← readCommand env level rest
    let (outer, outerEnvironment) ← close env s
    return ⟨some action, stack (stack inner outer) (stack innerEnvironment outerEnvironment)⟩

end Command
end RecordFilter
