import Stevedore.Options.Basic
/-!
# Reading the command line

The value of a flag is the next argument, or stands behind `=` in the same one. An argument that
starts with a hyphen is no value of the flag before it, a single hyphen excepted. After `--` nothing
is a flag any more, and nothing else is expected.

A value that is the next argument is looked at only when the argument after it is a flag of its own
or the line ends; so an unknown argument is noticed before a value that is not acceptable.

Main definitions:

- `Options.Refusal`: why there are no options.
- `Options.parse`: the options of a command line in an environment.
-/

namespace Stevedore.Options

/-- Why a command line gives no options. The first two ask for a text instead. -/
inductive Refusal where
  | help
  | version
  /-- An argument that means nothing. -/
  | unknownArgument
  /-- A flag without its value. -/
  | missingValue
  /-- A value that the flag does not take. -/
  | badValue
  /-- A flag that was given before. -/
  | repeatedFlag
  /-- A value for a flag that takes none. -/
  | needlessValue
deriving DecidableEq, Repr

/-- A variable of an environment: its value, where it is set. -/
abbrev Environment := String → Option String

/-- A flag whose value, if it has come, was not looked at yet. -/
structure Pending where
  flag : Flag
  value : Option String := none

/-- What was read of a command line. -/
structure State where
  given : Given := {}
  pending : Option Pending := none

/-- Enters the value of a flag. A flag that does not repeat is refused the second time. -/
def accept (g : Given) (flag : Flag) (value : String) : Except Refusal Given :=
  if g.has flag && !flag.repeats then .error .repeatedFlag
  else
    match g.enter flag value with
    | some g => .ok g
    | none => .error .badValue

/-- Enters the value that was not looked at yet. -/
def State.settle (s : State) : Except Refusal Given :=
  match s.pending with
  | none => .ok s.given
  | some ⟨_, none⟩ => .error .missingValue
  | some ⟨flag, some value⟩ => accept s.given flag value

/-- The kinds of arguments. -/
inductive Argument where
  /-- Two hyphens and a name, perhaps with a value behind `=`. -/
  | long (name : String) (value : Option String)
  /-- A hyphen and letters. -/
  | short (first : Char)
  /-- Two hyphens alone. -/
  | escape
  /-- Anything else. -/
  | plain
deriving DecidableEq, Repr

/-- The kind of an argument. -/
def Argument.of (arg : String) : Argument :=
  match arg.toList with
  | ['-', '-'] => .escape
  | '-' :: '-' :: rest =>
    match rest.dropWhile (· != '=') with
    | _ :: value => .long (String.ofList (rest.takeWhile (· != '='))) (some (String.ofList value))
    | [] => .long (String.ofList rest) none
  | '-' :: c :: _ => .short c
  | _ => .plain

/-- A request for a text; the value before it is looked at first. -/
def State.ask (s : State) (text : Refusal) : Except Refusal State :=
  match s.settle with
  | .ok _ => .error text
  | .error e => .error e

/-- Reads an argument with two hyphens. -/
def State.long (s : State) (name : String) (value : Option String) : Except Refusal State :=
  if name = "help" ∨ name = "version" then
    if value.isSome then .error .needlessValue
    else s.ask (if name = "help" then .help else .version)
  else
    match Flag.ofLong? name with
    | none => .error .unknownArgument
    | some flag =>
      match s.settle with
      | .error e => .error e
      | .ok g =>
        match value with
        | none => .ok { given := g, pending := some { flag } }
        | some v =>
          match accept g flag v with
          | .ok g => .ok { given := g }
          | .error e => .error e

/-- Reads one argument before `--`. -/
def State.read (s : State) (arg : String) : Except Refusal State :=
  match Argument.of arg with
  | .long name value => s.long name value
  | .short 'h' => s.ask .help
  | .short 'V' => s.ask .version
  | .short _ => .error .unknownArgument
  | _ =>
    match s.pending with
    | some ⟨flag, none⟩ => .ok { s with pending := some ⟨flag, some arg⟩ }
    | _ => .error .unknownArgument

/-- Reads the arguments. -/
def State.readAll (s : State) : List String → Except Refusal State
  | [] => .ok s
  | arg :: rest =>
    if Argument.of arg = .escape then if rest.isEmpty then .ok s else .error .unknownArgument
    else
      match s.read arg with
      | .ok s => s.readAll rest
      | .error e => .error e

/-- Enters the variables of the environment for flags that were not given. -/
def fromEnvironment (env : Environment) (g : Given) : List Flag → Except Refusal Given
  | [] => .ok g
  | flag :: rest =>
    if g.has flag then fromEnvironment env g rest
    else
      match env flag.variableName with
      | none => fromEnvironment env g rest
      | some value =>
        match accept g flag value with
        | .ok g => fromEnvironment env g rest
        | .error e => .error e

/-- The options of a command line in an environment. -/
def parse (args : List String) (env : Environment) : Except Refusal Options :=
  match ({} : State).readAll args with
  | .error e => .error e
  | .ok s =>
    match s.settle with
    | .error e => .error e
    | .ok g =>
      match fromEnvironment env g Flag.all with
      | .error e => .error e
      | .ok g => .ok g.toOptions

end Stevedore.Options
