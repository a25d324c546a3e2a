import AudioScope.CommandLine.Value
import AudioScope.CommandLine.Word

namespace AudioScope.CommandLine

/-!
# Parameters of a command

A command takes parameters in any order, each at most once: flags, and options
with a value that is attached to the name or stands in the next word.  The words
are read from left to right.  A value in a word of its own is looked at only when
the next known parameter or the end is reached, so a word that fits nowhere is
complained about first.  Whether parameters exclude each other is decided when
all words have been read.
-/

/-- What a parameter does to the settings of its command. -/
inductive Effect (σ : Type) where
  | flag (set : σ → σ)
  | option (placeholder : String) (set : String → σ → Except ValueFlaw σ)

/-- A parameter of a command. -/
structure Parameter (σ : Type) where
  name : String
  effect : Effect σ
  /-- What the parameter is for. -/
  purpose : String

/-- How a parameter is shown: its name, and a placeholder for its value. -/
def Parameter.shown
    {σ : Type}
    (parameter : Parameter σ) :
    String :=
  match parameter.effect with
  | .flag _ => "--" ++ parameter.name
  | .option placeholder _ => "--" ++ parameter.name ++ " <" ++ placeholder ++ ">"

/-- Why the words of a command line are not understood. -/
inductive UsageError where
  | unknownArgument (argument : String)
  | unknownCommand (word : String)
  | missingValue (parameter : String)
  | unexpectedValue (parameter value : String)
  | refusedValue (parameter value : String) (flaw : ValueFlaw)
  | conflict (parameter prior : String)
  deriving Repr, DecidableEq

/-- The reason that a value was refused, where one was. -/
def UsageError.reason? : UsageError → Option String
  | refusedValue _ _ flaw => some flaw.message
  | _ => none

/-- Why reading the words of a command stops before its settings are known. -/
inductive Interruption where
  | help
  | usage (error : UsageError)
  deriving Repr, DecidableEq

/-- A command: its name, what it is for, and the settings that its parameters make. -/
structure Command (σ : Type) where
  name : String
  purpose : String
  parameters : List (Parameter σ)
  /-- The names of parameters that exclude each other. -/
  exclusive : List (String × String)
  defaults : σ

/-- What is known after some words of a command. -/
structure Progress (σ : Type) where
  settings : σ
  /-- The parameters that have been given, the first one in front. -/
  given : List (Parameter σ)
  /-- An option that has not been looked at, with its value if that has been given. -/
  pending : Option (Parameter σ × Option String)

namespace Progress

variable {σ : Type}

/-- Apply a parameter to the settings, unless it has been given before. -/
def apply
    (progress : Progress σ)
    (parameter : Parameter σ)
    (settings : Except UsageError σ) :
    Except UsageError (Progress σ) :=
  if progress.given.any (·.name == parameter.name) then
    .error (.conflict parameter.shown parameter.shown)
  else
    settings.map fun settings =>
      { settings, given := progress.given ++ [parameter], pending := none }

/-- Take a parameter with its value. -/
def take
    (progress : Progress σ)
    (parameter : Parameter σ)
    (value : Option String) :
    Except UsageError (Progress σ) :=
  match parameter.effect, value with
  | .flag set, _ => progress.apply parameter (.ok (set progress.settings))
  | .option _ _, none => .error (.missingValue parameter.shown)
  | .option _ set, some value =>
      progress.apply parameter
        ((set value progress.settings).mapError (.refusedValue parameter.shown value))

/-- Take the option that has not been looked at yet. -/
def settle (progress : Progress σ) : Except UsageError (Progress σ) :=
  match progress.pending with
  | none => .ok progress
  | some (parameter, value) => progress.take parameter value

end Progress

namespace Command

variable {σ : Type}

/-- The parameter with a given name. -/
def parameter?
    (command : Command σ)
    (name : String) :
    Option (Parameter σ) :=
  command.parameters.find? (·.name == name)

/-- Take a long word. -/
def takeLong
    (command : Command σ)
    (progress : Progress σ)
    (name : String)
    (value : Option String) :
    Except Interruption (Progress σ) :=
  match command.parameter? name with
  | some parameter =>
      match parameter.effect, value with
      | .flag _, some value => .error (.usage (.unexpectedValue parameter.shown value))
      | .flag _, none =>
          (progress.settle.bind (·.take parameter none)).mapError .usage
      | .option _ _, some value =>
          (progress.settle.bind (·.take parameter (some value))).mapError .usage
      | .option _ _, none =>
          (progress.settle.map ({ · with pending := some (parameter, none) })).mapError .usage
  | none =>
      if name == "help" then
        match value with
        | some value => .error (.usage (.unexpectedValue "--help" value))
        | none => (progress.settle.mapError .usage).bind fun _ => .error .help
      else
        .error (.usage (.unknownArgument ("--" ++ name)))

/-- Take a bundle of letters, of which the first one decides. -/
def takeShort
    (progress : Progress σ)
    (letter : Char) :
    Except Interruption (Progress σ) :=
  if letter == 'h' then
    (progress.settle.mapError .usage).bind fun _ => .error .help
  else
    .error (.usage (.unknownArgument (String.ofList ['-', letter])))

/-- Take a word that is no parameter: it can only be the value of an option. -/
def takePlain
    (progress : Progress σ)
    (text : String) :
    Except Interruption (Progress σ) :=
  match progress.pending with
  | some (parameter, none) => .ok { progress with pending := some (parameter, some text) }
  | _ => .error (.usage (.unknownArgument text))

/-- Take all words. -/
def takeWords
    (command : Command σ)
    (progress : Progress σ) :
    List String → Except Interruption (Progress σ)
  | [] => progress.settle.mapError .usage
  | text :: rest =>
      match Word.ofText text with
      | .separator =>
          match rest with
          | [] => progress.settle.mapError .usage
          | first :: _ => .error (.usage (.unknownArgument first))
      | .long name value => do
          command.takeWords (← command.takeLong progress name value) rest
      | .short letter => do
          command.takeWords (← takeShort progress letter) rest
      | .plain text => do
          command.takeWords (← takePlain progress text) rest

/-- Whether two parameters exclude each other. -/
def excludes
    (command : Command σ)
    (left right : Parameter σ) :
    Bool :=
  command.exclusive.contains (left.name, right.name) ||
    command.exclusive.contains (right.name, left.name)

/-- The first of the given parameters that excludes a later one, and that later one. -/
def conflict? (command : Command σ) : List (Parameter σ) → Option (Parameter σ × Parameter σ)
  | [] => none
  | first :: rest =>
      match rest.find? (command.excludes first) with
      | some other => some (first, other)
      | none => command.conflict? rest

/-- The settings that the words of a command make. -/
def read
    (command : Command σ)
    (words : List String) :
    Except Interruption σ := do
  let progress ← command.takeWords { settings := command.defaults, given := [], pending := none } words
  match command.conflict? progress.given with
  | some (first, other) => .error (.usage (.conflict first.shown other.shown))
  | none => .ok progress.settings

end Command

end AudioScope.CommandLine
