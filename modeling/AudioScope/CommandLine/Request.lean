import AudioScope.CommandLine.Page
import AudioScope.Monitor
import AudioScope.Tone

namespace AudioScope.CommandLine

/-!
# Requests

The words of a command line ask for one of two things: to watch a device, or to
print a test tone.  `Request.parse` finds out which, or says what is to be shown
instead: a help page, the version, or what is wrong with the words.
`Request.carryOut` does what is asked for.
-/

/-- What is asked of the tone command. -/
structure ToneOptions where
  sampleRate : UInt32
  frequency : UInt32
  name : String
  deriving Repr, DecidableEq

/-- The sample rate of a tone that was given no other. -/
def defaultSampleRate : UInt32 := 48000

/-- The frequency of a tone that was given no other. -/
def defaultFrequency : UInt32 := 1000

/-- What an option is for, and what it is if it is not given. -/
def withDefault (purpose default : String) : String :=
  purpose ++ " [default: " ++ default ++ "]"

/-- The command that prints a test tone. -/
def toneCommand : Command ToneOptions where
  name := "sine"
  purpose := "Print one period of a sine wave as a C array of int16_t samples"
  parameters := [
    { name := "sample-rate"
      effect := .option "SAMPLE_RATE" fun text options =>
        (readNumber text).map ({ options with sampleRate := · })
      purpose := withDefault "Sample rate in Hz" (toString defaultSampleRate.toNat) },
    { name := "frequency"
      effect := .option "FREQUENCY" fun text options =>
        (readNumber text).map ({ options with frequency := · })
      purpose := withDefault "Tone frequency in Hz, must divide the sample rate evenly"
        (toString defaultFrequency.toNat) },
    { name := "name"
      effect := .option "NAME" fun text options =>
        (readName text).map ({ options with name := · })
      purpose := withDefault "Name of the generated C array" Tone.defaultName }]
  exclusive := []
  defaults := ⟨defaultSampleRate, defaultFrequency, Tone.defaultName⟩

/-- The command that watches a device. -/
def monitorCommand : Command Monitor.Options where
  name := "monitor"
  purpose := "Poll the device's debug HID reports and print the FIFO state. " ++
    "The firmware must be built with CFG_AUDIO_DEBUG=1"
  parameters := [
    { name := "wait"
      effect := .flag ({ · with wait := true })
      purpose := "Wait for the device to be connected instead of failing right away" },
    { name := "full"
      effect := .flag ({ · with full := true })
      purpose := "Print every field of the report, not just the FIFO state" },
    { name := "json"
      effect := .flag ({ · with json := true })
      purpose := "Print one JSON object per batch" }]
  exclusive := [("full", "json")]
  defaults := ⟨false, false, false⟩

/-- What a help page can be about. -/
inductive Topic where
  | program
  | monitor
  | tone
  | help
  deriving Repr, DecidableEq

/-- The line of the command that shows help pages. -/
def helpCommandRow : Row :=
  ⟨"help", "Print this message or the help of the given subcommand(s)"⟩

/-- The help page about a topic. -/
def Topic.page : Topic → Page
  | program =>
      { purpose := none
        usage := programName ++ " <COMMAND>"
        sections := [
          ⟨"Commands", [monitorCommand.row, toneCommand.row, helpCommandRow]⟩,
          ⟨"Options", [helpRow, ⟨"-V, --version", "Print version"⟩]⟩] }
  | monitor => monitorCommand.page
  | tone => toneCommand.page
  | help =>
      { purpose := some helpCommandRow.purpose
        usage := programName ++ " help [COMMAND]..."
        sections := [⟨"Arguments", [⟨"[COMMAND]...", "Print help for the subcommand(s)"⟩]⟩] }

/-- The topic that is the command of a given name. -/
def Topic.ofName? (name : String) : Option Topic :=
  if name == monitorCommand.name then
    some monitor
  else if name == toneCommand.name then
    some tone
  else if name == helpCommandRow.label then
    some help
  else
    none

/-- The line that names the program and its version. -/
def versionLine : String := "audio-debug-cli 0.1.0\n"

/-- What is shown instead of carrying out a command. -/
inductive Answer where
  | help (topic : Topic)
  | version
  /-- No command was given. -/
  | noCommand
  | usage (error : UsageError)
  deriving Repr, DecidableEq

namespace Answer

/-- The exit code: zero if the answer was asked for. -/
def exitCode : Answer → Nat
  | help _ => 0
  | version => 0
  | noCommand => 2
  | usage _ => 2

/-- The text of a help page or of the version. -/
def text? : Answer → Option String
  | help topic => some topic.page.text
  | version => some versionLine
  | noCommand => some Topic.program.page.text
  | usage _ => none

/-- The text that goes to standard output. -/
def printed (answer : Answer) : String :=
  if answer.exitCode = 0 then answer.text?.getD "" else ""

/-- An interruption of a command, whose help page may be asked for. -/
def ofInterruption (topic : Topic) : Interruption → Answer
  | .help => help topic
  | .usage error => usage error

end Answer

/-- What a command line asks for. -/
inductive Request where
  | monitor (options : Monitor.Options)
  | tone (options : ToneOptions)
  deriving Repr, DecidableEq

namespace Request

/-- The answer to the words behind the help command. -/
def helpAbout : List String → Answer
  | [] => .help .program
  | name :: rest =>
      match Topic.ofName? name, rest with
      | none, _ => .usage (.unknownCommand name)
      | some topic, [] => .help topic
      | some _, other :: _ => .usage (.unknownCommand other)

/-- The answer to a parameter in front of the command. -/
def beforeCommand
    (name : String)
    (value : Option String)
    (answer : Answer) :
    Answer :=
  match value with
  | none => answer
  | some value => .usage (.unexpectedValue name value)

/-- The request that a command line makes, or what is shown instead. -/
def parse : List String → Except Answer Request
  | [] => .error .noCommand
  | word :: rest =>
      match Word.ofText word with
      | .separator =>
          match rest with
          | [] => .error .noCommand
          | name :: _ =>
              if (Topic.ofName? name).isSome then
                .error (.usage (.unknownArgument name))
              else
                .error (.usage (.unknownCommand name))
      | .long "help" value => .error (beforeCommand "--help" value (.help .program))
      | .long "version" value => .error (beforeCommand "--version" value .version)
      | .long name _ => .error (.usage (.unknownArgument ("--" ++ name)))
      | .short 'h' => .error (.help .program)
      | .short 'V' => .error .version
      | .short letter => .error (.usage (.unknownArgument (String.ofList ['-', letter])))
      | .plain name =>
          match Topic.ofName? name with
          | some .monitor =>
              ((monitorCommand.read rest).map monitor).mapError (Answer.ofInterruption .monitor)
          | some .tone =>
              ((toneCommand.read rest).map tone).mapError (Answer.ofInterruption .tone)
          | some _ => .error (helpAbout rest)
          | none => .error (.usage (.unknownCommand name))

/-- Print a test tone. -/
def printTone (options : ToneOptions) : Outcome :=
  match Tone.generate options.sampleRate options.frequency with
  | .error refusal => { chain := [refusal.message], journal := [] }
  | .ok table => { chain := [], journal := [.printed (table.withName options.name).text] }

/-- Do what is asked for, with the devices of a bus. -/
def carryOut
    (colors : Bool)
    (bus : Bus) :
    Request → Outcome
  | monitor options => Monitor.watch colors options bus
  | tone options => printTone options

end Request

end AudioScope.CommandLine
