import AudioScope.CommandLine.Request

/-!
# The command line

Parses the words of the command line and carries out what they ask for.  No bus
can be listed from here, so watching a device ends with that fault.
-/

namespace AudioScope.Main

/-- A bus that cannot be listed. -/
def unreachableBus : Bus where
  listings := []
  ending := "no USB bus can be reached"

/-- Write what an event writes. -/
def emit (event : Event) : IO Unit :=
  match event with
  | .printed text => IO.print text
  | .noticed notice => IO.eprintln notice.message
  | _ => pure ()

/-- Carry out a request and return its exit code. -/
def perform (request : CommandLine.Request) : IO UInt32 := do
  let outcome := request.carryOut false unreachableBus
  for event in outcome.journal do
    emit event
  if let some complaint := outcome.complaint? then
    IO.eprint complaint
  return UInt32.ofNat outcome.exitCode

/-- Show an answer that takes the place of a command and return its exit code. -/
def respond (answer : CommandLine.Answer) : IO UInt32 := do
  match answer with
  | .usage error => IO.eprintln (error.reason?.getD "the words are not understood")
  | .noCommand => IO.eprint (answer.text?.getD "")
  | .help _ => IO.print answer.printed
  | .version => IO.print answer.printed
  return UInt32.ofNat answer.exitCode

end AudioScope.Main

/-- Answer the words of a command line. -/
def main (words : List String) : IO UInt32 :=
  match AudioScope.CommandLine.Request.parse words with
  | .ok request => AudioScope.Main.perform request
  | .error answer => AudioScope.Main.respond answer
