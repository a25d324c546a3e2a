import AudioScope.Outcome
import AudioScope.Report.Json.Write
import AudioScope.Session.Basic

namespace AudioScope

/-!
# Watching a device

The monitor connects to a debug device, prints the last report of every batch,
and goes on until something fails, as it always does in the end.
-/

namespace Monitor

/-- What the user asks of the monitor. -/
structure Options where
  /-- Wait for a device instead of failing if none is connected. -/
  wait : Bool
  /-- Print all of a report. -/
  full : Bool
  /-- Print reports as JSON. -/
  json : Bool
  deriving Repr, DecidableEq

/-- The text of a batch, which shows its last report. -/
def Options.batchText
    (options : Options)
    (report : Report) :
    String :=
  if options.json then
    Report.Json.write report
  else if options.full then
    report.describe ++ "\n"
  else
    report.fifoLine

/-- A text in red, where colors can be shown. -/
def red
    (colors : Bool)
    (text : String) :
    String :=
  if colors then "\x1b[31m" ++ text ++ "\x1b[0m" else text

/-- A line on standard output. -/
def line (text : String) : Event :=
  .printed (text ++ "\n")

/-- What is noted about the reports that were collected. -/
def collected (history : History) : Journal :=
  if history.isEmpty then [] else [.logged (.samplesCollected history.size)]

/-- Watch a device of the bus until something fails. -/
def watch
    (colors : Bool)
    (options : Options)
    (bus : Bus) :
    Outcome :=
  let connected := Session.connect options.wait bus
  match connected.outcome with
  | .error fault =>
      { chain := "Error while opening the audio debug device" :: fault.chain
        journal := connected.journal }
  | .ok session =>
      let run := session.run fun batch => [line (options.batchText batch.last)]
      { chain := "Error while reading debug reports" :: run.fault.chain
        journal :=
          connected.journal ++ run.journal ++ collected run.session.close ++
            [line (red colors "Error")] }

end Monitor

end AudioScope
