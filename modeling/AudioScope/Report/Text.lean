import AudioScope.Report.Basic

namespace AudioScope

/-!
# Reports as text

Three texts of a report: `Report.fifoLine` for a quick look at the FIFO,
`Report.describe` with a line for each part of the report, and `Report.literal`
with every field under its key.
-/

namespace PerChannel

/-- The values in brackets, with a separator between them. -/
def text
    {α : Type}
    [FixedWidth α]
    (separator : String)
    (values : PerChannel α) :
    String :=
  "[" ++ separator.intercalate (values.toList.map FixedWidth.text) ++ "]"

end PerChannel

namespace Report

/-- The text of one field, with a separator between the values of several channels. -/
def fieldText
    (report : Report)
    (separator : String) :
    Field → String
  | .sampleRate => FixedWidth.text report.sampleRate
  | .altSetting => FixedWidth.text report.altSetting
  | .mute => report.mute.text separator
  | .volume => report.volume.text separator
  | .fifoSize => FixedWidth.text report.fifoSize
  | .fifoCount => FixedWidth.text report.fifoCount
  | .fifoAverage => FixedWidth.text report.fifoAverage

/-- How full the FIFO is. -/
def fifoLine (report : Report) : String :=
  "FIFO size:" ++ report.fieldText ", " .fifoSize ++
  " | FIFO count:" ++ report.fieldText ", " .fifoCount

/-- The lines that describe a report. -/
def lines (report : Report) : List String :=
  ["Sample rate: " ++ report.fieldText ", " .sampleRate ++ " Hz",
    "Alt setting: " ++ report.fieldText ", " .altSetting,
    "Mute: " ++ report.fieldText ", " .mute,
    "Volume: " ++ report.fieldText ", " .volume,
    report.fifoLine ++ " | FIFO avg:" ++ report.fieldText ", " .fifoAverage]

/-- The whole report, one line for each part, without a newline at the end. -/
def describe (report : Report) : String :=
  "\n".intercalate report.lines

/-- The whole report with every field under its key. -/
def literal (report : Report) : String :=
  "DebugReport \x7b " ++
  ", ".intercalate (Field.all.map (fun field => field.key ++ ": " ++ report.fieldText ", " field)) ++
  " \x7d"

end Report

end AudioScope
