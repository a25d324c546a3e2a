import AudioScope.Report.Text

namespace AudioScope.Report

/-!
# Reports written as JSON

A report is written as one JSON object without any blanks, its fields in the
order of their declaration.
-/

namespace Json

/-- One member of the object: the key in quotes, a colon, the value. -/
def member
    (report : Report)
    (field : Field) :
    String :=
  "\"" ++ field.key ++ "\":" ++ report.fieldText "," field

/-- The JSON text of a report. -/
def write (report : Report) : String :=
  "\x7b" ++ ",".intercalate (Field.all.map (member report)) ++ "\x7d"

end Json

end AudioScope.Report
