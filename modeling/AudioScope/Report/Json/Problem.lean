import AudioScope.Decimal.Basic
import AudioScope.FixedWidth
import AudioScope.Json.Basic
import AudioScope.Report.Basic
import AudioScope.Text.Quoted

namespace AudioScope.Report.Json

/-!
# Why a text is no report

A text that is JSON may still not be a report: a value has the wrong type, an
integer does not fit its field, an array is too short, or a field occurs twice
or not at all.  `Problem.message` says which.
-/

/-- What a value is found to be. -/
inductive Found where
  | null
  | boolean (value : Bool)
  | text (value : String)
  | sequence
  | map
  | integer (value : Int)
  | decimal (value : Decimal)
  deriving Repr, DecidableEq

/-- How a found value is shown. -/
def Found.message : Found → String
  | null => "null"
  | boolean value => s!"boolean `{value}`"
  | text value => "string " ++ Text.quote value
  | sequence => "sequence"
  | map => "map"
  | integer value => s!"integer `{value}`"
  | decimal value => "floating point `" ++ value.text ++ "`"

/-- What a value should have been. -/
inductive Wanted where
  | report
  | perChannel
  | word (format : WordFormat)
  deriving Repr, DecidableEq

/-- How a wanted value is named. -/
def Wanted.message : Wanted → String
  | report => "struct DebugReport"
  | perChannel => s!"an array of length {PerChannel.slots}"
  | word format => format.name

/-- How a wanted value is named where elements are counted. -/
def Wanted.countMessage : Wanted → String
  | report => Wanted.report.message ++ s!" with {Field.all.length} elements"
  | wanted => wanted.message

/-- Why a JSON text is no report. -/
inductive Problem where
  | wrongType (found : Found) (wanted : Wanted)
  | outOfRange (value : Int) (format : WordFormat)
  | tooShort (length : Nat) (wanted : Wanted)
  | duplicate (field : Field)
  | missing (field : Field)
  deriving Repr, DecidableEq

/-- What is said about a JSON text that is no report. -/
def Problem.message : Problem → String
  | wrongType found wanted =>
      "invalid type: " ++ found.message ++ ", expected " ++ wanted.message
  | outOfRange value format =>
      s!"invalid value: integer `{value}`, expected " ++ format.name
  | tooShort length wanted =>
      s!"invalid length {length}, expected " ++ wanted.countMessage
  | duplicate field => s!"duplicate field `{field.key}`"
  | missing field => s!"missing field `{field.key}`"

/-- Why no report can be read from a text. -/
inductive Refusal where
  /-- The text is no JSON. -/
  | text (flaw : AudioScope.Json.Flaw)
  /-- The JSON is no report. -/
  | content (problem : Problem)
  deriving Repr, DecidableEq

end AudioScope.Report.Json
