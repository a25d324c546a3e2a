import AudioScope.FixedWidth
import AudioScope.Json.Grammar
import AudioScope.Report.Basic

namespace AudioScope.Report.Json

/-!
# The JSON form of a report

What a JSON value must look like for each field, told on syntax trees and without
reading any text: a word is an integer that fits it, and values of all channels are
an array of as many words as there are channels.
-/

open AudioScope.Json

/-- The word of a value that is an integer and fits. -/
def wordForm?
    (α : Type)
    [FixedWidth α] :
    Value → Option α
  | .number number => number.integer?.bind FixedWidth.ofInt?
  | _ => none

/-- The words of an array that has exactly one for each channel. -/
def perChannelForm?
    (α : Type)
    [FixedWidth α] :
    Value → Option (PerChannel α)
  | .array _ [master, first, second] => do
      let master ← wordForm? α master.value
      let first ← wordForm? α first.value
      let second ← wordForm? α second.value
      return ⟨master, first, second⟩
  | _ => none

/-- What a field holds if it is given by a value, as far as the value has the field's form. -/
def form? : (field : Field) → Value → Option field.Value
  | .sampleRate => wordForm? UInt32
  | .altSetting => wordForm? UInt8
  | .mute => perChannelForm? Int8
  | .volume => perChannelForm? Int16
  | .fifoSize => wordForm? UInt16
  | .fifoCount => wordForm? UInt16
  | .fifoAverage => wordForm? UInt16

/-- The values of all members with a given key, in their order. -/
def valuesAt
    (name : String)
    (members : List NamedMember) :
    List Value :=
  (members.filter fun member => member.name == name).map fun member => member.element.value

/-- Where blanks stand around the outermost brackets of a document. -/
structure Frame where
  before : List Blank
  inner : List Blank
  behind : List Blank
  deriving Repr, DecidableEq

namespace Frame

/-- The document of an object. -/
def object
    (frame : Frame)
    (members : List NamedMember) :
    String :=
  let value := .object frame.inner (members.map NamedMember.toMember)
  String.ofList (Element.text ⟨frame.before, value, frame.behind⟩)

/-- The document of an array. -/
def array
    (frame : Frame)
    (elements : List Element) :
    String :=
  String.ofList (Element.text ⟨frame.before, .array frame.inner elements, frame.behind⟩)

end Frame

end AudioScope.Report.Json
