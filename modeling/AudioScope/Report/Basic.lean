import AudioScope.FixedWidth

namespace AudioScope

/-!
# Debug reports

A debug report is a snapshot of the audio function of a USB device: the sample
rate and alternate setting in use, mute and volume of every channel, and the
state of the FIFO between the audio and the USB side.

`Report.Field` names the seven fields in the order in which every format lists
them; `Report.get` and `Report.Draft` look at a report field by field.
-/

/-- Audio channels on the receiving side of the device. -/
def channelCount : Nat := 2

/-- One value for the master channel and one for each audio channel. -/
structure PerChannel (α : Type) where
  master : α
  first : α
  second : α
  deriving Repr, DecidableEq

namespace PerChannel

/-- Values of one report field: the master channel and all audio channels. -/
def slots : Nat := 1 + channelCount

/-- The values in the order of the channels, the master channel in front. -/
def toList
    {α : Type}
    (values : PerChannel α) :
    List α :=
  [values.master, values.first, values.second]

theorem length_toList
    {α : Type}
    (values : PerChannel α) :
    values.toList.length = slots :=
  rfl

/-- Nothing but the listed values makes up the collection. -/
theorem toList_inj
    {α : Type}
    {left right : PerChannel α} :
    left.toList = right.toList ↔ left = right := by
  cases left
  cases right
  simp [toList]

end PerChannel

/-- A snapshot of the audio function of the device. -/
structure Report where
  sampleRate : UInt32
  altSetting : UInt8
  mute : PerChannel Int8
  volume : PerChannel Int16
  fifoSize : UInt16
  fifoCount : UInt16
  fifoAverage : UInt16
  deriving Repr, DecidableEq

namespace Report

/-- The fields of a report. -/
inductive Field where
  | sampleRate
  | altSetting
  | mute
  | volume
  | fifoSize
  | fifoCount
  | fifoAverage
  deriving Repr, DecidableEq

namespace Field

/-- All fields in the order of their declaration. -/
def all : List Field :=
  [sampleRate, altSetting, mute, volume, fifoSize, fifoCount, fifoAverage]

theorem mem_all (field : Field) : field ∈ all := by
  cases field <;> decide

/-- The key under which a field is written. -/
def key : Field → String
  | sampleRate => "sample_rate"
  | altSetting => "alt_settings"
  | mute => "mute"
  | volume => "volume"
  | fifoSize => "fifo_size"
  | fifoCount => "fifo_count"
  | fifoAverage => "fifo_count_avg"

/-- The field that is written under a key. -/
def ofKey? (key : String) : Option Field :=
  all.find? (fun field => field.key == key)

/-- A field is found under its own key. -/
theorem ofKey?_key (field : Field) : ofKey? field.key = some field := by
  cases field <;> decide

/-- A field is found under no other key. -/
theorem key_of_ofKey?
    {key : String}
    {field : Field}
    (found : ofKey? key = some field) :
    field.key = key := by
  have holds := List.find?_some found
  simpa using holds

/-- What a field holds. -/
def Value : Field → Type
  | sampleRate => UInt32
  | altSetting => UInt8
  | mute => PerChannel Int8
  | volume => PerChannel Int16
  | fifoSize => UInt16
  | fifoCount => UInt16
  | fifoAverage => UInt16

end Field

/-- What a report holds in one field. -/
def get (report : Report) : (field : Field) → field.Value
  | .sampleRate => report.sampleRate
  | .altSetting => report.altSetting
  | .mute => report.mute
  | .volume => report.volume
  | .fifoSize => report.fifoSize
  | .fifoCount => report.fifoCount
  | .fifoAverage => report.fifoAverage

theorem ext_get
    {left right : Report}
    (same : ∀ field, left.get field = right.get field) :
    left = right := by
  cases left
  cases right
  have rate := same .sampleRate
  have setting := same .altSetting
  have mute := same .mute
  have volume := same .volume
  have size := same .fifoSize
  have count := same .fifoCount
  have average := same .fifoAverage
  simp only [get] at rate setting mute volume size count average
  subst rate setting mute volume size count average
  rfl

/-- A report in the making: what is known of each field. -/
def Draft : Type :=
  (field : Field) → Option field.Value

namespace Draft

/-- Nothing is known yet. -/
def blank : Draft :=
  fun _ => none

/-- Fill in one field. -/
def put
    (draft : Draft)
    (field : Field)
    (value : field.Value) :
    Draft :=
  fun other => if same : field = other then some (same ▸ value) else draft other

@[simp]
theorem put_same
    (draft : Draft)
    (field : Field)
    (value : field.Value) :
    draft.put field value field = some value := by
  simp [put]

theorem put_other
    (draft : Draft)
    {field other : Field}
    (value : field.Value)
    (different : field ≠ other) :
    draft.put field value other = draft other := by
  simp [put, different]

/-- The value of a field, or the field itself if it is still missing. -/
def require
    (draft : Draft)
    (field : Field) :
    Except Field field.Value :=
  match draft field with
  | some value => .ok value
  | none => .error field

/-- The finished report, or the first field that is missing. -/
def report? (draft : Draft) : Except Field Report := do
  let sampleRate ← draft.require .sampleRate
  let altSetting ← draft.require .altSetting
  let mute ← draft.require .mute
  let volume ← draft.require .volume
  let fifoSize ← draft.require .fifoSize
  let fifoCount ← draft.require .fifoCount
  let fifoAverage ← draft.require .fifoAverage
  return { sampleRate, altSetting, mute, volume, fifoSize, fifoCount, fifoAverage }

/-- A draft that knows every field of a report is that report. -/
theorem report?_of_get
    {draft : Draft}
    {report : Report}
    (known : ∀ field, draft field = some (report.get field)) :
    draft.report? = .ok report := by
  simp [report?, require, known]
  rfl

end Draft

end Report

end AudioScope
