import AudioScope.Report.Record

namespace AudioScope

/-!
# The layout of a record

A record consists of slots, each with one machine word: a field with a single
value is one slot, and a field with a value for every channel is one slot for
each of them.  `Report.Slot.offset` and `Report.Slot.width` tell which bytes
belong to a slot, and `Report.Slot.value` what a report holds in it.

`Report.decodeAt?` decodes a record by its offsets, byte after byte.  It has no
answer if it comes to a byte that lies outside the buffer.
-/

/-- A channel of the device: the master channel or an audio channel. -/
inductive Channel where
  | master
  | first
  | second
  deriving Repr, DecidableEq

/-- Where a channel stands among the channels. -/
def Channel.index : Channel → Nat
  | master => 0
  | first => 1
  | second => 2

namespace PerChannel

/-- The value of one channel. -/
def get
    {α : Type}
    (values : PerChannel α) :
    Channel → α
  | .master => values.master
  | .first => values.first
  | .second => values.second

theorem ext_get
    {α : Type}
    {left right : PerChannel α}
    (same : ∀ channel, left.get channel = right.get channel) :
    left = right := by
  cases left
  cases right
  have master := same .master
  have first := same .first
  have second := same .second
  simp only [get] at master first second
  subst master first second
  rfl

/-- The values of all channels, if every channel has one. -/
def collect?
    {α : Type}
    (value? : Channel → Option α) :
    Option (PerChannel α) := do
  let master ← value? .master
  let first ← value? .first
  let second ← value? .second
  return ⟨master, first, second⟩

end PerChannel

/-- The integer that a number stands for as the two's complement of some bits. -/
def twosComplement (bits number : Nat) : Int :=
  if Nat.pow 2 (bits - 1) ≤ number then number - Nat.pow 2 bits else number

/-- The integer that a number stands for in a format. -/
def WordFormat.reading
    (format : WordFormat)
    (number : Nat) :
    Int :=
  if format.signed then twosComplement format.bits number else number

namespace Report

/-- A place for one word in a record. -/
inductive Slot where
  | sampleRate
  | altSetting
  | mute (channel : Channel)
  | volume (channel : Channel)
  | fifoSize
  | fifoCount
  | fifoAverage
  deriving Repr, DecidableEq

namespace Slot

/-- The field that a slot is a part of. -/
def field : Slot → Field
  | sampleRate => .sampleRate
  | altSetting => .altSetting
  | mute _ => .mute
  | volume _ => .volume
  | fifoSize => .fifoSize
  | fifoCount => .fifoCount
  | fifoAverage => .fifoAverage

/-- How the word in a slot is read. -/
def format : Slot → WordFormat
  | sampleRate => FixedWidth.format UInt32
  | altSetting => FixedWidth.format UInt8
  | mute _ => FixedWidth.format Int8
  | volume _ => FixedWidth.format Int16
  | fifoSize => FixedWidth.format UInt16
  | fifoCount => FixedWidth.format UInt16
  | fifoAverage => FixedWidth.format UInt16

/-- How many bytes a slot has. -/
def width : Slot → Nat
  | sampleRate => 4
  | altSetting => 1
  | mute _ => 1
  | volume _ => 2
  | fifoSize => 2
  | fifoCount => 2
  | fifoAverage => 2

/-- The bytes of a slot are the bits of its word. -/
theorem bits_format (slot : Slot) : slot.format.bits = 8 * slot.width := by
  cases slot <;> rfl

/-- The first byte of the mute values. -/
def muteOffset : Nat := 5

/-- The first byte of the volume values. -/
def volumeOffset : Nat := muteOffset + PerChannel.slots

/-- The first byte of the FIFO words. -/
def fifoOffset : Nat := volumeOffset + 2 * PerChannel.slots

/-- Where the bytes of a slot begin. -/
def offset : Slot → Nat
  | sampleRate => 0
  | altSetting => 4
  | mute channel => muteOffset + channel.index
  | volume channel => volumeOffset + 2 * channel.index
  | fifoSize => fifoOffset
  | fifoCount => fifoOffset + 2
  | fifoAverage => fifoOffset + 4

/-- Whether a slot has a byte of the record. -/
def Owns
    (slot : Slot)
    (index : Nat) :
    Prop :=
  slot.offset ≤ index ∧ index < slot.offset + slot.width

instance
    (slot : Slot)
    (index : Nat) :
    Decidable (slot.Owns index) :=
  inferInstanceAs (Decidable (_ ∧ _))

/-- The bytes of a slot in a buffer that starts with a record. -/
def bytes
    (slot : Slot)
    (buffer : List UInt8) :
    List UInt8 :=
  (buffer.drop slot.offset).take slot.width

/-- The integer that a report holds in a slot. -/
def value
    (slot : Slot)
    (report : Report) :
    Int :=
  match slot with
  | sampleRate => FixedWidth.toInt report.sampleRate
  | altSetting => FixedWidth.toInt report.altSetting
  | mute channel => FixedWidth.toInt (report.mute.get channel)
  | volume channel => FixedWidth.toInt (report.volume.get channel)
  | fifoSize => FixedWidth.toInt report.fifoSize
  | fifoCount => FixedWidth.toInt report.fifoCount
  | fifoAverage => FixedWidth.toInt report.fifoAverage

/-- All slots in the order of their bytes. -/
def all : List Slot :=
  [sampleRate, altSetting,
    mute .master, mute .first, mute .second,
    volume .master, volume .first, volume .second,
    fifoSize, fifoCount, fifoAverage]

theorem mem_all (slot : Slot) : slot ∈ all := by
  cases slot with
  | mute channel => cases channel <;> decide
  | volume channel => cases channel <;> decide
  | _ => decide

end Slot

/-- The word of two bytes from an offset on. -/
def word16At?
    (buffer : List UInt8)
    (offset : Nat) :
    Option UInt16 := do
  let low ← buffer[offset]?
  let high ← buffer[offset + 1]?
  return word16 low high

/-- The word of four bytes from an offset on. -/
def word32At?
    (buffer : List UInt8)
    (offset : Nat) :
    Option UInt32 := do
  let b0 ← buffer[offset]?
  let b1 ← buffer[offset + 1]?
  let b2 ← buffer[offset + 2]?
  let b3 ← buffer[offset + 3]?
  return word32 b0 b1 b2 b3

/-- The report whose record stands at the front of a buffer, slot by slot. -/
def decodeAt? (buffer : List UInt8) : Option (Except Truncated Report) :=
  if buffer.length < recordSize then
    some (.error ⟨recordSize, buffer.length⟩)
  else do
    let sampleRate ← word32At? buffer Slot.sampleRate.offset
    let altSetting ← buffer[Slot.altSetting.offset]?
    let mute ← PerChannel.collect? fun channel =>
      (buffer[(Slot.mute channel).offset]?).map UInt8.toInt8
    let volume ← PerChannel.collect? fun channel =>
      (word16At? buffer (Slot.volume channel).offset).map UInt16.toInt16
    let fifoSize ← word16At? buffer Slot.fifoSize.offset
    let fifoCount ← word16At? buffer Slot.fifoCount.offset
    let fifoAverage ← word16At? buffer Slot.fifoAverage.offset
    return .ok { sampleRate, altSetting, mute, volume, fifoSize, fifoCount, fifoAverage }

end Report

end AudioScope
