import AudioScope.Report.Basic

namespace AudioScope

/-!
# The binary record of a report

A report travels as a record of twenty bytes, least significant byte first and
without gaps: the sample rate, the alternate setting, one byte of mute and two
bytes of volume for every channel, then the three FIFO words.  The device pads
the record to a full HID report, so whatever follows the record is ignored, and
a buffer that is shorter than the record is refused as a whole.
-/

/-- The word of two bytes. -/
def word16 (low high : UInt8) : UInt16 :=
  low.toUInt16 ||| (high.toUInt16 <<< 8)

/-- The word of four bytes, the lowest first. -/
def word32 (b0 b1 b2 b3 : UInt8) : UInt32 :=
  b0.toUInt32 ||| (b1.toUInt32 <<< 8) ||| (b2.toUInt32 <<< 16) ||| (b3.toUInt32 <<< 24)

/-- The two bytes of a word. -/
def bytes16 (word : UInt16) : List UInt8 :=
  [word.toUInt8, (word >>> 8).toUInt8]

/-- The four bytes of a word. -/
def bytes32 (word : UInt32) : List UInt8 :=
  [word.toUInt8, (word >>> 8).toUInt8, (word >>> 16).toUInt8, (word >>> 24).toUInt8]

namespace Report

/-- Bytes in a record. -/
def recordSize : Nat :=
  4 + 1 + PerChannel.slots + 2 * PerChannel.slots + 2 + 2 + 2

/-- Bytes in a HID report of the device: the record and its padding. -/
def hidReportSize : Nat := 64

/-- A buffer that is too short to hold a record. -/
structure Truncated where
  expected : Nat
  actual : Nat
  deriving Repr, DecidableEq

/-- What is said about a buffer that is too short. -/
def Truncated.message (fault : Truncated) : String :=
  s!"Malformed debug report: expected at least {fault.expected} bytes, got {fault.actual}"

/-- The report whose record stands at the front of a buffer. -/
def decode : List UInt8 → Except Truncated Report
  | r0 :: r1 :: r2 :: r3 :: setting ::
      m0 :: m1 :: m2 ::
      v0 :: v1 :: v2 :: v3 :: v4 :: v5 ::
      s0 :: s1 :: c0 :: c1 :: a0 :: a1 :: _ =>
      .ok {
        sampleRate := word32 r0 r1 r2 r3
        altSetting := setting
        mute := ⟨m0.toInt8, m1.toInt8, m2.toInt8⟩
        volume := ⟨(word16 v0 v1).toInt16, (word16 v2 v3).toInt16, (word16 v4 v5).toInt16⟩
        fifoSize := word16 s0 s1
        fifoCount := word16 c0 c1
        fifoAverage := word16 a0 a1 }
  | short => .error ⟨recordSize, short.length⟩

/-- A buffer that is shorter than a record is refused. -/
theorem decode_of_lt
    {buffer : List UInt8}
    (short : buffer.length < recordSize) :
    decode buffer = .error ⟨recordSize, buffer.length⟩ := by
  unfold decode
  split
  · simp [recordSize, PerChannel.slots, channelCount] at short
    omega
  · rfl

/-- Every buffer that is long enough for a record holds one. -/
theorem exists_decode_of_le
    {buffer : List UInt8}
    (enough : recordSize ≤ buffer.length) :
    ∃ report, decode buffer = .ok report := by
  rcases buffer with
    _ | ⟨_, _ | ⟨_, _ | ⟨_, _ | ⟨_, _ | ⟨_,
    _ | ⟨_, _ | ⟨_, _ | ⟨_, _ | ⟨_, _ | ⟨_,
    _ | ⟨_, _ | ⟨_, _ | ⟨_, _ | ⟨_, _ | ⟨_,
    _ | ⟨_, _ | ⟨_, _ | ⟨_, _ | ⟨_, _ | ⟨_,
    rest⟩⟩⟩⟩⟩⟩⟩⟩⟩⟩⟩⟩⟩⟩⟩⟩⟩⟩⟩⟩
  case cons => exact ⟨_, rfl⟩
  all_goals simp [recordSize, PerChannel.slots, channelCount] at enough

/-- The record of a report. -/
def encode (report : Report) : List UInt8 :=
  bytes32 report.sampleRate ++
  [report.altSetting] ++
  report.mute.toList.map Int8.toUInt8 ++
  report.volume.toList.flatMap (fun volume => bytes16 volume.toUInt16) ++
  bytes16 report.fifoSize ++
  bytes16 report.fifoCount ++
  bytes16 report.fifoAverage

/-- Every record has the same size. -/
theorem length_encode (report : Report) : report.encode.length = recordSize := by
  rfl

end Report

end AudioScope
