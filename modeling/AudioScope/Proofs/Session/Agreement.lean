import AudioScope.Proofs.Report.Layout
import AudioScope.Proofs.Session.Lockstep
import AudioScope.Proofs.Session.Recording

namespace AudioScope

open ReportSource

/-!
# Sources that agree on the FIFO

Of the records that it reads, a session passes on some bytes only: the history is
made of the FIFO levels, and where a report begins or ends does not depend on any
byte.  Sources whose answers agree on the bytes of the FIFO words are therefore
taken for each other (`Session.agreement`).
-/

/--
Two answers that agree on the bytes of their records from the FIFO size on and up
to a given one: the same fault, buffers of the same length that are too short, or
buffers with room for a record and the same bytes in that range.
-/
inductive Answer.Agree (past : Nat) : Answer → Answer → Prop where
  | fault (fault : Device.Fault) :
      Agree past (.error fault) (.error fault)
  | short
      {left right : List UInt8}
      (short : left.length < 20)
      (sameLength : left.length = right.length) :
      Agree past (.ok left) (.ok right)
  | record
      {left right : List UInt8}
      (leftEnough : 20 ≤ left.length)
      (rightEnough : 20 ≤ right.length)
      (same : ∀ index, 14 ≤ index → index < past → left[index]? = right[index]?) :
      Agree past (.ok left) (.ok right)

/-- Two reports with the same FIFO size and count, and with the same average if it is looked at. -/
structure Report.SameFifo
    (past : Nat)
    (left right : Report) :
    Prop where
  size : left.fifoSize = right.fifoSize
  count : left.fifoCount = right.fifoCount
  average : 20 ≤ past → left.fifoAverage = right.fifoAverage

namespace Report

theorem Slot.bytes_congr
    {slot : Slot}
    {left right : List UInt8}
    (same : ∀ index, slot.Owns index → left[index]? = right[index]?) :
    slot.bytes left = slot.bytes right := by
  refine List.ext_getElem? fun place => ?_
  rw [getElem?_bytes, getElem?_bytes]
  by_cases inside : place < slot.width
  · rw [if_pos inside, if_pos inside]
    exact same _ ⟨Nat.le_add_right _ _, Nat.add_lt_add_left inside _⟩
  · rw [if_neg inside, if_neg inside]

/-- Records with the same bytes of the FIFO are those of reports with the same FIFO. -/
theorem sameFifo_of_decode
    {past : Nat}
    (enough : 18 ≤ past)
    {left right : List UInt8}
    (leftEnough : recordSize ≤ left.length)
    (rightEnough : recordSize ≤ right.length)
    (same : ∀ index, 14 ≤ index → index < past → left[index]? = right[index]?)
    {leftReport rightReport : Report}
    (leftDecoded : decode left = .ok leftReport)
    (rightDecoded : decode right = .ok rightReport) :
    SameFifo past leftReport rightReport := by
  have sameValue
      (slot : Slot)
      (start : 14 ≤ slot.offset)
      (stop : slot.offset + slot.width ≤ past) :
      slot.value leftReport = slot.value rightReport := by
    rw [slot.value_eq_iff_bytes_eq leftDecoded rightDecoded leftEnough rightEnough]
    refine Slot.bytes_congr fun index owned => ?_
    exact same index (Nat.le_trans start owned.1) (Nat.lt_of_lt_of_le owned.2 stop)
  have sizeEnd : Slot.fifoSize.offset + Slot.fifoSize.width ≤ past :=
    Nat.le_trans (by decide) enough
  exact
    { size := FixedWidth.toInt_inj.mp (sameValue .fifoSize (by decide) sizeEnd)
      count := FixedWidth.toInt_inj.mp (sameValue .fifoCount (by decide) enough)
      average := fun whole =>
        FixedWidth.toInt_inj.mp (sameValue .fifoAverage (by decide) whole) }

end Report

/-- Reads of answers that agree end alike. -/
theorem Answer.Agree.received
    {past : Nat}
    (enough : 18 ≤ past)
    {left right : Answer}
    (agree : left.Agree past right) :
    Session.EndAlike (Report.SameFifo past) (Session.received left)
      (Session.received right) := by
  cases agree with
  | fault fault =>
      exact .error fault
  | short short sameLength =>
      have leftShort := Report.decode_of_lt short
      have rightShort := Report.decode_of_lt (sameLength ▸ short)
      simp only [Session.received, leftShort, rightShort, sameLength]
      exact .error _
  | record leftEnough rightEnough same =>
      obtain ⟨leftReport, leftDecoded⟩ := Report.exists_decode_of_le leftEnough
      obtain ⟨rightReport, rightDecoded⟩ := Report.exists_decode_of_le rightEnough
      simp only [Session.received, leftDecoded, rightDecoded]
      exact .ok
        (Report.sameFifo_of_decode enough leftEnough rightEnough same leftDecoded rightDecoded)

/-- Sources whose answers agree, one after the other, are taken for each other. -/
def Session.agreement
    {past : Nat}
    (enough : 18 ≤ past)
    (σ τ : Type)
    [ReportSource σ]
    [ReportSource τ] :
    Simulation σ τ where
  sources left right :=
    ∀ count, Answer.Agree past (answer (after count left)) (answer (after count right))
  reports := Report.SameFifo past
  histories left right :=
    left.countSeries = right.countSeries ∧
      (20 ≤ past → left.averageSeries = right.averageSeries)
  answer agree := (agree 0).received enough
  next agree count := agree (count + 1)
  push := by
    rintro left right first second ⟨counts, averages⟩ same
    refine ⟨?_, fun whole => ?_⟩
    · rw [History.push, History.push, counts, same.count]
    · rw [History.push, History.push, averages whole, same.average whole]

/-- Streams that agree entry by entry are sources that agree. -/
theorem Replay.agree_after
    {past : Nat}
    {left right : List Answer}
    (agree : List.Forall₂ (Answer.Agree past) left right)
    (count : Nat) :
    Answer.Agree past (answer (after count (Replay.mk left)))
      (answer (after count (Replay.mk right))) := by
  induction agree generalizing count with
  | nil =>
      rw [Replay.after_eq, List.drop_nil]
      exact .short (by decide) rfl
  | cons first later inductionHypothesis =>
      cases count with
      | zero =>
          exact first
      | succ count =>
          exact inductionHypothesis count

end AudioScope
