import AudioScope.Proofs.FixedWidth.Text
import AudioScope.Report.Text

namespace AudioScope

/-!
# What texts of a report tell

The lines that describe a report tell every field of it, and the line on the FIFO
tells the size of the FIFO and how full it is.  No such line is empty or has a
newline in it.
-/

open FixedWidth

namespace PerChannel

variable {α : Type} [FixedWidth α]

theorem toList_text
    (separator : String)
    (values : PerChannel α) :
    (values.text separator).toList =
      '[' :: ((FixedWidth.text values.master).toList ++
        (separator.toList ++ ((FixedWidth.text values.first).toList ++
          (separator.toList ++ ((FixedWidth.text values.second).toList ++ [']']))))) := by
  simp [text, toList]

/-- The text of several values tells them, if the separator cannot be a part of a value. -/
theorem text_inj
    {separator : String}
    {start : Char}
    {more : List Char}
    (shape : separator.toList = start :: more)
    (foreign : isNumeral start = false)
    {left right : PerChannel α} :
    left.text separator = right.text separator ↔ left = right := by
  constructor
  · intro same
    have chars := congrArg String.toList same
    rw [toList_text, toList_text] at chars
    have separated (rest : List Char) :
        (separator.toList ++ rest).head?.any isNumeral = false := by
      simp [shape, foreign]
    obtain ⟨master, behindMaster⟩ :=
      text_append_inj (separated _) (separated _) (List.cons.inj chars).2
    obtain ⟨first, behindFirst⟩ :=
      text_append_inj (separated _) (separated _) (List.append_cancel_left behindMaster)
    obtain ⟨second, -⟩ :=
      text_append_inj (by decide) (by decide) (List.append_cancel_left behindFirst)
    exact toList_inj.mp (by simp [toList, master, first, second])
  · rintro rfl
    rfl

theorem notMem_text
    {char : Char}
    {separator : String}
    (foreign : isNumeral char = false)
    (notBracket : char ∉ ['[', ']'])
    (apart : char ∉ separator.toList)
    (values : PerChannel α) :
    char ∉ (values.text separator).toList := by
  simp only [List.mem_cons, List.not_mem_nil, or_false, not_or] at notBracket
  simp [toList_text, FixedWidth.notMem_text foreign, notBracket, apart]

end PerChannel

namespace Report

/-- The text of a field tells what the field holds. -/
theorem fieldText_inj
    {left right : Report}
    {field : Field} :
    left.fieldText ", " field = right.fieldText ", " field ↔ left.get field = right.get field := by
  cases field with
  | sampleRate => exact FixedWidth.text_inj (α := UInt32)
  | altSetting => exact FixedWidth.text_inj (α := UInt8)
  | mute => exact PerChannel.text_inj (α := Int8) (by rfl) (by decide)
  | volume => exact PerChannel.text_inj (α := Int16) (by rfl) (by decide)
  | fifoSize => exact FixedWidth.text_inj (α := UInt16)
  | fifoCount => exact FixedWidth.text_inj (α := UInt16)
  | fifoAverage => exact FixedWidth.text_inj (α := UInt16)

/-- The line on the FIFO tells two fields, whatever it goes on with. -/
theorem fifoLine_append_inj
    {left right : Report}
    {leftRest rightRest : List Char}
    (leftStops : leftRest.head?.any isNumeral = false)
    (rightStops : rightRest.head?.any isNumeral = false)
    (same : left.fifoLine.toList ++ leftRest = right.fifoLine.toList ++ rightRest) :
    left.fifoSize = right.fifoSize ∧
      left.fifoCount = right.fifoCount ∧ leftRest = rightRest := by
  simp only [fifoLine, String.toList_append, List.append_assoc] at same
  have fields := List.append_cancel_left same
  have separated (rest : List Char) :
      (" | FIFO count:".toList ++ rest).head?.any isNumeral = false := by
    rfl
  obtain ⟨size, behindSize⟩ := text_append_inj (separated _) (separated _) fields
  obtain ⟨count, rests⟩ :=
    text_append_inj leftStops rightStops (List.append_cancel_left behindSize)
  exact ⟨size, count, rests⟩

theorem fifoLine_inj {left right : Report} :
    left.fifoLine = right.fifoLine ↔
      left.fifoSize = right.fifoSize ∧ left.fifoCount = right.fifoCount := by
  constructor
  · intro same
    have chars : left.fifoLine.toList ++ [] = right.fifoLine.toList ++ [] := by
      rw [same]
    obtain ⟨size, count, -⟩ := fifoLine_append_inj rfl rfl chars
    exact ⟨size, count⟩
  · rintro ⟨size, count⟩
    simp only [fifoLine, fieldText, size, count]

/-- The lines of a report tell every field. -/
theorem lines_inj {left right : Report} : left.lines = right.lines ↔ left = right := by
  constructor
  · intro same
    simp only [lines, List.cons.injEq, and_true] at same
    obtain ⟨rateLine, settingLine, muteLine, volumeLine, fifoLine⟩ := same
    have rate := (String.append_right_inj _).mp ((String.append_left_inj _).mp rateLine)
    have setting := (String.append_right_inj _).mp settingLine
    have mute := (String.append_right_inj _).mp muteLine
    have volume := (String.append_right_inj _).mp volumeLine
    have fifo := congrArg String.toList fifoLine
    simp only [String.toList_append, List.append_assoc] at fifo
    obtain ⟨size, count, behindCount⟩ := fifoLine_append_inj rfl rfl fifo
    have average := String.toList_injective (List.append_cancel_left behindCount)
    refine ext_get fun field => ?_
    cases field with
    | sampleRate => exact fieldText_inj.mp rate
    | altSetting => exact fieldText_inj.mp setting
    | mute => exact fieldText_inj.mp mute
    | volume => exact fieldText_inj.mp volume
    | fifoSize => exact size
    | fifoCount => exact count
    | fifoAverage => exact fieldText_inj.mp average
  · rintro rfl
    rfl

/-- The texts of the fields do not break a line. -/
theorem newline_notMem_fieldText
    (separator : String)
    (unbroken : '\n' ∉ separator.toList)
    (report : Report)
    (field : Field) :
    '\n' ∉ (report.fieldText separator field).toList := by
  cases field with
  | mute => exact PerChannel.notMem_text (by decide) (by decide) unbroken report.mute
  | volume => exact PerChannel.notMem_text (by decide) (by decide) unbroken report.volume
  | sampleRate => exact FixedWidth.notMem_text (by decide) report.sampleRate
  | altSetting => exact FixedWidth.notMem_text (by decide) report.altSetting
  | fifoSize => exact FixedWidth.notMem_text (by decide) report.fifoSize
  | fifoCount => exact FixedWidth.notMem_text (by decide) report.fifoCount
  | fifoAverage => exact FixedWidth.notMem_text (by decide) report.fifoAverage

theorem newline_notMem_fifoLine (report : Report) : '\n' ∉ report.fifoLine.toList := by
  have field := newline_notMem_fieldText ", " (by decide) report
  simp [fifoLine, field]

theorem newline_notMem_lines
    {report : Report}
    {line : String}
    (member : line ∈ report.lines) :
    '\n' ∉ line.toList := by
  have field := newline_notMem_fieldText ", " (by decide) report
  have fifo := report.newline_notMem_fifoLine
  simp only [lines, List.mem_cons, List.not_mem_nil, or_false] at member
  rcases member with rfl | rfl | rfl | rfl | rfl <;> simp [field, fifo]

theorem ne_empty_of_mem_lines
    {report : Report}
    {line : String}
    (member : line ∈ report.lines) :
    line ≠ "" := by
  simp only [lines, List.mem_cons, List.not_mem_nil, or_false] at member
  rcases member with rfl | rfl | rfl | rfl | rfl <;> simp

end Report

end AudioScope
