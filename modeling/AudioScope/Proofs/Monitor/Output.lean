import AudioScope.Proofs.Monitor.Ending
import AudioScope.Proofs.Report.Json.RoundTrip
import AudioScope.Text.Lines

namespace AudioScope

/-!
# What the monitor's output tells

The monitor shows a batch in complete lines, always the same number of them, and
the lines of a batch tell what its mode is meant to show.  So the output can be
cut into batches again, and tells the whole sequence of them.  What a run of the
monitor puts on standard output is of this kind, with one more line at its end
(`Monitor.Options.output_watch`).
-/

/-- Lists that are made of equally long parts tell their parts. -/
theorem map_eq_of_flatMap_eq
    {α β : Type}
    {part : α → List β}
    {length : Nat}
    (positive : 0 < length)
    (sameLength : ∀ item, (part item).length = length)
    {left right : List α}
    (same : left.flatMap part = right.flatMap part) :
    left.map part = right.map part := by
  have nonempty (item : α) : part item ≠ [] := by
    intro empty
    have whole := sameLength item
    rw [empty] at whole
    exact absurd whole (Nat.ne_of_lt positive)
  induction left generalizing right with
  | nil =>
      cases right with
      | nil =>
          rfl
      | cons item right =>
          exact absurd (List.append_eq_nil_iff.mp same.symm).1 (nonempty item)
  | cons item left inductionHypothesis =>
      cases right with
      | nil =>
          exact absurd (List.append_eq_nil_iff.mp same).1 (nonempty item)
      | cons other right =>
          -- The first parts end at the same place, because they are equally long.
          rw [List.flatMap_cons, List.flatMap_cons] at same
          obtain ⟨parts, rest⟩ :=
            List.append_inj same ((sameLength item).trans (sameLength other).symm)
          rw [List.map_cons, List.map_cons, parts, inductionHypothesis rest]

/-- Two views of list elements that identify the same elements identify the same lists. -/
theorem map_eq_map_iff_of_iff
    {α β γ : Type}
    {first : α → β}
    {second : α → γ}
    (agree : ∀ left right, first left = first right ↔ second left = second right)
    {left right : List α} :
    left.map first = right.map first ↔ left.map second = right.map second := by
  induction left generalizing right with
  | nil =>
      cases right <;> simp
  | cons item left inductionHypothesis =>
      cases right with
      | nil =>
          simp
      | cons other right =>
          simp only [List.map_cons, List.cons.injEq, agree, inductionHypothesis]

/-- The text that a journal puts on standard output. -/
def Journal.output (journal : Journal) : String :=
  String.join (journal.filterMap Event.printed?)

namespace Report.Json

theorem newline_notMem_write (report : Report) : '\n' ∉ (write report).toList := by
  have field := newline_notMem_fieldText "," (by decide) report
  have key (field : Field) : '\n' ∉ field.key.toList := by
    cases field <;> decide
  simp [write, Field.all, member, field, key]

end Report.Json

namespace Monitor.Options

variable (options : Options)

/-- What is shown of batches that end with some reports. -/
def shown (reports : List Report) : Journal :=
  reports.map fun report => line (options.batchText report)

/-- The lines that a batch is shown in. -/
def batchLines (report : Report) : List String :=
  if options.json then
    [Report.Json.write report]
  else if options.full then
    report.lines ++ [""]
  else
    [report.fifoLine]

theorem length_batchLines (report : Report) :
    (options.batchLines report).length = if !options.json && options.full then 6 else 1 := by
  unfold batchLines
  cases options.json <;> cases options.full <;> rfl

theorem newline_notMem_batchLines
    {report : Report}
    {line : String}
    (member : line ∈ options.batchLines report) :
    '\n' ∉ line.toList := by
  unfold batchLines at member
  split at member
  · rw [List.mem_singleton.mp member]
    exact Report.Json.newline_notMem_write report
  · split at member
    · rcases List.mem_append.mp member with ofReport | empty
      · exact Report.newline_notMem_lines ofReport
      · rw [List.mem_singleton.mp empty]
        decide
    · rw [List.mem_singleton.mp member]
      exact report.newline_notMem_fifoLine

/-- What is printed of a batch are its lines. -/
theorem batchText_append_newline (report : Report) :
    options.batchText report ++ "\n" = unlines (options.batchLines report) := by
  unfold batchText batchLines
  split
  · simp [unlines]
  · split
    · simp [unlines, Report.describe, Report.lines, String.append_assoc]
    · simp [unlines]

theorem output_shown (reports : List Report) :
    (options.shown reports).output = unlines (reports.flatMap options.batchLines) := by
  induction reports with
  | nil =>
      rfl
  | cons report reports inductionHypothesis =>
      rw [List.flatMap_cons, unlines_append, ← inductionHypothesis, ← batchText_append_newline]
      simp [shown, Journal.output, line, Event.printed?]

/-- The output consists of the lines of all batches, and nothing stands behind them. -/
theorem linesOf_output (reports : List Report) :
    linesOf (options.shown reports).output = reports.flatMap options.batchLines ++ [""] := by
  rw [output_shown, linesOf_unlines]
  intro line member
  obtain ⟨report, -, ofReport⟩ := List.mem_flatMap.mp member
  exact options.newline_notMem_batchLines ofReport

/-- Outputs are equal if they tell the same of every batch, and otherwise not. -/
theorem output_inj
    {γ : Type}
    (told : Report → γ)
    (agree :
      ∀ left right, options.batchLines left = options.batchLines right ↔ told left = told right)
    {left right : List Report} :
    (options.shown left).output = (options.shown right).output ↔
      left.map told = right.map told := by
  rw [← map_eq_map_iff_of_iff agree]
  constructor
  · intro same
    have lines := congrArg linesOf same
    rw [linesOf_output, linesOf_output] at lines
    refine map_eq_of_flatMap_eq ?_ options.length_batchLines (List.append_cancel_right lines)
    split <;> decide
  · intro same
    rw [output_shown, output_shown, List.flatMap_def, List.flatMap_def, same]

/-- A run puts on standard output what is shown of its batches, and then the last line. -/
theorem output_watch
    (colors : Bool)
    {bus : Bus}
    {session : Session Device.Connection}
    {reports : List Report}
    {fault : Device.Fault}
    (opened : (Session.connect options.wait bus).outcome = .ok session)
    (form :
      Session.RunOf (onBatch options) session reports fault
        (session.run (onBatch options))) :
    (watch colors options bus).journal.output =
      (options.shown ((session.run (onBatch options)).batches.map Session.Batch.last)).output ++
        lastLine colors := by
  have ofBatches (batches : List Session.Batch) :
      (options.shown (batches.map Session.Batch.last)).filterMap Event.printed? =
        batches.map (batchLine options) := by
    rw [shown, List.map_map, List.filterMap_map]
    exact congrFun List.filterMap_eq_map batches
  have texts := printed_watch colors opened form
  rw [Outcome.printed] at texts
  rw [Journal.output, texts, String.join_append, Journal.output, ofBatches,
    String.join_cons, String.join_nil, String.append_empty]

section Modes

variable {options : Options}

theorem batchLines_of_json (json : options.json = true) :
    options.batchLines = fun report => [Report.Json.write report] := by
  funext report
  rw [batchLines, if_pos json]

theorem batchLines_of_full
    (notJson : options.json = false)
    (full : options.full = true) :
    options.batchLines = fun report => report.lines ++ [""] := by
  funext report
  rw [batchLines, notJson, full]
  rfl

theorem batchLines_of_default
    (notJson : options.json = false)
    (notFull : options.full = false) :
    options.batchLines = fun report => [report.fifoLine] := by
  funext report
  rw [batchLines, notJson, notFull]
  rfl

/-- A batch is one line, unless all of it is to be shown as text. -/
theorem batchLines_of_single
    (single : options.json = true ∨ options.full = false)
    (report : Report) :
    options.batchLines report = [options.batchText report] := by
  unfold batchLines batchText
  rcases single with json | notFull
  · rw [if_pos json, if_pos json]
  · rw [notFull]
    split <;> rfl

end Modes

/--
The output of the monitor tells the reports that it has shown: all of them as
JSON and in full, and their FIFO size and count otherwise.  As JSON and by
default every batch is one line; in full it is five lines with something in them
and an empty one.
-/
theorem output_uniquely_decodable (left right : List Report) :
    (options.json = true →
      ((options.shown left).output = (options.shown right).output ↔ left = right)) ∧
      (options.json = false →
        options.full = true →
        ((options.shown left).output = (options.shown right).output ↔ left = right)) ∧
      (options.json = false →
        options.full = false →
        ((options.shown left).output = (options.shown right).output ↔
          left.map (fun report => (report.fifoSize, report.fifoCount)) =
            right.map (fun report => (report.fifoSize, report.fifoCount)))) ∧
      (options.json = true ∨ options.full = false →
        (∀ report, '\n' ∉ (options.batchText report).toList) ∧
          linesOf (options.shown left).output = left.map options.batchText ++ [""]) ∧
      (options.json = false →
        options.full = true →
        (∀ report : Report, report.lines.length = 5 ∧ ∀ line ∈ report.lines, line ≠ "") ∧
          linesOf (options.shown left).output =
            left.flatMap (fun report => report.lines ++ [""]) ++ [""]) := by
  refine ⟨?_, ?_, ?_, ?_, ?_⟩
  · intro json
    refine (options.output_inj id fun left right => ?_).trans (by simp)
    rw [batchLines_of_json json, List.singleton_inj]
    exact Report.Json.write_inj
  · intro notJson full
    refine (options.output_inj id fun left right => ?_).trans (by simp)
    rw [batchLines_of_full notJson full, List.append_left_inj]
    exact Report.lines_inj
  · intro notJson notFull
    refine options.output_inj _ fun left right => ?_
    rw [batchLines_of_default notJson notFull, List.singleton_inj, Prod.mk.injEq]
    exact Report.fifoLine_inj
  · intro single
    refine ⟨fun report => ?_, ?_⟩
    · have shown : options.batchText report ∈ options.batchLines report := by
        rw [batchLines_of_single single]
        exact List.mem_singleton_self _
      exact options.newline_notMem_batchLines shown
    · rw [linesOf_output, funext (batchLines_of_single single), ← List.map_eq_flatMap]
  · intro notJson full
    refine ⟨fun report => ⟨rfl, fun line => Report.ne_empty_of_mem_lines⟩, ?_⟩
    rw [linesOf_output, batchLines_of_full notJson full]

end Monitor.Options

end AudioScope
