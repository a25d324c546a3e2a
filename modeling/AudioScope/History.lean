import AudioScope.Report.Basic
import AudioScope.Window

namespace AudioScope

/-!
# The history of the FIFO

The FIFO levels of the latest reports, oldest first.  A history keeps two
series, one of the current and one of the average levels.  A report adds to
both, so the two series of a history that grew from nothing have the same length
and belong together position by position (`History.Balanced`).
-/

/-- How full the FIFO was at one report: now, and on average. -/
structure FifoLevel where
  count : UInt16
  average : UInt16
  deriving Repr, DecidableEq

/-- The FIFO level that a report tells of. -/
def Report.fifoLevel (report : Report) : FifoLevel :=
  ⟨report.fifoCount, report.fifoAverage⟩

/-- The FIFO levels of the latest reports. -/
structure History where
  averageSeries : Window UInt16
  countSeries : Window UInt16
  deriving Repr

namespace History

/-- Reports that a history remembers. -/
def capacity : Nat := 1000

theorem capacity_pos : 0 < capacity := by
  decide

/-- No report has been seen. -/
def empty : History where
  averageSeries := .empty
  countSeries := .empty

/-- Remember a report; the oldest one is forgotten when the history is full. -/
def push
    (history : History)
    (report : Report) :
    History where
  averageSeries := history.averageSeries.push capacity report.fifoAverage
  countSeries := history.countSeries.push capacity report.fifoCount

/-- Remember several reports, one after the other. -/
def pushAll
    (history : History)
    (reports : List Report) :
    History :=
  reports.foldl push history

/-- The remembered FIFO levels at the time of the report, oldest first. -/
def counts (history : History) : List UInt16 :=
  history.countSeries.toList

/-- The remembered average FIFO levels, oldest first. -/
def averages (history : History) : List UInt16 :=
  history.averageSeries.toList

/-- The remembered levels, oldest first: the two series side by side. -/
def levels (history : History) : List FifoLevel :=
  history.counts.zipWith FifoLevel.mk history.averages

/-- How many reports are remembered. -/
def size (history : History) : Nat :=
  history.countSeries.size

/-- Whether no report is remembered. -/
def isEmpty (history : History) : Bool :=
  history.size == 0

/-- The size of a history is the number of its current levels. -/
theorem length_counts (history : History) : history.counts.length = history.size :=
  history.countSeries.length_toList

theorem pushAll_append
    (history : History)
    (reports later : List Report) :
    history.pushAll (reports ++ later) = (history.pushAll reports).pushAll later :=
  List.foldl_append

/-- Both series are equally long, and neither is longer than allowed. -/
structure Balanced (history : History) : Prop where
  size_averages : history.averageSeries.size = history.size
  size_le : history.size ≤ capacity

namespace Balanced

theorem empty : Balanced empty where
  size_averages := rfl
  size_le := Nat.zero_le capacity

variable {history : History}

theorem length_averages (balanced : history.Balanced) :
    history.averages.length = history.size :=
  history.averageSeries.length_toList.trans balanced.size_averages

theorem averages_le (balanced : history.Balanced) :
    history.averageSeries.size ≤ capacity :=
  Nat.le_trans (Nat.le_of_eq balanced.size_averages) balanced.size_le

theorem push
    (balanced : history.Balanced)
    (report : Report) :
    (history.push report).Balanced where
  size_averages := by
    have counts := Window.size_push report.fifoCount capacity_pos balanced.size_le
    have averages := Window.size_push report.fifoAverage capacity_pos balanced.averages_le
    rw [balanced.size_averages] at averages
    exact averages.trans counts.symm
  size_le := by
    have counts := Window.size_push report.fifoCount capacity_pos balanced.size_le
    exact Nat.le_trans (Nat.le_of_eq counts) (Nat.min_le_left _ _)

end Balanced

variable {history : History}

/-- Of the old current levels and the new one, the latest remain. -/
theorem counts_push
    (balanced : history.Balanced)
    (report : Report) :
    (history.push report).counts = latest capacity (history.counts ++ [report.fifoCount]) :=
  Window.toList_push report.fifoCount capacity_pos balanced.size_le

theorem averages_push
    (balanced : history.Balanced)
    (report : Report) :
    (history.push report).averages =
      latest capacity (history.averages ++ [report.fifoAverage]) :=
  Window.toList_push report.fifoAverage capacity_pos balanced.averages_le

/--
What one report does to a view of the history settles what several do: of the
old and all new elements, the latest remain.
-/
private theorem view_pushAll
    {α : Type}
    {view : History → List α}
    {image : Report → α}
    (bounded : ∀ {history : History}, history.Balanced → (view history).length ≤ capacity)
    (step :
      ∀ {history : History},
        history.Balanced →
        ∀ report,
          view (history.push report) = latest capacity (view history ++ [image report]))
    (balanced : history.Balanced)
    (reports : List Report) :
    view (history.pushAll reports) =
      latest capacity (view history ++ reports.map image) := by
  induction reports generalizing history with
  | nil =>
      rw [List.map_nil, List.append_nil, latest_of_length_le (bounded balanced)]
      rfl
  | cons report later inductionHypothesis =>
      have rest := inductionHypothesis (balanced.push report)
      rw [step balanced, latest_latest_append, List.append_assoc] at rest
      exact rest

/-- Of the old and all new current levels, the latest remain. -/
theorem counts_pushAll
    (balanced : history.Balanced)
    (reports : List Report) :
    (history.pushAll reports).counts =
      latest capacity (history.counts ++ reports.map Report.fifoCount) :=
  view_pushAll
    (fun balanced => Nat.le_trans (Nat.le_of_eq (length_counts _)) balanced.size_le)
    counts_push balanced reports

theorem averages_pushAll
    (balanced : history.Balanced)
    (reports : List Report) :
    (history.pushAll reports).averages =
      latest capacity (history.averages ++ reports.map Report.fifoAverage) :=
  view_pushAll
    (fun balanced => Nat.le_trans (Nat.le_of_eq balanced.length_averages) balanced.size_le)
    averages_push balanced reports

/-- Every report is remembered until there are as many as allowed. -/
theorem size_pushAll
    (balanced : history.Balanced)
    (reports : List Report) :
    (history.pushAll reports).size = min capacity (history.size + reports.length) := by
  rw [← length_counts, counts_pushAll balanced, length_latest, List.length_append,
    length_counts, List.length_map]

/-- Of the old levels and all new ones, the latest remain. -/
theorem levels_pushAll
    (balanced : history.Balanced)
    (reports : List Report) :
    (history.pushAll reports).levels =
      latest capacity (history.levels ++ reports.map Report.fifoLevel) := by
  have sameLength : history.counts.length = history.averages.length :=
    (length_counts history).trans balanced.length_averages.symm
  have sameTotal :
      (history.counts ++ reports.map Report.fifoCount).length =
        (history.averages ++ reports.map Report.fifoAverage).length := by
    simp [sameLength]
  have paired :
      (reports.map Report.fifoCount).zipWith FifoLevel.mk (reports.map Report.fifoAverage) =
        reports.map Report.fifoLevel := by
    rw [List.zipWith_map, List.zipWith_self]
    rfl
  unfold levels
  rw [counts_pushAll balanced, averages_pushAll balanced, zipWith_latest _ _ sameTotal,
    List.zipWith_append sameLength, paired]

end History

end AudioScope
