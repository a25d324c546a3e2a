import AudioScope.History

namespace AudioScope

/-!
# Forgetting one by one and forgetting in batches

A history forgets an old report whenever a new one does not fit.  The plain way
to keep the latest elements of a series is to append a whole batch and to
truncate the series afterwards.  Both ways keep the same elements, however a
sequence of reports is cut into batches.
-/

/--
The plain scheme: append every batch whole, and after each of them keep only
the latest `count` elements.
-/
def appendThenTruncate
    {α : Type}
    (count : Nat) :
    List α → List (List α) → List α
  | series, [] => series
  | series, batch :: later =>
      appendThenTruncate count (latest count (series ++ batch)) later

/-- Truncating after every batch is truncating once, behind the last batch. -/
theorem appendThenTruncate_eq_latest
    {α : Type}
    {count : Nat}
    {series : List α}
    (short : series.length ≤ count)
    (batches : List (List α)) :
    appendThenTruncate count series batches =
      latest count (series ++ batches.flatten) := by
  induction batches generalizing series with
  | nil =>
      rw [List.flatten_nil, List.append_nil, latest_of_length_le short]
      rfl
  | cons batch later inductionHypothesis =>
      have truncated : (latest count (series ++ batch)).length ≤ count := by
        rw [length_latest]
        exact Nat.min_le_left _ _
      rw [appendThenTruncate, inductionHypothesis truncated, latest_latest_append,
        List.flatten_cons, List.append_assoc]

namespace History

/--
A history that grew from an empty one, report by report.  A copy of a history
is the history itself, so copying does not lead to any other history.
-/
inductive Reachable : History → Prop where
  | empty :
      Reachable empty
  | push
      {history : History}
      (earlier : Reachable history)
      (report : Report) :
      Reachable (history.push report)

namespace Reachable

/-- Growing never puts the two series out of step, and never past the capacity. -/
theorem balanced
    {history : History}
    (reachable : history.Reachable) :
    history.Balanced := by
  induction reachable with
  | empty =>
      exact Balanced.empty
  | push earlier report inductionHypothesis =>
      exact inductionHypothesis.push report

theorem pushAll
    {history : History}
    (reachable : history.Reachable)
    (reports : List Report) :
    (history.pushAll reports).Reachable := by
  induction reports generalizing history with
  | nil =>
      exact reachable
  | cons report later inductionHypothesis =>
      exact inductionHypothesis (reachable.push report)

end Reachable

namespace Balanced

variable {history : History}

/-- The size speaks for the series of average levels too. -/
theorem isEmpty_iff_averages (balanced : history.Balanced) :
    history.isEmpty = true ↔ history.averages = [] := by
  rw [← List.length_eq_zero_iff, balanced.length_averages, isEmpty, beq_iff_eq]

/-- Reports push out what was remembered, if there are enough of them. -/
theorem series_pushAll_of_capacity_le
    (balanced : history.Balanced)
    {reports : List Report}
    (enough : capacity ≤ reports.length) :
    (history.pushAll reports).counts = latest capacity (reports.map Report.fifoCount) ∧
      (history.pushAll reports).averages =
        latest capacity (reports.map Report.fifoAverage) := by
  constructor
  · rw [counts_pushAll balanced]
    exact latest_append_of_le_length _ (by simpa using enough)
  · rw [averages_pushAll balanced]
    exact latest_append_of_le_length _ (by simpa using enough)

end Balanced

theorem isEmpty_iff_counts (history : History) :
    history.isEmpty = true ↔ history.counts = [] := by
  rw [← List.length_eq_zero_iff, length_counts, isEmpty, beq_iff_eq]

/--
Remembering reports one by one keeps what the plain scheme keeps, for every way
of cutting the reports into batches: the latest `capacity` elements of the old
contents and the new values, in both series.  The two series of a reachable
history are equally long and within the capacity, `size` and `isEmpty` speak for
both, and after `capacity` reports nothing tells where a history came from.
-/
theorem pushAll_refines_appendThenTruncate
    {history : History}
    (reachable : history.Reachable)
    {reports : List Report}
    {batches : List (List Report)}
    (cut : batches.flatten = reports) :
    (history.pushAll reports).counts =
        appendThenTruncate capacity history.counts
          (batches.map (List.map Report.fifoCount)) ∧
      (history.pushAll reports).averages =
        appendThenTruncate capacity history.averages
          (batches.map (List.map Report.fifoAverage)) ∧
      (history.pushAll reports).counts =
        latest capacity (history.counts ++ reports.map Report.fifoCount) ∧
      (history.pushAll reports).averages =
        latest capacity (history.averages ++ reports.map Report.fifoAverage) ∧
      history.counts.length = history.size ∧
      history.averages.length = history.size ∧
      history.size ≤ capacity ∧
      (history.isEmpty = true ↔ history.counts = []) ∧
      (history.isEmpty = true ↔ history.averages = []) ∧
      ∀ other : History,
        other.Reachable →
        capacity ≤ reports.length →
        (other.pushAll reports).counts = (history.pushAll reports).counts ∧
          (other.pushAll reports).averages = (history.pushAll reports).averages := by
  have balanced := reachable.balanced
  have countsShort : history.counts.length ≤ capacity := by
    rw [length_counts]
    exact balanced.size_le
  have averagesShort : history.averages.length ≤ capacity := by
    rw [balanced.length_averages]
    exact balanced.size_le
  have counts := counts_pushAll balanced reports
  have averages := averages_pushAll balanced reports
  refine ⟨?_, ?_, counts, averages, history.length_counts, balanced.length_averages,
    balanced.size_le, history.isEmpty_iff_counts, balanced.isEmpty_iff_averages, ?_⟩
  · rw [counts, appendThenTruncate_eq_latest countsShort, ← List.map_flatten, cut]
  · rw [averages, appendThenTruncate_eq_latest averagesShort, ← List.map_flatten, cut]
  · intro other otherReachable enough
    obtain ⟨sameCounts, sameAverages⟩ :=
      balanced.series_pushAll_of_capacity_le enough
    obtain ⟨otherCounts, otherAverages⟩ :=
      otherReachable.balanced.series_pushAll_of_capacity_le enough
    exact ⟨otherCounts.trans sameCounts.symm, otherAverages.trans sameAverages.symm⟩

/-- A report with given FIFO levels and nothing else. -/
def levelReport (count average : UInt16) : Report where
  sampleRate := 0
  altSetting := 0
  mute := ⟨0, 0, 0⟩
  volume := ⟨0, 0, 0⟩
  fifoSize := 0
  fifoCount := count
  fifoAverage := average

/-- A batch that is longer than the capacity, an empty one and a short one. -/
def longBatches : List (List Report) :=
  [List.replicate 1001 (levelReport 1 2), [], [levelReport 3 4]]

/-- A history that remembered a report forgets it, and the start of the long batch. -/
theorem pushAll_refines_appendThenTruncate_long_batch :
    (empty.push (levelReport 7 8)).Reachable ∧
      ((empty.push (levelReport 7 8)).pushAll longBatches.flatten).counts =
        List.replicate 999 1 ++ [3] ∧
      ((empty.push (levelReport 7 8)).pushAll longBatches.flatten).averages =
        List.replicate 999 2 ++ [4] := by
  have reachable : (empty.push (levelReport 7 8)).Reachable :=
    Reachable.empty.push (levelReport 7 8)
  have cut : longBatches.flatten = longBatches.flatten := rfl
  obtain ⟨-, -, counts, averages, -⟩ := pushAll_refines_appendThenTruncate reachable cut
  refine ⟨reachable, counts.trans ?_, averages.trans ?_⟩
  · decide +kernel
  · decide +kernel

end History

end AudioScope
