import AudioScope.Proofs.History.Truncation
import AudioScope.Proofs.Session.Consumption

namespace AudioScope.Session

open ReportSource

/-!
# The closed form of a run

A run ends at the first answer without a record, with the fault of that answer.
The reports before it, cut into batches, are all that the run shows: one report
on each complete batch, while the reports of the unfinished batch are remembered
without having been shown.
-/

variable {σ : Type} [ReportSource σ]

/-- Answers with a record, and one without, as the start of what a source gives. -/
theorem failsAfter_of_answers
    {source : σ}
    {good : List Answer}
    {bad : Answer}
    {fault : Device.Fault}
    (stream : answers (good.length + 1) source = good ++ [bad])
    (sound : ∀ answer ∈ good, answer.fault? = none)
    (failing : bad.fault? = some fault) :
    FailsAfter source (reportsOf good) fault ∧ (reportsOf good).length = good.length := by
  have decoded := map_received_of_sound sound
  have sameLength : (reportsOf good).length = good.length := by
    have lengths := congrArg List.length decoded
    rw [List.length_map, List.length_map] at lengths
    exact lengths.symm
  rw [answers_add] at stream
  obtain ⟨start, last⟩ := List.append_inj stream (length_answers _ _)
  have lastAnswer : answer (after good.length source) = bad :=
    (List.cons.inj last).1
  refine ⟨⟨?_, ?_⟩, sameLength⟩
  · rw [sameLength, start, decoded]
  · rw [sameLength, lastAnswer]
    exact Answer.received_of_fault? failing

/-- A session that was started afresh has a history that grew from nothing. -/
theorem reachable_afterSteps
    (onBatch : Batch → Journal)
    (source : σ)
    (steps : List Step) :
    ((new source).afterSteps onBatch steps).history.Reachable := by
  obtain ⟨requests, advanced⟩ := Advanced.afterSteps onBatch (new source) steps
  rw [show (new source).afterSteps onBatch steps = _ from advanced]
  exact History.Reachable.empty.pushAll _

/--
A run over any source whose answers are some with a record and then one without,
whatever comes behind it.  The run ends with the fault of that last answer, which
is the last one it asks for; it reports on every complete batch, showing the last
report of the batch and the history up to it; and it leaves a history with all
the reports, those of the unfinished batch included.
-/
theorem run_closed_form
    (onBatch : Batch → Journal)
    {session : Session σ}
    (reachable : session.history.Reachable)
    {good : List Answer}
    {bad : Answer}
    {fault : Device.Fault}
    (stream : answers (good.length + 1) session.source = good ++ [bad])
    (sound : ∀ answer ∈ good, answer.fault? = none)
    (failing : bad.fault? = some fault) :
    let run := session.run onBatch
    let reports := reportsOf good
    reports.length = good.length ∧
      run.fault = fault ∧
      (session.recording.run onBatch).session.source.given = good ++ [bad] ∧
      run.session.source = after (good.length + 1) session.source ∧
      run.batches.length = good.length / batchSize ∧
      (∀ index,
        run.batches[index]?.map (fun batch => (batch.last, batch.history.levels)) =
          reports[batchSize * index + (batchSize - 1)]?.map fun last =>
            (last,
              latest History.capacity
                (session.history.levels ++
                  (reports.take (batchSize * (index + 1))).map Report.fifoLevel))) ∧
      run.journal =
        runJournal onBatch (good.length % batchSize + 1) run.batches session.source ∧
      run.session.history.levels =
        latest History.capacity
          (session.history.levels ++ reports.map Report.fifoLevel) := by
  intro run reports
  have balanced := reachable.balanced
  obtain ⟨fails, sameLength⟩ := failsAfter_of_answers stream sound failing
  have form : RunOf onBatch session reports fault run := RunOf.of_failsAfter onBatch fails
  have recordedStream :
      answers (good.length + 1) session.recording.source = good ++ [bad] :=
    (Recorder.answers_eq _ _).trans stream
  have recordedFails : FailsAfter session.recording.source reports fault :=
    (failsAfter_of_answers recordedStream sound failing).1
  have recordedForm := RunOf.of_failsAfter onBatch recordedFails
  refine ⟨sameLength, form.fault_eq, ?_, ?_, ?_, ?_, ?_, ?_⟩
  · rw [recordedForm.session_eq, sameLength, afterReports, Recorder.after_eq]
    exact stream
  · rw [form.session_eq, sameLength]
    rfl
  · rw [form.length_batches, sameLength]
  · intro index
    rw [form.batch, Option.map_map]
    refine congrArg (Option.map · _) (funext fun last => ?_)
    exact congrArg (Prod.mk last) (History.levels_pushAll balanced _)
  · rw [form.journal_eq, sameLength]
  · rw [form.session_eq]
    exact History.levels_pushAll balanced reports

/-- Answers for one complete batch and a record more. -/
def batchAndMore : List Answer :=
  List.replicate 31 (.ok (List.replicate 20 1))

/-- The run ends at the short buffer, and the record behind the batch is remembered. -/
theorem run_closed_form_batchAndMore :
    let session : Session Replay :=
      { source := ⟨batchAndMore ++ [.ok [1, 2, 3], .error .disconnected]⟩
        history := History.empty.push (History.levelReport 7 8) }
    let run := session.run fun _ => []
    session.history.Reachable ∧
      run.fault = .truncated ⟨20, 3⟩ ∧
      run.batches.length = 1 ∧
      run.session.source.reads = [.error .disconnected] ∧
      run.session.history.levels = ⟨7, 8⟩ :: List.replicate 31 ⟨257, 257⟩ := by
  intro session run
  have reachable : session.history.Reachable :=
    History.Reachable.empty.push (History.levelReport 7 8)
  have stream :
      answers (batchAndMore.length + 1) session.source = batchAndMore ++ [.ok [1, 2, 3]] :=
    rfl
  have sound : ∀ answer ∈ batchAndMore, answer.fault? = none := by
    intro answer member
    rw [List.eq_of_mem_replicate member]
    rfl
  have failing : Answer.fault? (.ok [1, 2, 3]) = some (.truncated ⟨20, 3⟩) := rfl
  obtain ⟨-, fault, -, source, batches, -, -, levels⟩ :=
    run_closed_form (fun _ => []) reachable stream sound failing
  refine ⟨reachable, fault, batches, ?_, levels.trans ?_⟩
  · rw [source]
    rfl
  · decide +kernel

end AudioScope.Session
