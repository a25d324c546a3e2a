import AudioScope.Proofs.Session.Recording

namespace AudioScope.Session

open ReportSource

/-!
# What the steps of a session consume

Steps of a session consume the entries of its stream one by one and in order,
whether the steps fail or not, and the history is made of the reports among
these entries.
-/

variable {σ : Type} [ReportSource σ]

/-- The session after some steps. -/
def afterSteps
    (onBatch : Batch → Journal)
    (session : Session σ)
    (steps : List Step) :
    Session σ :=
  (session.takeAll onBatch steps).foldl (fun _ taken => taken.session) session

namespace Advanced

theorem take
    (onBatch : Batch → Journal)
    (session : Session σ)
    (step : Step) :
    ∃ requests, Advanced session requests (session.take onBatch step).session := by
  cases step with
  | readBatch =>
      exact readMore (batchSize - 1) session
  | run =>
      exact run onBatch session
  | close =>
      exact ⟨0, refl session⟩

theorem afterSteps
    (onBatch : Batch → Journal)
    (session : Session σ)
    (steps : List Step) :
    ∃ requests, Advanced session requests (session.afterSteps onBatch steps) := by
  induction steps generalizing session with
  | nil =>
      exact ⟨0, refl session⟩
  | cons step later inductionHypothesis =>
      obtain ⟨first, taken⟩ := take onBatch session step
      obtain ⟨second, goneOn⟩ := inductionHypothesis (session.take onBatch step).session
      exact ⟨first + second, taken.trans goneOn⟩

end Advanced

/-- Sessions that are alike are so after any steps. -/
theorem Simulation.afterSteps
    {τ : Type}
    [ReportSource τ]
    (simulation : Simulation σ τ)
    (onLeft onRight : Batch → Journal)
    {left : Session σ}
    {right : Session τ}
    (alike : simulation.Sessions left right)
    (steps : List Step) :
    simulation.Sessions (left.afterSteps onLeft steps) (right.afterSteps onRight steps) := by
  induction steps generalizing left right with
  | nil =>
      exact alike
  | cons step later inductionHypothesis =>
      exact inductionHypothesis (simulation.take onLeft onRight alike step)

/-- A read adds its report to the history; a read that fails leaves the history alone. -/
theorem history_readOne (session : Session σ) :
    session.readOne.session.history =
      match session.readOne.outcome with
      | .ok report => session.history.push report
      | .error _ => session.history := by
  cases shape : received (answer session.source) with
  | error fault =>
      rw [readOne_of_error shape]
      rfl
  | ok report =>
      rw [readOne_of_ok shape]
      rfl

/-- What a recording of some steps over a stream shows, and how the history comes from it. -/
theorem exists_recording
    (onBatch : Batch → Journal)
    (replay : Replay)
    (steps : List Step) :
    ∃ count,
      (new replay).recording.afterSteps onBatch steps =
        { source := ⟨⟨replay.reads.drop count⟩, replay.entries count⟩
          history := History.empty.pushAll (reportsOf (replay.entries count)) } := by
  obtain ⟨count, advanced⟩ := Advanced.afterSteps onBatch (new replay).recording steps
  refine ⟨count, Eq.trans advanced ?_⟩
  simp only [afterReports, Recorder.after_eq, Recorder.answers_eq]
  simp only [recording, new, Replay.answers_eq, Replay.after_eq, List.nil_append]

/--
After any steps of a session over a stream, whether they failed or not: what the
session has consumed, as a recording of the same steps shows it, is the start of
the stream; the rest of the stream is still to come; and both series of the
history are those of the latest reports among the consumed entries, position by
position.  A further read adds its report or, if it fails, nothing, and closing
the session hands back its history.
-/
theorem history_of_consumed_entries
    (onBatch : Batch → Journal)
    (reads : List Answer)
    (steps : List Step) :
    let session := (new (Replay.mk reads)).afterSteps onBatch steps
    let recorded := (new (Replay.mk reads)).recording.afterSteps onBatch steps
    let consumed := recorded.source.given
    let kept := latest History.capacity (reportsOf consumed)
    recorded.source.source = session.source ∧
      recorded.history = session.history ∧
      consumed = (Replay.mk reads).entries consumed.length ∧
      session.source.reads = reads.drop consumed.length ∧
      kept.length = min History.capacity (consumed.countP Answer.holdsRecord) ∧
      session.history.counts = kept.map Report.fifoCount ∧
      session.history.averages = kept.map Report.fifoAverage ∧
      session.readOne.session.history =
        (match session.readOne.outcome with
        | .ok report => session.history.push report
        | .error _ => session.history) ∧
      session.close = session.history := by
  intro session recorded consumed kept
  have alike :
      Recorder.simulation.Sessions (new (Replay.mk reads)).recording (new (Replay.mk reads)) :=
    ⟨rfl, rfl⟩
  obtain ⟨sameSource, sameHistory⟩ :=
    Recorder.simulation.afterSteps onBatch onBatch alike steps
  obtain ⟨count, shape⟩ := exists_recording onBatch (Replay.mk reads) steps
  have consumedShape : consumed = (Replay.mk reads).entries count :=
    congrArg (fun recorded => recorded.source.given) shape
  have consumedLength : consumed.length = count := by
    rw [consumedShape, Replay.entries, List.length_map, List.length_range]
  have historyShape : session.history = History.empty.pushAll (reportsOf consumed) := by
    rw [consumedShape]
    exact sameHistory.symm.trans (congrArg Session.history shape)
  refine ⟨sameSource, sameHistory, ?_, ?_, ?_, ?_, ?_, history_readOne session, rfl⟩
  · rw [consumedLength]
    exact consumedShape
  · rw [consumedLength]
    exact congrArg Replay.reads
      (sameSource.symm.trans (congrArg (fun recorded => recorded.source.source) shape))
  · rw [length_latest, length_reportsOf]
  · rw [historyShape, History.counts_pushAll History.Balanced.empty, map_latest]
    rfl
  · rw [historyShape, History.averages_pushAll History.Balanced.empty, map_latest]
    rfl

end AudioScope.Session
