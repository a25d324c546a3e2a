import AudioScope.Proofs.Session.ClosedForm

namespace AudioScope

open ReportSource

/-!
# One batch

A batch is complete exactly if the next answers, as many as there are reports in
a batch, all hold a record; otherwise the first one that does not ends it.  The
answers up to there are all that a batch consumes, and the next batch starts with
a full number of requests behind them.  That a session never asks for anything
else, and gives its source the same time for every answer, is seen with the help
of sources that keep a record of this (`Recorder`, `Timed`).
-/

/-- A source together with the times that it was given for its answers, oldest first. -/
structure Timed (σ : Type) where
  source : σ
  timeouts : List Nat

namespace Timed

variable {σ : Type} [ReportSource σ]

instance : ReportSource (Timed σ) where
  read timeout timed :=
    let reading := read timeout timed.source
    (reading.1,
      { source := reading.2
        timeouts := timed.timeouts ++ [timeout] })
  left timed := left timed.source
  left_read decoded := left_read decoded

theorem answers_eq
    (count : Nat)
    (timed : Timed σ) :
    answers count timed = answers count timed.source := by
  induction count generalizing timed with
  | zero =>
      rfl
  | succ count inductionHypothesis =>
      exact congrArg (List.cons _) (inductionHypothesis (next timed))

/-- A session gives its source the same time for each answer. -/
theorem timeouts_after
    (count : Nat)
    (timed : Timed σ) :
    (after count timed).timeouts =
      timed.timeouts ++ List.replicate count Session.readTimeout := by
  induction count generalizing timed with
  | zero =>
      exact (List.append_nil _).symm
  | succ count inductionHypothesis =>
      have noted : (next timed).timeouts = timed.timeouts ++ [Session.readTimeout] := rfl
      rw [after, inductionHypothesis, noted, List.append_assoc]
      rfl

end Timed

namespace Session

variable {σ : Type} [ReportSource σ]

/-- The same session, with a record of the times that it gives its source from now on. -/
def timing (session : Session σ) : Session (Timed σ) where
  source := ⟨session.source, []⟩
  history := session.history

/-- The answers that the next batch consumes. -/
def batchAnswers (session : Session σ) : List Answer :=
  session.recording.readBatch.session.source.given

/-- The times that the next batch gives the source for its answers. -/
def batchTimeouts (session : Session σ) : List Nat :=
  session.timing.readBatch.session.source.timeouts

/-- The answers up to one of them are those to fewer requests. -/
theorem answers_through
    {count : Nat}
    {source : σ}
    {earlier later : List Answer}
    {last : Answer}
    (stream : answers count source = earlier ++ last :: later) :
    answers (earlier.length + 1) source = earlier ++ [last] := by
  have total : count = earlier.length + 1 + later.length := by
    rw [← length_answers count source, stream, List.length_append, List.length_cons]
    omega
  rw [total, answers_add, List.append_cons] at stream
  exact (List.append_inj stream (by simp)).1

/--
How the answers to the requests of a batch end it: how many of them are consumed,
which reports they give, and what comes of the batch.
-/
inductive BatchEnd (stream : List Answer) :
    Nat → List Report → Except Device.Fault Report → Prop where
  | complete
      {last : Report}
      (sound : ∀ answer ∈ stream, answer.fault? = none)
      (ending : stream.getLast?.map received = some (.ok last)) :
      BatchEnd stream stream.length (reportsOf stream) (.ok last)
  | broken
      {good later : List Answer}
      {bad : Answer}
      {fault : Device.Fault}
      (shape : stream = good ++ bad :: later)
      (sound : ∀ answer ∈ good, answer.fault? = none)
      (failing : bad.fault? = some fault) :
      BatchEnd stream (good.length + 1) (reportsOf good) (.error fault)

/-- Any answers end a batch, if there are some. -/
theorem exists_batchEnd
    {stream : List Answer}
    (nonempty : stream ≠ []) :
    ∃ requests reports outcome, BatchEnd stream requests reports outcome := by
  by_cases sound : ∀ answer ∈ stream, answer.fault? = none
  · obtain ⟨last, decoded⟩ :=
      Answer.exists_received (sound _ (List.getLast_mem nonempty))
    have ending : stream.getLast?.map received = some (.ok last) := by
      rw [List.getLast?_eq_some_getLast nonempty, Option.map_some, decoded]
    exact ⟨_, _, _, .complete sound ending⟩
  · obtain ⟨bad, found⟩ :
        ∃ bad, stream.find? (fun answer => answer.fault?.isSome) = some bad := by
      refine Option.ne_none_iff_exists'.mp fun missing => sound fun answer member => ?_
      simpa using List.find?_eq_none.mp missing answer member
    obtain ⟨unfit, good, later, shape, before⟩ := List.find?_eq_some_iff_append.mp found
    obtain ⟨fault, failing⟩ := Option.isSome_iff_exists.mp unfit
    have goodSound : ∀ answer ∈ good, answer.fault? = none := fun answer member => by
      simpa using before answer member
    exact ⟨_, _, _, .broken shape goodSound failing⟩

namespace BatchEnd

variable {requests : Nat} {reports : List Report} {outcome : Except Device.Fault Report}

/-- The answers of a source settle its next batch. -/
theorem readBatch_eq
    {session : Session σ}
    (ends : BatchEnd (answers batchSize session.source) requests reports outcome) :
    session.readBatch =
      { session := session.afterReports requests reports
        outcome
        journal := answeringAll requests session.source } := by
  cases ends with
  | @complete last sound ending =>
      have decoded := map_received_of_sound sound
      have ended : (reportsOf (answers batchSize session.source)).getLast? = some last := by
        rw [← List.getLast?_map, decoded, List.getLast?_map] at ending
        simpa using ending
      obtain ⟨others, shape⟩ := List.getLast?_eq_some_iff.mp ended
      have size : others.length = batchSize - 1 := by
        have lengths := congrArg List.length decoded
        rw [List.length_map, List.length_map, length_answers, shape, List.length_append] at lengths
        exact (Nat.succ.inj lengths).symm
      rw [shape] at decoded ⊢
      rw [length_answers]
      exact readMore_of_ok size decoded
  | @broken good later bad fault shape sound failing =>
      obtain ⟨fails, sameLength⟩ := failsAfter_of_answers (answers_through shape) sound failing
      have early : (reportsOf good).length ≤ batchSize - 1 := by
        have total := congrArg List.length shape
        rw [length_answers, List.length_append, List.length_cons] at total
        omega
      rw [← sameLength]
      exact readMore_of_error early fails

variable {session : Session σ}

/-- A batch consumes one answer for each of its requests. -/
theorem batchAnswers_eq
    (ends : BatchEnd (answers batchSize session.source) requests reports outcome) :
    session.batchAnswers = answers requests session.source := by
  have recorded :
      BatchEnd (answers batchSize session.recording.source) requests reports outcome := by
    rw [Recorder.answers_eq]
    exact ends
  rw [batchAnswers, recorded.readBatch_eq, afterReports, Recorder.after_eq]
  rfl

/-- Each request of a batch leaves the source the same time. -/
theorem batchTimeouts_eq
    (ends : BatchEnd (answers batchSize session.source) requests reports outcome) :
    session.batchTimeouts = List.replicate requests 50 := by
  have timed : BatchEnd (answers batchSize session.timing.source) requests reports outcome := by
    rw [Timed.answers_eq]
    exact ends
  rw [batchTimeouts, timed.readBatch_eq, afterReports, Timed.timeouts_after]
  rfl

/-- The reports of a batch are remembered as the latest ones, whether it is complete or not. -/
theorem levels_eq
    (ends : BatchEnd (answers batchSize session.source) requests reports outcome)
    (balanced : session.history.Balanced) :
    session.readBatch.session.history.levels =
      latest 1000 (session.history.levels ++ reports.map Report.fifoLevel) := by
  rw [ends.readBatch_eq]
  exact History.levels_pushAll balanced reports

end BatchEnd

/--
How the next batch of a session goes: what becomes of it and of the history, and
what it asks of the source.
-/
structure BatchOf (session : Session σ) : Prop where
  succeeds_iff :
    (∃ report, session.readBatch.outcome = .ok report) ↔
      ∀ answer ∈ answers 30 session.source, answer.holdsRecord = true
  /-- A complete batch consumes all its answers and gives the report of the last one. -/
  of_records :
    (∀ answer ∈ answers 30 session.source, answer.holdsRecord = true) →
      session.batchAnswers = answers 30 session.source ∧
        (∃ last,
          (answers 30 session.source)[29]?.map received = some (.ok last) ∧
            session.readBatch.outcome = .ok last) ∧
        (reportsOf (answers 30 session.source)).length = 30 ∧
        session.readBatch.session.history.levels =
          latest 1000
            (session.history.levels ++
              (reportsOf (answers 30 session.source)).map Report.fifoLevel)
  /-- Otherwise the first answer without a record is the last one that is consumed. -/
  of_fault :
    ∀ good bad later fault,
      answers 30 session.source = good ++ bad :: later →
      (∀ answer ∈ good, answer.holdsRecord = true) →
      bad.fault? = some fault →
      session.batchAnswers = good ++ [bad] ∧
        session.readBatch.outcome = .error fault ∧
        (reportsOf good).length = good.length ∧
        session.readBatch.session.history.levels =
          latest 1000 (session.history.levels ++ (reportsOf good).map Report.fifoLevel)
  /-- What is consumed is the start of what the source gives, and the rest is still to come. -/
  answers_eq : session.batchAnswers = answers session.batchAnswers.length session.source
  source_eq :
    session.readBatch.session.source = after session.batchAnswers.length session.source
  timeouts_eq : session.batchTimeouts = List.replicate session.batchAnswers.length 50

/-- As many reports as answers are found if each answer holds a record. -/
theorem length_reportsOf_of_holdsRecord
    {answers : List Answer}
    (holding : ∀ answer ∈ answers, answer.holdsRecord = true) :
    (reportsOf answers).length = answers.length := by
  rw [length_reportsOf, List.countP_eq_length]
  exact holding

theorem batchOf_of_balanced
    {session : Session σ}
    (balanced : session.history.Balanced) :
    BatchOf session := by
  have nonempty : answers batchSize session.source ≠ [] := by
    intro empty
    have size := length_answers batchSize session.source
    rw [empty] at size
    cases size
  obtain ⟨requests, reports, outcome, ends⟩ := exists_batchEnd nonempty
  exact
    { succeeds_iff := by
        rw [ends.readBatch_eq]
        cases ends with
        | complete sound ending =>
            exact iff_of_true ⟨_, rfl⟩ fun answer member =>
              Answer.fault?_eq_none_iff.mp (sound answer member)
        | @broken good later bad fault shape sound failing =>
            refine iff_of_false (fun ⟨_, success⟩ => by cases success) fun holding => ?_
            have member : bad ∈ answers batchSize session.source := by
              rw [shape]
              exact List.mem_append_cons_self
            have none := Answer.fault?_eq_none_iff.mpr (holding bad member)
            rw [failing] at none
            cases none
      of_records := fun holding => by
        have sound : ∀ answer ∈ answers batchSize session.source, answer.fault? = none :=
          fun answer member => Answer.fault?_eq_none_iff.mpr (holding answer member)
        obtain ⟨last, decoded⟩ := Answer.exists_received (sound _ (List.getLast_mem nonempty))
        have ending :
            (answers batchSize session.source).getLast?.map received = some (.ok last) := by
          rw [List.getLast?_eq_some_getLast nonempty, Option.map_some, decoded]
        have whole := BatchEnd.complete sound ending
        refine ⟨?_, ⟨last, ?_, ?_⟩, ?_, whole.levels_eq balanced⟩
        · rw [whole.batchAnswers_eq, length_answers]
          rfl
        · rwa [List.getLast?_eq_getElem?, length_answers] at ending
        · rw [whole.readBatch_eq]
        · rw [length_reportsOf_of_holdsRecord holding, length_answers]
      of_fault := fun good bad later fault shape holding failing => by
        have sound : ∀ answer ∈ good, answer.fault? = none :=
          fun answer member => Answer.fault?_eq_none_iff.mpr (holding answer member)
        have cut : BatchEnd (answers batchSize session.source) _ _ _ :=
          .broken shape sound failing
        refine ⟨?_, ?_, length_reportsOf_of_holdsRecord holding, cut.levels_eq balanced⟩
        · rw [cut.batchAnswers_eq, answers_through shape]
        · rw [cut.readBatch_eq]
      answers_eq := by
        rw [ends.batchAnswers_eq, length_answers]
      source_eq := by
        rw [ends.batchAnswers_eq, length_answers, ends.readBatch_eq]
        rfl
      timeouts_eq := by
        rw [ends.batchAnswers_eq, length_answers, ends.batchTimeouts_eq] }

/--
A batch is described by the answers to its requests alone.  What it leaves is a
session like any other: the next batch is described by the answers behind those
that the first one consumed, and starts with a full number of requests.
-/
theorem readBatch_by_answers
    {session : Session σ}
    (reachable : session.history.Reachable) :
    BatchOf session ∧
      session.readBatch.session.history.Reachable ∧
      BatchOf session.readBatch.session ∧
      answers (session.batchAnswers.length + 30) session.source =
        session.batchAnswers ++ answers 30 session.readBatch.session.source := by
  have batch := batchOf_of_balanced reachable.balanced
  obtain ⟨requests, advanced⟩ := Advanced.readMore (batchSize - 1) session
  have grown : session.readBatch.session.history.Reachable := by
    rw [readBatch, show (readMore (batchSize - 1) session).session = _ from advanced]
    exact reachable.pushAll _
  refine ⟨batch, grown, batchOf_of_balanced grown.balanced, ?_⟩
  rw [answers_add, ← batch.answers_eq, ← batch.source_eq]

/-- Answers for all of a batch but its last report. -/
def batchButOne : List Answer :=
  List.replicate 29 (.ok (List.replicate 20 1))

/-- Answers for a complete batch. -/
def nextBatch : List Answer :=
  List.replicate 30 (.ok (List.replicate 64 2))

/--
A device that is lost at the last read of a batch and is there again: the reports
before that are kept, and the next batch is a complete one.
-/
theorem readBatch_by_answers_interrupted :
    let session : Session Replay :=
      { source := ⟨batchButOne ++ .error .disconnected :: nextBatch⟩
        history := History.empty.push (History.levelReport 7 8) }
    let again := session.readBatch.session
    session.history.Reachable ∧
      session.readBatch.outcome = .error .disconnected ∧
      session.batchTimeouts = List.replicate 30 50 ∧
      again.history.levels = ⟨7, 8⟩ :: List.replicate 29 ⟨257, 257⟩ ∧
      again.batchAnswers = nextBatch ∧
      again.readBatch.session.history.levels =
        ⟨7, 8⟩ :: (List.replicate 29 ⟨257, 257⟩ ++ List.replicate 30 ⟨514, 514⟩) := by
  intro session again
  have reachable : session.history.Reachable :=
    History.Reachable.empty.push (History.levelReport 7 8)
  obtain ⟨first, -, (second : BatchOf again), -⟩ := readBatch_by_answers reachable
  have holding : ∀ answer ∈ batchButOne, answer.holdsRecord = true := by
    intro answer member
    rw [List.eq_of_mem_replicate member]
    rfl
  have start : answers 30 session.source = batchButOne ++ [.error .disconnected] := rfl
  obtain ⟨consumed, outcome, -, levels⟩ :=
    first.of_fault batchButOne (.error .disconnected) [] .disconnected start holding rfl
  have size : session.batchAnswers.length = 30 := by
    rw [consumed]
    rfl
  have rest : again.source = ⟨nextBatch⟩ := by
    rw [first.source_eq, size, Replay.after_eq]
    rfl
  have behind : answers 30 again.source = nextBatch := by
    rw [rest]
    rfl
  have allHold : ∀ answer ∈ answers 30 again.source, answer.holdsRecord = true := by
    intro answer member
    rw [behind] at member
    rw [List.eq_of_mem_replicate member]
    rfl
  have earlier : again.history.levels = ⟨7, 8⟩ :: List.replicate 29 ⟨257, 257⟩ :=
    levels.trans (by decide +kernel)
  obtain ⟨allConsumed, -, -, later⟩ := second.of_records allHold
  refine ⟨reachable, outcome, ?_, earlier, ?_, ?_⟩
  · rw [first.timeouts_eq, size]
  · rw [allConsumed, behind]
  · rw [later, behind, earlier]
    decide +kernel

end Session

end AudioScope
