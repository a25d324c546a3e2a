import AudioScope.History
import AudioScope.Session.Source

namespace AudioScope

/-!
# Sessions

A session reads reports from a source and remembers their FIFO levels.  Reports
are read in batches; there is no retry, so the first read that fails or that
cannot be decoded ends the batch, and everything remembered before it stays.
`Session.run` reads batch after batch until one of them fails.
-/

/-- A source together with the history of what was read from it. -/
structure Session (σ : Type) where
  source : σ
  history : History

namespace Session

variable {σ : Type}

/-- Reports in a batch. -/
def batchSize : Nat := 30

/-- Milliseconds within which a report has to arrive. -/
def readTimeout : Nat := 50

/-- A session that has read nothing. -/
def new (source : σ) : Session σ :=
  ⟨source, .empty⟩

/-- The state of a session after some reading, what came of it, and what happened. -/
structure Progress (σ : Type) where
  session : Session σ
  outcome : Except Device.Fault Report
  journal : Journal

/-- Events that come before some reading. -/
def Progress.after
    (journal : Journal)
    (progress : Progress σ) :
    Progress σ :=
  { progress with journal := journal ++ progress.journal }

/-- Read one report and remember its FIFO level. -/
def readOne
    [ReportSource σ]
    (session : Session σ) :
    Progress σ :=
  let answer := ReportSource.read readTimeout session.source
  match received answer.1.outcome with
  | .error fault =>
      { session := { session with source := answer.2 }
        outcome := .error fault
        journal := answer.1.journal }
  | .ok report =>
      { session := { source := answer.2, history := session.history.push report }
        outcome := .ok report
        journal := answer.1.journal }

theorem left_readOne
    [ReportSource σ]
    {session : Session σ}
    {report : Report}
    (success : session.readOne.outcome = .ok report) :
    ReportSource.left session.readOne.session.source < ReportSource.left session.source := by
  simp only [readOne] at success ⊢
  split at success
  · cases success
  · next decoded => exact ReportSource.left_read decoded

/-- Read one report and then some more, and return the last one. -/
def readMore
    [ReportSource σ] :
    (more : Nat) → Session σ → Progress σ
  | 0, session => session.readOne
  | more + 1, session =>
      let first := session.readOne
      match first.outcome with
      | .error _ => first
      | .ok _ => (readMore more first.session).after first.journal

/-- Reports that were read are not to come any more. -/
theorem left_readMore
    [ReportSource σ]
    {more : Nat}
    {session : Session σ}
    {report : Report}
    (success : (readMore more session).outcome = .ok report) :
    ReportSource.left (readMore more session).session.source <
      ReportSource.left session.source := by
  induction more generalizing session with
  | zero => exact left_readOne success
  | succ more inductionHypothesis =>
      simp only [readMore] at success ⊢
      cases first : session.readOne.outcome with
      | error fault =>
          simp only [first] at success
          cases success
      | ok found =>
          simp only [first, Progress.after] at success ⊢
          exact Nat.lt_trans (inductionHypothesis success) (left_readOne first)

/-- Read a batch of reports and return the last one. -/
def readBatch
    [ReportSource σ]
    (session : Session σ) :
    Progress σ :=
  readMore (batchSize - 1) session

/-- What is seen of a complete batch: its last report, and the history up to it. -/
structure Batch where
  last : Report
  history : History

/-- How reading batch after batch went. -/
structure Run (σ : Type) where
  session : Session σ
  /-- The fault that ended the run. -/
  fault : Device.Fault
  /-- The complete batches. -/
  batches : List Batch
  journal : Journal

/-- Read batch after batch until something fails; every complete batch is reported on. -/
def run
    [ReportSource σ]
    (onBatch : Batch → Journal)
    (session : Session σ) :
    Run σ :=
  let progress := session.readBatch
  match _outcome : progress.outcome with
  | .error fault =>
      { session := progress.session
        fault
        batches := []
        journal := progress.journal }
  | .ok last =>
      let batch : Batch := ⟨last, progress.session.history⟩
      let rest := run onBatch progress.session
      { rest with
        batches := batch :: rest.batches
        journal := progress.journal ++ onBatch batch ++ rest.journal }
termination_by ReportSource.left session.source
decreasing_by exact left_readMore _outcome

/-- Release the source and hand back what was remembered. -/
def close (session : Session σ) : History :=
  session.history

/-- Connect to a debug device and start a session with it. -/
def connect
    (wait : Bool)
    (bus : Bus) :
    Device.Attempt (Session Device.Connection) := do
  let connection ← Device.Connection.acquire wait bus
  Device.Attempt.record (.logged .deviceOpened)
  return new connection

end Session

end AudioScope
