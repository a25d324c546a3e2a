import AudioScope.Session.Basic

namespace AudioScope.Session

/-!
# Steps of a session

A session is used step by step: a batch is read, batches are read until one of
them fails, or the history is handed back.  A step that ends in a fault does not
end the session; the next one goes on where it stopped.
-/

/-- What can be done with a session. -/
inductive Step where
  | readBatch
  | run
  | close
  deriving Repr, DecidableEq

/-- What a step returns. -/
inductive Step.Result where
  /-- The last report of a batch, or the fault that ended the batch. -/
  | batch (outcome : Except Device.Fault Report)
  /-- The complete batches of a run, and the fault that ended the run. -/
  | run (batches : List Batch) (fault : Device.Fault)
  | closed (history : History)

variable {σ : Type}

/-- A step that has been taken: what it returned, the session after it, and what happened. -/
structure Taken (σ : Type) where
  result : Step.Result
  session : Session σ
  journal : Journal

/-- Take a step; the complete batches of a run are reported on. -/
def take
    [ReportSource σ]
    (onBatch : Batch → Journal)
    (session : Session σ) :
    Step → Taken σ
  | .readBatch =>
      let progress := session.readBatch
      ⟨.batch progress.outcome, progress.session, progress.journal⟩
  | .run =>
      let run := session.run onBatch
      ⟨.run run.batches run.fault, run.session, run.journal⟩
  | .close => ⟨.closed session.close, session, []⟩

/-- Take steps one after the other, whether they fail or not. -/
def takeAll
    [ReportSource σ]
    (onBatch : Batch → Journal) :
    Session σ → List Step → List (Taken σ)
  | _, [] => []
  | session, step :: later =>
      let taken := session.take onBatch step
      taken :: takeAll onBatch taken.session later

end AudioScope.Session
