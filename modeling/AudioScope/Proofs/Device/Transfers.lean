import AudioScope.Proofs.Device.Opening
import AudioScope.Proofs.Session.Recording
import AudioScope.Proofs.Session.Run

namespace AudioScope

open ReportSource

/-!
# Transfers of a device

Each answer of a connection is what one interrupt transfer yields within the
time of a request, so a connection answers as a replay of its transfers does.
An answer takes one transfer, always of the same size and from the endpoint that
was found when the device was opened; apart from that it stays in the background.
-/

namespace Device.Connection

open Journal

/-- The reads that the transfers of a connection amount to. -/
def replay (connection : Connection) : Replay :=
  ⟨connection.transfers.map fun transfer => (await Session.readTimeout transfer).outcome⟩

/-- The transfer that each request submits. -/
def submission (connection : Connection) : UInt8 × Nat :=
  (connection.source.address, Report.hidReportSize)

theorem answer_eq (connection : Connection) :
    answer connection = answer connection.replay := by
  rcases connection with ⟨endpoint, _ | ⟨transfer, later⟩⟩
  · rfl
  · rfl

theorem replay_next (connection : Connection) :
    (next connection).replay = next connection.replay := by
  rcases connection with ⟨endpoint, _ | ⟨transfer, later⟩⟩
  · rfl
  · rfl

theorem submission_next (connection : Connection) :
    (next connection).submission = connection.submission := by
  rcases connection with ⟨endpoint, _ | ⟨transfer, later⟩⟩
  · rfl
  · rfl

/-- A connection answers as the replay of its transfers does. -/
theorem answer_after
    (count : Nat)
    (connection : Connection) :
    answer (after count connection) = answer (after count connection.replay) := by
  induction count generalizing connection with
  | zero =>
      exact answer_eq connection
  | succ count inductionHypothesis =>
      rw [after, after, inductionHypothesis, replay_next]

theorem submission_after
    (count : Nat)
    (connection : Connection) :
    (after count connection).submission = connection.submission := by
  induction count generalizing connection with
  | zero =>
      rfl
  | succ count inductionHypothesis =>
      exact (inductionHypothesis (next connection)).trans (submission_next connection)

theorem inBackground_givenUp (timeout : Nat) : (givenUp timeout).journal.InBackground :=
  .cons rfl (.cons rfl .nil)

/-- Waiting for a transfer stays in the background, however the transfer goes. -/
theorem inBackground_await
    (timeout : Nat)
    (transfer : Transfer) :
    (await timeout transfer).journal.InBackground := by
  cases transfer with
  | hangs =>
      exact inBackground_givenUp timeout
  | completes milliseconds fault data =>
      by_cases late : timeout < milliseconds
      · simp only [await, if_pos late]
        exact inBackground_givenUp timeout
      · simp only [await, if_neg late]
        rcases fault with _ | fault
        · exact .cons rfl .nil
        · cases fault with
          | disconnected =>
              exact .cons rfl (.cons rfl .nil)
          | _ =>
              exact .cons rfl .nil

/-- A request submits a transfer, and all else that happens is in the background. -/
theorem answering_eq (connection : Connection) :
    ∃ waiting : Journal,
      waiting.InBackground ∧
        answering connection =
          .submitted connection.source.address Report.hidReportSize :: waiting := by
  rcases connection with ⟨endpoint, _ | ⟨transfer, later⟩⟩
  · exact ⟨_, inBackground_givenUp Session.readTimeout, rfl⟩
  · exact ⟨_, inBackground_await Session.readTimeout transfer, rfl⟩

theorem shown_answering (connection : Connection) :
    (answering connection).filter Event.isShown = [] := by
  obtain ⟨waiting, background, shape⟩ := answering_eq connection
  rw [shape, List.filter_cons_of_neg Bool.false_ne_true, background.shown_eq_nil]

theorem submissions_answeringAll
    (count : Nat)
    (connection : Connection) :
    (answeringAll count connection).filterMap Event.submission? =
      List.replicate count connection.submission := by
  induction count generalizing connection with
  | zero =>
      rfl
  | succ count inductionHypothesis =>
      obtain ⟨waiting, background, shape⟩ := answering_eq connection
      have first :
          (answering connection).filterMap Event.submission? = [connection.submission] := by
        rw [shape]
        exact congrArg (List.cons _) background.submissions_eq_nil
      rw [answeringAll, List.filterMap_append, first, inductionHypothesis, submission_next]
      rfl

/-- A run submits one transfer for each of its requests, if its reports submit none. -/
theorem submissions_runJournal
    {onBatch : Session.Batch → Journal}
    (idle : ∀ batch, (onBatch batch).filterMap Event.submission? = [])
    (unfinished : Nat)
    (batches : List Session.Batch)
    (connection : Connection) :
    (Session.runJournal onBatch unfinished batches connection).filterMap Event.submission? =
      List.replicate
        (Session.batchSize * batches.length + unfinished) connection.submission := by
  induction batches generalizing connection with
  | nil =>
      rw [List.length_nil, Nat.mul_zero, Nat.zero_add]
      exact submissions_answeringAll unfinished connection
  | cons batch later inductionHypothesis =>
      rw [Session.runJournal, List.filterMap_append, List.filterMap_append,
        submissions_answeringAll, idle, List.append_nil, inductionHypothesis,
        submission_after, List.replicate_append_replicate, List.length_cons,
        Nat.mul_succ, Nat.add_comm (_ * _) Session.batchSize, Nat.add_assoc]

end Device.Connection

end AudioScope
