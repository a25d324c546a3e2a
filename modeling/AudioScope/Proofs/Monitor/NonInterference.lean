import AudioScope.Proofs.Device.Refinement
import AudioScope.Proofs.Monitor.Ending
import AudioScope.Proofs.Report.Text
import AudioScope.Proofs.Session.Agreement

namespace AudioScope

open ReportSource

/-!
# Bytes that nobody looks at

By default the monitor shows the FIFO size and count of a report and nothing
else.  So two streams that differ only in other bytes of their records, or in the
padding behind them, cannot be told apart by what a session with them says and
does, nor by what the monitor prints.
-/

namespace Session

/--
How a step ended, apart from what was read: with a fault or without, and after how many
batches.
-/
inductive Step.Ending where
  | batch (fault : Option Device.Fault)
  | run (batches : Nat) (fault : Device.Fault)
  | closed
  deriving Repr, DecidableEq

/-- The ending of a step that returned a result. -/
def Step.Result.ending : Step.Result → Step.Ending
  | batch (.ok _) => .batch none
  | batch (.error fault) => .batch (some fault)
  | run batches fault => .run batches.length fault
  | closed _ => .closed

theorem Simulation.Results.ending_eq
    {σ τ : Type}
    [ReportSource σ]
    [ReportSource τ]
    {simulation : Simulation σ τ}
    {left right : Step.Result}
    (alike : simulation.Results left right) :
    left.ending = right.ending := by
  cases alike with
  | batch outcome =>
      cases outcome with
      | ok same =>
          rfl
      | error fault =>
          rfl
  | run batches fault =>
      rw [Step.Result.ending, Step.Result.ending, batches.length_eq]
  | closed history =>
      rfl

end Session

namespace Monitor

/-- The options of a monitor that shows one line on the FIFO for each batch. -/
def Options.byDefault (wait : Bool) : Options where
  wait
  full := false
  json := false

/-- By default, batches are shown alike if their FIFO size and count are the same. -/
theorem batchLine_congr
    {past : Nat}
    {wait : Bool}
    {left right : Session.Batch}
    (same : Report.SameFifo past left.last right.last) :
    batchLine (.byDefault wait) left = batchLine (.byDefault wait) right := by
  have sameLine : left.last.fifoLine = right.last.fifoLine :=
    Report.fifoLine_inj.mpr ⟨same.size, same.count⟩
  exact congrArg (· ++ "\n") sameLine

/-- What streams that agree have in common: the requests that are made, and what is printed. -/
def shownAlike
    {past : Nat}
    (enough : 18 ≤ past)
    (wait : Bool) :
    (Session.agreement enough Replay Replay).Watch
      (onBatch (.byDefault wait)) (onBatch (.byDefault wait)) where
  journals left right :=
    left.filterMap Event.request? = right.filterMap Event.request? ∧
      left.filterMap Event.printed? = right.filterMap Event.printed?
  nil := ⟨rfl, rfl⟩
  append := by
    rintro left right leftLater rightLater ⟨requests, prints⟩ ⟨laterRequests, laterPrints⟩
    simp only [List.filterMap_append]
    exact ⟨congrArg₂ _ requests laterRequests, congrArg₂ _ prints laterPrints⟩
  answering := by
    have asking (replay : Replay) : answering replay = [.asked Session.readTimeout] := by
      rcases replay with ⟨_ | ⟨first, later⟩⟩ <;> rfl
    intro left right _
    rw [asking, asking]
    exact ⟨rfl, rfl⟩
  onBatch := by
    intro left right alike
    rw [onBatch, onBatch, batchLine_congr alike.last]
    exact ⟨rfl, rfl⟩

/-- Monitors with devices whose reads agree print the same and fail with the same words. -/
theorem watch_congr
    (colors : Bool)
    {past : Nat}
    (enough : 18 ≤ past)
    {wait : Bool}
    {leftBus rightBus : Bus}
    {left right : Session Device.Connection}
    (leftOpened : (Session.connect wait leftBus).outcome = .ok left)
    (rightOpened : (Session.connect wait rightBus).outcome = .ok right)
    (agree :
      List.Forall₂ (Answer.Agree past) left.source.replay.reads right.source.replay.reads) :
    (watch colors (.byDefault wait) leftBus).printed =
        (watch colors (.byDefault wait) rightBus).printed ∧
      (watch colors (.byDefault wait) leftBus).chain =
        (watch colors (.byDefault wait) rightBus).chain := by
  have alike :
      (Session.agreement enough Device.Connection Device.Connection).Sessions left right := by
    rw [Session.eq_new_of_connect leftOpened, Session.eq_new_of_connect rightOpened]
    refine ⟨fun count => ?_, rfl, fun _ => rfl⟩
    rw [Device.Connection.answer_after, Device.Connection.answer_after]
    exact Replay.agree_after agree count
  have runs :=
    (Session.agreement enough Device.Connection Device.Connection).run
      (onBatch (.byDefault wait)) (onBatch (.byDefault wait)) alike
  have lines :
      (left.run (onBatch (.byDefault wait))).batches.map (batchLine (.byDefault wait)) =
        (right.run (onBatch (.byDefault wait))).batches.map (batchLine (.byDefault wait)) :=
    Session.map_eq_map_of_forall₂ runs.batches fun _ _ same => batchLine_congr same.last
  obtain ⟨leftReports, leftFault, leftFails⟩ := exists_failsAfter left.source
  obtain ⟨rightReports, rightFault, rightFails⟩ := exists_failsAfter right.source
  have leftForm := Session.RunOf.of_failsAfter (onBatch (.byDefault wait)) leftFails
  have rightForm := Session.RunOf.of_failsAfter (onBatch (.byDefault wait)) rightFails
  constructor
  · rw [printed_watch colors leftOpened leftForm, printed_watch colors rightOpened rightForm, lines]
  · rw [watch_of_ok colors leftOpened, watch_of_ok colors rightOpened, runs.fault]

/-- What is seen of the steps of a session by someone who looks at the FIFO only. -/
structure LookAlike
    (left right : List (Session.Taken Replay)) :
    Prop where
  endings_eq :
    left.map (fun step => step.result.ending) = right.map fun step => step.result.ending
  requests_eq :
    left.map (fun step => step.journal.filterMap Event.request?) =
      right.map fun step => step.journal.filterMap Event.request?
  printed_eq :
    left.map (fun step => step.journal.filterMap Event.printed?) =
      right.map fun step => step.journal.filterMap Event.printed?

/--
Streams that agree on the FIFO words of their records, on the faults and on the
lengths of buffers without a record, cannot be told apart.  Sessions with them
that take the same steps end each step in the same way, after as many batches,
have asked for as many reads, have printed the same, and have the same history;
monitors that read them print the same and fail with the same words.  For all
this but the history of average levels it is enough that the streams agree on the
FIFO size and count.
-/
theorem agreeing_streams_look_alike
    {past : Nat}
    (enough : 18 ≤ past)
    {left right : List Answer}
    (agree : List.Forall₂ (Answer.Agree past) left right)
    (wait : Bool)
    (steps : List Session.Step) :
    let leftTaken := (Session.new (Replay.mk left)).takeAll (onBatch (.byDefault wait)) steps
    let rightTaken := (Session.new (Replay.mk right)).takeAll (onBatch (.byDefault wait)) steps
    LookAlike leftTaken rightTaken ∧
      leftTaken.map (fun step => step.session.history.counts) =
        rightTaken.map (fun step => step.session.history.counts) ∧
      (20 ≤ past →
        leftTaken.map (fun step => step.session.history) =
          rightTaken.map fun step => step.session.history) ∧
      ∀ colors leftBus rightBus leftSession rightSession,
        (Session.connect wait leftBus).outcome = .ok leftSession →
        (Session.connect wait rightBus).outcome = .ok rightSession →
        leftSession.source.replay.reads = left →
        rightSession.source.replay.reads = right →
        (watch colors (.byDefault wait) leftBus).printed =
            (watch colors (.byDefault wait) rightBus).printed ∧
          (watch colors (.byDefault wait) leftBus).chain =
            (watch colors (.byDefault wait) rightBus).chain := by
  intro leftTaken rightTaken
  have alike :
      (Session.agreement enough Replay Replay).Sessions
        (Session.new (Replay.mk left)) (Session.new (Replay.mk right)) :=
    ⟨Replay.agree_after agree, rfl, fun _ => rfl⟩
  have same := shownAlike enough wait
  refine ⟨⟨?_, ?_, ?_⟩, ?_, ?_, ?_⟩
  · exact same.map_takeAll (fun step => step.result.ending_eq) alike steps
  · exact (shownAlike enough wait).map_takeAll (fun step => step.journal.1) alike steps
  · exact (shownAlike enough wait).map_takeAll (fun step => step.journal.2) alike steps
  · exact same.map_takeAll
      (fun step => congrArg Window.toList step.session.history.1) alike steps
  · intro whole
    exact same.map_takeAll
      (fun step => congrArg₂ History.mk (step.session.history.2 whole) step.session.history.1)
      alike steps
  · rintro colors leftBus rightBus leftSession rightSession leftOpened rightOpened rfl rfl
    exact watch_congr colors enough leftOpened rightOpened agree

/-- A device that sends a given record, with some padding, and then stalls. -/
def onceDevice (record padding : List UInt8) : Device where
  address := 4
  vendor := 0xCAFE
  product := 0x4014
  serial := none
  openFailure := none
  configuration := .ok [⟨2, 0, 3, [⟨0x83, 3⟩]⟩]
  claimFailure := none
  transfers := [.completes 0 none (record ++ padding), .completes 0 (some .stall) []]

/-- The reads of a record with padding and of the stall behind it. -/
def onceReads (record padding : List UInt8) : List Answer :=
  [.ok (record ++ padding), .error (.transfer "reading a debug report" .stall)]

/-- A record whose FIFO words are given, and whose other bytes are all the same. -/
def fifoRecord (other : UInt8) : List UInt8 :=
  List.replicate 14 other ++ [1, 2, 3, 4, 5, 6]

/-- Other bytes in front of the FIFO words and longer padding are not noticed. -/
theorem agreeing_streams_look_alike_padding :
    let left := onceReads (fifoRecord 0) []
    let right := onceReads (fifoRecord 255) [9, 9, 9]
    let leftBus : Bus := ⟨[.connected [onceDevice (fifoRecord 0) []]], "gone"⟩
    let rightBus : Bus := ⟨[.connected [onceDevice (fifoRecord 255) [9, 9, 9]]], "gone"⟩
    18 ≤ 20 ∧
      List.Forall₂ (Answer.Agree 20) left right ∧
      20 ≤ 20 ∧
      ((Session.new (Replay.mk left)).takeAll (onBatch (.byDefault false)) [.readBatch]).map
          (fun step => step.session.history) =
        ((Session.new (Replay.mk right)).takeAll (onBatch (.byDefault false)) [.readBatch]).map
          (fun step => step.session.history) ∧
      (watch true (.byDefault false) leftBus).printed =
        (watch true (.byDefault false) rightBus).printed := by
  intro left right leftBus rightBus
  have sameBytes :
      ∀ index, 14 ≤ index → index < 20 →
        (fifoRecord 0 ++ [])[index]? = (fifoRecord 255 ++ [9, 9, 9])[index]? := by
    decide
  have agree : List.Forall₂ (Answer.Agree 20) left right :=
    .cons (.record (by decide) (by decide) sameBytes) (.cons (.fault _) .nil)
  obtain ⟨-, -, histories, monitors⟩ :=
    agreeing_streams_look_alike (by decide) agree false [.readBatch]
  exact ⟨by decide, agree, by decide, histories (by decide),
    (monitors true leftBus rightBus _ _ rfl rfl rfl rfl).1⟩

end Monitor

end AudioScope
