import AudioScope.Proofs.Device.Polling
import AudioScope.Proofs.Device.Transfers
import AudioScope.Proofs.Report.Record
import AudioScope.Proofs.Session.Lockstep

namespace AudioScope

open ReportSource

/-!
# Devices behave as scripts

A session with a device cannot be told from one that plays back what the
transfers of the device amount to, transfer by transfer.  The two are kept in
lockstep: for each request of the one, the other submits one transfer, from the
endpoint that was found and on the interface that was claimed when the device was
opened.
-/

namespace Event

/-- The address of the device that is opened, if one is. -/
def opened? : Event → Option Nat
  | opened address => some address
  | _ => none

/-- The interface that is claimed, if one is. -/
def claimed? : Event → Option UInt8
  | claimed interface => some interface
  | _ => none

/-- The milliseconds within which a report is asked for, if one is. -/
def request? : Event → Option Nat
  | asked milliseconds => some milliseconds
  | _ => none

end Event

namespace Device

/-- What a transfer amounts to for a session: what it yields, unless it takes too long. -/
def Transfer.answer : Transfer → Answer
  | .hangs => .ok []
  | .completes milliseconds fault data =>
      if Session.readTimeout < milliseconds then
        .ok []
      else
        match fault with
        | none => .ok data
        | some .disconnected => .error .disconnected
        | some other => .error (.transfer "reading a debug report" other)

/-- A transfer yields a report if its data is a buffer that holds it. -/
def Transfer.Yields
    (transfer : Transfer)
    (report : Report) :
    Prop :=
  ∃ buffer, transfer.answer = .ok buffer ∧ Report.decode buffer = .ok report

namespace Connection

/-- A session makes the same of a transfer that is waited for and of what it amounts to. -/
theorem received_await (transfer : Transfer) :
    Session.received (await Session.readTimeout transfer).outcome =
      Session.received transfer.answer := by
  cases transfer with
  | hangs =>
      rfl
  | completes milliseconds fault data =>
      by_cases late : Session.readTimeout < milliseconds
      · simp only [await, Transfer.answer, if_pos late]
        rfl
      · simp only [await, Transfer.answer, if_neg late]
        rcases fault with _ | fault
        · -- The buffer of a transfer may cut off padding, but no part of a record.
          have whole : Report.decode (data.take Report.hidReportSize) = Report.decode data :=
            Report.decode_take (by decide) data
          simp only [Session.received, whole]
        · cases fault <;> rfl

/-- What a connection answers behind some requests is what the transfer there amounts to. -/
theorem received_answer_after
    (count : Nat)
    (connection : Connection) :
    Session.received (answer (after count connection)) =
      Session.received ((connection.transfers[count]?.map Transfer.answer).getD (.ok [])) := by
  induction count generalizing connection with
  | zero =>
      rcases connection with ⟨endpoint, _ | ⟨transfer, later⟩⟩
      · rfl
      · exact received_await transfer
  | succ count inductionHypothesis =>
      rw [after, inductionHypothesis]
      rcases connection with ⟨endpoint, _ | ⟨transfer, later⟩⟩
      · rfl
      · rfl

/-- The first transfers of a connection that gives some reports yield them, one by one. -/
theorem yields_of_failsAfter
    {connection : Connection}
    {reports : List Report}
    {fault : Fault}
    (fails : FailsAfter connection reports fault) :
    List.Forall₂ Transfer.Yields (connection.transfers.take reports.length) reports := by
  induction reports generalizing connection with
  | nil =>
      exact .nil
  | cons report reports inductionHypothesis =>
      obtain ⟨first, rest⟩ := List.cons.inj fails.decoded
      rcases connection with ⟨endpoint, _ | ⟨transfer, later⟩⟩
      · -- Without a transfer there is an empty buffer, which holds no record.
        cases first
      · have received : Session.received transfer.answer = .ok report :=
          (received_await transfer).symm.trans first
        exact
          .cons (Answer.exists_decode_of_received received)
            (inductionHypothesis ⟨rest, fails.failing⟩)

/-- A connection is taken for the script of its transfers as long as its endpoint stays the same. -/
def scripting (endpoint : ReportEndpoint) : Session.Simulation Connection Replay where
  sources connection replay :=
    connection.source = endpoint ∧
      replay.reads = connection.transfers.map Transfer.answer
  reports left right := left = right
  histories left right := left = right
  answer := by
    rintro ⟨source, _ | ⟨transfer, later⟩⟩ ⟨reads⟩ ⟨-, rfl⟩
    · exact .of_eq rfl
    · exact .of_eq (received_await transfer)
  next := by
    rintro ⟨source, _ | ⟨transfer, later⟩⟩ ⟨reads⟩ ⟨rfl, rfl⟩
    · exact ⟨rfl, rfl⟩
    · exact ⟨rfl, rfl⟩
  push := @Session.push_congr

end Connection

end Device

/-- A report on batches that has no part in the reading. -/
def Session.Idle (onBatch : Session.Batch → Journal) : Prop :=
  ∀ batch,
    (onBatch batch).filterMap Event.submission? = [] ∧
      (onBatch batch).filterMap Event.request? = []

namespace Device.Connection

/-- Each request of the script goes with one transfer of the device. -/
def requests
    (endpoint : ReportEndpoint)
    {onBatch : Session.Batch → Journal}
    (idle : Session.Idle onBatch) :
    (scripting endpoint).Watch onBatch onBatch where
  journals left right :=
    left.filterMap Event.submission? =
      (right.filterMap Event.request?).map fun _ => (endpoint.address, 64)
  nil := rfl
  append first second := by
    rw [List.filterMap_append, List.filterMap_append, List.map_append, first, second]
  answering := by
    rintro connection ⟨reads⟩ ⟨rfl, rfl⟩
    have submitted := submissions_answeringAll 1 connection
    rw [answeringAll, answeringAll, List.append_nil] at submitted
    have asked :
        (answering (Replay.mk (connection.transfers.map Transfer.answer))).filterMap
            Event.request? =
          [Session.readTimeout] := by
      cases connection.transfers <;> rfl
    rw [asked, submitted]
    rfl
  onBatch := by
    rintro left right ⟨-, -⟩
    rw [(idle left).1, (idle right).2]
    rfl

/-- A session with a device that has been opened and has not read anything. -/
structure Connected
    (wait : Bool)
    (bus : Bus)
    (device : Device)
    (session : Session Connection) :
    Prop where
  session_eq : session = Session.new ⟨session.source.source, device.transfers⟩
  /-- Reports come from the first suitable endpoint of the configuration. -/
  endpoint_eq :
    ∃ configuration,
      device.configuration = .ok configuration ∧
        configuration.reportEndpoint? = some session.source.source
  opened_eq :
    (Session.connect wait bus).journal.filterMap Event.opened? = [device.address]
  claimed_eq :
    (Session.connect wait bus).journal.filterMap Event.claimed? =
      [session.source.source.interface]
  submissions_eq :
    (Session.connect wait bus).journal.filterMap Event.submission? = []

/-- A search that is successful ends with the opening of a device. -/
theorem exists_toDevice_of_acquire
    {wait : Bool}
    {bus : Bus}
    {connection : Connection}
    (found : (acquire wait bus).outcome = .ok connection) :
    ∃ device others passed,
      acquire wait bus =
        (toDevice device).after (looks false passed ++ choiceNotice device others) := by
  have shape := acquire_eq_ofListing wait bus
  generalize bus.listing (bus.passed wait) = listing at shape
  rw [shape] at found
  cases listing with
  | failed cause =>
      cases found
  | connected devices =>
      cases matching : devices.filter isDebugDevice with
      | nil =>
          simp only [ofListing, matching] at found
          cases found
      | cons device others =>
          refine ⟨device, others, bus.passed wait, ?_⟩
          rw [shape, ← Attempt.after_after]
          simp only [ofListing, matching]

/-- Nothing is opened or claimed while a device is being looked for. -/
theorem opened_claimed_of_mem_search
    {device : Device}
    {others : List Device}
    {passed : Nat}
    {event : Event}
    (member : event ∈ looks false passed ++ choiceNotice device others) :
    event.opened? = none ∧ event.claimed? = none := by
  rcases List.mem_append.mp member with looking | chosen
  · have isLooking := isLooking_of_mem_looks false passed looking
    cases event with
    | opened address =>
        cases isLooking
    | claimed interface =>
        cases isLooking
    | _ =>
        exact ⟨rfl, rfl⟩
  · obtain ⟨count, serial, rfl⟩ := severalDevices_of_mem_choiceNotice chosen
    exact ⟨rfl, rfl⟩

theorem connect_of_acquire
    {wait : Bool}
    {bus : Bus}
    {journal : Journal}
    {connection : Connection}
    (acquired : acquire wait bus = ⟨journal, .ok connection⟩) :
    Session.connect wait bus =
      ⟨journal ++ [.logged .deviceOpened], .ok (Session.new connection)⟩ := by
  unfold Session.connect
  rw [acquired]
  rfl

theorem exists_acquire_of_connect
    {wait : Bool}
    {bus : Bus}
    {session : Session Connection}
    (opened : (Session.connect wait bus).outcome = .ok session) :
    ∃ connection, (acquire wait bus).outcome = .ok connection := by
  change ((acquire wait bus).andThen _).outcome = .ok session at opened
  unfold Attempt.andThen at opened
  split at opened
  · next connection acquired =>
    exact ⟨connection, acquired⟩
  · cases opened

/-- A session that has been connected belongs to the device that was opened for it. -/
theorem exists_connected
    {wait : Bool}
    {bus : Bus}
    {session : Session Connection}
    (opened : (Session.connect wait bus).outcome = .ok session) :
    ∃ device, Connected wait bus device session := by
  have background := Session.inBackground_connect wait bus
  obtain ⟨connection, acquired⟩ := exists_acquire_of_connect opened
  obtain ⟨device, others, passed, shape⟩ := exists_toDevice_of_acquire acquired
  have ending := opening_toDevice device
  generalize toDevice device = attempt at shape ending
  rw [shape] at acquired
  cases ending with
  | @claimed configuration source openable configured found claimable =>
      have connected := connect_of_acquire shape
      have searching :
          ∀ event ∈ looks false passed ++ choiceNotice device others,
            event.opened? = none ∧ event.claimed? = none :=
        fun _ => opened_claimed_of_mem_search
      have noneOpened :=
        List.filterMap_eq_nil_iff.mpr fun event member => (searching event member).1
      have noneClaimed :=
        List.filterMap_eq_nil_iff.mpr fun event member => (searching event member).2
      rw [connected] at opened
      cases opened
      refine
        ⟨device, rfl, ⟨configuration, configured, found⟩, ?_, ?_, background.submissions_eq_nil⟩
      · rw [connected, List.filterMap_append, List.filterMap_append, noneOpened]
        rfl
      · rw [connected, List.filterMap_append, List.filterMap_append, noneClaimed]
        rfl
  | _ =>
      cases acquired

/--
A session with a device that has been opened goes through any steps as a session
with the script of its transfers does: the steps return the same, runs report on
the same batches, and the histories are the same after every step.  What is left
of the transfers stays in step with what is left of the script.  For each request
of a step there is one transfer, of 64 bytes and from the endpoint that was found
when the device was opened; its interface is the one that was claimed, and the
connection never turns to another.
-/
theorem takeAll_refines_replay
    {wait : Bool}
    {bus : Bus}
    {session : Session Connection}
    (opened : (Session.connect wait bus).outcome = .ok session)
    {onBatch : Session.Batch → Journal}
    (idle : Session.Idle onBatch)
    (steps : List Session.Step) :
    ∃ device,
      Connected wait bus device session ∧
        let endpoint := session.source.source
        let script : Replay := ⟨device.transfers.map Transfer.answer⟩
        let taken := session.takeAll onBatch steps
        let scripted := (Session.new script).takeAll onBatch steps
        taken.map Session.Taken.result = scripted.map Session.Taken.result ∧
          taken.map (fun step => step.session.history) =
            scripted.map (fun step => step.session.history) ∧
          taken.map (fun step => step.session.source.transfers.map Transfer.answer) =
            scripted.map (fun step => step.session.source.reads) ∧
          taken.map (fun step => step.journal.filterMap Event.submission?) =
            scripted.map (fun step =>
              (step.journal.filterMap Event.request?).map fun _ => (endpoint.address, 64)) ∧
          taken.map (fun step => step.session.source.source) = scripted.map fun _ => endpoint := by
  obtain ⟨device, connected⟩ := exists_connected opened
  refine ⟨device, connected, ?_⟩
  intro endpoint script taken scripted
  have alike : (scripting endpoint).Sessions session (Session.new script) := by
    rw [connected.session_eq]
    exact ⟨⟨rfl, rfl⟩, rfl⟩
  have watch := requests endpoint idle
  refine ⟨?_, ?_, ?_, ?_, ?_⟩
  · exact watch.map_takeAll (fun step => step.result.eq id id) alike steps
  · exact watch.map_takeAll (fun step => step.session.history) alike steps
  · exact watch.map_takeAll (fun step => step.session.source.2.symm) alike steps
  · exact (requests endpoint idle).map_takeAll (fun step => step.journal) alike steps
  · exact watch.map_takeAll (fun step => step.session.source.1) alike steps

/-- A device whose transfers yield a record, take too long, stall, and come to an end. -/
def stallingDevice : Device where
  address := 7
  vendor := 0xCAFE
  product := 0x4014
  serial := none
  openFailure := none
  configuration := .ok [⟨2, 0, 3, [⟨0x83, 3⟩]⟩]
  claimFailure := none
  transfers :=
    [.completes 3 none (List.replicate 70 1), .hangs, .completes 0 (some .stall) []]

/-- A bus on which the device is the second one, and only seen at the second look. -/
def lateBus : Bus where
  listings :=
    [.connected [{ stallingDevice with product := 1 }],
      .connected [{ stallingDevice with vendor := 1 }, stallingDevice]]
  ending := "gone"

/-- A batch ends at the transfer that takes too long, and the next one at the stall. -/
theorem takeAll_refines_replay_stallingDevice :
    let session := Session.new ⟨⟨2, 0x83⟩, stallingDevice.transfers⟩
    let steps := [Session.Step.readBatch, .readBatch, .close]
    (Session.connect true lateBus).outcome = .ok session ∧
      Session.Idle (fun _ => []) ∧
      (session.takeAll (fun _ => []) steps).map
          (fun step => step.journal.filterMap Event.submission?) =
        [[(0x83, 64), (0x83, 64)], [(0x83, 64)], []] ∧
      (session.takeAll (fun _ => []) steps).map (fun step => step.session.history.levels) =
        List.replicate 3 [⟨257, 257⟩] := by
  intro session steps
  have opened : (Session.connect true lateBus).outcome = .ok session := rfl
  have idle : Session.Idle fun _ => [] := fun _ => ⟨rfl, rfl⟩
  obtain ⟨device, connected, -, histories, -, submissions, -⟩ :=
    takeAll_refines_replay opened idle steps
  have transfers : device.transfers = stallingDevice.transfers :=
    (congrArg (fun session => session.source.transfers) connected.session_eq).symm
  rw [transfers] at histories submissions
  have levels := congrArg (List.map History.levels) histories
  rw [List.map_map] at levels
  exact ⟨opened, idle, submissions, levels⟩

end Device.Connection

end AudioScope
