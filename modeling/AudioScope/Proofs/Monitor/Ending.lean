import AudioScope.CommandLine.Request
import AudioScope.Proofs.Device.Refinement
import AudioScope.Proofs.Monitor.Wording

namespace AudioScope.Monitor

open ReportSource

/-!
# How watching a device ends

Watching a device always ends in a failure: `Unopened` says what it leaves if no
device could be opened, and `Watched` what it leaves if a device gave some
reports before the first transfer that yields no record.
-/

/-- The last line on standard output. -/
def lastLine (colors : Bool) : String :=
  (if colors then "\x1b[31mError\x1b[0m" else "Error") ++ "\n"

/-- What is left of watching a device that could not be opened. -/
structure Unopened
    (fault : Device.Fault)
    (outcome : Outcome) :
    Prop where
  chain_eq :
    ∃ texts,
      fault.Told texts ∧
        outcome.chain = "Error while opening the audio debug device" :: texts
  printed_eq : outcome.printed = []
  submissions_eq : outcome.journal.filterMap Event.submission? = []

/--
What is left of watching an open device whose transfers give some reports and
then a fault.
-/
structure Watched
    (colors : Bool)
    (options : Options)
    (connection : Device.Connection)
    (reports : List Report)
    (fault : Device.Fault)
    (outcome : Outcome) :
    Prop where
  /-- The reports are what the first transfers yield, -/
  yielded : List.Forall₂ Device.Transfer.Yields (connection.transfers.take reports.length) reports
  /-- and the fault is that of the next one, or of an empty buffer if there is no other. -/
  failing :
    ((connection.transfers[reports.length]?.map Device.Transfer.answer).getD (.ok [])).fault? =
      some fault
  chain_eq :
    ∃ texts,
      fault.Told texts ∧ outcome.chain = "Error while reading debug reports" :: texts
  /-- There is a transfer for each report, and one for the fault. -/
  submissions_eq :
    outcome.journal.filterMap Event.submission? =
      List.replicate (reports.length + 1) (connection.source.address, 64)
  length_printed : outcome.printed.length = reports.length / 30 + 1
  /-- Every batch is printed by its last report, in the form that is asked for. -/
  printed_batch :
    ∀ batch < reports.length / 30,
      ∃ last text,
        reports[30 * batch + 29]? = some last ∧
          options.Prints last text ∧
          outcome.printed[batch]? = some (text ++ "\n")
  printed_last : outcome.printed[reports.length / 30]? = some (lastLine colors)
  /-- Between the batches and the last line it is noted how many reports are remembered. -/
  shown_eq :
    ∃ note : LogEntry,
      note.severity = .debug ∧
        note.message = toString (min reports.length 1000) ++ " FIFO samples collected" ∧
        outcome.journal.filter Event.isShown =
          (outcome.printed.take (reports.length / 30)).map .printed ++
            (if reports.length = 0 then [] else [.logged note]) ++
            [.printed (lastLine colors)]

theorem exitCode_of_chain
    {outcome : Outcome}
    {fault : Device.Fault}
    {message : String}
    (failed : ∃ texts, fault.Told texts ∧ outcome.chain = message :: texts) :
    outcome.exitCode = 1 := by
  obtain ⟨texts, -, chain⟩ := failed
  rw [Outcome.exitCode, chain]
  rfl

section

variable {options : Options} {bus : Bus}

theorem watch_of_error
    (colors : Bool)
    {fault : Device.Fault}
    (failed : (Session.connect options.wait bus).outcome = .error fault) :
    watch colors options bus =
      { chain := "Error while opening the audio debug device" :: fault.chain
        journal := (Session.connect options.wait bus).journal } := by
  simp only [watch, failed]

/-- The text on standard output that a batch gives rise to. -/
def batchLine
    (options : Options)
    (batch : Session.Batch) :
    String :=
  options.batchText batch.last ++ "\n"

/-- What a monitor does about a complete batch. -/
def onBatch
    (options : Options)
    (batch : Session.Batch) :
    Journal :=
  [.printed (batchLine options batch)]

theorem watch_of_ok
    (colors : Bool)
    {session : Session Device.Connection}
    (opened : (Session.connect options.wait bus).outcome = .ok session) :
    watch colors options bus =
      { chain :=
          "Error while reading debug reports" :: (session.run (onBatch options)).fault.chain
        journal :=
          (Session.connect options.wait bus).journal ++
            (session.run (onBatch options)).journal ++
            collected (session.run (onBatch options)).session.close ++
            [.printed (lastLine colors)] } := by
  have lastEvent : line (red colors "Error") = .printed (lastLine colors) := by
    cases colors with
    | true =>
        rfl
    | false =>
        rfl
  simp only [watch, opened, ← lastEvent]
  rfl

/-- A device that cannot be opened leaves nothing but the fault. -/
theorem unopened_of_error
    (colors : Bool)
    {fault : Device.Fault}
    (failed : (Session.connect options.wait bus).outcome = .error fault) :
    Unopened fault (watch colors options bus) := by
  have background := Session.inBackground_connect options.wait bus
  rw [watch_of_error colors failed]
  exact
    { chain_eq := ⟨fault.chain, fault.told_chain, rfl⟩
      printed_eq := by
        rw [Outcome.printed, Journal.printed_eq_shown, background.shown_eq_nil]
        rfl
      submissions_eq := background.submissions_eq_nil }

/-- What is noted about a number of reports, of which the latest are remembered. -/
def noted (count : Nat) : Journal :=
  if count = 0 then [] else [.logged (.samplesCollected (min count 1000))]

theorem collected_pushAll (reports : List Report) :
    collected (History.empty.pushAll reports) = noted reports.length := by
  have size : (History.empty.pushAll reports).size = min reports.length 1000 := by
    rw [History.size_pushAll History.Balanced.empty, Nat.min_comm]
    exact congrArg (min · 1000) (Nat.zero_add _)
  rw [collected, History.isEmpty, size]
  cases reports with
  | nil =>
      rfl
  | cons report later =>
      simp [noted]

theorem shown_noted (count : Nat) : (noted count).filter Event.isShown = noted count := by
  rcases count with _ | count
  · rfl
  · rfl

theorem printed_noted (count : Nat) : (noted count).filterMap Event.printed? = [] := by
  rcases count with _ | count
  · rfl
  · rfl

theorem submissions_noted (count : Nat) : (noted count).filterMap Event.submission? = [] := by
  rcases count with _ | count
  · rfl
  · rfl

theorem shown_onBatch
    (options : Options)
    (batches : List Session.Batch) :
    (batches.flatMap fun batch => (onBatch options batch).filter Event.isShown) =
      (batches.map (batchLine options)).map .printed := by
  rw [List.map_map, List.map_eq_flatMap]
  rfl

/-- A session that was started for watching hands back the reports of its run. -/
theorem collected_close
    {session : Session Device.Connection}
    {reports : List Report}
    {fault : Device.Fault}
    (opened : (Session.connect options.wait bus).outcome = .ok session)
    (form :
      Session.RunOf (onBatch options) session reports fault
        (session.run (onBatch options))) :
    collected (session.run (onBatch options)).session.close = noted reports.length := by
  have fresh : session.history = .empty :=
    congrArg Session.history (Session.eq_new_of_connect opened)
  have ending :
      (session.run (onBatch options)).session.close = session.history.pushAll reports :=
    congrArg Session.history form.session_eq
  rw [ending, fresh, collected_pushAll]

/-- All that is shown, in order: the batches, what was collected, and the last line. -/
theorem shown_watch
    (colors : Bool)
    {session : Session Device.Connection}
    {reports : List Report}
    {fault : Device.Fault}
    (opened : (Session.connect options.wait bus).outcome = .ok session)
    (form :
      Session.RunOf (onBatch options) session reports fault
        (session.run (onBatch options))) :
    (watch colors options bus).journal.filter Event.isShown =
      ((session.run (onBatch options)).batches.map (batchLine options)).map .printed ++
        noted reports.length ++ [.printed (lastLine colors)] := by
  have note := collected_close opened form
  have background := Session.inBackground_connect options.wait bus
  rw [watch_of_ok colors opened, note, List.filter_append, List.filter_append,
    List.filter_append, background.shown_eq_nil, List.nil_append, form.journal_eq,
    Session.filter_runJournal Device.Connection.shown_answering, shown_onBatch, shown_noted]
  rfl

/-- What stands on standard output is what is shown, without the note. -/
theorem printed_watch
    (colors : Bool)
    {session : Session Device.Connection}
    {reports : List Report}
    {fault : Device.Fault}
    (opened : (Session.connect options.wait bus).outcome = .ok session)
    (form :
      Session.RunOf (onBatch options) session reports fault
        (session.run (onBatch options))) :
    (watch colors options bus).printed =
      (session.run (onBatch options)).batches.map (batchLine options) ++ [lastLine colors] := by
  have texts :
      ((session.run (onBatch options)).batches.map (batchLine options)).filterMap
          (Event.printed? ∘ Event.printed) =
        (session.run (onBatch options)).batches.map (batchLine options) :=
    List.filterMap_some
  rw [Outcome.printed, Journal.printed_eq_shown, shown_watch colors opened form,
    List.filterMap_append, List.filterMap_append, printed_noted, List.append_nil,
    List.filterMap_map, texts]
  rfl

/-- The transfers are those of the run, one for each report and one for the fault. -/
theorem submissions_watch
    (colors : Bool)
    {session : Session Device.Connection}
    {reports : List Report}
    {fault : Device.Fault}
    (opened : (Session.connect options.wait bus).outcome = .ok session)
    (form :
      Session.RunOf (onBatch options) session reports fault
        (session.run (onBatch options))) :
    (watch colors options bus).journal.filterMap Event.submission? =
      List.replicate (reports.length + 1) session.source.submission := by
  have note := collected_close opened form
  have background := Session.inBackground_connect options.wait bus
  have requests :
      Session.batchSize * (session.run (onBatch options)).batches.length +
          (reports.length % Session.batchSize + 1) =
        reports.length + 1 := by
    rw [form.length_batches, ← Nat.add_assoc, Nat.div_add_mod]
  rw [watch_of_ok colors opened, note, List.filterMap_append, List.filterMap_append,
    List.filterMap_append, background.submissions_eq_nil, List.nil_append, form.journal_eq,
    Device.Connection.submissions_runJournal (fun _ => rfl), requests, submissions_noted,
    List.append_nil]
  exact List.append_nil _

/-- An open device is read until its first fault. -/
theorem watched_of_ok
    (colors : Bool)
    {session : Session Device.Connection}
    (opened : (Session.connect options.wait bus).outcome = .ok session) :
    ∃ reports fault,
      Watched colors options session.source reports fault (watch colors options bus) := by
  obtain ⟨reports, fault, fails⟩ := exists_failsAfter session.source
  have form := Session.RunOf.of_failsAfter (onBatch options) fails
  have printed := printed_watch colors opened form
  have shown := shown_watch colors opened form
  have lines :
      ((session.run (onBatch options)).batches.map (batchLine options)).length =
        reports.length / 30 :=
    (List.length_map _).trans form.length_batches
  refine ⟨reports, fault, ?_⟩
  exact
    { yielded := Device.Connection.yields_of_failsAfter fails
      failing := by
        refine Answer.fault?_of_received ?_
        rw [← Device.Connection.received_answer_after]
        exact fails.failing
      chain_eq := by
        refine ⟨fault.chain, fault.told_chain, ?_⟩
        rw [watch_of_ok colors opened, form.fault_eq]
      submissions_eq := submissions_watch colors opened form
      length_printed := by
        rw [printed, List.length_append, lines]
        rfl
      printed_batch := by
        intro batch inside
        have position : 30 * batch + 29 < reports.length := by
          have := Nat.div_mul_le_self reports.length 30
          omega
        have last :
            reports[Session.batchSize * batch + (Session.batchSize - 1)]? =
              some reports[30 * batch + 29] :=
          List.getElem?_eq_getElem position
        refine ⟨reports[30 * batch + 29], _, last, options.prints_batchText _, ?_⟩
        rw [printed, List.getElem?_append_left (by rwa [lines]), List.getElem?_map,
          form.batch, last]
        rfl
      printed_last := by
        rw [printed, ← lines, List.getElem?_concat_length]
      shown_eq := by
        refine ⟨.samplesCollected (min reports.length 1000), rfl, rfl, ?_⟩
        rw [shown, printed, ← lines, List.take_left]
        rfl }

/--
Whatever is seen of the bus and whatever is asked of the monitor, it ends with
exit code 1: either no device could be opened, or the open device was read until
its first fault.
-/
theorem watch_ends
    (colors : Bool)
    (options : Options)
    (bus : Bus) :
    let outcome := (CommandLine.Request.monitor options).carryOut colors bus
    outcome.exitCode = 1 ∧
      match (Session.connect options.wait bus).outcome with
      | .error fault => Unopened fault outcome
      | .ok session =>
          ∃ reports fault, Watched colors options session.source reports fault outcome := by
  intro outcome
  cases opened : (Session.connect options.wait bus).outcome with
  | error fault =>
      have ending : Unopened fault outcome := unopened_of_error colors opened
      exact ⟨exitCode_of_chain ending.chain_eq, ending⟩
  | ok session =>
      obtain ⟨reports, fault, ending⟩ := watched_of_ok colors opened
      exact ⟨exitCode_of_chain ending.chain_eq, reports, fault, ending⟩

end

end AudioScope.Monitor
