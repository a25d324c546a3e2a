import AudioScope.Proofs.Session.Reading

namespace AudioScope.Session

open ReportSource

/-!
# Runs by answers

A run reads batch after batch, so the answers up to the first one without a
record settle everything about it: how it ends, which batches are reported on,
and what is remembered.  `RunOf` is this description, and
`RunOf.of_failsAfter` shows that every run meets it.
-/

variable {σ : Type} [ReportSource σ]

theorem run_of_error
    (onBatch : Batch → Journal)
    {session : Session σ}
    {fault : Device.Fault}
    (failed : session.readBatch.outcome = .error fault) :
    session.run onBatch =
      { session := session.readBatch.session
        fault
        batches := []
        journal := session.readBatch.journal } := by
  rw [run]
  split
  · next outcome =>
    rw [failed] at outcome
    cases outcome
    rfl
  · next outcome =>
    rw [failed] at outcome
    cases outcome

/-- A complete batch is reported on, and the run goes on behind it. -/
theorem run_of_ok
    (onBatch : Batch → Journal)
    {session : Session σ}
    {last : Report}
    (complete : session.readBatch.outcome = .ok last) :
    session.run onBatch =
      { session := (session.readBatch.session.run onBatch).session
        fault := (session.readBatch.session.run onBatch).fault
        batches :=
          ⟨last, session.readBatch.session.history⟩ ::
            (session.readBatch.session.run onBatch).batches
        journal :=
          session.readBatch.journal ++
            onBatch ⟨last, session.readBatch.session.history⟩ ++
            (session.readBatch.session.run onBatch).journal } := by
  rw [run]
  split
  · next outcome =>
    rw [complete] at outcome
    cases outcome
  · next outcome =>
    rw [complete] at outcome
    cases outcome
    rfl

/--
What is true of every run: it is so of a batch that fails, and it carries over
from the run behind a complete batch.
-/
theorem run_induction
    {onBatch : Batch → Journal}
    {motive : Session σ → Run σ → Prop}
    (failed :
      ∀ session fault,
        session.readBatch.outcome = .error fault →
        motive session
          { session := session.readBatch.session
            fault
            batches := []
            journal := session.readBatch.journal })
    (complete :
      ∀ session last rest,
        session.readBatch.outcome = .ok last →
        motive session.readBatch.session rest →
        motive session
          { session := rest.session
            fault := rest.fault
            batches := ⟨last, session.readBatch.session.history⟩ :: rest.batches
            journal :=
              session.readBatch.journal ++
                onBatch ⟨last, session.readBatch.session.history⟩ ++ rest.journal })
    (session : Session σ) :
    motive session (session.run onBatch) := by
  induction bound : left session.source using Nat.strongRecOn generalizing session with
  | ind remaining inductionHypothesis =>
    subst bound
    cases ending : session.readBatch.outcome with
    | error fault =>
        rw [run_of_error onBatch ending]
        exact failed session fault ending
    | ok last =>
        rw [run_of_ok onBatch ending]
        exact complete session last _ ending
          (inductionHypothesis _ (left_readMore ending) session.readBatch.session rfl)

theorem Advanced.run
    (onBatch : Batch → Journal)
    (session : Session σ) :
    ∃ requests, Advanced session requests (session.run onBatch).session := by
  apply run_induction
    (motive := fun session run => ∃ requests, Advanced session requests run.session)
  · intro session fault failed
    exact Advanced.readMore _ session
  · intro session last rest complete goneOn
    obtain ⟨first, batch⟩ := Advanced.readMore (batchSize - 1) session
    obtain ⟨later, behind⟩ := goneOn
    exact ⟨first + later, batch.trans behind⟩

/--
What happens in a run: the reads of each complete batch and the report on it,
and at last the reads of the batch that fails.
-/
def runJournal
    (onBatch : Batch → Journal)
    (unfinished : Nat) :
    List Batch → σ → Journal
  | [], source => answeringAll unfinished source
  | batch :: later, source =>
      answeringAll batchSize source ++ onBatch batch ++
        runJournal onBatch unfinished later (after batchSize source)

/--
If nothing is kept of what happens during an answer, only the reports on complete
batches are kept of a run.
-/
theorem filter_runJournal
    {keep : Event → Bool}
    (silent : ∀ source : σ, (answering source).filter keep = [])
    (onBatch : Batch → Journal)
    (unfinished : Nat)
    (batches : List Batch)
    (source : σ) :
    (runJournal onBatch unfinished batches source).filter keep =
      batches.flatMap fun batch => (onBatch batch).filter keep := by
  induction batches generalizing source with
  | nil =>
      exact filter_answeringAll silent unfinished source
  | cons batch later inductionHypothesis =>
      rw [runJournal, List.filter_append, List.filter_append, filter_answeringAll silent,
        List.nil_append, inductionHypothesis, List.flatMap_cons]

/--
The outcome of a run over a source that gives some reports and then an answer
with a fault.
-/
structure RunOf
    (onBatch : Batch → Journal)
    (session : Session σ)
    (reports : List Report)
    (fault : Device.Fault)
    (run : Run σ) :
    Prop where
  fault_eq : run.fault = fault
  session_eq : run.session = session.afterReports (reports.length + 1) reports
  length_batches : run.batches.length = reports.length / batchSize
  /-- A batch shows its last report, and the history with all reports up to it. -/
  batch :
    ∀ index,
      run.batches[index]? =
        reports[batchSize * index + (batchSize - 1)]?.map fun last =>
          ⟨last, session.history.pushAll (reports.take (batchSize * (index + 1)))⟩
  journal_eq :
    run.journal =
      runJournal onBatch (reports.length % batchSize + 1) run.batches session.source

namespace RunOf

variable {onBatch : Batch → Journal} {session : Session σ} {fault : Device.Fault}

/-- A run whose first batch fails has nothing to report on. -/
theorem of_short
    {reports : List Report}
    (short : reports.length < batchSize)
    (fails : FailsAfter session.source reports fault) :
    RunOf onBatch session reports fault (session.run onBatch) := by
  have ended :
      session.readBatch =
        { session := session.afterReports (reports.length + 1) reports
          outcome := .error fault
          journal := answeringAll (reports.length + 1) session.source } :=
    readMore_of_error (Nat.le_sub_one_of_lt short) fails
  have failed : session.readBatch.outcome = .error fault := by
    rw [ended]
  rw [run_of_error onBatch failed, ended]
  exact
    { fault_eq := rfl
      session_eq := rfl
      length_batches := (Nat.div_eq_of_lt short).symm
      batch := fun index => by
        have outside : reports.length ≤ batchSize * index + (batchSize - 1) := by
          have := Nat.le_sub_one_of_lt short
          omega
        rw [List.getElem?_eq_none outside]
        rfl
      journal_eq := by
        rw [Nat.mod_eq_of_lt short]
        rfl }

/-- A complete batch in front of a run is one more batch to report on. -/
theorem of_complete
    {reports later : List Report}
    {last : Report}
    (full : reports.length = batchSize - 1)
    (decoded :
      (answers batchSize session.source).map received =
        (reports ++ [last]).map .ok)
    (rest :
      RunOf onBatch (session.afterReports batchSize (reports ++ [last])) later fault
        ((session.afterReports batchSize (reports ++ [last])).run onBatch)) :
    RunOf onBatch session (reports ++ [last] ++ later) fault (session.run onBatch) := by
  have complete :
      session.readBatch =
        { session := session.afterReports batchSize (reports ++ [last])
          outcome := .ok last
          journal := answeringAll batchSize session.source } :=
    readMore_of_ok full decoded
  have successful : session.readBatch.outcome = .ok last := by
    rw [complete]
  have size : (reports ++ [last]).length = batchSize := by
    rw [List.length_append, full]
    rfl
  have total : (reports ++ [last] ++ later).length = later.length + batchSize := by
    rw [List.length_append, size, Nat.add_comm]
  rw [run_of_ok onBatch successful, complete]
  exact
    { fault_eq := rest.fault_eq
      session_eq := by
        rw [rest.session_eq, afterReports_afterReports, total, Nat.add_right_comm,
          Nat.add_comm _ batchSize]
      length_batches := by
        rw [List.length_cons, rest.length_batches, total,
          Nat.add_div_right _ (by decide : 0 < batchSize)]
      batch := fun index => by
        cases index with
        | zero =>
            have lastAt : (reports ++ [last] ++ later)[batchSize * 0 + (batchSize - 1)]? =
                some last := by
              rw [Nat.mul_zero, Nat.zero_add, ← full, List.append_assoc,
                List.getElem?_append_right (Nat.le_refl _), Nat.sub_self]
              rfl
            rw [lastAt, Nat.zero_add, Nat.mul_one, List.take_left' size]
            rfl
        | succ index =>
            have behind :
                (reports ++ [last] ++ later)[batchSize * (index + 1) + (batchSize - 1)]? =
                  later[batchSize * index + (batchSize - 1)]? := by
              have past : batchSize ≤ batchSize * (index + 1) + (batchSize - 1) := by
                rw [Nat.mul_succ]
                omega
              rw [List.getElem?_append_right (by rwa [size]), size, Nat.mul_succ,
                Nat.add_right_comm, Nat.add_sub_cancel]
            have upTo :
                (reports ++ [last] ++ later).take (batchSize * (index + 1 + 1)) =
                  reports ++ [last] ++ later.take (batchSize * (index + 1)) := by
              rw [Nat.mul_succ batchSize (index + 1), Nat.add_comm, ← size,
                List.take_length_add_append]
            rw [List.getElem?_cons_succ, rest.batch, behind, upTo]
            simp only [afterReports, History.pushAll_append]
      journal_eq := by
        rw [total, Nat.add_mod_right]
        simp only [rest.journal_eq]
        rfl }

/-- The answers up to the first fault settle the run. -/
theorem of_failsAfter
    (onBatch : Batch → Journal)
    {session : Session σ}
    {reports : List Report}
    (fails : FailsAfter session.source reports fault) :
    RunOf onBatch session reports fault (session.run onBatch) := by
  induction size : reports.length using Nat.strongRecOn generalizing session reports with
  | ind count inductionHypothesis =>
    subst size
    rcases Nat.lt_or_ge reports.length batchSize with short | enough
    · exact of_short short fails
    · obtain ⟨portion, rest, rfl, portionSize⟩ :
          ∃ portion rest, reports = portion ++ rest ∧ portion.length = batchSize :=
        ⟨reports.take batchSize, reports.drop batchSize,
          (List.take_append_drop batchSize reports).symm,
          List.length_take_of_le enough⟩
      obtain ⟨decoded, restFails⟩ := fails.append
      rw [portionSize] at decoded restFails
      have nonempty : portion ≠ [] := by
        rintro rfl
        cases portionSize
      obtain ⟨front, last, rfl⟩ : ∃ front last, portion = front ++ [last] :=
        ⟨portion.dropLast, portion.getLast nonempty,
          (List.dropLast_concat_getLast nonempty).symm⟩
      have frontSize : front.length = batchSize - 1 := by
        rw [List.length_append] at portionSize
        exact Nat.eq_sub_of_add_eq portionSize
      refine of_complete frontSize decoded
        (inductionHypothesis rest.length ?_ restFails rfl)
      rw [List.length_append, portionSize]
      exact Nat.lt_add_of_pos_left (by decide)

end RunOf

end AudioScope.Session
