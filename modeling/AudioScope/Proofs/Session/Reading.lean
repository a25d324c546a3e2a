import AudioScope.Proofs.Session.Answers

namespace AudioScope.Session

open ReportSource

/-!
# Reading by answers

A read, and a batch of reads, told by the answers of the source.  Reads that
give a report add it to the history and go on; the first answer without a record
ends the batch with its fault.  `Advanced` keeps of this what all kinds of
reading have in common.
-/

variable {σ : Type} [ReportSource σ]

/-- A session that has read some reports. -/
def afterReports
    (session : Session σ)
    (requests : Nat)
    (reports : List Report) :
    Session σ where
  source := after requests session.source
  history := session.history.pushAll reports

theorem afterReports_afterReports
    (session : Session σ)
    (first second : Nat)
    (reports later : List Report) :
    (session.afterReports first reports).afterReports second later =
      session.afterReports (first + second) (reports ++ later) := by
  simp only [afterReports, after_add, History.pushAll_append]

theorem readOne_of_ok
    {session : Session σ}
    {report : Report}
    (decoded : received (answer session.source) = .ok report) :
    session.readOne =
      { session := session.afterReports 1 [report]
        outcome := .ok report
        journal := answering session.source } := by
  unfold answer at decoded
  simp only [readOne, decoded]
  rfl

theorem readOne_of_error
    {session : Session σ}
    {fault : Device.Fault}
    (failing : received (answer session.source) = .error fault) :
    session.readOne =
      { session := session.afterReports 1 []
        outcome := .error fault
        journal := answering session.source } := by
  unfold answer at failing
  simp only [readOne, failing]
  rfl

/-- Reads that all give a report are done to the end, and give the last one. -/
theorem readMore_of_ok
    {more : Nat}
    {session : Session σ}
    {reports : List Report}
    {last : Report}
    (enough : reports.length = more)
    (decoded :
      (answers (more + 1) session.source).map received =
        (reports ++ [last]).map .ok) :
    readMore more session =
      { session := session.afterReports (more + 1) (reports ++ [last])
        outcome := .ok last
        journal := answeringAll (more + 1) session.source } := by
  induction more generalizing session reports with
  | zero =>
      rw [List.length_eq_zero_iff.mp enough] at decoded ⊢
      have only : received (answer session.source) = .ok last :=
        (List.cons.inj decoded).1
      rw [readMore, readOne_of_ok only]
      simp [answeringAll]
  | succ more inductionHypothesis =>
      obtain ⟨first, later, rfl⟩ := List.exists_cons_of_length_eq_add_one enough
      obtain ⟨decodedFirst, decodedLater⟩ := List.cons.inj decoded
      have rest :
          readMore more (session.afterReports 1 [first]) =
            { session :=
                (session.afterReports 1 [first]).afterReports (more + 1) (later ++ [last])
              outcome := .ok last
              journal := answeringAll (more + 1) (next session.source) } :=
        inductionHypothesis (Nat.succ.inj enough) decodedLater
      simp only [readMore, readOne_of_ok decodedFirst, rest]
      rfl

/-- The first answer without a record ends the reading; what came before stays. -/
theorem readMore_of_error
    {more : Nat}
    {session : Session σ}
    {reports : List Report}
    {fault : Device.Fault}
    (early : reports.length ≤ more)
    (fails : FailsAfter session.source reports fault) :
    readMore more session =
      { session := session.afterReports (reports.length + 1) reports
        outcome := .error fault
        journal := answeringAll (reports.length + 1) session.source } := by
  induction reports generalizing more session with
  | nil =>
      have first := readOne_of_error fails.failing
      cases more with
      | zero =>
          rw [readMore, first]
          simp [answeringAll]
      | succ more =>
          simp only [readMore, first]
          simp [answeringAll]
  | cons report later inductionHypothesis =>
      obtain ⟨more, rfl⟩ := Nat.exists_eq_add_of_le' (Nat.le_trans (Nat.le_add_left 1 _) early)
      obtain ⟨decodedFirst, decodedLater⟩ := List.cons.inj fails.decoded
      have laterFails : FailsAfter (session.afterReports 1 [report]).source later fault :=
        ⟨decodedLater, fails.failing⟩
      have rest := inductionHypothesis (Nat.le_of_succ_le_succ early) laterFails
      simp only [readMore, readOne_of_ok decodedFirst, rest]
      rfl

/--
A session that has gone on from another one: it has made a number of requests,
and has remembered the reports among the answers, in order.
-/
def Advanced
    (session : Session σ)
    (requests : Nat)
    (later : Session σ) :
    Prop :=
  later = session.afterReports requests (reportsOf (answers requests session.source))

namespace Advanced

theorem refl (session : Session σ) : Advanced session 0 session := rfl

/-- Going on twice is going on once, with the requests of both. -/
theorem trans
    {session middle later : Session σ}
    {first second : Nat}
    (earlier : Advanced session first middle)
    (afterwards : Advanced middle second later) :
    Advanced session (first + second) later := by
  subst earlier afterwards
  rw [Advanced, afterReports_afterReports, answers_add, reportsOf_append]
  rfl

theorem readOne (session : Session σ) : Advanced session 1 session.readOne.session := by
  cases shape : received (answer session.source) with
  | error fault =>
      rw [readOne_of_error shape, Advanced, answers, reportsOf_cons_of_error shape]
      rfl
  | ok report =>
      rw [readOne_of_ok shape, Advanced, answers, reportsOf_cons_of_ok shape]
      rfl

theorem readMore
    (more : Nat)
    (session : Session σ) :
    ∃ requests, Advanced session requests (readMore more session).session := by
  induction more generalizing session with
  | zero =>
      exact ⟨1, readOne session⟩
  | succ more inductionHypothesis =>
      have first := readOne session
      cases ending : session.readOne.outcome with
      | error fault =>
          refine ⟨1, ?_⟩
          simp only [Session.readMore, ending]
          exact first
      | ok report =>
          obtain ⟨requests, rest⟩ := inductionHypothesis session.readOne.session
          refine ⟨1 + requests, ?_⟩
          simp only [Session.readMore, ending]
          exact first.trans rest

end Advanced

end AudioScope.Session
