import AudioScope.Session.Basic

namespace AudioScope

/-!
# What a source answers

A session asks its source for one report after the other, always within the
same time.  This module lists the answers that the source gives, tells which of
them hold a record, and describes a read, and a batch of reads, by these answers
alone.
-/

/-- An answer to a request for a report. -/
abbrev Answer := Except Device.Fault (List UInt8)

namespace Answer

/-- Whether an answer is a buffer with room for a record. -/
def holdsRecord : Answer → Bool
  | .ok buffer => Report.recordSize ≤ buffer.length
  | .error _ => false

/-- Why an answer holds no record, if it holds none. -/
def fault? : Answer → Option Device.Fault
  | .ok buffer =>
      if buffer.length < Report.recordSize then
        some (.truncated ⟨Report.recordSize, buffer.length⟩)
      else
        none
  | .error fault => some fault

theorem fault?_eq_none_iff {answer : Answer} :
    answer.fault? = none ↔ answer.holdsRecord = true := by
  cases answer with
  | ok buffer =>
      simp [fault?, holdsRecord]
  | error fault =>
      simp [fault?, holdsRecord]

/-- A session ends a read with the fault of the answer. -/
theorem received_of_fault?
    {answer : Answer}
    {fault : Device.Fault}
    (failing : answer.fault? = some fault) :
    Session.received answer = .error fault := by
  cases answer with
  | error transport =>
      cases failing
      rfl
  | ok buffer =>
      by_cases short : buffer.length < Report.recordSize
      · simp only [fault?, short, ↓reduceIte, Option.some.injEq] at failing
        subst failing
        simp [Session.received, Report.decode_of_lt short]
      · simp [fault?, short] at failing

theorem exists_received
    {answer : Answer}
    (sound : answer.fault? = none) :
    ∃ report, Session.received answer = .ok report := by
  cases answer with
  | error transport =>
      cases sound
  | ok buffer =>
      have enough : Report.recordSize ≤ buffer.length := by
        simpa [fault?] using sound
      obtain ⟨report, decoded⟩ := Report.exists_decode_of_le enough
      exact ⟨report, by simp [Session.received, decoded]⟩

/-- An answer that cannot be received has a fault. -/
theorem fault?_of_received
    {answer : Answer}
    {fault : Device.Fault}
    (failing : Session.received answer = .error fault) :
    answer.fault? = some fault := by
  cases shape : answer.fault? with
  | none =>
      obtain ⟨report, decoded⟩ := exists_received shape
      rw [decoded] at failing
      cases failing
  | some other =>
      rw [received_of_fault? shape] at failing
      cases failing
      rfl

/-- An answer from which a report is received is a buffer that holds it. -/
theorem exists_decode_of_received
    {answer : Answer}
    {report : Report}
    (received : Session.received answer = .ok report) :
    ∃ buffer, answer = .ok buffer ∧ Report.decode buffer = .ok report := by
  cases answer with
  | error fault =>
      cases received
  | ok buffer =>
      refine ⟨buffer, rfl, ?_⟩
      cases decoded : Report.decode buffer with
      | error short =>
          simp [Session.received, decoded] at received
      | ok other =>
          simpa [Session.received, decoded] using received

end Answer

/-- The reports in a list of answers; answers without a record are passed over. -/
def reportsOf (answers : List Answer) : List Report :=
  answers.filterMap fun answer => (Session.received answer).toOption

theorem reportsOf_append (earlier later : List Answer) :
    reportsOf (earlier ++ later) = reportsOf earlier ++ reportsOf later :=
  List.filterMap_append

theorem reportsOf_cons_of_ok
    {answer : Answer}
    {report : Report}
    (decoded : Session.received answer = .ok report)
    (later : List Answer) :
    reportsOf (answer :: later) = report :: reportsOf later :=
  List.filterMap_cons_some (by rw [decoded]; rfl)

theorem reportsOf_cons_of_error
    {answer : Answer}
    {fault : Device.Fault}
    (failing : Session.received answer = .error fault)
    (later : List Answer) :
    reportsOf (answer :: later) = reportsOf later :=
  List.filterMap_cons_none (by rw [failing]; rfl)

/-- As many reports are found as there are answers with a record. -/
theorem length_reportsOf (answers : List Answer) :
    (reportsOf answers).length = answers.countP Answer.holdsRecord := by
  induction answers with
  | nil =>
      rfl
  | cons answer later inductionHypothesis =>
      cases shape : answer.fault? with
      | none =>
          obtain ⟨report, decoded⟩ := Answer.exists_received shape
          rw [reportsOf_cons_of_ok decoded, List.length_cons, inductionHypothesis,
            List.countP_cons_of_pos (Answer.fault?_eq_none_iff.mp shape)]
      | some fault =>
          have unfit : ¬ answer.holdsRecord = true := by
            rw [← Answer.fault?_eq_none_iff, shape]
            exact Option.some_ne_none fault
          rw [reportsOf_cons_of_error (Answer.received_of_fault? shape), inductionHypothesis,
            List.countP_cons_of_neg unfit]

/-- Answers without a fault give a report each. -/
theorem map_received_of_sound
    {answers : List Answer}
    (sound : ∀ answer ∈ answers, answer.fault? = none) :
    answers.map Session.received = (reportsOf answers).map .ok := by
  induction answers with
  | nil =>
      rfl
  | cons answer later inductionHypothesis =>
      obtain ⟨soundHead, soundRest⟩ := List.forall_mem_cons.mp sound
      obtain ⟨report, decoded⟩ := Answer.exists_received soundHead
      rw [reportsOf_cons_of_ok decoded, List.map_cons, List.map_cons, decoded,
        inductionHypothesis soundRest]

namespace ReportSource

variable {σ : Type} [ReportSource σ]

/-- What a source answers to the next request of a session. -/
def answer (source : σ) : Answer :=
  (read Session.readTimeout source).1.outcome

/-- What happens while a source answers the next request of a session. -/
def answering (source : σ) : Journal :=
  (read Session.readTimeout source).1.journal

/-- A source that has answered one request of a session. -/
def next (source : σ) : σ :=
  (read Session.readTimeout source).2

/-- A source that has answered a number of requests. -/
def after : Nat → σ → σ
  | 0, source => source
  | count + 1, source => after count (next source)

/-- What a source answers to a number of requests, in order. -/
def answers : Nat → σ → List Answer
  | 0, _ => []
  | count + 1, source => answer source :: answers count (next source)

/-- What happens while a source answers a number of requests. -/
def answeringAll : Nat → σ → Journal
  | 0, _ => []
  | count + 1, source => answering source ++ answeringAll count (next source)

@[simp]
theorem length_answers
    (count : Nat)
    (source : σ) :
    (answers count source).length = count := by
  induction count generalizing source with
  | zero =>
      rfl
  | succ count inductionHypothesis =>
      rw [answers, List.length_cons, inductionHypothesis]

theorem after_add
    (first later : Nat)
    (source : σ) :
    after (first + later) source = after later (after first source) := by
  induction first generalizing source with
  | zero =>
      rw [Nat.zero_add]
      rfl
  | succ first inductionHypothesis =>
      rw [Nat.succ_add]
      exact inductionHypothesis (next source)

theorem answers_add
    (first later : Nat)
    (source : σ) :
    answers (first + later) source =
      answers first source ++ answers later (after first source) := by
  induction first generalizing source with
  | zero =>
      rw [Nat.zero_add]
      rfl
  | succ first inductionHypothesis =>
      rw [Nat.succ_add, answers, answers, inductionHypothesis]
      rfl

/-- If nothing is kept of what happens during an answer, nothing is of any number of them. -/
theorem filter_answeringAll
    {keep : Event → Bool}
    (silent : ∀ source : σ, (answering source).filter keep = [])
    (count : Nat)
    (source : σ) :
    (answeringAll count source).filter keep = [] := by
  induction count generalizing source with
  | zero =>
      rfl
  | succ count inductionHypothesis =>
      rw [answeringAll, List.filter_append, silent, inductionHypothesis]
      rfl

/-- A source that gives some reports first, and then an answer with a fault. -/
structure FailsAfter
    (source : σ)
    (reports : List Report)
    (fault : Device.Fault) :
    Prop where
  decoded :
    (answers reports.length source).map Session.received = reports.map .ok
  failing :
    Session.received (answer (after reports.length source)) = .error fault

namespace FailsAfter

/-- A report comes before those that its successor gives. -/
theorem cons
    {source : σ}
    {report : Report}
    {reports : List Report}
    {fault : Device.Fault}
    (first : Session.received (answer source) = .ok report)
    (later : FailsAfter (next source) reports fault) :
    FailsAfter source (report :: reports) fault where
  decoded := by
    rw [List.length_cons, answers, List.map_cons, List.map_cons, first, later.decoded]
  failing := later.failing

/-- What is left when some of the reports have been given. -/
theorem append
    {source : σ}
    {reports later : List Report}
    {fault : Device.Fault}
    (fails : FailsAfter source (reports ++ later) fault) :
    (answers reports.length source).map Session.received = reports.map .ok ∧
      FailsAfter (after reports.length source) later fault := by
  obtain ⟨decoded, failing⟩ := fails
  rw [List.length_append, answers_add, List.map_append, List.map_append] at decoded
  rw [List.length_append, after_add] at failing
  obtain ⟨earlier, rest⟩ := List.append_inj decoded (by simp)
  exact ⟨earlier, rest, failing⟩

end FailsAfter

/-- Every source comes to an answer with a fault. -/
theorem exists_failsAfter (source : σ) :
    ∃ reports fault, FailsAfter source reports fault := by
  induction bound : left source using Nat.strongRecOn generalizing source with
  | ind remaining inductionHypothesis =>
    subst bound
    cases shape : Session.received (answer source) with
    | error fault =>
        exact ⟨[], fault, rfl, shape⟩
    | ok report =>
        have fewer : left (next source) < left source := left_read shape
        obtain ⟨reports, fault, later⟩ := inductionHypothesis _ fewer (next source) rfl
        exact ⟨report :: reports, fault, later.cons shape⟩

end ReportSource

end AudioScope
