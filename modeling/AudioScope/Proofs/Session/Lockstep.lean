import AudioScope.Proofs.Session.Simulation

namespace AudioScope.Session

open ReportSource

/-!
# Sessions in lockstep

Two sessions that are alike return results that are alike, step by step.  What
happens on the way may differ; a `Watch` says what their journals are to have in
common, and this is so of every sequence of steps if it is so of one read and of
one report on a batch (`Simulation.Watch.takeAll`).
-/

/-- Lists whose elements look the same in pairs look the same. -/
theorem map_eq_map_of_forall₂
    {α β γ : Type}
    {related : α → β → Prop}
    {seenLeft : α → γ}
    {seenRight : β → γ}
    {left : List α}
    {right : List β}
    (pairs : List.Forall₂ related left right)
    (same : ∀ left right, related left right → seenLeft left = seenRight right) :
    left.map seenLeft = right.map seenRight := by
  rw [← List.forall₂_eq_eq_eq, List.forall₂_map_left_iff, List.forall₂_map_right_iff]
  exact pairs.imp same

/-- What is the same ends alike, if alike is the same. -/
theorem EndAlike.of_eq
    {left right : Except Device.Fault Report}
    (same : left = right) :
    EndAlike (· = ·) left right := by
  subst same
  cases left with
  | error fault =>
      exact .error fault
  | ok report =>
      exact .ok rfl

/-- All that happens in a read is that the source answers. -/
theorem journal_readOne
    {σ : Type}
    [ReportSource σ]
    (session : Session σ) :
    session.readOne.journal = answering session.source := by
  cases shape : received (answer session.source) with
  | error fault =>
      rw [readOne_of_error shape]
  | ok report =>
      rw [readOne_of_ok shape]

namespace Simulation

variable {σ τ : Type} [ReportSource σ] [ReportSource τ] (simulation : Simulation σ τ)

/-- Two results of the same step that are alike. -/
inductive Results : Step.Result → Step.Result → Prop where
  | batch
      {left right : Except Device.Fault Report}
      (outcome : EndAlike simulation.reports left right) :
      Results (.batch left) (.batch right)
  | run
      {left right : List Batch}
      (batches : List.Forall₂ simulation.Batches left right)
      (fault : Device.Fault) :
      Results (.run left fault) (.run right fault)
  | closed
      {left right : History}
      (history : simulation.histories left right) :
      Results (.closed left) (.closed right)

/-- What the journals of sessions in lockstep have in common. -/
structure Watch (onLeft onRight : Batch → Journal) where
  journals : Journal → Journal → Prop
  nil : journals [] []
  append :
    ∀ {left right leftLater rightLater},
      journals left right →
      journals leftLater rightLater →
      journals (left ++ leftLater) (right ++ rightLater)
  answering :
    ∀ {left right},
      simulation.sources left right →
      journals (answering left) (answering right)
  onBatch :
    ∀ {left right},
      simulation.Batches left right →
      journals (onLeft left) (onRight right)

/-- A step of sessions that are alike returns results that are alike. -/
theorem results_take
    (onLeft onRight : Batch → Journal)
    {left : Session σ}
    {right : Session τ}
    (alike : simulation.Sessions left right)
    (step : Step) :
    simulation.Results (left.take onLeft step).result (right.take onRight step).result := by
  cases step with
  | readBatch =>
      exact .batch (simulation.readMore (batchSize - 1) alike).outcome
  | run =>
      obtain ⟨fault, batches, -⟩ := simulation.run onLeft onRight alike
      simp only [Session.take, fault]
      exact .run batches _
  | close =>
      exact .closed alike.history

namespace Watch

variable {simulation : Simulation σ τ} {onLeft onRight : Batch → Journal}
variable (watch : simulation.Watch onLeft onRight)

/-- Two steps that have been taken in lockstep. -/
structure Takens
    (left : Taken σ)
    (right : Taken τ) :
    Prop where
  result : simulation.Results left.result right.result
  session : simulation.Sessions left.session right.session
  journal : watch.journals left.journal right.journal

variable {left : Session σ} {right : Session τ}

theorem readOne (alike : simulation.Sessions left right) :
    watch.journals left.readOne.journal right.readOne.journal := by
  rw [journal_readOne, journal_readOne]
  exact watch.answering alike.source

theorem readMore
    (more : Nat)
    (alike : simulation.Sessions left right) :
    watch.journals (Session.readMore more left).journal
      (Session.readMore more right).journal := by
  induction more generalizing left right with
  | zero =>
      exact watch.readOne alike
  | succ more inductionHypothesis =>
      obtain ⟨ending, behind⟩ := simulation.readOne alike
      have first := watch.readOne alike
      cases leftEnd : left.readOne.outcome with
      | error fault =>
          rw [leftEnd] at ending
          simp only [Session.readMore, leftEnd, ending.of_error]
          exact first
      | ok report =>
          rw [leftEnd] at ending
          obtain ⟨other, rightEnd, -⟩ := ending.of_ok
          simp only [Session.readMore, leftEnd, rightEnd, Progress.after]
          exact watch.append first (inductionHypothesis behind)

theorem run (alike : simulation.Sessions left right) :
    watch.journals (left.run onLeft).journal (right.run onRight).journal := by
  refine run_induction
    (motive := fun session run =>
      ∀ right : Session τ,
        simulation.Sessions session right →
        watch.journals run.journal (right.run onRight).journal)
    ?failed ?complete left right alike
  case failed =>
    intro session fault failed right alike
    have ending := (simulation.readMore (batchSize - 1) alike).outcome
    have leftEnd : (Session.readMore (batchSize - 1) session).outcome = .error fault := failed
    rw [leftEnd] at ending
    have rightEnd : right.readBatch.outcome = .error fault := ending.of_error
    rw [run_of_error onRight rightEnd]
    exact watch.readMore (batchSize - 1) alike
  case complete =>
    intro session last rest complete goneOn right alike
    obtain ⟨ending, behind⟩ := simulation.readMore (batchSize - 1) alike
    have leftEnd : (Session.readMore (batchSize - 1) session).outcome = .ok last := complete
    rw [leftEnd] at ending
    obtain ⟨other, rightEnd, same⟩ := ending.of_ok
    rw [run_of_ok onRight rightEnd]
    exact watch.append
      (watch.append (watch.readMore (batchSize - 1) alike)
        (watch.onBatch ⟨same, behind.history⟩))
      (goneOn _ behind)

theorem take
    (alike : simulation.Sessions left right)
    (step : Step) :
    watch.Takens (left.take onLeft step) (right.take onRight step) where
  result := simulation.results_take onLeft onRight alike step
  session := simulation.take onLeft onRight alike step
  journal := by
    cases step with
    | readBatch =>
        exact watch.readMore (batchSize - 1) alike
    | run =>
        exact watch.run alike
    | close =>
        exact watch.nil

/-- Sessions that are alike take any steps in lockstep. -/
theorem takeAll
    (alike : simulation.Sessions left right)
    (steps : List Step) :
    List.Forall₂ watch.Takens (left.takeAll onLeft steps) (right.takeAll onRight steps) := by
  induction steps generalizing left right with
  | nil =>
      exact .nil
  | cons step later inductionHypothesis =>
      have taken := watch.take alike step
      exact .cons taken (inductionHypothesis taken.session)

/-- What is the same of every two steps in lockstep is the same of sequences of steps. -/
theorem map_takeAll
    {γ : Type}
    {seenLeft : Taken σ → γ}
    {seenRight : Taken τ → γ}
    (same : ∀ {left right}, watch.Takens left right → seenLeft left = seenRight right)
    (alike : simulation.Sessions left right)
    (steps : List Step) :
    (left.takeAll onLeft steps).map seenLeft = (right.takeAll onRight steps).map seenRight :=
  map_eq_map_of_forall₂ (watch.takeAll alike steps) fun _ _ taken => same taken

end Watch

/-- Sessions that can only be taken for each other if they agree return the same results. -/
theorem Results.eq
    {simulation : Simulation σ τ}
    (sameReports : ∀ {left right}, simulation.reports left right → left = right)
    (sameHistories : ∀ {left right}, simulation.histories left right → left = right)
    {left right : Step.Result}
    (alike : simulation.Results left right) :
    left = right := by
  cases alike with
  | batch outcome =>
      cases outcome with
      | ok same =>
          rw [sameReports same]
      | error fault =>
          rfl
  | @run leftBatches rightBatches batches fault =>
      have same : ∀ {left right}, simulation.Batches left right → left = right := by
        rintro ⟨leftLast, leftHistory⟩ ⟨rightLast, rightHistory⟩ ⟨last, history⟩
        exact congrArg₂ Batch.mk (sameReports last) (sameHistories history)
      have whole : List.Forall₂ (· = ·) leftBatches rightBatches :=
        batches.imp fun _ _ => same
      rw [List.forall₂_eq_eq_eq] at whole
      rw [whole]
  | closed history =>
      rw [sameHistories history]

end Simulation

end AudioScope.Session
