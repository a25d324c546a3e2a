import AudioScope.Proofs.Session.Run
import AudioScope.Session.Step
import Mathlib.Data.List.Forall2

namespace AudioScope.Session

open ReportSource

/-!
# Sessions over sources that look alike

Two sources may differ inside and still look alike to a session.  A `Simulation`
says which sources, reports and histories are to be taken for each other; what
it promises for one read holds for batches, for runs and for any sequence of
steps.
-/

/-- Two reads that end alike: with reports that are alike, or with the same fault. -/
inductive EndAlike (reports : Report → Report → Prop) :
    Except Device.Fault Report → Except Device.Fault Report → Prop where
  | ok
      {left right : Report}
      (alike : reports left right) :
      EndAlike reports (.ok left) (.ok right)
  | error (fault : Device.Fault) :
      EndAlike reports (.error fault) (.error fault)

namespace EndAlike

variable {reports : Report → Report → Prop} {ending : Except Device.Fault Report}

theorem of_error
    {fault : Device.Fault}
    (alike : EndAlike reports (.error fault) ending) :
    ending = .error fault := by
  cases alike
  rfl

theorem of_ok
    {report : Report}
    (alike : EndAlike reports (.ok report) ending) :
    ∃ other, ending = .ok other ∧ reports report other := by
  cases alike with
  | ok same =>
      exact ⟨_, rfl, same⟩

end EndAlike

/-- The same report leaves the same history behind. -/
theorem push_congr
    {left right : History}
    {first second : Report}
    (histories : left = right)
    (reports : first = second) :
    left.push first = right.push second := by
  rw [histories, reports]

/-- A way of taking two kinds of sources for each other, read by read. -/
structure Simulation
    (σ τ : Type)
    [ReportSource σ]
    [ReportSource τ] where
  sources : σ → τ → Prop
  reports : Report → Report → Prop
  histories : History → History → Prop
  answer :
    ∀ {left right},
      sources left right →
      EndAlike reports (received (answer left)) (received (answer right))
  next :
    ∀ {left right},
      sources left right →
      sources (next left) (next right)
  push :
    ∀ {left right first second},
      histories left right →
      reports first second →
      histories (left.push first) (right.push second)

namespace Simulation

variable {σ τ : Type} [ReportSource σ] [ReportSource τ] (simulation : Simulation σ τ)

/-- Two sessions whose sources and histories are alike. -/
structure Sessions
    (left : Session σ)
    (right : Session τ) :
    Prop where
  source : simulation.sources left.source right.source
  history : simulation.histories left.history right.history

/-- Two pieces of reading that end alike and leave sessions that are alike. -/
structure Progresses
    (left : Progress σ)
    (right : Progress τ) :
    Prop where
  outcome : EndAlike simulation.reports left.outcome right.outcome
  session : simulation.Sessions left.session right.session

/-- Two complete batches that show reports and histories that are alike. -/
structure Batches (left right : Batch) : Prop where
  last : simulation.reports left.last right.last
  history : simulation.histories left.history right.history

/-- Two runs with batches that are alike, the same fault, and sessions that are alike. -/
structure Runs
    (left : Run σ)
    (right : Run τ) :
    Prop where
  fault : left.fault = right.fault
  batches : List.Forall₂ simulation.Batches left.batches right.batches
  session : simulation.Sessions left.session right.session

variable {left : Session σ} {right : Session τ}

theorem readOne (alike : simulation.Sessions left right) :
    simulation.Progresses left.readOne right.readOne := by
  have ending := simulation.answer alike.source
  cases leftAnswer : received (ReportSource.answer left.source) with
  | error fault =>
      rw [leftAnswer] at ending
      rw [readOne_of_error leftAnswer, readOne_of_error ending.of_error]
      exact ⟨.error fault, simulation.next alike.source, alike.history⟩
  | ok report =>
      rw [leftAnswer] at ending
      obtain ⟨other, rightAnswer, same⟩ := ending.of_ok
      rw [readOne_of_ok leftAnswer, readOne_of_ok rightAnswer]
      exact ⟨.ok same, simulation.next alike.source, simulation.push alike.history same⟩

theorem readMore
    (more : Nat)
    (alike : simulation.Sessions left right) :
    simulation.Progresses (Session.readMore more left) (Session.readMore more right) := by
  induction more generalizing left right with
  | zero =>
      exact simulation.readOne alike
  | succ more inductionHypothesis =>
      obtain ⟨ending, behind⟩ := simulation.readOne alike
      cases leftEnd : left.readOne.outcome with
      | error fault =>
          rw [leftEnd] at ending
          have rightEnd := ending.of_error
          simp only [Session.readMore, leftEnd, rightEnd]
          exact ⟨by rw [leftEnd, rightEnd]; exact .error fault, behind⟩
      | ok report =>
          rw [leftEnd] at ending
          obtain ⟨other, rightEnd, -⟩ := ending.of_ok
          obtain ⟨outcome, session⟩ := inductionHypothesis behind
          simp only [Session.readMore, leftEnd, rightEnd]
          exact ⟨outcome, session⟩

theorem run
    (onLeft onRight : Batch → Journal)
    (alike : simulation.Sessions left right) :
    simulation.Runs (left.run onLeft) (right.run onRight) := by
  refine run_induction
    (motive := fun session run =>
      ∀ right : Session τ,
        simulation.Sessions session right → simulation.Runs run (right.run onRight))
    ?failed ?complete left right alike
  case failed =>
    intro session fault failed right alike
    obtain ⟨ending, behind⟩ := simulation.readMore (batchSize - 1) alike
    have leftEnd : (Session.readMore (batchSize - 1) session).outcome = .error fault := failed
    rw [leftEnd] at ending
    have rightEnd : right.readBatch.outcome = .error fault := ending.of_error
    rw [run_of_error onRight rightEnd]
    exact ⟨rfl, .nil, behind⟩
  case complete =>
    intro session last rest complete goneOn right alike
    obtain ⟨ending, behind⟩ := simulation.readMore (batchSize - 1) alike
    have leftEnd : (Session.readMore (batchSize - 1) session).outcome = .ok last := complete
    rw [leftEnd] at ending
    obtain ⟨other, rightEnd, same⟩ := ending.of_ok
    obtain ⟨fault, batches, final⟩ := goneOn _ behind
    rw [run_of_ok onRight rightEnd]
    exact ⟨fault, .cons ⟨same, behind.history⟩ batches, final⟩

/-- A step leaves sessions that are alike. -/
theorem take
    (onLeft onRight : Batch → Journal)
    (alike : simulation.Sessions left right)
    (step : Step) :
    simulation.Sessions (left.take onLeft step).session (right.take onRight step).session := by
  cases step with
  | readBatch =>
      exact (simulation.readMore (batchSize - 1) alike).session
  | run =>
      exact (simulation.run onLeft onRight alike).session
  | close =>
      exact alike

end Simulation

end AudioScope.Session
