import AudioScope.Proofs.Session.Simulation

namespace AudioScope

open ReportSource

/-!
# Recording what a source has given

A `Recorder` answers as another source does and keeps a list of its answers, so
that one can see what a session has consumed.  A session cannot tell it from the
source inside (`Recorder.simulation`).  For a `Replay`, the answers are the
entries of its stream: the given reads, and empty buffers behind them.
-/

/-- A source together with the answers that it has given, oldest first. -/
structure Recorder (σ : Type) where
  source : σ
  given : List Answer

namespace Recorder

variable {σ : Type} [ReportSource σ]

instance : ReportSource (Recorder σ) where
  read timeout recorder :=
    let reading := read timeout recorder.source
    (reading.1,
      { source := reading.2
        given := recorder.given ++ [reading.1.outcome] })
  left recorder := left recorder.source
  left_read decoded := left_read decoded

theorem answers_eq
    (count : Nat)
    (recorder : Recorder σ) :
    answers count recorder = answers count recorder.source := by
  induction count generalizing recorder with
  | zero =>
      rfl
  | succ count inductionHypothesis =>
      exact congrArg (List.cons _) (inductionHypothesis (next recorder))

/-- Every answer is recorded once, behind the earlier ones. -/
theorem after_eq
    (count : Nat)
    (recorder : Recorder σ) :
    after count recorder =
      { source := after count recorder.source
        given := recorder.given ++ answers count recorder.source } := by
  induction count generalizing recorder with
  | zero =>
      simp [after, answers]
  | succ count inductionHypothesis =>
      have recorded : (next recorder).given = recorder.given ++ [answer recorder.source] := rfl
      rw [after, inductionHypothesis, recorded, List.append_assoc]
      rfl

/-- Recording is not noticed: a recorder is taken for the source inside. -/
def simulation : Session.Simulation (Recorder σ) σ where
  sources recorder source := recorder.source = source
  reports left right := left = right
  histories left right := left = right
  answer := by
    rintro recorder _ rfl
    change Session.EndAlike _ (Session.received (answer recorder.source)) _
    cases Session.received (answer recorder.source) with
    | error fault =>
        exact .error fault
    | ok report =>
        exact .ok rfl
  next := by
    rintro recorder _ rfl
    rfl
  push := @Session.push_congr

end Recorder

/-- The same session, with a record of what its source gives from now on. -/
def Session.recording
    {σ : Type}
    (session : Session σ) :
    Session (Recorder σ) where
  source := ⟨session.source, []⟩
  history := session.history

namespace Replay

/-- The entry of a stream at a position: a given read, or an empty buffer behind them. -/
def entry
    (replay : Replay)
    (position : Nat) :
    Answer :=
  replay.reads.getD position (.ok [])

/-- The first entries of a stream. -/
def entries
    (replay : Replay)
    (count : Nat) :
    List Answer :=
  (List.range count).map replay.entry

theorem answers_eq
    (count : Nat)
    (replay : Replay) :
    answers count replay = replay.entries count := by
  induction count generalizing replay with
  | zero =>
      rfl
  | succ count inductionHypothesis =>
      rcases replay with ⟨_ | ⟨first, later⟩⟩
      · have behind := inductionHypothesis ⟨[]⟩
        rw [answers, entries, List.range_succ_eq_map, List.map_cons, List.map_map]
        exact congrArg (List.cons _) behind
      · have behind := inductionHypothesis ⟨later⟩
        rw [answers, entries, List.range_succ_eq_map, List.map_cons, List.map_map]
        exact congrArg (List.cons _) behind

/-- The reads that have been asked for are taken off the front. -/
theorem after_eq
    (count : Nat)
    (replay : Replay) :
    after count replay = ⟨replay.reads.drop count⟩ := by
  induction count generalizing replay with
  | zero =>
      rfl
  | succ count inductionHypothesis =>
      rw [after, inductionHypothesis]
      rcases replay with ⟨_ | ⟨first, later⟩⟩
      · exact congrArg Replay.mk List.drop_nil
      · rfl

end Replay

end AudioScope
