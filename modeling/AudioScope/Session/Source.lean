import AudioScope.Device.Connection

namespace AudioScope

/-!
# Sources of reports

Reports can be read from anything that answers a request with a buffer of bytes
or a fault.  A read that times out or comes up short returns whatever it got,
possibly nothing.  A source gives only a finite number of reports in a row: at
some time a read fails, which is what makes reading until something fails come
to an end.

There are two sources: a `Device.Connection`, and a `Replay` of given buffers
and faults.
-/

/-- The report that an answer of a source holds. -/
def Session.received : Except Device.Fault (List UInt8) → Except Device.Fault Report
  | .error fault => .error fault
  | .ok buffer =>
      match Report.decode buffer with
      | .error short => .error (.truncated short)
      | .ok report => .ok report

/-- Anything reports can be read from. -/
class ReportSource (σ : Type) where
  /-- Ask for one report, to arrive within some milliseconds. -/
  read : (timeout : Nat) → σ → Device.Attempt (List UInt8) × σ
  /-- A bound on how many reports the source will still give before a read fails. -/
  left : σ → Nat
  left_read :
    ∀ {timeout : Nat} {source : σ} {report : Report},
      Session.received (read timeout source).1.outcome = .ok report →
        left (read timeout source).2 < left source

/-- A source that plays back given reads and has nothing to say after them. -/
structure Replay where
  reads : List (Except Device.Fault (List UInt8))

namespace Replay

/-- Give the next of the remaining reads. -/
def read
    (timeout : Nat)
    (replay : Replay) :
    Device.Attempt (List UInt8) × Replay :=
  match replay.reads with
  | [] => (⟨[.asked timeout], .ok []⟩, replay)
  | outcome :: later => (⟨[.asked timeout], outcome⟩, ⟨later⟩)

instance : ReportSource Replay where
  read := read
  left replay := replay.reads.length
  left_read {timeout replay report} decoded := by
    unfold read at decoded ⊢
    split at decoded
    · cases decoded
    · next shape => simp [shape]

end Replay

namespace Device.Connection

instance : ReportSource Connection where
  read := read
  left connection := connection.transfers.length
  left_read {timeout connection report} decoded := by
    unfold read at decoded ⊢
    split at decoded
    · cases decoded
    · next shape => simp [shape]

end Device.Connection

end AudioScope
