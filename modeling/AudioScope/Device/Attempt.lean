import AudioScope.Device.Fault
import AudioScope.Journal

namespace AudioScope.Device

/-!
# Attempts on the bus

An attempt is a piece of work with the bus that may end in a fault.  Whether it
ends well or not, the journal tells what happened on the way.
-/

/-- What happened in a piece of work, and what came of it. -/
structure Attempt (α : Type) where
  journal : Journal
  outcome : Except Fault α

namespace Attempt

variable {α β : Type}

/-- An attempt that has nothing to do. -/
def succeed (value : α) : Attempt α :=
  ⟨[], .ok value⟩

/-- An attempt that ends in a fault at once. -/
def fail (fault : Fault) : Attempt α :=
  ⟨[], .error fault⟩

/-- Events that come before an attempt. -/
def after
    (journal : Journal)
    (attempt : Attempt α) :
    Attempt α :=
  ⟨journal ++ attempt.journal, attempt.outcome⟩

/-- Go on with the value of an attempt, unless it ended in a fault. -/
def andThen
    (attempt : Attempt α)
    (next : α → Attempt β) :
    Attempt β :=
  match attempt.outcome with
  | .ok value => (next value).after attempt.journal
  | .error fault => ⟨attempt.journal, .error fault⟩

instance : Monad Attempt where
  pure := succeed
  bind := andThen

/-- Note an event. -/
def record (event : Event) : Attempt Unit :=
  ⟨[event], .ok ()⟩

/-- End in a fault if there is a cause for one. -/
def failIf
    (cause : Option String)
    (fault : String → Fault) :
    Attempt Unit :=
  match cause with
  | some text => fail (fault text)
  | none => succeed ()

end Attempt

end AudioScope.Device
